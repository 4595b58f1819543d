import RegisterMap.Memory.Fault

/-!
# Buses

A bus routes accesses by address to named regions, each of which stands for another memory. No two
regions share an address, and they are kept in the order of their bases. A bus may keep a history
of its last accesses.
-/

namespace RegisterMap.Memory

/-- The number of a memory among those of a space. -/
abbrev Ref := Nat

/-- A named span of addresses and the memory that answers there. -/
structure Region where
  name : String
  span : Span
  target : Ref
  deriving DecidableEq, Repr

structure Access where
  direction : Direction
  address : Int
  size : Int
  value : Int
  deriving DecidableEq, Repr

/-- Regions, whether accesses are reported and recorded, and the history with its room. -/
structure Bus where
  regions : List Region
  reporting : Bool
  recording : Bool
  room : Nat
  history : List Access
  deriving Repr

namespace Bus

/-- The room of a history unless another is asked for. -/
def usualRoom : Int := 1024

def ofRoom (room : Int) : Except Fault Bus :=
  if room < 0 then .error .negativeRoom
  else if addressLimit ≤ room then .error .notAddressable
  else .ok ⟨[], false, false, room.toNat, []⟩

/-- Regions with one more, which comes behind those with the same base or a lower one. -/
def insert (r : Region) : List Region → List Region
  | [] => [r]
  | s :: rs => if s.span.base ≤ r.span.base then s :: insert r rs else r :: s :: rs

/-- Checks that a region called `name` has addresses of its own. -/
def checkFree (b : Bus) (name : String) (span : Span) : Except Fault Unit :=
  match b.regions.find? fun r => span.meets r.span with
  | some r => .error (.overlap name span r.name)
  | none => .ok ()

def withRegion (b : Bus) (r : Region) : Bus :=
  { b with regions := insert r b.regions }

def find? (b : Bus) (address : Int) : Option Region :=
  b.regions.find? fun r => r.span.has address

def lastOf (room : Nat) (history : List Access) : List Access :=
  history.drop (history.length - room)

/-- The bus after an access, which the history keeps when accesses are recorded. -/
def record (b : Bus) (a : Access) : Bus :=
  if b.recording then { b with history := lastOf b.room (b.history ++ [a]) } else b

def clearHistory (b : Bus) : Bus :=
  { b with history := [] }

end Bus

end RegisterMap.Memory
