import RegisterMap.Number.Format

/-!
# Integer types

Integers of a fixed width, signed or not: their range, and the reading of any integer as one of
them.
-/

namespace RegisterMap.Bits

structure IntType where
  bits : Nat
  signed : Bool
  deriving DecidableEq, Repr

def unsigned (bits : Nat) : IntType :=
  ⟨bits, false⟩

namespace IntType

/-- The name in small letters, `u32` or `i8`. -/
def name (t : IntType) : String :=
  (if t.signed then "i" else "u") ++ toString t.bits

def capitalName (t : IntType) : String :=
  (if t.signed then "I" else "U") ++ toString t.bits

def size (t : IntType) : Nat :=
  t.bits / 8

/-- The number with all bits of the type set. -/
def mask (t : IntType) : Nat :=
  Nat.pow 2 t.bits - 1

/-- A signed type needs a bit for its sign. -/
def hasSign (t : IntType) : Bool :=
  !t.signed || 0 < t.bits

def least (t : IntType) : Int :=
  if t.signed then -(Nat.pow 2 (t.bits - 1) : Nat) else 0

def greatest (t : IntType) : Int :=
  if t.signed then (Nat.pow 2 (t.bits - 1) - 1 : Nat) else t.mask

/-- The low bits of an integer, read without a sign. -/
def toUnsigned (t : IntType) (v : Int) : Nat :=
  (v % (Nat.pow 2 t.bits : Nat)).toNat

/-- The low bits of an integer, read as a number of the type. -/
def reading (t : IntType) (v : Int) : Int :=
  let raw := t.toUnsigned v
  if t.signed && 0 < raw / Nat.pow 2 (t.bits - 1) then (raw : Int) - (Nat.pow 2 t.bits : Nat)
  else raw

/-- The low bits of an integer as a number of the type; there is none in a signed type without a
sign bit. -/
def wrap? (t : IntType) (v : Int) : Option Int :=
  if t.hasSign then some (t.reading v) else none

/-- The type with a given name: `u` or `i` and its width. -/
def ofName? (s : String) : Option IntType :=
  match s.toList with
  | 'u' :: digits => (String.ofList digits).toNat?.map fun bits => ⟨bits, false⟩
  | 'i' :: digits => (String.ofList digits).toNat?.map fun bits => ⟨bits, true⟩
  | _ => none

end IntType

/-- The unsigned types with a name of their own. -/
def unsignedTypes : List IntType :=
  [unsigned 8, unsigned 16, unsigned 32, unsigned 64]

/-- The smallest named unsigned type with at least `n` bits. -/
def widthFor (n : Int) : Option IntType :=
  unsignedTypes.find? fun t => n ≤ t.bits

end RegisterMap.Bits
