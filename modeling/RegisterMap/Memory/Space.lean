import RegisterMap.Log
import RegisterMap.Memory.Buffer
import RegisterMap.Memory.Bus
import RegisterMap.Memory.Paged
import RegisterMap.Step

/-!
# Memory spaces

All memories of a run, each with a number by which the regions of buses refer to it. An access to
a bus goes on to the memory of the region that holds its address; a store is reported and recorded
before it goes on, a load when it has come back.
-/

namespace RegisterMap.Memory

variable [Machine]

inductive Component where
  | buffer (b : Buffer)
  | paged (p : Paged)
  | bus (b : Bus)
  /-- A memory that only names what memories do. -/
  | hollow

/-- The memories and the messages of their run, the oldest first. -/
structure Space where
  components : List Component
  messages : List Log.Record

namespace Space

def empty : Space :=
  ⟨[], []⟩

def say (r : Log.Record) (s : Space) : Space :=
  { s with messages := s.messages ++ [r] }

/-- The space with another memory for a number. -/
def put (ref : Ref) (c : Component) (s : Space) : Space :=
  { s with components := s.components.set ref c }

/-- The space with one more memory, whose number is the old count. -/
def add (c : Component) (s : Space) : Space :=
  { s with components := s.components ++ [c] }

def buffer? (s : Space) (ref : Ref) : Option Buffer :=
  match s.components[ref]? with
  | some (.buffer b) => some b
  | _ => none

def bus? (s : Space) (ref : Ref) : Option Bus :=
  match s.components[ref]? with
  | some (.bus b) => some b
  | _ => none

/-- The topic of messages about buses and buffers. -/
def busTopic : String := "regforge.runtime.memory"

/-- The topic of messages about paged memories. -/
def pageTopic : String := "regforge.runtime.unicorn_memory"

/-- The report of an access to a region. -/
def report (r : Region) (a : Access) : Log.Record :=
  let (letter, arrow) := match a.direction with
    | .load => ("R", "->")
    | .store => ("W", "<-")
  Log.record .info busTopic <|
    "MMIO " ++ letter ++ "  " ++ r.name ++ "+" ++ Number.prefixedHex 0 (a.address - r.span.base)
      ++ " [" ++ Number.prefixedHex 8 a.address ++ " size=" ++ toString a.size ++ "] " ++ arrow
      ++ " " ++ Number.prefixedHex 0 a.value

/-- The space after a report of an access, if its bus reports. -/
def reportOn (b : Bus) (r : Region) (a : Access) (s : Space) : Space :=
  if b.reporting then s.say (report r a) else s

/-- The space after an access was recorded on the bus with a number. -/
def recordOn (ref : Ref) (a : Access) (s : Space) : Space :=
  match s.bus? ref with
  | some b => s.put ref (.bus (b.record a))
  | none => s

/-- Loads through at most `depth` buses. -/
def readWithin : Nat → Ref → Int → Int → Step Space Fault Nat
  | 0, _, _, _ => Step.fail .endless
  | depth + 1, ref, address, size => do
    let s ← Step.current
    match s.components[ref]? with
    | none => Step.fail .unsupported
    | some .hollow => Step.fail .noStorage
    | some (.buffer b) => Step.ofOutcome (b.read address size)
    | some (.paged p) => Step.ofOutcome (p.read address size)
    | some (.bus b) =>
      match b.find? address with
      | none => Step.fail (.noRegion address)
      | some r =>
        let value ← readWithin depth r.target address size
        let access := ⟨.load, address, size, value⟩
        Step.change (recordOn ref access)
        Step.change (reportOn b r access)
        pure value

/-- Stores through at most `depth` buses. -/
def writeWithin : Nat → Ref → Int → Int → Int → Step Space Fault Unit
  | 0, _, _, _, _ => Step.fail .endless
  | depth + 1, ref, address, size, value => do
    let s ← Step.current
    match s.components[ref]? with
    | none => Step.fail .unsupported
    | some .hollow => Step.fail .noStorage
    | some (.buffer b) =>
      let b ← Step.ofOutcome (b.write address size value)
      Step.change (put ref (.buffer b))
    | some (.paged p) =>
      let p ← Step.ofOutcome (p.write address size value)
      Step.change (put ref (.paged p))
    | some (.bus b) =>
      match b.find? address with
      | none => Step.fail (.noRegion address)
      | some r =>
        let access := ⟨.store, address, size, value⟩
        Step.change (reportOn b r access)
        Step.change (recordOn ref access)
        writeWithin depth r.target address size value

/-- The number of buses that an access can pass. -/
def depth (s : Space) : Nat :=
  s.components.length + 1

/-- Loads the number in `size` bytes at `address` of a memory. -/
def read (ref : Ref) (address size : Int) : Step Space Fault Nat := do
  let s ← Step.current
  readWithin s.depth ref address size

/-- Stores the low `size` bytes of a value at `address` of a memory. -/
def write (ref : Ref) (address size value : Int) : Step Space Fault Unit := do
  let s ← Step.current
  writeWithin s.depth ref address size value

/-- Adds a memory and answers with its number. -/
def create (c : Component) : Step Space Fault Ref := do
  let s ← Step.current
  Step.change (add c)
  pure s.components.length

def createBuffer (base size : Int) : Step Space Fault Ref := do
  let b ← Step.ofOutcome (Buffer.ofSize base size)
  create (.buffer b)

def createBus (room : Int) : Step Space Fault Ref := do
  let b ← Step.ofOutcome (Bus.ofRoom room)
  create (.bus b)

/-- The bus with a number, which must be one. -/
def theBus (ref : Ref) : Step Space Fault Bus := do
  let s ← Step.current
  match s.bus? ref with
  | some b => pure b
  | none => Step.fail .unsupported

/-- The buffer with a number, which must be one. -/
def theBuffer (ref : Ref) : Step Space Fault Buffer := do
  let s ← Step.current
  match s.buffer? ref with
  | some b => pure b
  | none => Step.fail .unsupported

/-- The message that a region was mapped. -/
def mappedMessage (name : String) (span : Span) : Log.Record :=
  Log.record .debug busTopic ("mapped " ++ name ++ " at " ++ span.text)

/-- Maps a region of a bus to a memory, or to a new buffer of its own, and answers with the number
of that memory. -/
def map (ref : Ref) (name : String) (base size : Int) (target : Option Ref) :
    Step Space Fault Ref := do
  let span : Span := ⟨base, base + size⟩
  let b ← theBus ref
  Step.ofOutcome (b.checkFree name span)
  let target ← match target with
    | some target => pure target
    | none => createBuffer base size
  Step.change (put ref (.bus (b.withRegion ⟨name, span, target⟩)))
  Step.change (say (mappedMessage name span))
  pure target

/-- Maps pages of a paged memory. -/
def mapPages (ref : Ref) (base size : Int) : Step Space Fault Unit := do
  let s ← Step.current
  match s.components[ref]? with
  | some (.paged p) =>
    let p ← Step.ofOutcome (p.map base size)
    let span := Paged.pagesOf base size
    Step.change (put ref (.paged p))
    Step.change <| say <| Log.record .info pageTopic <|
      "Mapped MMIO: " ++ span.text ++ " (" ++ toString (span.stop - span.base) ++ " bytes)"
  | _ => Step.fail .unsupported

def changeBus (ref : Ref) (f : Bus → Bus) : Step Space Fault Unit := do
  let b ← theBus ref
  Step.change (put ref (.bus (f b)))

end Space

end RegisterMap.Memory
