import RegisterMap.Analysis.Field

/-!
# Models

A device after analysis: its addresses, its registers with their offsets, and its fields.
-/

namespace RegisterMap

/-- A register and the names of its fields. -/
structure Register where
  name : String
  path : Path
  offset : Int
  capability : Capability
  preserve : Nat
  fields : List String
  deriving DecidableEq, Repr

/-- The name of the constant that holds the preserved bits of a register. -/
def maskConstantOf (register : String) : String :=
  Text.upper register ++ "_SET_MASK"

namespace Register

/-- The name of the constant that holds the preserved bits. -/
def maskConstant (r : Register) : String :=
  maskConstantOf r.name

end Register

structure Model where
  ports : List Int
  registers : List Register
  fields : List Field
  word : Bits.IntType
  source : String
  deriving DecidableEq, Repr

namespace Model

def register? (m : Model) (name : String) : Option Register :=
  m.registers.find? (·.name == name)

def field? (m : Model) (name : String) : Option Field :=
  m.fields.find? (·.name == name)

/-- The number of bytes from the base of the device to the end of its farthest register. -/
def span (m : Model) : Int :=
  match (m.registers.map (·.offset)).max? with
  | some offset => offset + m.word.size
  | none => m.word.size

end Model

end RegisterMap
