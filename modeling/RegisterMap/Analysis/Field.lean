import RegisterMap.Bits.Basic
import RegisterMap.Capability
import RegisterMap.Description.Basic
import RegisterMap.Text.Case

/-!
# Resolved fields

A field with its place in a register of a known width.
-/

namespace RegisterMap

/-- A field: its first and last bit, the bits as a mask, and, for a range, the integer type of its
values. -/
structure Field where
  name : String
  policy : Policy
  register : String
  start : Nat
  stop : Nat
  single : Bool
  mask : Nat
  valueType : Option Bits.IntType
  docs : List String
  deriving DecidableEq, Repr

namespace Field

def width (f : Field) : Nat :=
  f.stop + 1 - f.start

def greatest (f : Field) : Nat :=
  Nat.pow 2 f.width - 1

/-- The name in capitals, with which the field's constants start. -/
def constantPrefix (f : Field) : String :=
  Text.upper f.name

def overlaps (f g : Field) : Bool :=
  f.mask &&& g.mask != 0

end Field

/-- The capability of a register with these fields. -/
def capabilityOf (fields : List Field) : Capability :=
  .ofAccess (fields.any (·.policy.readable)) (fields.any (·.policy.writable))

/-- The bits at which writing a one has an effect of its own. -/
def selfClearingMask (fields : List Field) : Nat :=
  fields.foldl (fun mask f => if f.policy.selfClearing then mask ||| f.mask else mask) 0

/-- The bits of a register that are written back as read when one of its fields is written: all
but those at which writing a one has an effect of its own. -/
def preserveMask (word : Bits.IntType) (fields : List Field) : Nat :=
  word.mask ^^^ (selfClearingMask fields &&& word.mask)

end RegisterMap
