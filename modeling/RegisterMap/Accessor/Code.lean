import RegisterMap.Bits.IntType
import RegisterMap.Capability

/-!
# Accessor code

The code of the accessors of one device, as data: a class with constants, one handle for each
register, and a method for each accessor.
-/

namespace RegisterMap

/-- A function on the bits of a word that methods call. -/
inductive Primitive where
  | getBit
  | getRange
  | setBit
  | setRange
  deriving DecidableEq, Repr

namespace Primitive

/-- All primitives in the order in which they are imported. -/
def all : List Primitive :=
  [getBit, getRange, setBit, setRange]

def name : Primitive → String
  | getBit => "get_bit"
  | getRange => "get_bit_range"
  | setBit => "set_bit"
  | setRange => "set_bit_range"

end Primitive

/-- A number as it is written: in decimal, or in hexadecimal of some digits at least. -/
inductive Literal where
  | decimal (n : Nat)
  | hex (digits : Nat) (n : Int)
  deriving DecidableEq, Repr

/-- What a word to be written starts from: what is read, less the bits that must not be written
back, or zero. -/
inductive Seed where
  | preserved
  | zero
  deriving DecidableEq, Repr

/-- What a method does with its register. -/
inductive Action where
  | readBit (bit : Nat)
  | readRange (start stop : Nat)
  /-- Writes a one to a bit. -/
  | raiseBit (seed : Seed) (bit : Nat)
  /-- Writes a truth value to a bit. -/
  | writeBit (seed : Seed) (bit : Nat)
  /-- Writes a number to a range, once it is known to fit. -/
  | writeRange (seed : Seed) (start stop : Nat) (field : String) (width greatest : Nat)
  deriving DecidableEq, Repr

namespace Action

def primitive : Action → Primitive
  | readBit _ => .getBit
  | readRange .. => .getRange
  | raiseBit .. => .setBit
  | writeBit .. => .setBit
  | writeRange .. => .setRange

/-- The name of the parameter of an action, if it takes one. -/
def parameter : Action → Option String
  | writeBit .. => some "flag"
  | writeRange .. => some "bits"
  | _ => none

end Action

/-- A method: its name, documentation, register and action. -/
structure Method where
  name : String
  docs : List String
  register : String
  action : Action
  deriving DecidableEq, Repr

/-- A place for the handle of a register. -/
structure Slot where
  register : String
  capability : Capability
  offset : Literal
  deriving DecidableEq, Repr

structure AccessorCode where
  className : String
  sourceName : String
  word : Bits.IntType
  types : List Bits.IntType
  primitives : List Primitive
  handles : List Capability
  ports : List Literal
  offsets : List (String × Literal)
  fieldConstants : List (String × Literal)
  maskConstants : List (String × Literal)
  slots : List Slot
  methods : List Method
  deriving Repr

namespace Literal

def value : Literal → Int
  | decimal n => n
  | hex _ n => n

/-- Negative numbers have no hexadecimal form that can be loaded. -/
def isLoadable : Literal → Bool
  | decimal _ => true
  | hex _ n => 0 ≤ n

end Literal

end RegisterMap
