/-!
# Bit specifications

Which bits of a register a field takes: one bit, or a range whose bounds may be left open.
-/

namespace RegisterMap

structure Bound where
  value : Int
  included : Bool := true
  deriving DecidableEq, Repr

/-- A single bit, or a range; an open bound is `none`. -/
inductive BitSpec where
  | single (index : Int)
  | range (start stop : Option Bound)
  deriving DecidableEq, Repr

namespace BitSpec

def isSingle : BitSpec → Bool
  | single _ => true
  | range .. => false

def firstBit : Option Bound → Int
  | none => 0
  | some b => if b.included then b.value else b.value + 1

/-- The last bit of a range in a register of `wordBits` bits. -/
def lastBit (wordBits : Int) : Option Bound → Int
  | none => wordBits - 1
  | some b => if b.included then b.value else b.value - 1

/-- The first and last bit in a register of `wordBits` bits. -/
def resolve (wordBits : Int) : BitSpec → Int × Int
  | single index => (index, index)
  | range start stop => (firstBit start, lastBit wordBits stop)

/-- The operator in front of an upper bound. -/
def operator (b : Bound) : String :=
  if b.included then "..=" else ".."

def text : BitSpec → String
  | single index => toString index
  | range start stop =>
    let low := match start with
      | none => ""
      | some b => toString b.value
    match stop with
    | none => low ++ ".."
    | some b => low ++ operator b ++ toString b.value

/-- The numbers that the text shows. -/
def numbers : BitSpec → List Int
  | single index => [index]
  | range start stop => start.toList.map Bound.value ++ stop.toList.map Bound.value

end BitSpec

end RegisterMap
