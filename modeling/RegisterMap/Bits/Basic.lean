import RegisterMap.Bits.IntType
import RegisterMap.Machine
import RegisterMap.Number.Literal

/-!
# Bit primitives

Reading and replacing single bits and ranges of bits of a number of an integer type. Ranges are
inclusive. With checks on, positions and values outside the type are refused; with checks off they
have no effect beyond the type's bits. Numbers can only be as long as the machine has room for: what
would need a longer one on the way fails, and so does what would name one that is too long to be
written.
-/

namespace RegisterMap.Bits

inductive Fault where
  | bitOutside (index : Int) (type : IntType)
  | badRange (start stop : Int) (type : IntType)
  | tooWide (value : Int) (start stop : Int)
  | negativeShift
  /-- A number with more places than a number can have. -/
  | tooLong
  /-- A number that takes more memory than there is. -/
  | exhausted
  /-- A number too long to be written. -/
  | longNumber
  deriving DecidableEq, Repr

namespace Fault

def message : Fault → String
  | bitOutside index type =>
    "Bit '" ++ toString index ++ "' is out of range for type '" ++ type.name ++ "' of "
      ++ toString type.bits ++ " bits"
  | badRange start stop type =>
    "Bit range " ++ toString start ++ "..=" ++ toString stop ++ " is invalid for type '"
      ++ type.name
      ++ "' of " ++ toString type.bits ++ " bits"
  | tooWide value start stop =>
    "Value " ++ Number.prefixedHex 0 value ++ " does not fit in " ++ toString (stop - start + 1)
      ++ " bits (" ++ toString start ++ "..=" ++ toString stop ++ ")"
  | negativeShift => "negative shift count"
  | tooLong => "too many digits in integer"
  | exhausted => ""
  | longNumber => Number.longNumberMessage

/-- The numbers that are written in decimal in what is said of a fault. -/
def numbers : Fault → List Int
  | bitOutside index type => [index, type.bits]
  | badRange start stop type => [start, stop, type.bits]
  | tooWide _ start stop => [stop - start + 1, start, stop]
  | _ => []

end Fault

/-- The number of places that a number takes. -/
def places (v : Nat) : Nat :=
  v.log2 / placeBits + 1

variable [Machine]

/-- Fails when a number cannot be shifted up by `count` bits. Zero can be, by any number of them. -/
def checkShift (v : Nat) (count : Int) : Except Fault Unit :=
  if count < 0 then .error .negativeShift
  else if v = 0 then .ok ()
  else if placeLimit < places v + (count.toNat + placeBits - 1) / placeBits then .error .tooLong
  else if Machine.bits ≤ v.log2 + count.toNat then .error .exhausted
  else .ok ()

/-- Fails when there is no number with all bits of a type set. -/
def checkType (t : IntType) : Except Fault Unit :=
  checkShift 1 t.bits

/-- Ones at the bits `start` to `stop`. -/
def rangeMask (start : Nat) (stop : Int) : Nat :=
  (Nat.pow 2 (stop - start + 1).toNat - 1) <<< start

/-- Ones at the bits `start` to `stop`, for any start. -/
def maskFor (start stop : Int) : Except Fault Nat := do
  let span := (stop - start + 1).toNat
  checkShift 1 span
  checkShift (Nat.pow 2 span - 1) start
  .ok (rangeMask start.toNat stop)

/-- Ones in each of `size` bytes. -/
def maskForSize (size : Int) : Except Fault Nat := do
  checkShift 1 (size * 8)
  .ok (Nat.pow 2 (size.toNat * 8) - 1)

/-- The low bits of `v` as a number of the type. -/
def wrap (t : IntType) (v : Int) : Except Fault Int := do
  checkType t
  match t.wrap? v with
  | some v => .ok v
  | none => .error .negativeShift

/-- The low bits of `v`, read without a sign. -/
def lowBits (t : IntType) (v : Int) : Except Fault Nat := do
  checkType t
  .ok (t.toUnsigned v)

/-- Fails with `fault` when checks are on and the condition does not hold. The fault is put into
words even where none is found, which takes numbers that can be written. -/
def check (checks : Bool) (condition : Prop) [Decidable condition] (fault : Fault) :
    Except Fault Unit :=
  if fault.numbers.all Number.isShort then
    if checks = true ∧ ¬condition then .error fault else .ok ()
  else .error .longNumber

def getBit (checks : Bool) (value index : Int) (t : IntType) : Except Fault Bool := do
  check checks (0 ≤ index ∧ index < t.bits) (.bitOutside index t)
  let raw ← lowBits t value
  if index < 0 then .error .negativeShift else .ok (raw.testBit index.toNat)

/-- `raw` without its bits in `mask`. -/
def clearBits (raw mask : Nat) : Nat :=
  raw ^^^ (raw &&& mask)

def setBit (checks : Bool) (value index : Int) (flag : Bool) (t : IntType) : Except Fault Int := do
  check checks (0 ≤ index ∧ index < t.bits) (.bitOutside index t)
  let raw ← lowBits t value
  checkShift 1 index
  let bit := Nat.pow 2 index.toNat
  wrap t (if flag then raw ||| bit else clearBits raw bit : Nat)

/-- Fails when checks are on and the range does not lie in the type. -/
def checkRange (checks : Bool) (start stop : Int) (t : IntType) : Except Fault Unit :=
  check checks (0 ≤ start ∧ start ≤ stop ∧ stop < t.bits) (.badRange start stop t)

/-- Bits `start` to `stop` of `value`, shifted down to bit 0. -/
def getBitRange (checks : Bool) (value start stop : Int) (t : IntType) : Except Fault Nat := do
  checkRange checks start stop t
  let raw ← lowBits t value
  let mask ← maskFor start stop
  .ok ((raw &&& mask) >>> start.toNat)

/-- Fails when checks are on and `bits` does not fit the range. The bound on what fits a range that
ends too far before its start cannot be formed, whether or not checks are on. -/
def checkFits (checks : Bool) (start stop bits : Int) : Except Fault Unit :=
  let span := stop - start + 1
  if bits < 0 then check checks False (.tooWide bits start stop)
  else do
    checkShift 1 span
    check checks (bits < (Nat.pow 2 span.toNat : Nat)) (.tooWide bits start stop)

/-- `value` with bits `start` to `stop` replaced by the low bits of `bits`. -/
def setBitRange (checks : Bool) (value start stop bits : Int) (t : IntType) : Except Fault Int := do
  checkRange checks start stop t
  checkFits checks start stop bits
  let mask ← maskFor start stop
  let raw ← lowBits t value
  checkShift bits.natAbs start
  let low := (bits % (Nat.pow 2 (stop - start + 1).toNat : Nat)).toNat
  wrap t (clearBits raw mask ||| (low <<< start.toNat &&& mask) : Nat)

end RegisterMap.Bits
