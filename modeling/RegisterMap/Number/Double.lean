import RegisterMap.Number.Literal

/-!
# Decimals as double precision numbers

The integer part of the double precision number nearest to a decimal. Ties go to the even
neighbour, and what lies beyond the greatest finite number is infinite.
-/

namespace RegisterMap.Number

/-- The quotient of two naturals to the nearest integer, ties to the even one. -/
def divNearest (n d : Nat) : Nat :=
  let q := n / d
  let twice := 2 * (n % d)
  if twice < d then q else if d < twice then q + 1 else if q % 2 = 0 then q else q + 1

def mantissaBits : Nat := 53

/-- The bits of the integer part of the greatest finite number. -/
def integerBits : Nat := 1024

/-- How far `n / d`, at least one, has to be shifted down to fit a mantissa. -/
def excessBits (n d : Nat) : Nat :=
  (n / d).log2 + 1 - mantissaBits

/-- How far `n / d`, between zero and `2 ^ 53`, has to be shifted up to fill a mantissa, up to a
limit. -/
def spareBits (n d : Nat) : Nat → Nat
  | 0 => 0
  | limit + 1 => if n / d < Nat.pow 2 (mantissaBits - 1) then spareBits (2 * n) d limit + 1 else 0

/-- The integer part of the number nearest to `n / d`. -/
def nearestInteger (n d : Nat) : Nat :=
  let down := excessBits n d
  if 0 < down then divNearest n (d * Nat.pow 2 down) * Nat.pow 2 down
  else
    let up := spareBits n d 1100
    divNearest (n * Nat.pow 2 up) d / Nat.pow 2 up

/-- A decimal: its digits without the point, and the power of ten they are multiplied with. -/
structure Decimal where
  negative : Bool
  digits : Nat
  scale : Int
  deriving DecidableEq, Repr

namespace Decimal

/-- Decimals from this power of ten on are infinite. -/
def greatestPower : Int := 400

/-- The integer part of the nearest double precision number, unless that is infinite. -/
def toInt? (x : Decimal) : Option Int :=
  let power : Int := (toString x.digits).length + x.scale
  if x.digits = 0 ∨ power < -greatestPower then some 0
  else if greatestPower < power then none
  else
    let n :=
      if 0 ≤ x.scale then nearestInteger (x.digits * Nat.pow 10 x.scale.toNat) 1
      else nearestInteger x.digits (Nat.pow 10 (-x.scale).toNat)
    if Nat.pow 2 integerBits ≤ n then none else some (if x.negative then -n else n)

/-- The exponent that stands after the letter of a literal. -/
def exponentOf (cs : List Char) : Int :=
  let (negative, digits) := splitSign cs
  let n := digitsValue 10 0 digits
  if negative then -n else n

/-- The decimal that a literal with a fraction or an exponent writes. -/
def ofLiteral (cs : List Char) : Decimal :=
  let (negative, body) := splitSign cs
  let isMark (c : Char) := c == 'e' || c == 'E'
  let places := body.takeWhile fun c => !isMark c
  let whole := places.takeWhile (· != '.')
  let fraction := (places.dropWhile (· != '.')).drop 1
  let exponent := exponentOf ((body.dropWhile fun c => !isMark c).drop 1)
  ⟨negative, digitsValue 10 0 (whole ++ fraction), exponent - fraction.length⟩

end Decimal

end RegisterMap.Number
