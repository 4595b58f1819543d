/-!
# Numbers as text

Hexadecimal in capitals, padded with zeros between the sign and the digits, and decimal, which is
refused for numbers of more than 4300 digits.
-/

namespace RegisterMap.Number

/-- The digit of a value below 16, in capitals. -/
def hexDigit (n : Nat) : Char :=
  if n < 10 then Char.ofNat (0x30 + n) else Char.ofNat (0x37 + n)

/-- The hexadecimal digits of `n` in front of `tail`. -/
def hexDigitsBefore (n : Nat) (tail : List Char) : List Char :=
  if h : n < 16 then hexDigit n :: tail
  else hexDigitsBefore (n / 16) (hexDigit (n % 16) :: tail)
termination_by n
decreasing_by omega

/-- The hexadecimal digits of `n` in capitals, without a prefix. -/
def hexDigits (n : Nat) : List Char :=
  hexDigitsBefore n []

/-- Digits with zeros in front, up to `width` places. -/
def padZeros (width : Nat) (digits : List Char) : List Char :=
  List.replicate (width - digits.length) '0' ++ digits

/-- A hexadecimal number of at least `width` places, its sign being one of them. -/
def hexChars (width : Nat) : Int → List Char
  | .ofNat n => padZeros width (hexDigits n)
  | .negSucc n => '-' :: padZeros (width - 1) (hexDigits (n + 1))

/-- A hexadecimal number of at least `width` places, without a prefix. -/
def hex (width : Nat) (v : Int) : String :=
  String.ofList (hexChars width v)

/-- A hexadecimal number of at least `width` places after `0x`. -/
def prefixedHex (width : Nat) (v : Int) : String :=
  "0x" ++ hex width v

/-- Decimal texts are kept to this many digits. -/
def digitLimit : Nat := 4300

/-- Whether a number has at most `digitLimit` decimal digits, as it has with no more bits than
that. -/
def isShort (v : Int) : Bool :=
  v.natAbs.log2 < digitLimit || v.natAbs < Nat.pow 10 digitLimit

theorem isShort_iff {v : Int} : isShort v = true ↔ v.natAbs < Nat.pow 10 digitLimit := by
  -- With the limit as a variable its power is not computed.
  have hlimit : ∀ k, 0 < k → (v.natAbs.log2 < k ∨ v.natAbs < Nat.pow 10 k ↔
      v.natAbs < Nat.pow 10 k) := by
    intro k hk
    refine ⟨fun h => h.elim (fun hlog => ?_) id, .inr⟩
    by_cases hv : v.natAbs = 0
    · rw [hv]
      exact Nat.pow_pos (by decide)
    · exact Nat.lt_of_lt_of_le ((Nat.log2_lt hv).1 hlog) (Nat.pow_le_pow_left (by decide) k)
  rw [isShort, Bool.or_eq_true, decide_eq_true_iff, decide_eq_true_iff]
  exact hlimit digitLimit (by decide)

end RegisterMap.Number
