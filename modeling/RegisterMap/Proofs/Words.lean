import Mathlib.Data.Nat.Bitwise
import Mathlib.Tactic.Common
import RegisterMap.Options
import RegisterMap.Proofs.Bits.Primitives

/-!
# Primitives on words

What the bit primitives do on the unsigned words that registers have, bit by bit. On such a word
and on positions inside it nothing fails, whether or not checks are made.
-/

namespace RegisterMap.Bits

variable [Machine]

theorem lt_bits_of_mem {w : Nat} (h : w ∈ wordSizes) : w < Machine.bits := by
  have hall : ∀ w ∈ wordSizes, w ≤ 64 := by decide
  exact lt_of_le_of_lt (hall w h) Machine.word_lt

omit [Machine] in
theorem widthFor_eq_some {n : Int} {t : IntType} (h : widthFor n = some t) :
    t ∈ unsignedTypes ∧ n ≤ t.bits ∧ ∀ u ∈ unsignedTypes, n ≤ u.bits → t.bits ≤ u.bits := by
  have hs : unsignedTypes.Pairwise fun t u => t.bits ≤ u.bits := by decide
  obtain ⟨hn, before, after, he, hb⟩ := List.find?_eq_some_iff_append.1 h
  rw [he] at hs ⊢
  refine ⟨by simp, by simpa using hn, fun u hu hw => ?_⟩
  rcases List.mem_append.1 hu with hu | hu
  · have := hb u hu
    simp at this
    omega
  · rcases List.mem_cons.1 hu with rfl | hu
    · rfl
    · exact (List.pairwise_cons.1 (List.pairwise_append.1 hs).2.1).1 u hu

section Unsigned

variable {w : Nat} (hw : w < Machine.bits)
include hw

theorem lowBits_unsigned (n : Nat) : lowBits (unsigned w) n = .ok (n % 2 ^ w) :=
  lowBits_of_room hw n

theorem wrap_unsigned (n : Nat) : wrap (unsigned w) n = .ok ((n % 2 ^ w : Nat) : Int) :=
  wrap_of_room hw rfl n

theorem getBit_unsigned (checks : Bool) (n : Nat) {i : Nat} (hi : i < w) :
    getBit checks n i (unsigned w) = .ok (n.testBit i) :=
  getBit_of_room hw hi checks n

theorem setBit_unsigned (checks : Bool) (n : Nat) {i : Nat} (hi : i < w) (flag : Bool) :
    setBit checks n i flag (unsigned w) =
      .ok ((replaceBits (n % 2 ^ w) (2 ^ i) (if flag then 2 ^ i else 0) % 2 ^ w : Nat) : Int) :=
  setBit_of_room hw hi checks n flag

section Range

variable {start stop : Nat} (hs : start ≤ stop) (ht : stop < w)
include hs ht

theorem checkRange_unsigned (checks : Bool) :
    checkRange checks start stop (unsigned w) = .ok () :=
  checkRange_of_room (show (unsigned w).bits < Machine.bits from hw) hs ht checks

theorem maskFor_unsigned : maskFor start stop = .ok (rangeMask start stop) :=
  maskFor_of_room (show (unsigned w).bits < Machine.bits from hw) hs ht

theorem getBitRange_unsigned (checks : Bool) (n : Nat) :
    getBitRange checks n start stop (unsigned w) =
      .ok (n / 2 ^ start % 2 ^ (stop + 1 - start)) := by
  have hlow : n % 2 ^ w / 2 ^ start % 2 ^ (stop + 1 - start) =
      n / 2 ^ start % 2 ^ (stop + 1 - start) := by
    refine Nat.eq_of_testBit_eq fun i => ?_
    simp only [Nat.testBit_mod_two_pow, Nat.testBit_div_two_pow]
    by_cases hi : i < stop + 1 - start
    · rw [decide_eq_true (by omega : i + start < w), Bool.true_and]
    · rw [decide_eq_false hi, Bool.false_and, Bool.false_and]
  rw [← hlow]
  exact getBitRange_of_room hw hs ht checks n

/-- `n` with bits `start` to `stop` replaced by the low bits of a number that can be shifted
there. -/
theorem setBitRange_unsigned (checks : Bool) (n : Nat) {v : Int}
    (hfits : checkFits checks start stop v = .ok ()) (hv : checkShift v.natAbs start = .ok ()) :
    setBitRange checks n start stop v (unsigned w) =
      .ok ((replaceBits (n % 2 ^ w) (rangeMask start stop)
        ((v % (2 ^ (stop + 1 - start) : Nat)).toNat <<< start) % 2 ^ w : Nat) : Int) :=
  setBitRange_of_room hw hs ht checks n hfits hv

end Range

end Unsigned

end RegisterMap.Bits
