import Mathlib.Data.Int.Bitwise
import RegisterMap.Bits.Basic

/-!
# Integers of a type by their bits

The low bits of an integer, read with a sign or without one as the type says. What is read lies in
the range of the type and has the bits that were read.
-/

namespace RegisterMap.Bits.IntType

/-- The integer of a type that has the given bits. The highest one counts against the others when
the type is signed. -/
def ofBits (t : IntType) (f : Fin t.bits → Bool) : Int :=
  if t.signed then Int.ofBits f else Nat.ofBits f

variable (t : IntType)

theorem toUnsigned_lt (v : Int) : t.toUnsigned v < 2 ^ t.bits := by
  have hpos : 0 < 2 ^ t.bits := Nat.two_pow_pos _
  have hlt : v % (2 ^ t.bits : Nat) < (2 ^ t.bits : Nat) := Int.emod_lt_of_pos v (by omega)
  rw [toUnsigned, Nat.pow_eq]
  omega

theorem natCast_toUnsigned (v : Int) : (t.toUnsigned v : Int) = v % 2 ^ t.bits := by
  have hpos : ((2 ^ t.bits : Nat) : Int) ≠ 0 := by simp
  rw [toUnsigned, Nat.pow_eq, Int.toNat_of_nonneg (Int.emod_nonneg v hpos)]
  push_cast
  rfl

theorem toUnsigned_toUnsigned (v : Int) : t.toUnsigned (t.toUnsigned v) = t.toUnsigned v :=
  Nat.mod_eq_of_lt (t.toUnsigned_lt v)

theorem toUnsigned_negSucc (n : Nat) :
    t.toUnsigned (Int.negSucc n) = 2 ^ t.bits - (n % 2 ^ t.bits + 1) := by
  have hpos : 0 < 2 ^ t.bits := Nat.two_pow_pos _
  have hlt : n % 2 ^ t.bits < 2 ^ t.bits := Nat.mod_lt n hpos
  rw [toUnsigned, Nat.pow_eq, Int.emod_negSucc, Int.natAbs_natCast, Int.subNatNat_eq_coe]
  omega

theorem testBit_toUnsigned (v : Int) {i : Nat} (h : i < t.bits) :
    (t.toUnsigned v).testBit i = v.testBit i := by
  cases v with
  | ofNat n =>
    have hbit := Nat.testBit_mod_two_pow n t.bits i
    rw [decide_eq_true h, Bool.true_and] at hbit
    exact hbit
  | negSucc n =>
    rw [toUnsigned_negSucc, Nat.testBit_two_pow_sub_succ (Nat.mod_lt n (Nat.two_pow_pos _)),
      Nat.testBit_mod_two_pow, decide_eq_true h, Bool.true_and, Bool.true_and]
    rfl

/-- The low bits of an integer are those that its bits below the width make. -/
theorem toUnsigned_eq_ofBits (v : Int) :
    t.toUnsigned v = Nat.ofBits fun i : Fin t.bits => v.testBit i := by
  refine Nat.eq_of_testBit_eq fun i => ?_
  by_cases h : i < t.bits
  · rw [testBit_toUnsigned t v h, Nat.testBit_ofBits_lt _ i h]
  · rw [Nat.testBit_ofBits_ge _ i (Nat.not_lt.1 h)]
    exact Nat.testBit_lt_two_pow <|
      (t.toUnsigned_lt v).trans_le (Nat.pow_le_pow_right (by decide) (Nat.not_lt.1 h))

/-- The bits of an integer below a place make what it leaves when divided by that power of two. -/
theorem natCast_ofBits_testBit (v : Int) (count : Nat) :
    ((Nat.ofBits fun i : Fin count => v.testBit i : Nat) : Int) = v % 2 ^ count := by
  have hbits : (unsigned count).toUnsigned v = Nat.ofBits fun i : Fin count => v.testBit i :=
    toUnsigned_eq_ofBits (unsigned count) v
  rw [← hbits]
  exact natCast_toUnsigned (unsigned count) v

variable {t}

theorem two_pow_bits (h : 1 ≤ t.bits) : 2 ^ t.bits = 2 * 2 ^ (t.bits - 1) := by
  rw [← Nat.pow_succ', Nat.succ_eq_add_one, Nat.sub_one_add_one (by omega)]

/-- An integer is read by its low bits. -/
theorem reading_eq_ofBits (h : 1 ≤ t.bits) (v : Int) :
    t.reading v = t.ofBits fun i => v.testBit i := by
  have hlt := t.toUnsigned_lt v
  have hpow := two_pow_bits h
  have hpos : 0 < 2 ^ (t.bits - 1) := Nat.two_pow_pos _
  rw [reading, ofBits, Int.ofBits, ← t.toUnsigned_eq_ofBits v]
  cases hs : t.signed with
  | false => rfl
  | true =>
    simp only [Nat.pow_eq, Bool.true_and, decide_eq_true_eq, if_true]
    by_cases hhalf : t.toUnsigned v < 2 ^ (t.bits - 1)
    · rw [Nat.div_eq_of_lt hhalf, if_neg (Nat.lt_irrefl 0), if_pos (by omega)]
      rfl
    · rw [if_pos (Nat.div_pos (Nat.not_lt.1 hhalf) hpos), if_neg (by omega),
        Int.subNatNat_eq_coe]

theorem testBit_ofBits (f : Fin t.bits → Bool) {i : Nat} (h : i < t.bits) :
    (t.ofBits f).testBit i = f ⟨i, h⟩ := by
  rw [ofBits]
  split
  · exact Int.testBit_ofBits_lt h
  · exact Nat.testBit_ofBits_lt f i h

theorem ofBits_congr {f g : Fin t.bits → Bool} (h : ∀ i, f i = g i) : t.ofBits f = t.ofBits g :=
  congrArg t.ofBits (funext h)

/-- An integer with given bits lies in the range of its type. -/
theorem ofBits_mem_range (h : 1 ≤ t.bits) (f : Fin t.bits → Bool) :
    t.least ≤ t.ofBits f ∧ t.ofBits f ≤ t.greatest := by
  have hlt := Nat.ofBits_lt_two_pow f
  have hpow := two_pow_bits h
  have hpos : 0 < 2 ^ (t.bits - 1) := Nat.two_pow_pos _
  rw [least, greatest, ofBits, mask]
  simp only [Nat.pow_eq]
  cases t.signed with
  | false =>
    simp only [Bool.false_eq_true, if_false]
    omega
  | true =>
    simp only [if_true, Int.ofBits]
    split
    · rw [Int.ofNat_eq_natCast]
      omega
    · rw [Int.subNatNat_eq_coe]
      omega

end RegisterMap.Bits.IntType
