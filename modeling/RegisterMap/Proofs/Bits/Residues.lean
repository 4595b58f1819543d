import Mathlib.Data.Int.ModEq
import RegisterMap.Proofs.Bits.Unchecked

/-!
# Integers modulo the size of a type

An integer that is wrapped comes to the one number of the type that is congruent to it, and one that
is read without a sign to its residue. Both depend on this residue alone, so that done twice or one
after the other they come to what the last of them makes of the integer itself. A mask has its ones
in its range and nowhere else.
-/

namespace RegisterMap.Bits

namespace IntType

variable (t : IntType)

theorem toUnsigned_modEq (v : Int) : (t.toUnsigned v : Int) ≡ v [ZMOD 2 ^ t.bits] := by
  rw [natCast_toUnsigned]
  exact Int.mod_modEq v _

/-- The low bits of two integers are the same when these are congruent. -/
theorem toUnsigned_congr {u v : Int} (h : u ≡ v [ZMOD 2 ^ t.bits]) :
    t.toUnsigned u = t.toUnsigned v := by
  have hcast : (t.toUnsigned u : Int) = t.toUnsigned v := by
    rw [natCast_toUnsigned, natCast_toUnsigned]
    exact h
  exact_mod_cast hcast

/-- Counting the sign bit against the others takes a multiple of the size off. -/
theorem reading_modEq (v : Int) : t.reading v ≡ v [ZMOD 2 ^ t.bits] := by
  have hraw := t.toUnsigned_modEq v
  rw [reading]
  split
  · have hsize : ((Nat.pow 2 t.bits : Nat) : Int) ≡ 0 [ZMOD 2 ^ t.bits] := by
      rw [Nat.pow_eq, Nat.cast_pow]
      exact Int.modEq_zero_iff_dvd.2 dvd_rfl
    simpa using hraw.sub hsize
  · exact hraw

variable {t}

/-- A type of at least one bit has as many numbers as bit patterns. -/
theorem greatest_eq (ht : 1 ≤ t.bits) : t.greatest = t.least + 2 ^ t.bits - 1 := by
  have hpow : ((2 ^ t.bits : Nat) : Int) = 2 ^ t.bits := Nat.cast_pow 2 t.bits
  have hhalf := two_pow_bits ht
  have hpos : 0 < 2 ^ (t.bits - 1) := Nat.two_pow_pos _
  rw [greatest, least, mask, ← hpow]
  simp only [Nat.pow_eq]
  cases t.signed with
  | false =>
    simp only [Bool.false_eq_true, if_false]
    omega
  | true =>
    simp only [if_true]
    omega

theorem reading_mem_range (ht : 1 ≤ t.bits) (v : Int) :
    t.least ≤ t.reading v ∧ t.reading v ≤ t.greatest := by
  rw [reading_eq_ofBits ht]
  exact ofBits_mem_range ht _

end IntType

section

variable [Machine]

/-- Of the integers from `low` to `high` only `r` is congruent to `v` modulo the size of the type,
and it is as good as `v` when it is wrapped or read without a sign. -/
structure StandsFor (t : IntType) (low high v r : Int) : Prop where
  low_le : low ≤ r
  le_high : r ≤ high
  modEq : r ≡ v [ZMOD 2 ^ t.bits]
  unique : ∀ s, low ≤ s → s ≤ high → s ≡ v [ZMOD 2 ^ t.bits] → s = r
  wrap_eq : wrap t r = wrap t v
  lowBits_eq : lowBits t r = lowBits t v

variable {t : IntType}

/-- Integers that are less than the size of the type apart are not congruent. -/
theorem standsFor_of_modEq {low high v r : Int} (hwide : high < low + 2 ^ t.bits)
    (hlow : low ≤ r) (hhigh : r ≤ high) (h : r ≡ v [ZMOD 2 ^ t.bits]) :
    StandsFor t low high v r where
  low_le := hlow
  le_high := hhigh
  modEq := h
  unique s hs hs' hmod := by
    -- a multiple of the size that is smaller than the size is zero
    have hdvd : (2 : Int) ^ t.bits ∣ s - r := (h.trans hmod.symm).dvd
    have hclose : |s - r| < 2 ^ t.bits := abs_lt.2 ⟨by omega, by omega⟩
    exact Int.sub_eq_zero.1 (Int.eq_zero_of_abs_lt_dvd hdvd hclose)
  wrap_eq := wrap_congr (t.toUnsigned_congr h)
  lowBits_eq := lowBits_congr (t.toUnsigned_congr h)

theorem standsFor_reading (ht : 1 ≤ t.bits) (v : Int) :
    StandsFor t t.least t.greatest v (t.reading v) := by
  obtain ⟨hlow, hhigh⟩ := IntType.reading_mem_range ht v
  have hsize := IntType.greatest_eq ht
  exact standsFor_of_modEq (by omega) hlow hhigh (t.reading_modEq v)

theorem standsFor_toUnsigned (v : Int) :
    StandsFor t 0 (2 ^ t.bits - 1) v (t.toUnsigned v) := by
  have hlt : (t.toUnsigned v : Int) < 2 ^ t.bits := by exact_mod_cast t.toUnsigned_lt v
  exact standsFor_of_modEq (by omega) (by omega) (by omega) (t.toUnsigned_modEq v)

/-- As far as numbers of the type can be stored, an integer is wrapped to the one number of the type
that is congruent to it, and read without a sign as the one below the size of the type. To wrap or
to read what comes out is the same as to wrap or to read the integer. As far as it can be stored, a
mask has its ones at the bits of its range. -/
theorem residues_of_integers (ht : 1 ≤ t.bits) (v : Int) :
    Answers (t.bits < Machine.bits) (StandsFor t t.least t.greatest v) (wrap t v) ∧
    Answers (t.bits < Machine.bits) (fun n : Nat => StandsFor t 0 (2 ^ t.bits - 1) v n)
      (lowBits t v) ∧
    ∀ (start : Nat) (stop : Int),
      Answers (start ≤ stop → stop < Machine.bits ∧ stop + 1 < start + Machine.bits)
        (fun mask => ∀ i : Nat, mask.testBit i = true ↔ start ≤ i ∧ (i : Int) ≤ stop)
        (maskFor start stop) := by
  have hsign : t.hasSign = true := hasSign_of_inside (i := 0) ht
  refine ⟨(wrap_answers hsign v).imp Iff.rfl ?_, (lowBits_answers t v).imp Iff.rfl ?_,
    fun start stop => (maskFor_answers start stop).imp Iff.rfl ?_⟩
  · rintro r rfl
    exact standsFor_reading ht v
  · rintro n rfl
    exact standsFor_toUnsigned v
  · rintro mask rfl i
    rw [testBit_rangeMask, decide_eq_true_iff]

end

/-- 83 in a signed type of 5 bits, and ones at the bits 3 to 5. -/
theorem residues_of_integers_sign :
    1 ≤ (⟨5, true⟩ : IntType).bits ∧
    wrap ⟨5, true⟩ 83 = .ok (-13) ∧ StandsFor ⟨5, true⟩ (-16) 15 83 (-13) ∧
    lowBits ⟨5, true⟩ 83 = .ok 19 ∧ StandsFor ⟨5, true⟩ 0 31 83 19 ∧
    maskFor (3 : Nat) 5 = .ok 56 ∧
    ∀ i : Nat, Nat.testBit 56 i = true ↔ 3 ≤ i ∧ (i : Int) ≤ 5 := by
  have ht : 1 ≤ (⟨5, true⟩ : IntType).bits := by decide
  have hwrap : wrap ⟨5, true⟩ 83 = .ok (-13) := by decide
  have hlow : lowBits ⟨5, true⟩ 83 = .ok 19 := by decide
  have hmask : maskFor (3 : Nat) 5 = .ok 56 := by decide
  obtain ⟨hsigned, hunsigned, hmasks⟩ := residues_of_integers ht 83
  obtain ⟨r, hr, hstands⟩ := hsigned.within (by decide)
  obtain ⟨n, hn, hstands'⟩ := hunsigned.within (by decide)
  obtain ⟨m, hm, hones⟩ := (hmasks 3 5).within (by decide)
  cases hwrap.symm.trans hr
  cases hlow.symm.trans hn
  cases hmask.symm.trans hm
  exact ⟨ht, hwrap, hstands, hlow, hstands', hmask, hones⟩

/-- On no machine a number of so many bits is to be had, even where the integer has few. -/
theorem not_forall_wrapped : ¬∃ _ : Machine, ∀ (t : IntType) (v : Int), 1 ≤ t.bits →
    ∃ r, wrap t v = .ok r ∧ t.least ≤ r ∧ r ≤ t.greatest ∧ r ≡ v [ZMOD 2 ^ t.bits] := by
  rintro ⟨machine, h⟩
  obtain ⟨r, hr, -⟩ := h (unsigned (10 ^ 20)) 5 (by decide)
  obtain ⟨_, htype, -⟩ := bind_eq_ok.1 hr
  have hroom := checkType_eq_ok_iff.1 htype
  have hlimit := Machine.bits_le
  simp only [unsigned, placeBits, placeLimit] at hroom hlimit
  omega

end RegisterMap.Bits
