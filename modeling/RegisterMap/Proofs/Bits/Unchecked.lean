import RegisterMap.Proofs.Bits.Primitives

/-!
# Primitives without checks

Without checks a position may lie outside the type and a range may end before it starts. As far as
the numbers on the way can be stored and written, the primitives have an answer there, and what lies
outside the type or outside the range is neither read nor changed. The one exception is a range that
ends two or more places before it starts, to which a number that is not negative cannot be set.
-/

namespace RegisterMap.Bits

/-- A number on the way is too long to be stored or to be written. -/
def Fault.IsShortage (f : Fault) : Prop :=
  f = .tooLong ∨ f = .exhausted ∨ f = .longNumber

/-- There is an answer, and it is as `P` says, exactly where there is room for the numbers on the
way, as `R` says. -/
structure Answers {α : Type} (R : Prop) (P : α → Prop) (x : Except Fault α) : Prop where
  within : R → ∃ a, x = .ok a ∧ P a
  beyond : ¬R → ∃ f : Fault, x = .error f ∧ f.IsShortage

namespace Answers

variable {α β : Type} {R S : Prop} {P : α → Prop} {x : Except Fault α}

theorem ok {a : α} (h : P a) : Answers True P (.ok a) :=
  ⟨fun _ => ⟨a, rfl, h⟩, fun h => absurd trivial h⟩

theorem bind {Q : β → Prop} {f : α → Except Fault β} (hx : Answers R P x)
    (hf : ∀ a, P a → Answers S Q (f a)) : Answers (R ∧ S) Q (x >>= f) := by
  constructor
  · rintro ⟨h, h'⟩
    obtain ⟨a, rfl, ha⟩ := hx.within h
    exact (hf a ha).within h'
  · intro h
    by_cases hroom : R
    · obtain ⟨a, rfl, ha⟩ := hx.within hroom
      exact (hf a ha).beyond fun h' => h ⟨hroom, h'⟩
    · obtain ⟨f, rfl, hshort⟩ := hx.beyond hroom
      exact ⟨f, rfl, hshort⟩

/-- What is said of the room and of the answer may be put differently. -/
theorem imp {Q : α → Prop} (hx : Answers R P x) (hroom : S ↔ R) (h : ∀ a, P a → Q a) :
    Answers S Q x where
  within hr := by
    obtain ⟨a, ha, hp⟩ := hx.within (hroom.1 hr)
    exact ⟨a, ha, h a hp⟩
  beyond hr := hx.beyond fun h => hr (hroom.2 h)

end Answers

/-! ### Positions outside a type -/

variable {t : IntType}

theorem testBit_toUnsigned_eq (v : Int) (i : Nat) :
    (t.toUnsigned v).testBit i = (decide (i < t.bits) && v.testBit i) := by
  by_cases hi : i < t.bits
  · rw [t.testBit_toUnsigned v hi, decide_eq_true hi, Bool.true_and]
  · rw [t.toUnsigned_eq_ofBits, Nat.testBit_ofBits_ge _ i (Nat.not_lt.1 hi), decide_eq_false hi,
      Bool.false_and]

/-- What reading the bits `start` to `stop` of `value` yields: those of them that the type has,
shifted down to bit 0. -/
structure Extracts (t : IntType) (start : Nat) (stop value : Int) (n : Nat) : Prop where
  bits : ∀ i : Nat, n.testBit i =
    (decide (start + i < t.bits ∧ ((start + i : Nat) : Int) ≤ stop) && value.testBit (start + i))
  empty : stop < start → n = 0

/-- What setting the bits `start` to `stop` of `value` yields: an integer of the type in which those
of them that the type has are as told, counted from `start` on, and all others as before. Where
there are none the value is only wrapped. -/
structure Deposits (t : IntType) (start : Nat) (stop value : Int) (bits : Nat → Bool)
    (result : Int) : Prop where
  inRange : t.least ≤ result ∧ result ≤ t.greatest
  inside : ∀ i < t.bits, start ≤ i → (i : Int) ≤ stop → result.testBit i = bits (i - start)
  others : ∀ i < t.bits, ¬(start ≤ i ∧ (i : Int) ≤ stop) → result.testBit i = value.testBit i
  idle : stop < start ∨ t.bits ≤ start → t.wrap? value = some result

theorem extracts_masked (start : Nat) (stop value : Int) :
    Extracts t start stop value ((t.toUnsigned value &&& rangeMask start stop) >>> start) where
  bits i := by
    rw [Nat.testBit_shiftRight, Nat.testBit_and, testBit_rangeMask, testBit_toUnsigned_eq,
      Bool.and_right_comm, ← Bool.decide_and]
    congr 2
    apply propext
    omega
  empty hs := by
    refine Nat.eq_of_testBit_eq fun i => ?_
    rw [Nat.testBit_shiftRight, Nat.testBit_and, testBit_rangeMask,
      decide_eq_false (by omega), Bool.and_false, Nat.zero_testBit]

/-- A raw word with the bits of a range replaced, read as an integer of the type. -/
theorem deposits_reading (ht : 1 ≤ t.bits) {start : Nat} {stop value : Int} {bits : Nat → Bool}
    {raw : Nat} (hraw : ∀ i < t.bits, raw.testBit i =
      if start ≤ i ∧ (i : Int) ≤ stop then bits (i - start) else value.testBit i) :
    Deposits t start stop value bits (t.reading raw) := by
  have hread : t.reading raw = t.ofBits fun i =>
      if start ≤ i ∧ ((i : Nat) : Int) ≤ stop then bits (i - start) else value.testBit i := by
    rw [IntType.reading_eq_ofBits ht]
    exact IntType.ofBits_congr fun i => hraw i i.isLt
  rw [hread]
  constructor
  · exact IntType.ofBits_mem_range ht _
  · intro i hi hstart hstop
    rw [IntType.testBit_ofBits _ hi, if_pos ⟨hstart, hstop⟩]
  · intro i hi hout
    rw [IntType.testBit_ofBits _ hi, if_neg hout]
  · intro hidle
    have hsign : t.hasSign = true := hasSign_of_inside (i := 0) ht
    rw [IntType.wrap?, if_pos hsign, IntType.reading_eq_ofBits ht]
    refine congrArg some (IntType.ofBits_congr fun i => ?_)
    rw [if_neg (by omega)]

/-! ### Steps -/

theorem check_answers (condition : Prop) [Decidable condition] (fault : Fault) :
    Answers (fault.numbers.all Number.isShort = true) (fun _ => True)
      (check false condition fault) where
  within h := ⟨(), check_unchecked h, trivial⟩
  beyond h := ⟨.longNumber, check_of_long (Bool.eq_false_iff.2 h) false, .inr (.inr rfl)⟩

theorem log2_ones {count : Nat} (hc : 0 < count) : (2 ^ count - 1).log2 = count - 1 := by
  have hone := Nat.one_lt_two_pow (show count ≠ 0 by omega)
  have hpow : 2 ^ count = 2 ^ (count - 1) * 2 := by
    rw [← Nat.pow_succ]
    congr 1
    omega
  have hlow : 0 < 2 ^ (count - 1) := Nat.two_pow_pos _
  refine (Nat.log2_eq_iff (by omega)).2 ⟨by omega, ?_⟩
  rw [Nat.pow_succ]
  omega

section

variable [Machine]

theorem checkShift_answers (v : Nat) {count : Int} (hc : 0 ≤ count) :
    Answers (v = 0 ∨ v.log2 + count.toNat < Machine.bits) (fun _ => True)
      (checkShift v count) where
  within h := by
    refine ⟨(), ?_, trivial⟩
    rcases h with rfl | h
    · rw [checkShift, if_neg (by omega), if_pos rfl]
    · exact checkShift_of_stored hc h
  beyond h := by
    obtain ⟨hv, hlong⟩ := not_or.1 h
    rw [checkShift, if_neg (by omega), if_neg hv]
    split
    · exact ⟨_, rfl, .inl rfl⟩
    · exact ⟨.exhausted, if_pos (Nat.not_lt.1 hlong), .inr (.inl rfl)⟩

theorem checkShift_one_answers {count : Int} (hc : 0 ≤ count) :
    Answers (count < Machine.bits) (fun _ => True) (checkShift 1 count) := by
  have hlog : Nat.log2 1 = 0 := by decide
  exact (checkShift_answers 1 hc).imp (by omega) fun _ h => h

variable (t)

theorem checkType_answers : Answers (t.bits < Machine.bits) (fun _ => True) (checkType t) :=
  (checkShift_one_answers (by omega)).imp (by omega) fun _ h => h

theorem lowBits_answers (v : Int) :
    Answers (t.bits < Machine.bits) (fun n => n = t.toUnsigned v) (lowBits t v) :=
  ((checkType_answers t).bind fun _ _ => .ok rfl).imp (by simp) fun _ h => h.symm

theorem wrap_answers {t : IntType} (h : t.hasSign = true) (v : Int) :
    Answers (t.bits < Machine.bits) (fun r => r = t.reading v) (wrap t v) := by
  refine ((checkType_answers t).bind (S := True) fun _ _ => ?_).imp (by simp) fun _ h => h
  rw [IntType.wrap?, if_pos h]
  exact .ok rfl

/-- A mask of ones ends where there is room for it. One without ones takes no room. -/
theorem maskFor_answers (start : Nat) (stop : Int) :
    Answers (start ≤ stop → stop < Machine.bits ∧ stop + 1 < start + Machine.bits)
      (fun mask => mask = rangeMask start stop) (maskFor start stop) := by
  refine ((checkShift_one_answers (by omega)).bind fun _ _ =>
    (checkShift_answers _ (by omega)).bind fun _ _ => .ok rfl).imp ?_ fun _ h => h.symm
  rw [and_true, Int.toNat_natCast, Nat.pow_eq]
  by_cases hs : start ≤ stop
  · have hspan : 0 < (stop - start + 1).toNat := by omega
    have hones := Nat.one_lt_two_pow hspan.ne'
    rw [log2_ones hspan]
    omega
  · have hspan : (stop - start + 1).toNat = 0 := by omega
    have hlimit : 0 < Machine.bits := Nat.zero_lt_of_lt Machine.word_lt
    rw [hspan]
    simp [hs, hlimit]

/-! ### Primitives -/

variable {t}

theorem getBit_answers (value : Int) (index : Nat) :
    Answers (t.bits < Machine.bits ∧ Number.isShort index = true)
      (fun b => b = (decide (index < t.bits) && value.testBit index))
      (getBit false value index t) := by
  refine ((check_answers _ _).bind fun _ _ => (lowBits_answers t value).bind (S := True)
    fun raw hraw => ?_).imp ?_ fun _ h => h
  · rw [if_neg (by omega), hraw, Int.toNat_natCast, testBit_toUnsigned_eq]
    exact .ok rfl
  · simp only [Fault.numbers, List.all_cons, List.all_nil, Bool.and_true, Bool.and_eq_true]
    constructor
    · rintro ⟨hbits, hindex⟩
      exact ⟨⟨hindex, isShort_of_le_bits hbits.le⟩, hbits, trivial⟩
    · rintro ⟨⟨hindex, -⟩, hbits, -⟩
      exact ⟨hbits, hindex⟩

theorem wrap_deposits (ht : 1 ≤ t.bits) {start : Nat} {stop value : Int} {bits : Nat → Bool}
    {raw : Nat} (hraw : ∀ i < t.bits, raw.testBit i =
      if start ≤ i ∧ (i : Int) ≤ stop then bits (i - start) else value.testBit i) :
    Answers (t.bits < Machine.bits) (Deposits t start stop value bits) (wrap t raw) := by
  have hsign : t.hasSign = true := hasSign_of_inside (i := 0) ht
  refine (wrap_answers hsign raw).imp Iff.rfl fun r hr => ?_
  rw [hr]
  exact deposits_reading ht hraw

theorem setBit_answers (ht : 1 ≤ t.bits) (value : Int) (index : Nat) (flag : Bool) :
    Answers (t.bits < Machine.bits ∧ index < Machine.bits)
      (Deposits t index index value fun _ => flag) (setBit false value index flag t) := by
  refine ((check_answers _ _).bind fun _ _ => (lowBits_answers t value).bind fun raw hraw =>
    (checkShift_one_answers (by omega)).bind (S := t.bits < Machine.bits)
      fun _ _ => ?_).imp ?_ fun _ h => h
  · rw [hraw, Int.toNat_natCast, Nat.pow_eq]
    dsimp only
    rw [put_or_clear_eq]
    refine wrap_deposits ht fun i hlt => ?_
    rw [testBit_replaceBits, Nat.testBit_two_pow, t.testBit_toUnsigned value hlt]
    by_cases heq : index = i
    · subst heq
      have hself : index ≤ index ∧ (index : Int) ≤ index := by omega
      rw [decide_eq_true rfl, if_pos rfl, if_pos hself]
      cases flag with
      | false => exact Nat.zero_testBit _
      | true => exact Nat.testBit_two_pow_self
    · rw [decide_eq_false heq, if_neg Bool.false_ne_true, if_neg (by omega)]
  · simp only [Fault.numbers, List.all_cons, List.all_nil, Bool.and_true, Bool.and_eq_true,
      Int.ofNat_lt]
    constructor
    · rintro ⟨hbits, hindex⟩
      exact ⟨⟨isShort_of_le_bits hindex.le, isShort_of_le_bits hbits.le⟩, hbits, hindex, hbits⟩
    · rintro ⟨-, hbits, hindex, -⟩
      exact ⟨hbits, hindex⟩

/-- Room for the numbers on the way when bits `start` to `stop` are read or set. -/
structure RangeRoom (t : IntType) (start : Nat) (stop : Int) : Prop where
  width : t.bits < Machine.bits
  written : Number.isShort start = true ∧ Number.isShort stop = true
  mask : start ≤ stop → stop < Machine.bits ∧ stop + 1 < start + Machine.bits

theorem all_isShort_badRange (hbits : t.bits < Machine.bits) {start : Nat} {stop : Int} :
    (Fault.badRange start stop t).numbers.all Number.isShort = true ↔
      Number.isShort start = true ∧ Number.isShort stop = true := by
  simp [Fault.numbers, isShort_of_le_bits hbits.le]

theorem getBitRange_answers (value : Int) (start : Nat) (stop : Int) :
    Answers (RangeRoom t start stop) (Extracts t start stop value)
      (getBitRange false value start stop t) := by
  refine ((check_answers _ _).bind fun _ _ => (lowBits_answers t value).bind fun raw hraw =>
    (maskFor_answers start stop).bind (S := True) fun mask hmask => ?_).imp ?_ fun _ h => h
  · rw [hraw, hmask, Int.toNat_natCast]
    exact .ok (extracts_masked start stop value)
  · constructor
    · rintro ⟨hbits, hwritten, hmask⟩
      exact ⟨(all_isShort_badRange hbits).2 hwritten, hbits, hmask, trivial⟩
    · rintro ⟨hshort, hbits, hmask, -⟩
      exact ⟨hbits, (all_isShort_badRange hbits).1 hshort, hmask⟩

/-- Whether a number fits is asked in vain, but its bound is formed if it is not negative. -/
theorem checkFits_answers {start : Nat} {stop new : Int} (h : new < 0 ∨ start ≤ stop + 1) :
    Answers ((Fault.tooWide new start stop).numbers.all Number.isShort = true ∧
        (0 ≤ new → stop + 1 < start + Machine.bits))
      (fun _ => True) (checkFits false start stop new) := by
  by_cases hn : new < 0
  · rw [checkFits, if_pos hn]
    exact (check_answers _ _).imp (by simp [hn]) fun _ h => h
  · rw [checkFits, if_neg hn]
    refine ((checkShift_one_answers (by omega)).bind fun _ _ => check_answers _ _).imp ?_
      fun _ h => h
    rw [and_comm]
    refine and_congr ?_ Iff.rfl
    omega

/-- Room for the numbers on the way when bits `start` to `stop` are set to a number. -/
structure NumberRoom (t : IntType) (start : Nat) (stop new : Int) : Prop
    extends RangeRoom t start stop where
  span : Number.isShort (stop - start + 1) = true
  placed : new = 0 ∨ new.natAbs.log2 + start < Machine.bits

theorem setBitRange_answers (ht : 1 ≤ t.bits) (value : Int) {start : Nat} {stop new : Int}
    (h : new < 0 ∨ start ≤ stop + 1) :
    Answers (NumberRoom t start stop new) (Deposits t start stop value new.testBit)
      (setBitRange false value start stop new t) := by
  refine ((check_answers _ _).bind fun _ _ => (checkFits_answers h).bind fun _ _ =>
    (maskFor_answers start stop).bind fun mask hmask => (lowBits_answers t value).bind
      fun raw hraw => (checkShift_answers _ (by omega)).bind (S := t.bits < Machine.bits)
        fun _ _ => ?_).imp ?_ fun _ h => h
  · rw [hraw, hmask, Int.toNat_natCast]
    refine wrap_deposits ht fun i hlt => ?_
    change (replaceBits _ _ _).testBit i = _
    rw [testBit_replaceBits, testBit_rangeMask, t.testBit_toUnsigned value hlt]
    by_cases hi : start ≤ i ∧ (i : Int) ≤ stop
    · have hlow := (unsigned (stop - start + 1).toNat).testBit_toUnsigned new
        (show i - start < (stop - start + 1).toNat by omega)
      rw [decide_eq_true hi, if_pos rfl, if_pos hi, Nat.testBit_shiftLeft, decide_eq_true hi.1,
        Bool.true_and]
      exact hlow
    · rw [decide_eq_false hi, if_neg Bool.false_ne_true, if_neg hi]
  · have hnumbers : (Fault.tooWide new start stop).numbers.all Number.isShort = true ↔
        Number.isShort (stop - start + 1) = true ∧ Number.isShort start = true ∧
          Number.isShort stop = true := by
      simp [Fault.numbers]
    have hplaced : (new.natAbs = 0 ∨ new.natAbs.log2 + (start : Int).toNat < Machine.bits) ↔
        (new = 0 ∨ new.natAbs.log2 + start < Machine.bits) := by
      rw [Int.natAbs_eq_zero, Int.toNat_natCast]
    rw [hnumbers, hplaced]
    constructor
    · rintro ⟨⟨hbits, hwritten, hmask⟩, hspan, hplaced⟩
      refine ⟨(all_isShort_badRange hbits).2 hwritten, ⟨⟨hspan, hwritten⟩, fun hn => ?_⟩, hmask,
        hbits, hplaced, hbits⟩
      have hlimit : 0 < Machine.bits := Nat.zero_lt_of_lt Machine.word_lt
      omega
    · rintro ⟨-, ⟨⟨hspan, hwritten⟩, -⟩, hmask, hbits, hplaced, -⟩
      exact ⟨⟨hbits, hwritten, hmask⟩, hspan, hplaced⟩

/-- The bound on what fits a range that ends two or more places before it starts is a power of two
with a negative exponent. -/
theorem setBitRange_of_inverted (value : Int) {start : Nat} {stop new : Int} (hnew : 0 ≤ new)
    (hs : stop + 1 < start) : setBitRange false value start stop new t = .error
      (if (Fault.badRange start stop t).numbers.all Number.isShort then .negativeShift
        else .longNumber) := by
  have hspan : checkShift 1 (stop - start + 1) = .error .negativeShift :=
    if_pos (by omega)
  have hfits : checkFits false start stop new = .error .negativeShift := by
    rw [checkFits, if_neg (by omega), hspan, error_bind]
  rw [setBitRange, checkRange]
  by_cases hshort : (Fault.badRange start stop t).numbers.all Number.isShort = true
  · rw [check_unchecked hshort, ok_bind, hfits, error_bind, if_pos hshort]
  · rw [check_of_long (Bool.eq_false_iff.2 hshort), error_bind, if_neg hshort]

/-- Without checks every primitive has an answer at every position, in the type or not, as far as
the numbers on the way can be stored and written, and nothing but the bits of the type that are
asked for is read or changed. Only a number that is not negative cannot be set to a range that ends
two or more places before it starts. -/
theorem unchecked_confined (ht : 1 ≤ t.bits) (value : Int) :
    (∀ index : Nat, Answers (t.bits < Machine.bits ∧ Number.isShort index = true)
      (fun b => b = (decide (index < t.bits) && value.testBit index))
      (getBit false value index t)) ∧
    (∀ (index : Nat) (flag : Bool), Answers (t.bits < Machine.bits ∧ index < Machine.bits)
      (Deposits t index index value fun _ => flag) (setBit false value index flag t)) ∧
    ∀ (start : Nat) (stop : Int),
      Answers (RangeRoom t start stop) (Extracts t start stop value)
        (getBitRange false value start stop t) ∧
      ∀ new : Int,
        (new < 0 ∨ start ≤ stop + 1 → Answers (NumberRoom t start stop new)
          (Deposits t start stop value new.testBit) (setBitRange false value start stop new t)) ∧
        (0 ≤ new → stop + 1 < start → setBitRange false value start stop new t = .error
          (if (Fault.badRange start stop t).numbers.all Number.isShort then .negativeShift
            else .longNumber)) :=
  ⟨getBit_answers value, setBit_answers ht value, fun start stop =>
    ⟨getBitRange_answers value start stop, fun _ =>
      ⟨setBitRange_answers ht value, setBitRange_of_inverted value⟩⟩⟩

end

/-- A signed type of 5 bits: a range of which only the first two places lie in it, and one that
ends two places before it starts. -/
theorem unchecked_confined_sign :
    1 ≤ (⟨5, true⟩ : IntType).bits ∧ RangeRoom ⟨5, true⟩ 3 9 ∧
    Extracts ⟨5, true⟩ 3 9 (-7) 3 ∧
    Deposits ⟨5, true⟩ 3 9 (-7) (Int.testBit 77) 9 ∧
    setBitRange false (-7) (5 : Nat) 3 0 ⟨5, true⟩ = .error .negativeShift := by
  have ht : 1 ≤ (⟨5, true⟩ : IntType).bits := by decide
  have hroom : RangeRoom ⟨5, true⟩ 3 9 := ⟨by decide, by decide, by decide⟩
  obtain ⟨-, -, hranges⟩ := unchecked_confined ht (-7)
  obtain ⟨n, hn, hread⟩ := (hranges 3 9).1.within hroom
  obtain ⟨r, hr, hset⟩ := (((hranges 3 9).2 77).1 (.inr (by decide))).within
    ⟨hroom, by decide, by decide⟩
  have hread' : n = 3 := by
    have h : getBitRange false (-7) (3 : Nat) 9 ⟨5, true⟩ = .ok 3 := by decide
    exact Except.ok.inj (hn.symm.trans h)
  have hset' : r = 9 := by
    have h : setBitRange false (-7) (3 : Nat) 9 77 ⟨5, true⟩ = .ok 9 := by decide
    exact Except.ok.inj (hr.symm.trans h)
  refine ⟨ht, hroom, hread' ▸ hread, hset' ▸ hset, ?_⟩
  exact ((hranges 5 3).2 0).2 (by decide) (by decide)

end RegisterMap.Bits
