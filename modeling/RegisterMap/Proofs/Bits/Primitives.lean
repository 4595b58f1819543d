import RegisterMap.Outcome
import RegisterMap.Proofs.Bits.Types

/-!
# What bit primitives do

On positions inside a type whose numbers can be stored nothing fails, whether or not checks are
made. Each primitive is then told by the bits of what it answers.
-/

namespace RegisterMap.Bits

theorem testBit_rangeMask (start : Nat) (stop : Int) (i : Nat) :
    (rangeMask start stop).testBit i = decide (start ≤ i ∧ (i : Int) ≤ stop) := by
  rw [rangeMask, Nat.pow_eq, Nat.testBit_shiftLeft, Nat.testBit_two_pow_sub_one, ← Bool.decide_and]
  congr 1
  apply propext
  omega

theorem testBit_clearBits (raw mask i : Nat) :
    (clearBits raw mask).testBit i = (raw.testBit i && !mask.testBit i) := by
  rw [clearBits, Nat.testBit_xor, Nat.testBit_and]
  cases mask.testBit i <;> cases raw.testBit i <;> rfl

/-- `raw` with its bits in `mask` replaced by those of `bits`. -/
def replaceBits (raw mask bits : Nat) : Nat :=
  clearBits raw mask ||| (bits &&& mask)

theorem testBit_replaceBits (raw mask bits i : Nat) :
    (replaceBits raw mask bits).testBit i =
      if mask.testBit i then bits.testBit i else raw.testBit i := by
  rw [replaceBits, Nat.testBit_or, Nat.testBit_and, testBit_clearBits]
  cases mask.testBit i <;> cases raw.testBit i <;> simp

/-- Bits that are put in or taken out are replaced by ones or by zeros. -/
theorem put_or_clear_eq (raw bit : Nat) (flag : Bool) :
    (if flag then raw ||| bit else clearBits raw bit) =
      replaceBits raw bit (if flag then bit else 0) := by
  refine Nat.eq_of_testBit_eq fun i => ?_
  rw [testBit_replaceBits]
  cases flag with
  | false =>
    rw [if_neg Bool.false_ne_true, if_neg Bool.false_ne_true, testBit_clearBits, Nat.zero_testBit]
    cases bit.testBit i <;> simp
  | true =>
    rw [if_pos rfl, if_pos rfl, Nat.testBit_or]
    cases bit.testBit i <;> simp

theorem log2_two_pow_sub_one_le (n : Nat) : (2 ^ n - 1).log2 ≤ n := by
  rcases Nat.eq_zero_or_pos (2 ^ n - 1) with h | h
  · simp [h, Nat.log2_zero]
  · exact ((Nat.log2_lt (by omega)).2 (by omega)).le

theorem span_eq {start stop : Nat} (hs : start ≤ stop) :
    ((stop : Int) - start + 1).toNat = stop + 1 - start := by
  omega

theorem isShort_of_le {n m : Nat} (h : n ≤ m) (hm : Number.isShort m = true) :
    Number.isShort n = true := by
  exact Number.isShort_iff.2 (lt_of_le_of_lt h (Number.isShort_iff.1 hm))

/-! ### Checks -/

/-- Positions below a bound that can be written can be written. -/
theorem all_isShort {bound : Nat} {positions : List Nat} (hi : ∀ i ∈ positions, i < bound) :
    ((positions ++ [bound]).map fun i : Nat => (i : Int)).all Number.isShort =
      Number.isShort bound := by
  induction positions with
  | nil => exact Bool.and_true _
  | cons i positions ih =>
    obtain ⟨hlt, hi⟩ := List.forall_mem_cons.1 hi
    rw [List.cons_append, List.map_cons, List.all_cons, ih hi]
    cases hshort : Number.isShort bound with
    | false => exact Bool.and_false _
    | true => rw [isShort_of_le hlt.le hshort, Bool.and_true]

section Check

variable {condition : Prop} [Decidable condition] {fault : Fault}

theorem check_eq (hn : fault.numbers.all Number.isShort = true) (checks : Bool) :
    check checks condition fault = if checks = true ∧ ¬condition then .error fault else .ok () :=
  if_pos hn

theorem check_of_holds (hc : condition) (hn : fault.numbers.all Number.isShort = true)
    (checks : Bool) : check checks condition fault = .ok () := by
  rw [check_eq hn, if_neg fun h => h.2 hc]

theorem check_unchecked (hn : fault.numbers.all Number.isShort = true) :
    check false condition fault = .ok () := by
  rw [check_eq hn, if_neg fun h => Bool.false_ne_true h.1]

/-- What is checked without fault holds. -/
theorem holds_of_check (h : check true condition fault = .ok ()) : condition := by
  by_contra hc
  unfold check at h
  split at h
  · rw [if_pos ⟨rfl, hc⟩] at h
    cases h
  · cases h

theorem check_of_long (hn : fault.numbers.all Number.isShort = false) (checks : Bool) :
    check checks condition fault = .error .longNumber := by
  rw [check, hn, if_neg Bool.false_ne_true]

/-- Positions inside a type pass the check, unless the width of the type is too long to be
written. -/
theorem check_of_inside {t : IntType} {positions : List Nat} (hc : condition)
    (hn : fault.numbers = (positions ++ [t.bits]).map fun i : Nat => (i : Int))
    (hi : ∀ i ∈ positions, i < t.bits) (checks : Bool) : check checks condition fault =
      if Number.isShort t.bits then .ok () else .error .longNumber := by
  have hall : fault.numbers.all Number.isShort = Number.isShort t.bits := by
    rw [hn, all_isShort hi]
  cases hshort : Number.isShort t.bits with
  | true => exact check_of_holds hc (hall.trans hshort) checks
  | false => exact check_of_long (hall.trans hshort) checks

end Check

variable [Machine]

theorem nonneg_of_checkShift {v : Nat} {count : Int} (h : checkShift v count = .ok ()) :
    0 ≤ count := by
  unfold checkShift at h
  by_contra hc
  rw [if_pos (by omega)] at h
  cases h

/-- What stays short enough to be stored can be shifted. -/
theorem checkShift_of_stored {v : Nat} {count : Int} (hc : 0 ≤ count)
    (hs : v.log2 + count.toNat < Machine.bits) : checkShift v count = .ok () := by
  have hp : ¬placeLimit < places v + (count.toNat + placeBits - 1) / placeBits := by
    have hlimit := Machine.bits_le
    simp only [places, placeBits, placeLimit] at *
    omega
  have hn : ¬count < 0 := by omega
  have ht : ¬Machine.bits ≤ v.log2 + count.toNat := by omega
  rw [checkShift, if_neg hn, if_neg hp, if_neg ht, ite_self]

/-- What is shifted without fault is zero or stays short enough to be stored. -/
theorem stored_of_checkShift {v : Nat} {count : Int} (h : checkShift v count = .ok ())
    (hv : v ≠ 0) : v.log2 + count.toNat < Machine.bits := by
  have hc := nonneg_of_checkShift h
  unfold checkShift at h
  rw [if_neg (by omega), if_neg hv] at h
  split at h
  · cases h
  · split at h
    · cases h
    · next hs => exact Nat.not_le.1 hs

theorem maskFor_eq_ok {start stop : Int} {mask : Nat} (h : maskFor start stop = .ok mask) :
    0 ≤ start ∧ mask = rangeMask start.toNat stop := by
  obtain ⟨_, _, h⟩ := bind_eq_ok.1 h
  obtain ⟨_, hs, h⟩ := bind_eq_ok.1 h
  cases h
  exact ⟨nonneg_of_checkShift hs, rfl⟩

/-- A mask for bytes has its ones in all of them. -/
theorem maskForSize_eq_ok {size : Int} {mask : Nat} (h : maskForSize size = .ok mask) :
    0 ≤ size ∧ mask + 1 = 256 ^ size.toNat := by
  obtain ⟨_, hshift, h⟩ := bind_eq_ok.1 h
  cases h
  have hsize := nonneg_of_checkShift hshift
  have hpow : Nat.pow 2 (size.toNat * 8) = 256 ^ size.toNat := by
    rw [Nat.pow_eq, Nat.mul_comm, Nat.pow_mul]
  refine ⟨by omega, ?_⟩
  rw [hpow, Nat.sub_add_cancel (Nat.pow_pos (by decide))]

/-- What can be stored in bytes has a mask. -/
theorem exists_maskForSize {count : Nat} (h : count < Machine.bytes) :
    ∃ mask, maskForSize count = .ok mask := by
  have hroom := Machine.bits_of_bytes
  have hone : Nat.log2 1 = 0 := by decide
  have hshift : checkShift 1 ((count : Int) * 8) = .ok () :=
    checkShift_of_stored (by omega) (by omega)
  unfold maskForSize
  rw [hshift, ok_bind]
  exact ⟨_, rfl⟩

/-- The size of what can be stored can be written. -/
theorem isShort_of_le_bits {n : Nat} (h : n ≤ Machine.bits) : Number.isShort n = true := by
  have hlimit := Machine.bits_le
  have hwritten : Number.isShort (placeBits * placeLimit : Nat) = true := by decide +kernel
  exact isShort_of_le (by omega) hwritten

theorem isShort_tooWide {start stop : Nat} (new : Int) (hs : start ≤ stop)
    (hstop : stop < Machine.bits) :
    (Fault.tooWide new start stop).numbers.all Number.isShort = true := by
  have hspan : (stop : Int) - start + 1 = (stop + 1 - start : Nat) := by omega
  rw [Fault.numbers, hspan]
  have h : ∀ n ∈ [stop + 1 - start, start, stop], Number.isShort (n : Nat) = true := by
    intro n hn
    simp only [List.mem_cons, List.not_mem_nil, or_false] at hn
    exact isShort_of_le_bits (by omega)
  simpa using h

/-- A number that has room in a range fits it. -/
theorem checkFits_of_lt {checks : Bool} {start stop : Nat} {new : Int} (hs : start ≤ stop)
    (hstop : stop < Machine.bits) (hspan : stop + 1 - start < Machine.bits)
    (hnew : 0 ≤ new ∧ new < 2 ^ (stop + 1 - start)) : checkFits checks start stop new = .ok () := by
  have hone : checkShift 1 ((stop : Int) - start + 1) = .ok () := by
    apply checkShift_of_stored (by omega)
    have h : Nat.log2 1 = 0 := by decide
    omega
  have hlt : new < (Nat.pow 2 ((stop : Int) - start + 1).toNat : Nat) := by
    rw [span_eq hs, Nat.pow_eq]
    exact_mod_cast hnew.2
  have hpos : ¬new < 0 := by omega
  rw [checkFits, if_neg hpos, hone, ok_bind, check_of_holds hlt (isShort_tooWide new hs hstop)]

/-- Without checks every number fits every range of bits that can be stored. -/
theorem checkFits_unchecked {start stop : Nat} (new : Int) (hs : start ≤ stop)
    (hstop : stop < Machine.bits) (hspan : stop + 1 - start < Machine.bits) :
    checkFits false start stop new = .ok () := by
  have hone : checkShift 1 ((stop : Int) - start + 1) = .ok () := by
    apply checkShift_of_stored (by omega)
    have h : Nat.log2 1 = 0 := by decide
    omega
  rw [checkFits, hone, ok_bind, check_unchecked (isShort_tooWide new hs hstop),
    check_unchecked (isShort_tooWide new hs hstop), ite_self]

section Room

variable {t : IntType}

/-- The numbers of a type can be formed when they can be stored. -/
theorem checkType_eq_ok_iff : checkType t = .ok () ↔ t.bits < Machine.bits := by
  have hone : Nat.log2 1 = 0 := by decide
  constructor
  · intro h
    have := stored_of_checkShift h (by decide)
    omega
  · intro h
    refine checkShift_of_stored (by omega) ?_
    omega

omit [Machine] in
theorem checkRange_of_inside {start stop : Nat} (hs : start ≤ stop) (ht : stop < t.bits)
    (checks : Bool) : checkRange checks start stop t =
      if Number.isShort t.bits then .ok () else .error .longNumber := by
  have hshown : (Fault.badRange start stop t).numbers =
      ([start, stop] ++ [t.bits]).map fun i : Nat => (i : Int) := rfl
  refine check_of_inside ⟨by omega, by omega, by omega⟩ hshown (fun i hi => ?_) checks
  simp only [List.mem_cons, List.not_mem_nil, or_false] at hi
  omega

/-- Integers with the same low bits are the same number of a type, or none. -/
theorem wrap_congr {u v : Int} (h : t.toUnsigned u = t.toUnsigned v) : wrap t u = wrap t v := by
  unfold wrap IntType.wrap? IntType.reading
  rw [h]

theorem lowBits_congr {u v : Int} (h : t.toUnsigned u = t.toUnsigned v) :
    lowBits t u = lowBits t v := by
  rw [lowBits, lowBits, h]

variable (hroom : t.bits < Machine.bits)
include hroom

theorem checkRange_of_room {start stop : Nat} (hs : start ≤ stop) (ht : stop < t.bits)
    (checks : Bool) : checkRange checks start stop t = .ok () := by
  rw [checkRange_of_inside hs ht, if_pos (isShort_of_le_bits hroom.le)]

theorem lowBits_of_room (v : Int) : lowBits t v = .ok (t.toUnsigned v) := by
  rw [lowBits, checkType_eq_ok_iff.2 hroom, ok_bind]

theorem wrap_of_room (h : t.hasSign = true) (v : Int) : wrap t v = .ok (t.reading v) := by
  rw [wrap, checkType_eq_ok_iff.2 hroom, ok_bind, IntType.wrap?, if_pos h]

section Bit

variable {i : Nat} (hi : i < t.bits)
include hi

omit [Machine] hroom in
theorem checkBit_of_inside (checks : Bool) :
    check checks (0 ≤ (i : Int) ∧ (i : Int) < t.bits) (.bitOutside i t) =
      if Number.isShort t.bits then .ok () else .error .longNumber := by
  refine check_of_inside ⟨by omega, by omega⟩
    (show _ = ([i] ++ [t.bits]).map fun i : Nat => (i : Int) from rfl) (fun j hj => ?_) checks
  rwa [List.mem_singleton.1 hj]

theorem checkBit_of_room (checks : Bool) :
    check checks (0 ≤ (i : Int) ∧ (i : Int) < t.bits) (.bitOutside i t) = .ok () := by
  rw [checkBit_of_inside hi, if_pos (isShort_of_le_bits hroom.le)]

omit [Machine] hroom in
theorem hasSign_of_inside : t.hasSign = true := by
  have hpos : 0 < t.bits := by omega
  simp [IntType.hasSign, hpos]

theorem getBit_of_room (checks : Bool) (v : Int) : getBit checks v i t = .ok (v.testBit i) := by
  rw [getBit, checkBit_of_room hroom hi, ok_bind, lowBits_of_room hroom, ok_bind, if_neg (by omega),
    Int.toNat_natCast, t.testBit_toUnsigned v hi]

theorem setBit_of_room (checks : Bool) (v : Int) (flag : Bool) : setBit checks v i flag t =
    .ok (t.reading (replaceBits (t.toUnsigned v) (2 ^ i) (if flag then 2 ^ i else 0) : Nat)) := by
  have hone : Nat.log2 1 = 0 := by decide
  have hshift : checkShift 1 i = .ok () := checkShift_of_stored (by omega) (by omega)
  rw [setBit, checkBit_of_room hroom hi, ok_bind, lowBits_of_room hroom, ok_bind, hshift, ok_bind,
    Int.toNat_natCast, Nat.pow_eq]
  dsimp only
  rw [put_or_clear_eq, wrap_of_room hroom (hasSign_of_inside hi)]

/-- Setting a bit changes this bit and no other one. -/
theorem setBit_eq_ofBits (checks : Bool) (v : Int) (flag : Bool) : setBit checks v i flag t =
    .ok (t.ofBits fun j => if j = i then flag else v.testBit j) := by
  rw [setBit_of_room hroom hi, IntType.reading_eq_ofBits (by omega)]
  refine congrArg _ (IntType.ofBits_congr fun j => ?_)
  have hbit := testBit_replaceBits (t.toUnsigned v) (2 ^ i) (if flag then 2 ^ i else 0) j
  rw [t.testBit_toUnsigned v j.isLt, Nat.testBit_two_pow] at hbit
  refine hbit.trans ?_
  by_cases hj : (j : Nat) = i
  · rw [decide_eq_true hj.symm, if_pos rfl, if_pos hj]
    cases flag with
    | false => exact Nat.zero_testBit _
    | true => rw [if_pos rfl, hj, Nat.testBit_two_pow_self]
  · rw [decide_eq_false (Ne.symm hj), if_neg Bool.false_ne_true, if_neg hj]

end Bit

section Range

variable {start stop : Nat} (hs : start ≤ stop) (ht : stop < t.bits)
include hs ht

theorem maskFor_of_room : maskFor start stop = .ok (rangeMask start stop) := by
  have hlog : Nat.log2 1 = 0 := by decide
  have hone : checkShift 1 ((stop + 1 - start : Nat) : Int) = .ok () :=
    checkShift_of_stored (by omega) (by omega)
  have hmask : checkShift (2 ^ (stop + 1 - start) - 1) start = .ok () := by
    apply checkShift_of_stored (by omega)
    have := log2_two_pow_sub_one_le (stop + 1 - start)
    omega
  rw [maskFor, span_eq hs, hone, ok_bind, Nat.pow_eq, hmask, ok_bind, Int.toNat_natCast]

theorem getBitRange_of_room (checks : Bool) (v : Int) : getBitRange checks v start stop t =
    .ok (t.toUnsigned v / 2 ^ start % 2 ^ (stop + 1 - start)) := by
  rw [getBitRange, checkRange_of_room hroom hs ht, ok_bind, lowBits_of_room hroom, ok_bind,
    maskFor_of_room hroom hs ht, ok_bind, Int.toNat_natCast]
  congr 1
  apply Nat.eq_of_testBit_eq
  intro i
  rw [Nat.testBit_shiftRight, Nat.testBit_and, testBit_rangeMask, Nat.testBit_mod_two_pow,
    Nat.testBit_div_two_pow, Nat.add_comm start i]
  by_cases hi : i < stop + 1 - start
  · rw [decide_eq_true hi, decide_eq_true (by omega), Bool.true_and, Bool.and_true]
  · rw [decide_eq_false hi, decide_eq_false (by omega : ¬(start ≤ i + start ∧ _)), Bool.and_false,
      Bool.false_and]

/-- The bits of a range as a number of their own. -/
theorem getBitRange_eq_ofBits (checks : Bool) (v : Int) : getBitRange checks v start stop t =
    .ok (Nat.ofBits fun i : Fin (stop + 1 - start) => v.testBit (start + i)) := by
  rw [getBitRange_of_room hroom hs ht]
  congr 1
  refine Nat.eq_of_testBit_eq fun i => ?_
  rw [Nat.testBit_mod_two_pow, Nat.testBit_div_two_pow, Nat.add_comm i start]
  by_cases hi : i < stop + 1 - start
  · rw [decide_eq_true hi, Bool.true_and, t.testBit_toUnsigned v (by omega),
      Nat.testBit_ofBits_lt _ i hi]
  · rw [decide_eq_false hi, Bool.false_and, Nat.testBit_ofBits_ge _ i (Nat.not_lt.1 hi)]

/-- A number with bits `start` to `stop` replaced by the low bits of one that can be shifted
there. -/
theorem setBitRange_of_room (checks : Bool) (v : Int) {new : Int}
    (hfits : checkFits checks start stop new = .ok ())
    (hshift : checkShift new.natAbs start = .ok ()) : setBitRange checks v start stop new t =
      .ok (t.reading (replaceBits (t.toUnsigned v) (rangeMask start stop)
        ((new % (2 ^ (stop + 1 - start) : Nat)).toNat <<< start) : Nat)) := by
  rw [setBitRange, checkRange_of_room hroom hs ht, ok_bind, hfits, ok_bind,
    maskFor_of_room hroom hs ht, ok_bind, lowBits_of_room hroom, ok_bind, hshift, ok_bind,
    span_eq hs, Int.toNat_natCast, Nat.pow_eq, wrap_of_room hroom (hasSign_of_inside ht)]
  rfl

/-- Setting a range puts the low bits of a number there and changes no other bit. -/
theorem setBitRange_eq_ofBits (checks : Bool) (v : Int) {new : Int}
    (hfits : checkFits checks start stop new = .ok ())
    (hshift : checkShift new.natAbs start = .ok ()) : setBitRange checks v start stop new t =
      .ok (t.ofBits fun j =>
        if start ≤ j ∧ j ≤ stop then new.testBit (j - start) else v.testBit j) := by
  rw [setBitRange_of_room hroom hs ht checks v hfits hshift,
    IntType.reading_eq_ofBits (by omega)]
  refine congrArg _ (IntType.ofBits_congr fun j => ?_)
  have hbit := testBit_replaceBits (t.toUnsigned v) (rangeMask start stop)
    ((new % (2 ^ (stop + 1 - start) : Nat)).toNat <<< start) j
  rw [t.testBit_toUnsigned v j.isLt, testBit_rangeMask, Nat.testBit_shiftLeft] at hbit
  refine hbit.trans ?_
  by_cases hj : start ≤ (j : Nat) ∧ (j : Nat) ≤ stop
  · have hlow := (unsigned (stop + 1 - start)).testBit_toUnsigned new
      (show (j : Nat) - start < stop + 1 - start by omega)
    rw [decide_eq_true (by omega), if_pos rfl, if_pos hj, decide_eq_true hj.1, Bool.true_and]
    exact hlow
  · rw [decide_eq_false (by omega), if_neg Bool.false_ne_true, if_neg hj]

end Range

end Room

end RegisterMap.Bits
