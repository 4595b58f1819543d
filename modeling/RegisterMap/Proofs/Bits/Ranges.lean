import Mathlib.Algebra.Order.BigOperators.Group.List
import Mathlib.Data.List.Perm.Basic
import RegisterMap.Proofs.Bits.Primitives

/-!
# Ranges of bits

Setting a range of an integer of any type puts a number there, leaves the other bits alone and
yields an integer of the type, from which the range is read back. Reading and setting a range come
to the same as reading and setting its bits one by one, in any order.
-/

namespace RegisterMap.Bits

section

variable [Machine]

/-- What setting the bits `start` to `stop` of `value` to the low bits of `new` has to yield. -/
structure Replaces (t : IntType) (start stop : Nat) (value new result : Int) : Prop where
  inRange : t.least ≤ result ∧ result ≤ t.greatest
  others : ∀ i < t.bits, ¬(start ≤ i ∧ i ≤ stop) → result.testBit i = value.testBit i
  readBack : ∀ checks, ∃ n : Nat, getBitRange checks result start stop t = .ok n ∧
    (n : Int) = new % 2 ^ (stop + 1 - start)
  /-- A signed result is the two's complement reading of the bits. -/
  reading : t.signed = true → result = Int.ofBits fun i : Fin t.bits =>
    if start ≤ i ∧ i ≤ stop then new.testBit (i - start) else value.testBit i

/-- A number below a power of two can be moved to a place below which it ends before the limit. -/
theorem checkShift_of_lt {new : Int} {start count : Nat}
    (hnew : 0 ≤ new ∧ new < 2 ^ count) (hcount : count + start ≤ Machine.bits) (hc : 0 < count) :
    checkShift new.natAbs start = .ok () := by
  have hlt : new.natAbs < 2 ^ count := by
    obtain ⟨n, rfl⟩ := Int.eq_ofNat_of_zero_le hnew.1
    exact_mod_cast hnew.2
  refine checkShift_of_stored (by omega) ?_
  rcases Nat.eq_zero_or_pos new.natAbs with hz | hpos
  · rw [hz, Nat.log2_zero]
    omega
  · have hlog := (Nat.log2_lt (by omega)).2 hlt
    omega

section Range

variable {t : IntType} {start stop : Nat} (hs : start ≤ stop) (ht : stop < t.bits)
include hs ht

theorem replaces_ofBits (hroom : t.bits < Machine.bits) (value new : Int) :
    Replaces t start stop value new (t.ofBits fun j =>
      if start ≤ j ∧ j ≤ stop then new.testBit (j - start) else value.testBit j) where
  inRange := IntType.ofBits_mem_range (by omega) _
  others i hi hout := by rw [IntType.testBit_ofBits _ hi, if_neg hout]
  readBack checks := by
    refine ⟨_, getBitRange_eq_ofBits hroom hs ht checks _, ?_⟩
    rw [← IntType.natCast_ofBits_testBit]
    refine congrArg (fun f => ((Nat.ofBits f : Nat) : Int)) (funext fun i => ?_)
    have hi : start + i < t.bits := by omega
    rw [IntType.testBit_ofBits _ hi, if_pos ⟨by dsimp only; omega, by dsimp only; omega⟩,
      Nat.add_sub_cancel_left]
  reading hsigned := by rw [IntType.ofBits, if_pos hsigned]

omit hs ht in
/-- A range is set without fault only in a type whose numbers can be stored, and to a number that
can be moved there. -/
theorem room_of_setBitRange {checks : Bool} {value new r : Int}
    (h : setBitRange checks value start stop new t = .ok r) :
    t.bits < Machine.bits ∧ (new = 0 ∨ new.natAbs.log2 + start < Machine.bits) := by
  obtain ⟨_, -, h⟩ := bind_eq_ok.1 h
  obtain ⟨_, -, h⟩ := bind_eq_ok.1 h
  obtain ⟨_, -, h⟩ := bind_eq_ok.1 h
  obtain ⟨_, hlow, h⟩ := bind_eq_ok.1 h
  obtain ⟨_, hshift, -⟩ := bind_eq_ok.1 h
  obtain ⟨_, htype, -⟩ := bind_eq_ok.1 hlow
  refine ⟨checkType_eq_ok_iff.1 htype, ?_⟩
  by_cases hz : new = 0
  · exact .inl hz
  · have hstored := stored_of_checkShift hshift (by omega)
    exact .inr (by omega)

theorem setBitRange_of_stored {checks : Bool} (value : Int) {new : Int}
    (hroom : t.bits < Machine.bits)
    (hnew : 0 ≤ new ∧ new < 2 ^ (stop + 1 - start) ∨ checks = false)
    (hstored : 0 ≤ new ∧ new < 2 ^ (stop + 1 - start) ∨ new.natAbs.log2 + start < Machine.bits) :
    setBitRange checks value start stop new t = .ok (t.ofBits fun j =>
      if start ≤ j ∧ j ≤ stop then new.testBit (j - start) else value.testBit j) := by
  have hfits : checkFits checks start stop new = .ok () := by
    rcases hnew with hfit | rfl
    · exact checkFits_of_lt hs (by omega) (by omega) hfit
    · exact checkFits_unchecked new hs (by omega) (by omega)
  refine setBitRange_eq_ofBits hroom hs ht checks value hfits ?_
  rcases hstored with hfit | hstored
  · exact checkShift_of_lt hfit (by omega) (by omega)
  · exact checkShift_of_stored (by omega) hstored

/-- The bits of a range are replaced by those of a number that has room there or, without checks, by
the low bits of any number, as far as numbers of the type and the number in its place can be
stored. -/
theorem setBitRange_replaces {checks : Bool} (value : Int) {new : Int}
    (hnew : 0 ≤ new ∧ new < 2 ^ (stop + 1 - start) ∨ checks = false) :
    ((∃ r, setBitRange checks value start stop new t = .ok r) ↔ t.bits < Machine.bits ∧
      (0 ≤ new ∧ new < 2 ^ (stop + 1 - start) ∨ new.natAbs.log2 + start < Machine.bits)) ∧
    ∀ r, setBitRange checks value start stop new t = .ok r →
      Replaces t start stop value new r := by
  have hroom : ∀ r, setBitRange checks value start stop new t = .ok r → t.bits < Machine.bits ∧
      (0 ≤ new ∧ new < 2 ^ (stop + 1 - start) ∨ new.natAbs.log2 + start < Machine.bits) := by
    intro r hr
    obtain ⟨hroom, rfl | hstored⟩ := room_of_setBitRange hr
    · exact ⟨hroom, .inl ⟨le_refl 0, Int.pow_pos (by decide)⟩⟩
    · exact ⟨hroom, .inr hstored⟩
  refine ⟨⟨fun ⟨r, hr⟩ => hroom r hr, fun h =>
    ⟨_, setBitRange_of_stored hs ht value h.1 hnew h.2⟩⟩, fun r hr => ?_⟩
  obtain ⟨htype, hstored⟩ := hroom r hr
  cases hr.symm.trans (setBitRange_of_stored hs ht value htype hnew hstored)
  exact replaces_ofBits hs ht htype value new

end Range

end

/-- Bits 2 to 4 of a signed type of 5 bits: the top bit of the range is the sign. -/
theorem setBitRange_replaces_sign :
    ((2 ≤ 4 ∧ 4 < 5) ∧ (0 ≤ (6 : Int) ∧ (6 : Int) < 2 ^ (4 + 1 - 2) ∨ true = false)) ∧
    setBitRange true 3 (2 : Nat) (4 : Nat) 6 ⟨5, true⟩ = .ok (-5) ∧
    Replaces ⟨5, true⟩ 2 4 3 6 (-5) := by
  have hset : setBitRange true 3 (2 : Nat) (4 : Nat) 6 ⟨5, true⟩ = .ok (-5) := by decide
  have hs : 2 ≤ 4 := by decide
  have ht : 4 < (⟨5, true⟩ : IntType).bits := by decide
  exact ⟨by decide, hset, (setBitRange_replaces hs ht 3 (.inl (by decide))).2 _ hset⟩

/-- On no machine has a number as many bits as some types. -/
theorem not_forall_stored : ¬∃ _ : Machine, ∀ (t : IntType) (value new : Int) (start stop : Nat),
    1 ≤ t.bits → start ≤ stop → stop < t.bits → 0 ≤ new → new < 2 ^ (stop + 1 - start) →
      ∃ r, setBitRange true value start stop new t = .ok r ∧ t.least ≤ r ∧ r ≤ t.greatest := by
  rintro ⟨machine, h⟩
  obtain ⟨r, hr, -⟩ := h (unsigned (10 ^ 30)) 0 1 0 0 (by decide) (by decide) (by decide)
    (by decide) (by decide)
  obtain ⟨hroom, -⟩ := room_of_setBitRange hr
  have hlimit := Machine.bits_le
  simp only [unsigned, placeBits, placeLimit] at hroom hlimit
  omega

section

variable [Machine]

/-! ### Bit by bit -/

/-- The sum of the powers of two for those places at which `value` has a one, counted from bit
`start` on. -/
def gathered (checks : Bool) (value : Int) (start : Nat) (t : IntType) (places : List Nat) :
    Except Fault Nat :=
  places.foldlM (fun sum i => do
    let b ← getBit checks value (start + i : Nat) t
    .ok (if b then sum + 2 ^ i else sum)) 0

/-- `value` after its bits at some places, counted from bit `start` on, were set to those of a
number, one after the other. -/
def scattered (checks : Bool) (value : Int) (start new : Nat) (t : IntType) (places : List Nat) :
    Except Fault Int :=
  places.foldlM (fun v i => setBit checks v (start + i : Nat) (new.testBit i) t) value

omit [Machine] in
/-- A number below a power of two is the sum of the powers at which it has a one. -/
theorem sum_range_testBit (n count : Nat) :
    ((List.range count).map fun i => if n.testBit i then 2 ^ i else 0).sum = n % 2 ^ count := by
  induction count with
  | zero => simp [Nat.mod_one]
  | succ count ih =>
    rw [List.range_succ, List.map_append, List.sum_append, ih, Nat.mod_pow_succ,
      ← Nat.toNat_testBit]
    cases hbit : n.testBit count <;> simp [hbit]

section Places

variable {t : IntType} {checks : Bool} {start : Nat} {places : List Nat}

theorem gathered_of_room (hroom : t.bits < Machine.bits) (value : Int)
    (hp : ∀ i ∈ places, start + i < t.bits) : gathered checks value start t places =
      .ok (places.map fun i => if value.testBit (start + i) then 2 ^ i else 0).sum := by
  have hfold : ∀ sum, places.foldlM (fun sum i => do
      let b ← getBit checks value (start + i : Nat) t
      .ok (if b then sum + 2 ^ i else sum)) sum =
        (.ok (sum + (places.map fun i => if value.testBit (start + i) then 2 ^ i else 0).sum) :
          Except Fault Nat) := by
    induction places with
    | nil => exact fun sum => rfl
    | cons i places ih =>
      intro sum
      obtain ⟨hi, hp⟩ := List.forall_mem_cons.1 hp
      rw [List.foldlM_cons, getBit_of_room hroom hi, ok_bind, ok_bind, ih hp, List.map_cons,
        List.sum_cons]
      congr 1
      split <;> omega
  rw [gathered, hfold, Nat.zero_add]

/-- Bits that are set one by one end up as those of the number, whatever their order. -/
theorem scattered_of_room (hroom : t.bits < Machine.bits) (value : Int) (new : Nat)
    (hp : ∀ i ∈ places, start + i < t.bits) (hne : places ≠ []) :
    scattered checks value start new t places = .ok (t.ofBits fun j =>
      if start ≤ j ∧ (j : Nat) - start ∈ places then new.testBit (j - start)
      else value.testBit j) := by
  induction places generalizing value with
  | nil => exact absurd rfl hne
  | cons i places ih =>
    obtain ⟨hi, hp⟩ := List.forall_mem_cons.1 hp
    have hfirst := setBit_eq_ofBits hroom hi checks value (new.testBit i)
    rw [scattered, List.foldlM_cons, hfirst, ok_bind]
    by_cases hrest : places = []
    · subst hrest
      refine congrArg Except.ok (IntType.ofBits_congr fun j => ?_)
      by_cases hj : (j : Nat) = start + i
      · rw [if_pos hj, if_pos (by simp; omega), hj, Nat.add_sub_cancel_left]
      · rw [if_neg hj, if_neg (by simp; omega)]
    · refine (ih _ hp hrest).trans (congrArg Except.ok (IntType.ofBits_congr fun j => ?_))
      by_cases hmem : start ≤ (j : Nat) ∧ (j : Nat) - start ∈ places
      · rw [if_pos hmem, if_pos ⟨hmem.1, List.mem_cons_of_mem _ hmem.2⟩]
      · rw [if_neg hmem, IntType.testBit_ofBits _ j.isLt]
        by_cases hj : (j : Nat) = start + i
        · rw [if_pos hj, if_pos (by simp; omega), hj, Nat.add_sub_cancel_left]
        · rw [if_neg hj, if_neg]
          rintro ⟨hle, hcons⟩
          obtain heq | hin := List.mem_cons.1 hcons
          · omega
          · exact hmem ⟨hle, hin⟩

/-- Where numbers of the type cannot be formed, a check inside the type fails, or else the low bits
of a number are not to be had. -/
theorem lowBits_fails {α : Type} {fault : Fault} (h : checkType t = .error fault) (v : Int)
    (rest : Nat → Except Fault α) :
    ((if Number.isShort t.bits then .ok () else .error .longNumber : Except Fault Unit) >>= fun _ =>
      lowBits t v >>= rest) = .error (if Number.isShort t.bits then fault else .longNumber) := by
  cases Number.isShort t.bits with
  | false => rfl
  | true => rw [if_pos rfl, if_pos rfl, ok_bind, lowBits, h, error_bind, error_bind]

/-- Where numbers of the type cannot be formed, no bit is read or set. -/
theorem fails_of_checkType {fault : Fault} (h : checkType t = .error fault) (value : Int)
    (new : Nat) (hp : ∀ i ∈ places, start + i < t.bits) (hne : places ≠ []) :
    gathered checks value start t places =
        .error (if Number.isShort t.bits then fault else .longNumber) ∧
      scattered checks value start new t places =
        .error (if Number.isShort t.bits then fault else .longNumber) := by
  obtain ⟨i, places, rfl⟩ := List.exists_cons_of_ne_nil hne
  have hi := hp i List.mem_cons_self
  constructor
  · rw [gathered, List.foldlM_cons, getBit, checkBit_of_inside hi, lowBits_fails h, error_bind,
      error_bind]
  · rw [scattered, List.foldlM_cons, setBit, checkBit_of_inside hi, lowBits_fails h, error_bind]

end Places

/-- Reading and setting a range come to the same as reading and setting its bits one by one, in any
order. Where the numbers of the type cannot be formed, none of these has an answer, and elsewhere
all of them have one. -/
theorem ranges_bit_by_bit {t : IntType} {start stop : Nat} (hs : start ≤ stop) (ht : stop < t.bits)
    (checks : Bool) (value : Int) {order : List Nat}
    (ho : order.Perm (List.range (stop + 1 - start))) :
    getBitRange checks value start stop t = gathered checks value start t order ∧
      ∀ new : Nat, new < 2 ^ (stop + 1 - start) →
        (setBitRange checks value start stop new t).toOption =
            (scattered checks value start new t order).toOption ∧
          (t.bits < Machine.bits → (∃ n, getBitRange checks value start stop t = .ok n) ∧
            ∃ r, setBitRange checks value start stop new t = .ok r) := by
  have hp : ∀ i ∈ order, start + i < t.bits := by
    intro i hi
    have := List.mem_range.1 (ho.mem_iff.1 hi)
    omega
  have hne : order ≠ [] := by
    rintro rfl
    have := ho.length_eq
    simp at this
    omega
  have hnew : ∀ new : Nat, new < 2 ^ (stop + 1 - start) →
      0 ≤ (new : Int) ∧ (new : Int) < 2 ^ (stop + 1 - start) := fun new h =>
    ⟨by omega, by exact_mod_cast h⟩
  by_cases hroom : t.bits < Machine.bits
  · have hget : getBitRange checks value start stop t = gathered checks value start t order := by
      rw [getBitRange_of_room hroom hs ht, gathered_of_room hroom value hp,
        (ho.map _).sum_eq, ← sum_range_testBit]
      refine congrArg Except.ok (congrArg List.sum (List.map_congr_left fun i hi => ?_))
      have hi : start + i < t.bits := by
        have := List.mem_range.1 hi
        omega
      rw [Nat.testBit_div_two_pow, Nat.add_comm i start, t.testBit_toUnsigned value hi]
    refine ⟨hget, fun new hlt => ?_⟩
    have hset : setBitRange checks value start stop new t = _ :=
      setBitRange_of_stored hs ht value hroom (.inl (hnew new hlt)) (.inl (hnew new hlt))
    refine ⟨?_, fun _ => ⟨⟨_, getBitRange_of_room hroom hs ht checks value⟩, _, hset⟩⟩
    rw [scattered_of_room hroom value new hp hne, hset]
    refine congrArg (fun r => (Except.ok r : Except Fault Int).toOption)
      (IntType.ofBits_congr fun j => ?_)
    have hmem : start ≤ (j : Nat) → ((j : Nat) - start ∈ order ↔ (j : Nat) ≤ stop) := by
      intro hle
      rw [ho.mem_iff, List.mem_range]
      omega
    by_cases hj : start ≤ (j : Nat) ∧ (j : Nat) ≤ stop
    · rw [if_pos hj, if_pos ⟨hj.1, (hmem hj.1).2 hj.2⟩]
      rfl
    · rw [if_neg hj, if_neg fun h => hj ⟨h.1, (hmem h.1).1 h.2⟩]
  · obtain ⟨fault, hfault⟩ : ∃ fault, checkType t = .error fault := by
      cases h : checkType t with
      | ok => exact absurd (checkType_eq_ok_iff.1 h) hroom
      | error fault => exact ⟨fault, rfl⟩
    have hget : getBitRange checks value start stop t =
        .error (if Number.isShort t.bits then fault else .longNumber) := by
      rw [getBitRange, checkRange_of_inside hs ht, lowBits_fails hfault]
    refine ⟨hget.trans (fails_of_checkType hfault value 0 hp hne).1.symm, fun new hlt => ?_⟩
    refine ⟨?_, fun h => absurd h hroom⟩
    rw [(fails_of_checkType hfault value new hp hne).2]
    cases hset : setBitRange checks value start stop new t with
    | error e => rfl
    | ok r => exact absurd (room_of_setBitRange hset).1 hroom

end

/-- The top three bits of a signed type of 5 bits, in the order 2, 0, 1. -/
theorem ranges_bit_by_bit_sign :
    ((2 ≤ 4 ∧ 4 < 5) ∧ [2, 0, 1].Perm (List.range (4 + 1 - 2)) ∧ 6 < 2 ^ (4 + 1 - 2)) ∧
    getBitRange true (-7) (2 : Nat) (4 : Nat) ⟨5, true⟩ =
      gathered true (-7) 2 ⟨5, true⟩ [2, 0, 1] ∧
    (setBitRange true (-7) (2 : Nat) (4 : Nat) (6 : Nat) ⟨5, true⟩).toOption =
      (scattered true (-7) 2 6 ⟨5, true⟩ [2, 0, 1]).toOption := by
  have hs : 2 ≤ 4 := by decide
  have ht : 4 < (⟨5, true⟩ : IntType).bits := by decide
  have h := ranges_bit_by_bit hs ht true (-7) (show [2, 0, 1].Perm (List.range 3) by decide)
  exact ⟨by decide, h.1, (h.2 6 (by decide)).1⟩

end RegisterMap.Bits
