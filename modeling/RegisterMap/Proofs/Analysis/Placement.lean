import RegisterMap.Analysis.Analyze
import RegisterMap.Proofs.Words

/-!
# Placing fields

What is known of fields once they have been placed: each has its bits inside the word and, if it is
a range, the smallest type for them, and no two have names that agree in capitals. One placement
keeps this, so all placements of a description do.
-/

namespace RegisterMap

namespace Field

/-- Whether a field covers a bit of its register. -/
def covers (f : Field) (i : Nat) : Bool :=
  f.start ≤ i && i ≤ f.stop

/-- A field that lies in a word: its mask has exactly its bits, and only a range has a type, which
is the smallest that holds it. -/
structure Fits (word : Bits.IntType) (f : Field) : Prop where
  ordered : f.start ≤ f.stop
  inside : f.stop < word.bits
  single_iff : f.single = true ↔ f.start = f.stop
  testBit_mask : ∀ i, f.mask.testBit i = f.covers i
  valueType_eq_none : f.valueType = none ↔ f.single = true
  smallest : ∀ t, f.valueType = some t → t ∈ Bits.unsignedTypes ∧ f.width ≤ t.bits ∧
    ∀ u ∈ Bits.unsignedTypes, f.width ≤ u.bits → t.bits ≤ u.bits
  single_of_selfClearing : f.policy.selfClearing = true → f.single = true

theorem Fits.not_selfClearing {word : Bits.IntType} {f : Field} (hf : f.Fits word)
    (h : f.single = false) : f.policy.selfClearing = false := by
  by_contra hc
  cases h.symm.trans (hf.single_of_selfClearing (by simpa using hc))

/-- A field that says what its declaration says: it has the bits that the declaration means in a
register of the word type. -/
structure Follows (word : Bits.IntType) (d : FieldDecl) (f : Field) : Prop where
  name : f.name = d.name
  policy : f.policy = d.policy
  register : f.register = d.registerName
  docs : f.docs = d.docs
  single : f.single = d.bit.isSingle
  bits : d.bit.resolve word.bits = ((f.start : Int), (f.stop : Int))

theorem covers_iff {f : Field} {i : Nat} : f.covers i = true ↔ f.start ≤ i ∧ i ≤ f.stop := by
  simp [covers]

theorem Fits.covers_start {word : Bits.IntType} {f : Field} (hf : f.Fits word) :
    f.covers f.start = true :=
  covers_iff.2 ⟨Nat.le_refl _, hf.ordered⟩

theorem Fits.lt_of_covers {word : Bits.IntType} {f : Field} (hf : f.Fits word) {i : Nat}
    (h : f.covers i = true) : i < word.bits :=
  (covers_iff.1 h).2.trans_lt hf.inside

end Field

namespace Analysis

/-- What a range is checked for. -/
theorem rangeType_eq_ok {word : Bits.IntType} {d : FieldDecl} {start stop : Int}
    {t : Bits.IntType} (h : rangeType word d start stop = .ok t) :
    start < stop ∧ stop < word.bits ∧ d.policy.selfClearing = false ∧
      Bits.widthFor (stop - start + 1) = some t := by
  unfold rangeType at h
  split at h
  · cases h
  · split at h
    · cases h
    · split at h
      · cases h
      · split at h
        · next ht =>
          cases h
          exact ⟨by omega, by omega, by simp_all, ht⟩
        · cases h

theorem checkName_eq_ok {before : List FieldDecl} {d : FieldDecl}
    (h : checkName before d = .ok ()) : Text.isIdentifier d.name = true ∧
      isReserved d.name = false ∧ ∀ e ∈ before, Text.upper e.name ≠ Text.upper d.name := by
  unfold checkName at h
  split at h
  · cases h
  · next hu =>
    split at h
    · cases h
    · simp only at h
      split at h
      · cases h
      · next hc =>
        simp only [Bool.or_eq_true, Bool.not_eq_true', not_or, Bool.not_eq_false,
          Bool.not_eq_true] at hu
        refine ⟨hu.1, hu.2, fun e he hne => ?_⟩
        exact List.find?_eq_none.1 hc e he (by simp [hne])

variable [Machine]

/-- A single bit is resolved to itself. -/
theorem resolveField_single {word : Bits.IntType} {d : FieldDecl} {f : Field}
    (h : resolveField word d = .ok f) (hd : d.bit.isSingle = true) : ∃ bit : Nat,
      bit < word.bits ∧ d.bit.resolve word.bits = ((bit : Int), (bit : Int)) ∧
      f = ⟨d.name, d.policy, d.registerName, bit, bit, true, Bits.rangeMask bit bit, none,
        d.docs⟩ := by
  obtain ⟨index, hb⟩ : ∃ index, d.bit.resolve word.bits = (index, index) := by
    cases hbit : d.bit with
    | single index => exact ⟨index, rfl⟩
    | range lo hi => simp [hbit, BitSpec.isSingle] at hd
  simp only [resolveField, hb, hd, if_true] at h
  split at h
  · cases h
  · next hw =>
    rw [ok_bind] at h
    obtain ⟨mask, hm, h⟩ := bind_eq_ok.1 h
    obtain ⟨hs, rfl⟩ := Bits.maskFor_eq_ok (mapError_eq_ok.1 hm)
    cases h
    exact ⟨index.toNat, by omega, by rw [hb, Int.toNat_of_nonneg hs],
      by rw [Int.toNat_of_nonneg hs]⟩

/-- A range is resolved to bits inside the word and to a type that holds them. -/
theorem resolveField_range {word : Bits.IntType} {d : FieldDecl} {f : Field}
    (h : resolveField word d = .ok f) (hd : d.bit.isSingle = false) : ∃ start stop : Nat, ∃ t,
      start < stop ∧ stop < word.bits ∧ d.policy.selfClearing = false ∧
      Bits.widthFor ((stop : Int) - start + 1) = some t ∧
      d.bit.resolve word.bits = ((start : Int), (stop : Int)) ∧
      f = ⟨d.name, d.policy, d.registerName, start, stop, false, Bits.rangeMask start stop, some t,
        d.docs⟩ := by
  rcases hb : d.bit.resolve word.bits with ⟨start, stop⟩
  simp only [resolveField, hb, hd, Bool.false_eq_true, if_false] at h
  obtain ⟨t, ht, h⟩ := bind_eq_ok.1 h
  obtain ⟨mask, hm, h⟩ := bind_eq_ok.1 h
  obtain ⟨hs, rfl⟩ := Bits.maskFor_eq_ok (mapError_eq_ok.1 hm)
  cases h
  obtain ⟨u, hu, rfl⟩ := map_eq_ok.1 (mapError_eq_ok.1 ht)
  obtain ⟨hlt, hw, hp, hwidth⟩ := rangeType_eq_ok hu
  have hstop : 0 ≤ stop := by omega
  refine ⟨start.toNat, stop.toNat, u, by omega, by omega, hp, ?_, ?_, ?_⟩
  · rw [Int.toNat_of_nonneg hs, Int.toNat_of_nonneg hstop, hwidth]
  · rw [Int.toNat_of_nonneg hs, Int.toNat_of_nonneg hstop]
  · rw [Int.toNat_of_nonneg hstop]

theorem resolveField_follows {word : Bits.IntType} {d : FieldDecl} {f : Field}
    (h : resolveField word d = .ok f) : f.Follows word d := by
  cases hd : d.bit.isSingle with
  | true =>
    obtain ⟨bit, -, hb, rfl⟩ := resolveField_single h hd
    exact ⟨rfl, rfl, rfl, rfl, hd.symm, hb⟩
  | false =>
    obtain ⟨start, stop, t, -, -, -, -, hb, rfl⟩ := resolveField_range h hd
    exact ⟨rfl, rfl, rfl, rfl, hd.symm, hb⟩

theorem resolveField_fits {word : Bits.IntType} {d : FieldDecl} {f : Field}
    (h : resolveField word d = .ok f) : f.Fits word := by
  have hmask : ∀ start stop i : Nat,
      (Bits.rangeMask start stop).testBit i = (decide (start ≤ i) && decide (i ≤ stop)) := by
    intro start stop i
    rw [Bits.testBit_rangeMask, Bool.decide_and]
    simp only [Int.ofNat_le]
  cases hd : d.bit.isSingle with
  | true =>
    obtain ⟨bit, hw, -, rfl⟩ := resolveField_single h hd
    exact ⟨Nat.le_refl _, hw, by simp, hmask _ _, by simp, by simp, fun _ => rfl⟩
  | false =>
    obtain ⟨start, stop, t, hlt, hw, hp, ht, -, rfl⟩ := resolveField_range h hd
    obtain ⟨hmem, hwidth, hleast⟩ := Bits.widthFor_eq_some ht
    refine ⟨hlt.le, hw, by simpa using hlt.ne, hmask _ _, by simp, ?_, by simp [hp]⟩
    rintro t ⟨⟩
    refine ⟨hmem, ?_, fun u hu h => hleast u hu ?_⟩
    · simp only [Field.width]
      omega
    · simp only [Field.width] at h
      omega

/-- What is known of fields that have been placed in order. -/
structure Settled (word : Bits.IntType) (placed : List Placed) : Prop where
  resolved : ∀ p ∈ placed, resolveField word p.decl = .ok p.field
  usable : ∀ p ∈ placed, Text.isIdentifier p.decl.name = true ∧ isReserved p.decl.name = false
  apart : placed.Pairwise fun p q => Text.upper p.decl.name ≠ Text.upper q.decl.name

theorem settled_nil (word : Bits.IntType) : Settled word [] :=
  ⟨by simp, by simp, .nil⟩

/-- One placement adds one field, which has been checked and resolved. -/
theorem place_eq_ok {word : Bits.IntType} {before after : List Placed} {d : FieldDecl}
    {ns ns' : List Notice} (h : (place word before d).run ns = (.ok after, ns')) :
    ∃ f, checkName (before.map (·.decl)) d = .ok () ∧ resolveField word d = .ok f ∧
      after = before ++ [⟨d, f⟩] := by
  obtain ⟨_, _, hc, h⟩ := Step.run_bind_eq_ok.1 h
  obtain ⟨f, _, hf, h⟩ := Step.run_bind_eq_ok.1 h
  obtain ⟨_, _, -, h⟩ := Step.run_bind_eq_ok.1 h
  obtain ⟨_, _, -, h⟩ := Step.run_bind_eq_ok.1 h
  cases h
  exact ⟨f, mapError_eq_ok.1 (Step.run_ofOutcome_eq_ok.1 hc).1, (Step.run_ofOutcome_eq_ok.1 hf).1,
    rfl⟩

theorem settled_place {word : Bits.IntType} {before after : List Placed} {d : FieldDecl}
    {ns ns' : List Notice} (hb : Settled word before)
    (h : (place word before d).run ns = (.ok after, ns')) : Settled word after := by
  obtain ⟨f, hc, hf, rfl⟩ := place_eq_ok h
  obtain ⟨hi, hr, hu⟩ := checkName_eq_ok hc
  refine ⟨?_, ?_, ?_⟩
  · simpa [or_imp, forall_and, hf] using hb.resolved
  · simpa [or_imp, forall_and, hi, hr] using hb.usable
  · refine List.pairwise_append.2 ⟨hb.apart, List.pairwise_singleton _ _, ?_⟩
    simpa using hu

/-- All fields of a description are placed in order. -/
theorem settled_foldlM {word : Bits.IntType} {decls : List FieldDecl} {before placed : List Placed}
    {ns ns' : List Notice} (hb : Settled word before)
    (h : (decls.foldlM (place word) before).run ns = (.ok placed, ns')) :
    Settled word placed ∧ placed.map (·.decl) = before.map (·.decl) ++ decls := by
  induction decls generalizing before ns with
  | nil =>
    cases h
    exact ⟨hb, by simp⟩
  | cons d decls ih =>
    rw [List.foldlM_cons] at h
    obtain ⟨after, _, hd, h⟩ := Step.run_bind_eq_ok.1 h
    obtain ⟨hp, he⟩ := ih (settled_place hb hd) h
    obtain ⟨f, -, -, rfl⟩ := place_eq_ok hd
    exact ⟨hp, by simpa using he⟩

end Analysis

end RegisterMap
