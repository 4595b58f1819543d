import Mathlib.Data.List.Forall2
import RegisterMap.Proofs.Analysis.Placement
import RegisterMap.Proofs.Sequences

/-!
# Gathering fields into registers

The registers of placed fields and the addresses of a device, one spec lemma for each step of the
analysis that makes them. Both lists come without repetitions, in the order of first occurrence.
-/

namespace RegisterMap

/-- A register that gathers those of `fields` that name it: they are listed in their order, they
decide the capability, and what is written back as read leaves out their self-clearing bits. -/
structure Register.Gathers (word : Bits.IntType) (fields : List Field) (r : Register) : Prop where
  fields_eq : r.fields = (fields.filter (·.register == r.name)).map (·.name)
  inhabited : ∃ f ∈ fields, f.register = r.name
  readOnly_iff : r.capability = .readOnly ↔
    ∀ f ∈ fields, f.register = r.name → f.policy = .readOnly
  writeOnly_iff : r.capability = .writeOnly ↔
    ∀ f ∈ fields, f.register = r.name → f.policy = .writeOnly
  preserve_lt : r.preserve < 2 ^ word.bits
  testBit_preserve : ∀ i < word.bits, r.preserve.testBit i = false ↔
    ∃ f ∈ fields, f.register = r.name ∧ f.policy.selfClearing = true ∧ f.covers i = true

theorem testBit_selfClearingMask_foldl (fields : List Field) (mask i : Nat) :
    (fields.foldl (fun mask f => if f.policy.selfClearing then mask ||| f.mask else mask)
      mask).testBit i =
      (mask.testBit i || fields.any fun f => f.policy.selfClearing && f.mask.testBit i) := by
  induction fields generalizing mask with
  | nil => simp
  | cons f fields ih =>
    rw [List.foldl_cons, ih]
    cases hf : f.policy.selfClearing <;> simp [hf, Bool.or_assoc]

theorem testBit_selfClearingMask (fields : List Field) (i : Nat) :
    (selfClearingMask fields).testBit i =
      fields.any fun f => f.policy.selfClearing && f.mask.testBit i := by
  rw [selfClearingMask, testBit_selfClearingMask_foldl, Nat.zero_testBit, Bool.false_or]

theorem testBit_preserveMask (word : Bits.IntType) (fields : List Field) (i : Nat) :
    (preserveMask word fields).testBit i =
      (decide (i < word.bits) && !(selfClearingMask fields).testBit i) := by
  rw [preserveMask, Nat.testBit_xor, Nat.testBit_and, Bits.IntType.mask, Nat.pow_eq,
    Nat.testBit_two_pow_sub_one]
  cases decide (i < word.bits) <;> cases (selfClearingMask fields).testBit i <;> rfl

theorem preserveMask_lt (word : Bits.IntType) (fields : List Field) :
    preserveMask word fields < 2 ^ word.bits := by
  apply Nat.lt_pow_two_of_testBit
  intro i hi
  rw [testBit_preserveMask, decide_eq_false (by omega), Bool.false_and]

theorem capabilityOf_eq_readOnly {fields : List Field} (hne : fields ≠ []) :
    capabilityOf fields = .readOnly ↔ ∀ f ∈ fields, f.policy = .readOnly := by
  have hw : (fields.any (·.policy.writable)) = false ↔ ∀ f ∈ fields, f.policy = .readOnly := by
    simp [Policy.writable]
  have hr : (∀ f ∈ fields, f.policy = .readOnly) → (fields.any (·.policy.readable)) = true := by
    intro h
    obtain ⟨f, hf⟩ := List.exists_mem_of_ne_nil fields hne
    exact List.any_eq_true.2 ⟨f, hf, by rw [h f hf]; rfl⟩
  rw [← hw] at hr ⊢
  rw [capabilityOf, Capability.ofAccess]
  cases hrv : fields.any (·.policy.readable) <;> cases hwv : fields.any (·.policy.writable) <;>
    simp_all

theorem capabilityOf_eq_writeOnly {fields : List Field} :
    capabilityOf fields = .writeOnly ↔ ∀ f ∈ fields, f.policy = .writeOnly := by
  have hr : (fields.any (·.policy.readable)) = false ↔ ∀ f ∈ fields, f.policy = .writeOnly := by
    simp [Policy.readable]
  rw [← hr, capabilityOf, Capability.ofAccess]
  cases fields.any (·.policy.readable) <;> cases fields.any (·.policy.writable) <;> simp

namespace Analysis

theorem fieldsOf_eq_filter (register : String) (placed : List Placed) :
    fieldsOf register placed = (placed.map (·.field)).filter (·.register == register) := by
  rw [fieldsOf, List.filter_map]
  rfl

theorem registerNames_eq_eraseDups (placed : List Placed) :
    registerNames placed = (placed.map (·.field.register)).eraseDups := by
  induction placed with
  | nil => rfl
  | cons p ps ih =>
    rw [registerNames, ih, filter_eraseDups, List.map_cons, List.eraseDups_cons]
    rfl

/-- What a register is checked for, and what it is made of. -/
theorem register_eq_ok {t : ConstantTable} {word : Bits.IntType} {placed : List Placed}
    {p : Placed} {r : Register} (h : register t word placed p = .ok r) :
    Text.isIdentifier p.field.register = true ∧ isReserved p.field.register = false ∧
      maskConstantOf p.field.register ∉ rangeMaskConstants placed ∧
      t.resolve p.decl.path = some r.offset ∧
      r = ⟨p.field.register, p.decl.path, r.offset, capabilityOf (fieldsOf p.field.register placed),
        preserveMask word (fieldsOf p.field.register placed),
        (fieldsOf p.field.register placed).map (·.name)⟩ := by
  unfold register at h
  simp only at h
  split at h
  · cases h
  · next hi =>
    split at h
    · cases h
    · next hr =>
      split at h
      · cases h
      · next hm =>
        split at h
        · cases h
        · next offset ho =>
          cases h
          exact ⟨by simpa using hi, by simpa using hr, by simpa using hm, ho, rfl⟩

theorem gathers_of_register {t : ConstantTable} {word : Bits.IntType} {placed : List Placed}
    {p : Placed} {r : Register} (hfits : ∀ q ∈ placed, q.field.Fits word) (hp : p ∈ placed)
    (h : register t word placed p = .ok r) : r.Gathers word (placed.map (·.field)) := by
  obtain ⟨-, -, -, -, hr⟩ := register_eq_ok h
  have hmem : ∀ f, f ∈ fieldsOf p.field.register placed ↔
      f ∈ placed.map (·.field) ∧ f.register = p.field.register := by
    simp [fieldsOf_eq_filter]
  have hpf : p.field ∈ fieldsOf p.field.register placed :=
    (hmem _).2 ⟨List.mem_map_of_mem hp, rfl⟩
  have hall : ∀ P : Field → Prop, (∀ f ∈ fieldsOf p.field.register placed, P f) ↔
      ∀ f ∈ placed.map (·.field), f.register = p.field.register → P f := by
    intro P
    simp only [hmem, and_imp]
  rw [hr]
  refine ⟨by rw [fieldsOf_eq_filter], ⟨p.field, List.mem_map_of_mem hp, rfl⟩, ?_, ?_,
    preserveMask_lt _ _, ?_⟩
  · rw [capabilityOf_eq_readOnly (List.ne_nil_of_mem hpf), hall]
  · rw [capabilityOf_eq_writeOnly, hall]
  · intro i hi
    have hcov : ∀ f ∈ placed.map (·.field), f.mask.testBit i = f.covers i := by
      intro f hf
      obtain ⟨q, hq, rfl⟩ := List.mem_map.1 hf
      exact (hfits q hq).testBit_mask i
    simp only [testBit_preserveMask, decide_eq_true hi, Bool.true_and, testBit_selfClearingMask,
      Bool.not_eq_false', List.any_eq_true, hmem, Bool.and_eq_true]
    constructor
    · rintro ⟨f, ⟨hf, hn⟩, hc, hb⟩
      exact ⟨f, hf, hn, hc, by rwa [hcov f hf] at hb⟩
    · rintro ⟨f, hf, hn, hc, hb⟩
      exact ⟨f, ⟨hf, hn⟩, hc, by rwa [hcov f hf]⟩

theorem find?_of_mem_firsts {placed : List Placed} {p : Placed} (h : p ∈ firsts placed) :
    placed.find? (·.field.register == p.field.register) = some p := by
  obtain ⟨name, -, hp⟩ := List.mem_filterMap.1 h
  have hn : p.field.register = name := by simpa using List.find?_some hp
  rwa [hn]

theorem map_register_firsts (placed : List Placed) :
    (firsts placed).map (·.field.register) = registerNames placed := by
  rw [firsts, List.map_filterMap, ← List.filterMap_some (l := registerNames placed),
    List.filterMap_filterMap]
  refine List.filterMap_congr fun name hname => ?_
  rw [registerNames_eq_eraseDups, List.mem_eraseDups, List.mem_map] at hname
  obtain ⟨q, hq, rfl⟩ := hname
  obtain ⟨p, hp⟩ : ∃ p, placed.find? (·.field.register == q.field.register) = some p := by
    rw [← Option.isSome_iff_exists, List.find?_isSome]
    exact ⟨q, hq, by simp⟩
  have hn : p.field.register = q.field.register := by simpa using List.find?_some hp
  simp [hp, hn]

/-- There is one register for each name that a field gives, made from the first such field. -/
theorem registers_eq_ok {t : ConstantTable} {word : Bits.IntType} {placed : List Placed}
    {rs : List Register} (h : registers t word placed = .ok rs) :
    rs.map (·.name) = (placed.map (·.field.register)).eraseDups ∧
      ∀ r ∈ rs, ∃ p, placed.find? (·.field.register == r.name) = some p ∧
        register t word placed p = .ok r := by
  have hall := mapM_eq_ok.1 h
  have hname : ∀ p r, register t word placed p = .ok r → p.field.register = r.name := by
    intro p r hr
    rw [(register_eq_ok hr).2.2.2.2]
  constructor
  · rw [← registerNames_eq_eraseDups, ← map_register_firsts, ← List.forall₂_eq_eq_eq,
      List.forall₂_map_left_iff, List.forall₂_map_right_iff]
    exact hall.flip.imp fun r p hr => (hname p r hr).symm
  · intro r hr
    obtain ⟨p, hp, hpr⟩ := exists_of_forall₂ hall hr
    exact ⟨p, hname p r hpr ▸ find?_of_mem_firsts hp, hpr⟩

/-- The addresses, without repetitions, follow those already known. -/
theorem ports_eq_ok {t : ConstantTable} {known out : List Int} {ps : List Port}
    {ns ns' : List Notice} (hk : known.eraseDups = known)
    (h : (ports t known ps).run ns = (.ok out, ns')) :
    ∃ values, List.Forall₂ (fun p v => portValue t p = .ok v) ps values ∧
      out = (known ++ values).eraseDups := by
  induction ps generalizing known ns with
  | nil =>
    cases h
    exact ⟨[], .nil, by simp [hk]⟩
  | cons p ps ih =>
    obtain ⟨value, _, hv, h⟩ := Step.run_bind_eq_ok.1 h
    have hp : portValue t p = .ok value := mapError_eq_ok.1 (Step.run_ofOutcome_eq_ok.1 hv).1
    split at h
    · next hc =>
      obtain ⟨_, _, -, h⟩ := Step.run_bind_eq_ok.1 h
      obtain ⟨values, hvs, rfl⟩ := ih hk h
      refine ⟨value :: values, .cons hp hvs, ?_⟩
      rw [List.eraseDups_append, List.eraseDups_append, List.cons_removeAll,
        if_neg (by simpa using hc)]
    · next hc =>
      have hn : (known ++ [value]).eraseDups = known ++ [value] := by
        rw [List.eraseDups_append, hk, List.cons_removeAll, if_pos (by simpa using hc)]
        rfl
      obtain ⟨values, hvs, rfl⟩ := ih hn h
      exact ⟨value :: values, .cons hp hvs, by simp⟩

end Analysis

end RegisterMap
