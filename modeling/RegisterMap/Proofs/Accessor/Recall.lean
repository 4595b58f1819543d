import Mathlib.Data.List.Induction
import RegisterMap.Proofs.Accessor.Exact
import RegisterMap.Proofs.Accessor.History
import RegisterMap.Proofs.Memory.Buffers

/-!
# Devices that remember

A device on a buffer, checks being on. It remembers its history when each getter answers what the
history tells of its field. It does when it is steady: getters find their registers, and no setter
of one field has a way to spoil another. This is seen step by step and then for whole histories.
-/

namespace RegisterMap

variable [Machine]

open Memory

/-- No two fields of a register share a bit, and no two registers share a byte. -/
structure Model.Separate (m : Model) : Prop where
  fields : ∀ f ∈ m.fields, ∀ g ∈ m.fields, f ≠ g → f.register = g.register →
    f.overlaps g = false
  registers : ∀ r ∈ m.registers, ∀ s ∈ m.registers, r ≠ s →
    r.offset + m.word.size ≤ s.offset ∨ s.offset + m.word.size ≤ r.offset

omit [Machine] in
theorem Model.canRead_of_mem {m : Model} {f : Field} (hf : f ∈ m.fields)
    (hread : f.policy.readable = true) : m.canRead f.register = true :=
  List.any_eq_true.2 ⟨f, hf, by simp [hread]⟩

namespace Device

/-- One call of an accessor on the memory with a number, with checks on. -/
def use (d : Device) (ref : Ref) (u : Use) : Step Space Failure Answer :=
  d.call true (Space.store ref) u.name u.arguments

/-- Calls one after another, all of which have to succeed. -/
def useAll (d : Device) (ref : Ref) : List Use → Step Space Failure Unit
  | [] => pure ()
  | u :: us => do
    let _ ← d.use ref u
    d.useAll ref us

/-- Whether a buffer covers the registers of a device. -/
def Covered (m : Model) (d : Device) (b : Buffer) : Prop :=
  ∀ r ∈ m.registers, b.admits (d.base + r.offset) m.word.size = true

/-- After any history of accessors that succeed on a buffer, each getter answers what its field
remembers. -/
def Remembers (m : Model) (d : Device) : Prop :=
  ∀ (ref : Ref) (s : Space) (b : Buffer), s.buffer? ref = some b → d.Covered m b →
    ∀ us : List Use, (∀ u ∈ us, u.IsOf m) → ∀ t, (d.useAll ref us).run s = (.ok (), t) →
      ∀ r ∈ m.registers, ∀ f ∈ m.fields, r.name = f.register → f.policy.readable = true →
        (d.use ref (.get f)).run t =
          (.ok (f.remembered us (b.cells.load (d.base + r.offset) m.word.size)), t)

/-- A setter that finds what it calls. -/
def CanSet (m : Model) (d : Device) (g : Field) (h : Handle) : Prop :=
  d.kind.hides (AccessorCode.setter (AccessorCode.capabilityFor m g) g).action.primitive.name =
      false ∧
    d.ownHandle g.register = .ok h ∧ h.capability.writable = true

/-- The getters of a device find their registers. -/
structure Shows (m : Model) (d : Device) : Prop where
  lookup : (∃ f ∈ m.fields, f.policy.readable = true) → d.kind.claims "__getattribute__" = false
  visible : ∀ f ∈ m.fields, f.policy.readable = true → d.kind.hidesWord = false ∧
    d.kind.hides (AccessorCode.getter f).action.primitive.name = false
  handles : ∀ r ∈ m.registers, m.canRead r.name = true → ∃ h, d.ownHandle r.name = .ok h ∧
    h.address = d.base + r.offset ∧ h.capability.readable = true

/-- The getters of a device find their registers, and no setter spoils what they answer. -/
structure Steady (m : Model) (d : Device) : Prop extends d.Shows m where
  /-- A setter that reads nothing does not reach a register of which something can be read. -/
  aside : ∀ g ∈ m.fields, g.policy.writable = true → m.canRead g.register = false →
    ∀ h, d.CanSet m g h → ∀ r ∈ m.registers, m.canRead r.name = true →
      h.address ≠ d.base + r.offset
  /-- A setter that reads its register keeps the bits of the other fields that can be read, but for
  those with an effect of their own. -/
  keeps : ∀ g ∈ m.fields, g.policy.writable = true → m.canRead g.register = true →
    ∀ h, d.CanSet m g h → ∀ keep : Nat, d.preserved g.register = .ok keep →
      ∀ f ∈ m.fields, f ≠ g → f.register = g.register → f.policy.readable = true →
        ∀ i, f.covers i = true → keep.testBit i = !f.policy.selfClearing

theorem run_useAll_append_singleton {d : Device} {ref : Ref} {us : List Use} {u : Use}
    {s t : Space} (h : (d.useAll ref (us ++ [u])).run s = (.ok (), t)) :
    ∃ s' a, (d.useAll ref us).run s = (.ok (), s') ∧ (d.use ref u).run s' = (.ok a, t) := by
  induction us generalizing s with
  | nil =>
    obtain ⟨a, _, hu, h⟩ := Step.run_bind_eq_ok.1 h
    cases h
    exact ⟨s, a, rfl, hu⟩
  | cons v us ih =>
    obtain ⟨b, _, hv, h⟩ := Step.run_bind_eq_ok.1 h
    obtain ⟨s', a, hus, hu⟩ := ih h
    exact ⟨s', a, Step.run_bind_eq_ok.2 ⟨b, _, hv, hus⟩, hu⟩

/-- A setter that succeeds with checks on was called with arguments it accepts. -/
theorem accepted_of_setter {σ : Type} {store : Store σ} {d : Device} {word : Bits.IntType}
    {c : Capability} {f : Field} (hf : f.Fits word) {args : List Argument} {a : Answer} {s t : σ}
    (h : (d.callMember true store (.method (AccessorCode.setter c f)) args).run s = (.ok a, t)) :
    ∃ v, f.accepted? true args = some v := by
  obtain ⟨_, _, hm, hcall⟩ := Step.run_bind_eq_ok.1 h
  cases (Step.run_ofOutcome_eq_ok.1 hm).1
  obtain ⟨x, _, hx, hrun⟩ := Step.run_bind_eq_ok.1 hcall
  have harg := (Step.run_ofOutcome_eq_ok.1 hx).1
  clear h hm hcall hx
  simp only [AccessorCode.setter] at hrun harg
  by_cases hc : f.policy.selfClearing = true
  · simp only [AccessorCode.setterAction, hc, if_true] at harg
    rcases args with _ | ⟨b, _ | ⟨_, _⟩⟩
    · exact ⟨1, by simp [Field.accepted?, hc]⟩
    · cases harg
    · cases harg
  replace hc : f.policy.selfClearing = false := by simpa using hc
  by_cases hs : f.single = true
  · simp only [AccessorCode.setterAction, hc, hs, Bool.false_eq_true, if_false, if_true] at harg
    rcases args with _ | ⟨b, _ | ⟨_, _⟩⟩
    · cases harg
    · exact ⟨b.isTrue.toNat, by simp [Field.accepted?, hc, hs]⟩
    · cases harg
  replace hs : f.single = false := by simpa using hs
  simp only [AccessorCode.setterAction, hc, hs, Bool.false_eq_true, if_false] at harg hrun
  rcases args with _ | ⟨b, _ | ⟨_, _⟩⟩
  · cases harg
  · cases harg
    obtain ⟨n, _, hn, hrun⟩ := Step.run_bind_eq_ok.1 hrun
    obtain ⟨_, _, -, hrun⟩ := Step.run_bind_eq_ok.1 hrun
    -- the primitive itself refuses what does not fit, whatever the check in front of it does
    obtain ⟨_, _, -, hrun⟩ := Step.run_bind_eq_ok.1 hrun
    obtain ⟨_, _, -, hrun⟩ := Step.run_bind_eq_ok.1 hrun
    obtain ⟨_, _, -, hrun⟩ := Step.run_bind_eq_ok.1 hrun
    obtain ⟨_, _, hset, -⟩ := Step.run_bind_eq_ok.1 hrun
    have hset := mapError_eq_ok.1 (Step.run_ofOutcome_eq_ok.1 hset).1
    obtain ⟨_, -, hset⟩ := bind_eq_ok.1 hset
    obtain ⟨_, hfits, -⟩ := bind_eq_ok.1 hset
    have hn := (Step.run_ofOutcome_eq_ok.1 hn).1
    refine ⟨(n % (2 ^ f.width : Nat)).toNat, ?_⟩
    simp [Field.accepted?, hc, hs, hn, Field.admits_of_checkFits hf hfits]
  · cases harg

/-- What a setter stores, by the bits that it keeps of its register and the word there. -/
def stores (m : Model) (g : Field) (v keep raw : Nat) : Nat :=
  if m.canRead g.register then g.merged m.word v keep raw else g.merged m.word v 0 0

section Runs

variable {decl : Description} {o : Options} {external : External} {m : Model} {d : Device}
  (hd : d.Made decl o external m)
include hd

/-- With checks on the check of a setter lets pass what its field has room for, whatever takes the
place of the check. -/
theorem Made.checkFits_true {f : Field} {n : Int} (hn : f.admits true n = true) :
    d.checkFits true f.name f.width f.greatest n = .ok () := by
  have hfits : decide (0 ≤ n ∧ n ≤ f.greatest) = true := by
    simpa [Field.admits] using hn
  unfold checkFits
  by_cases hg : d.kind.hides AccessorCode.guardName = true
  · have hbase : ∀ r ∈ m.registers, 1 + r.offset ≠ 0 := by
      intro r hr
      have := hd.offset_nonneg hr
      omega
    obtain ⟨e, he⟩ := hd.exists_construct hg true hbase
    simp only [hg, hfits, if_true]
    rw [he]
    rfl
  · simp [hg, hfits]

theorem Made.bits_eq : m.word.bits = 8 * m.word.size := by
  obtain ⟨t, hm⟩ := hd.wellFormed
  obtain ⟨w, hmem, hw⟩ := hm.word_mem
  have hall : ∀ w ∈ wordSizes, w = 8 * (w / 8) := by decide
  rw [hw]
  exact hall w hmem

theorem Made.stores_lt (g : Field) (v keep raw : Nat) :
    stores m g v keep raw < 2 ^ (8 * m.word.size) := by
  rw [← hd.bits_eq]
  unfold stores
  by_cases hc : m.canRead g.register = true
  · rw [if_pos hc]
    exact g.merged_lt m.word v keep raw
  · rw [if_neg hc]
    exact g.merged_lt m.word v 0 0

theorem Made.exists_address_eq {r : Register} (hr : r ∈ m.registers) {h : Handle}
    (hh : d.ownHandle r.name = .ok h) : ∃ s ∈ m.registers, h.address = d.base + s.offset := by
  obtain ⟨s, hs, -, hs'⟩ := hd.exists_ownHandle hr
  cases hs'.symm.trans hh
  exact ⟨s, hs, rfl⟩

variable (hp : decl.isPlain = true) (hl : d.kind.claims "__getattribute__" = false)
  (hshow : d.Shows m) {ref : Ref} {s : Space} {b : Buffer} (hb : s.buffer? ref = some b)
  (hcov : d.Covered m b)
include hp hl hshow hb hcov

/-- A getter answers with the bits of its field and leaves everything as it is. -/
theorem Made.run_get {f : Field} (hf : f ∈ m.fields) (hread : f.policy.readable = true)
    {r : Register} (hr : r ∈ m.registers) (hrf : r.name = f.register) :
    (d.use ref (.get f)).run s =
      (.ok (f.answer (b.cells.load (d.base + r.offset) m.word.size)), s) := by
  obtain ⟨h, hh, haddr, hcan⟩ := hshow.handles r hr (hrf ▸ Model.canRead_of_mem hf hread)
  obtain ⟨hword, hprim⟩ := hshow.visible f hf hread
  unfold use Use.name Use.arguments
  dsimp only
  rw [hd.getter_eq hp hl hword hf (hrf ▸ hh) (Space.store ref) hread hprim hcan true, haddr,
    Field.getting, Step.run_bind_of_ok (Space.run_load hb (hcov r hr))]
  rfl

/-- A setter that finds what it calls stores its value. -/
theorem Made.run_set (hword : d.kind.hidesWord = false) {g : Field} (hg : g ∈ m.fields)
    (hwrite : g.policy.writable = true) {h : Handle} (hset : d.CanSet m g h)
    {args : List Argument} {v : Nat} (ha : g.accepted? true args = some v) {keep : Nat}
    (hk : d.preserved g.register = .ok keep) : (d.use ref (.set g args)).run s =
      (.ok .nothing, s.put ref (.buffer (b.stored h.address m.word.size
        (stores m g v keep (b.cells.load h.address m.word.size))))) := by
  obtain ⟨t, hm⟩ := hd.wellFormed
  obtain ⟨r, hr, hrg, -⟩ := hm.home g hg
  obtain ⟨hprim, hh, hcan⟩ := hset
  replace hprim : d.kind.hides (AccessorCode.setterAction (AccessorCode.seedOf r.capability)
      g).primitive.name = false := hm.capabilityFor_eq hr hrg ▸ hprim
  obtain ⟨q, hq, haddr⟩ := hd.exists_address_eq hr (hrg ▸ hh)
  have hadmits : b.admits h.address m.word.size = true := haddr ▸ hcov q hq
  have hguard : ∀ n, g.single = false → g.admits true n = true →
      d.checkFits true g.name g.width g.greatest n = .ok () := fun n _ hn => hd.checkFits_true hn
  have hlt : ∀ keep raw, g.merged m.word v keep raw < 2 ^ (8 * m.word.size) := fun keep raw =>
    hd.bits_eq ▸ g.merged_lt m.word v keep raw
  unfold use Use.name Use.arguments stores
  dsimp only
  by_cases hc : r.capability.readable = true
  · have hcanRead : m.canRead g.register = true := by
      rw [← hrg, ← hm.readable_eq_canRead hr, hc]
    obtain ⟨h', hh', -, hread⟩ := hshow.handles r hr (hrg ▸ hcanRead)
    cases (hrg ▸ hh').symm.trans hh
    rw [hd.setter_eq_of_readable hp hl hword hg hh (Space.store ref) hwrite hr hrg hprim hcan
      hguard ha hc hread hk, Step.run_bind_of_ok (Space.run_load hb hadmits),
      Step.run_bind_of_ok (Space.run_save hb hadmits _), Nat.mod_eq_of_lt (hlt _ _),
      if_pos hcanRead]
    rfl
  · have hcannot : ¬m.canRead g.register = true := by
      rw [← hrg, ← hm.readable_eq_canRead hr]
      exact hc
    rw [hd.setter_eq_of_not_readable hp hl hword hg hh (Space.store ref) hwrite hr hrg hprim hcan
      hguard ha (by simpa using hc), Step.run_bind_of_ok (Space.run_save hb hadmits _),
      Nat.mod_eq_of_lt (hlt _ _), if_neg hcannot]
    rfl

/-- What a setter has found and stored that succeeded. -/
theorem Made.exists_run_set {g : Field} (hg : g ∈ m.fields) (hwrite : g.policy.writable = true)
    {args : List Argument} {a : Answer} {t : Space}
    (hrun : (d.use ref (.set g args)).run s = (.ok a, t)) :
    ∃ v h keep, g.accepted? true args = some v ∧ d.CanSet m g h ∧
      d.preserved g.register = .ok (keep : Nat) ∧
      t = s.put ref (.buffer (b.stored h.address m.word.size
        (stores m g v keep (b.cells.load h.address m.word.size)))) := by
  obtain ⟨t', hm⟩ := hd.wellFormed
  obtain ⟨r, hr, hrg, -⟩ := hm.home g hg
  have hcall := hd.call_eq hp hl hg (AccessorCode.setter_mem_methodsOf m hwrite) true
    (Space.store ref) args
  have hmember : (d.callMember true (Space.store ref) (.method
      (AccessorCode.setter (AccessorCode.capabilityFor m g) g)) args).run s = (.ok a, t) :=
    hcall ▸ hrun
  obtain ⟨v, ha⟩ := accepted_of_setter (hm.fits g hg) hmember
  obtain ⟨hprim, hword, h, hh, hcan⟩ := found_of_setter hmember
  obtain ⟨q, -, -, hk⟩ := hd.exists_preserved hr
  rw [hrg] at hk
  have hstored := hd.run_set hp hl hshow hb hcov hword hg hwrite ⟨hprim, hh, hcan⟩ ha hk
  cases hstored.symm.trans hrun
  exact ⟨v, h, _, ha, ⟨hprim, hh, hcan⟩, hk, rfl⟩

end Runs

/-- A buffer from which getters answer what their fields remember of a history that began on
another. -/
structure Recalls (m : Model) (d : Device) (us : List Use) (first last : Buffer) : Prop where
  covered : d.Covered m last
  answers : ∀ r ∈ m.registers, ∀ f ∈ m.fields, r.name = f.register → f.policy.readable = true →
    f.answer (last.cells.load (d.base + r.offset) m.word.size) =
      f.remembered us (first.cells.load (d.base + r.offset) m.word.size)

section Steps

variable {decl : Description} {o : Options} {external : External} {m : Model} {d : Device}
  (hd : d.Made decl o external m) (hsep : m.Separate) (hst : d.Steady m)
include hd

theorem Made.recalls_nil {b : Buffer} (hb : d.Covered m b) : d.Recalls m [] b b := by
  obtain ⟨t, hm⟩ := hd.wellFormed
  refine ⟨hb, ?_⟩
  intro r hr f hf hrf hread
  rw [Field.remembered_nil hread (hm.fits f hf).single_of_selfClearing]

include hsep in
theorem Made.covers_eq_false {f g : Field} (hf : f ∈ m.fields) (hg : g ∈ m.fields) (hne : f ≠ g)
    (hreg : f.register = g.register) {i : Nat} (hi : f.covers i = true) : g.covers i = false := by
  obtain ⟨t, hm⟩ := hd.wellFormed
  have hmasks : f.mask &&& g.mask = 0 := by
    simpa [Field.overlaps] using hsep.fields f hf g hg hne hreg
  have hbit := congrArg (Nat.testBit · i) hmasks
  simpa [(hm.fits f hf).testBit_mask, (hm.fits g hg).testBit_mask, hi] using hbit

include hsep

/-- What a setter stores on the register of a field leaves the field with what it remembers. -/
theorem Made.answer_set {us : List Use} {g f : Field} (hg : g ∈ m.fields)
    (hwrite : g.policy.writable = true) (hf : f ∈ m.fields) (hread : f.policy.readable = true)
    (hreg : g.register = f.register) {args : List Argument} {v keep raw initial : Nat}
    (ha : g.accepted? true args = some v)
    (hkeep : ∀ f ∈ m.fields, f ≠ g → f.register = g.register → f.policy.readable = true →
      ∀ i, f.covers i = true → keep.testBit i = !f.policy.selfClearing)
    (hraw : f.answer raw = f.remembered us initial) :
    f.answer (g.merged m.word v keep raw) = f.remembered (us ++ [.set g args]) initial := by
  obtain ⟨t, hm⟩ := hd.wellFormed
  have hfits := hm.fits f hf
  have hbit : ∀ i, f.covers i = true → (g.merged m.word v keep raw).testBit i =
      if g.covers i then v.testBit (i - g.start) else keep.testBit i && raw.testBit i :=
    fun i hi => Field.testBit_merged m.word g v keep raw (hfits.lt_of_covers hi)
  by_cases hgf : g = f
  · subst hgf
    have hown : ∀ i, g.covers i = true →
        (g.merged m.word v keep raw).testBit i = v.testBit (i - g.start) := by
      intro i hi
      rw [hbit i hi, if_pos hi]
    by_cases hs : g.policy.selfClearing = true
    · have hv : v = 1 := by
        rcases Field.accepted?_eq_some ha with ⟨-, -, hv⟩ | ⟨hc, -⟩ | ⟨hc, -⟩
        · exact hv
        · rw [hs] at hc
          cases hc
        · rw [hs] at hc
          cases hc
      rw [Field.remembered_set_of_selfClearing rfl hs, Field.answer,
        if_pos (hfits.single_of_selfClearing hs), hown _ hfits.covers_start, hv]
      simp
    · replace hs : g.policy.selfClearing = false := by simpa using hs
      obtain ⟨hv, htold⟩ := Field.told_eq hfits ha hs
      rw [Field.remembered_set_self hread hwrite hs, htold, Field.answer_of_value hfits hv hown]
  · have hapart : ∀ i, f.covers i = true → g.covers i = false := fun i hi =>
      hd.covers_eq_false hsep hf hg (Ne.symm hgf) hreg.symm hi
    have hkept : ∀ i, f.covers i = true →
        (g.merged m.word v keep raw).testBit i = (!f.policy.selfClearing && raw.testBit i) := by
      intro i hi
      rw [hbit i hi, hapart i hi, hkeep f hf (Ne.symm hgf) hreg.symm hread i hi]
      rfl
    by_cases hs : f.policy.selfClearing = true
    · rw [Field.remembered_set_of_selfClearing hreg hs, Field.answer,
        if_pos (hfits.single_of_selfClearing hs), hkept _ hfits.covers_start, hs]
      simp [hgf]
    · replace hs : f.policy.selfClearing = false := by simpa using hs
      rw [Field.remembered_set_of_not_selfClearing hgf hs, ← hraw]
      apply (Field.answer_eq_iff hfits).2
      intro i hi
      rw [hkept i hi, hs, Bool.not_false, Bool.true_and]

include hst

theorem Made.exists_other {g f : Field} (hg : g ∈ m.fields) (hwrite : g.policy.writable = true)
    (hf : f ∈ m.fields) (hread : f.policy.readable = true) (hne : g.register ≠ f.register)
    {r : Register} (hr : r ∈ m.registers) (hrf : r.name = f.register) {h : Handle}
    (hset : d.CanSet m g h) : h.address + m.word.size ≤ d.base + r.offset ∨
      d.base + r.offset + m.word.size ≤ h.address := by
  obtain ⟨t, hm⟩ := hd.wellFormed
  obtain ⟨q, hq, hqg, -⟩ := hm.home g hg
  obtain ⟨s, hs, hne', haddr⟩ : ∃ s ∈ m.registers, s ≠ r ∧ h.address = d.base + s.offset := by
    by_cases hc : m.canRead g.register = true
    · obtain ⟨h', hh', haddr, -⟩ := hst.handles q hq (hqg ▸ hc)
      cases (hqg ▸ hh').symm.trans hset.2.1
      refine ⟨q, hq, ?_, haddr⟩
      rintro rfl
      exact hne (hqg.symm.trans hrf)
    · obtain ⟨s, hs, haddr⟩ := hd.exists_address_eq hq (hqg ▸ hset.2.1)
      have hcan := hrf ▸ Model.canRead_of_mem hf hread
      refine ⟨s, hs, ?_, haddr⟩
      rintro rfl
      exact hst.aside g hg hwrite (by simpa using hc) h hset s hr hcan haddr
  have := hsep.registers s hs r hr hne'
  omega

theorem Made.recalls_set {us : List Use} {b c : Buffer} (hc : d.Recalls m us b c) {g : Field}
    (hg : g ∈ m.fields) (hwrite : g.policy.writable = true) {args : List Argument} {v keep : Nat}
    {h : Handle} (ha : g.accepted? true args = some v) (hset : d.CanSet m g h)
    (hk : d.preserved g.register = .ok keep) :
    d.Recalls m (us ++ [.set g args]) b (c.stored h.address m.word.size
      (stores m g v keep (c.cells.load h.address m.word.size))) := by
  refine ⟨hc.covered, ?_⟩
  intro r hr f hf hrf hread
  have hanswer := hc.answers r hr f hf hrf hread
  have hcan := Model.canRead_of_mem hf hread
  unfold Buffer.stored
  by_cases hreg : g.register = f.register
  · have hcanSet : m.canRead g.register = true := hreg ▸ hcan
    obtain ⟨h', hh', haddr, -⟩ := hst.handles r hr (hrf ▸ hcan)
    cases (hrf ▸ hh').symm.trans (hreg ▸ hset.2.1)
    have hkeep := hst.keeps g hg hwrite hcanSet h hset keep hk
    rw [← haddr] at hanswer ⊢
    dsimp only
    rw [Cells.load_store, Nat.mod_eq_of_lt (hd.stores_lt g v keep _)]
    unfold stores
    rw [if_pos hcanSet]
    exact hd.answer_set hsep hg hwrite hf hread hreg ha hkeep hanswer
  · have hapart := hd.exists_other hsep hst hg hwrite hf hread hreg hr hrf hset
    dsimp only
    rw [Cells.load_store_of_apart _ (by omega), hanswer,
      Field.remembered_set_of_ne hreg us args]

variable (hp : decl.isPlain = true)
include hp

/-- What any use keeps that succeeds. -/
theorem Made.recalls_use (hl : d.kind.claims "__getattribute__" = false) {us : List Use}
    {b c : Buffer} (hc : d.Recalls m us b c) {u : Use} (hu : u.IsOf m) {ref : Ref} {s t : Space}
    (hs : s.buffer? ref = some c) {a : Answer} (hrun : (d.use ref u).run s = (.ok a, t)) :
    ∃ c', t.buffer? ref = some c' ∧ d.Recalls m (us ++ [u]) b c' := by
  cases u with
  | get f =>
    obtain ⟨hf, hread⟩ := hu
    obtain ⟨t', hm⟩ := hd.wellFormed
    obtain ⟨r, hr, hrf, -⟩ := hm.home f hf
    have hsame := hd.run_get hp hl hst.toShows hs hc.covered hf hread hr hrf
    cases hsame.symm.trans hrun
    refine ⟨c, hs, hc.covered, ?_⟩
    intro r hr g hg hrg hread
    rw [hc.answers r hr g hg hrg hread, Field.remembered_get]
  | set g args =>
    obtain ⟨hg, hwrite⟩ := hu
    obtain ⟨v, h, keep, ha, hset, hk, rfl⟩ :=
      hd.exists_run_set hp hl hst.toShows hs hc.covered hg hwrite hrun
    exact ⟨_, Space.buffer?_put hs _, hd.recalls_set hsep hst hc hg hwrite ha hset hk⟩

/-- What a whole history keeps, by induction on the uses that it consists of. -/
theorem Made.recalls_useAll (hl : d.kind.claims "__getattribute__" = false) {b : Buffer}
    (hb : d.Covered m b) {ref : Ref} {s : Space} (hs : s.buffer? ref = some b) {us : List Use}
    (hus : ∀ u ∈ us, u.IsOf m) {t : Space} (hrun : (d.useAll ref us).run s = (.ok (), t)) :
    ∃ c, t.buffer? ref = some c ∧ d.Recalls m us b c := by
  induction us using List.reverseRecOn generalizing t with
  | nil =>
    cases hrun
    exact ⟨b, hs, hd.recalls_nil hb⟩
  | append_singleton us u ih =>
    obtain ⟨s', a, hbefore, hu⟩ := run_useAll_append_singleton hrun
    obtain ⟨c, hc, hrecalls⟩ := ih (fun v hv => hus v (List.mem_append_left _ hv)) hbefore
    exact hd.recalls_use hsep hst hp hl hrecalls (hus u (by simp)) hc hu

/-- A steady device remembers its history. -/
theorem Made.remembers_of_steady : d.Remembers m := by
  intro ref s b hs hb us hus t hrun r hr f hf hrf hread
  have hl := hst.lookup ⟨f, hf, hread⟩
  obtain ⟨c, hc, hrecalls⟩ := hd.recalls_useAll hsep hst hp hl hb hs hus hrun
  rw [hd.run_get hp hl hst.toShows hc hrecalls.covered hf hread hr hrf,
    hrecalls.answers r hr f hf hrf hread]

end Steps

end Device

end RegisterMap
