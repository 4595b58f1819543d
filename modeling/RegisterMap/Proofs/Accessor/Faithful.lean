import RegisterMap.Proofs.Accessor.Made
import RegisterMap.Proofs.Accessor.Programs

/-!
# Faithful devices

A device is faithful to a model when each accessor does what the model says of its field. It is
when nothing is in its way: each register finds a handle of its own place and each setter the bits
its register preserves, and the class hides nothing that the accessors call.
-/

namespace RegisterMap

section Specification

variable [Machine]

namespace Model

/-- Whether some field of a register can be read. -/
def canRead (m : Model) (register : String) : Bool :=
  m.fields.any fun g => g.register == register && g.policy.readable

/-- Whether writing a one to a bit of a register has an effect of its own. -/
def selfClears (m : Model) (register : String) (i : Nat) : Bool :=
  m.fields.any fun g => g.register == register && g.policy.selfClearing && g.covers i

/-- The word that a setter writes after it read `raw`: the value in its field, zeros at the other
bits with an effect of their own, and everything else as it was read. -/
def updated (m : Model) (f : Field) (value raw : Nat) : Nat :=
  Nat.ofBits fun i : Fin m.word.bits =>
    if f.covers i then value.testBit (i - f.start)
    else if m.selfClears f.register i then false
    else raw.testBit i

/-- What a setter does that puts a value into its field: one read and one write of a register of
which something can be read, and one write of any other. -/
def setting {σ : Type} (m : Model) (store : Store σ) (f : Field) (address : Int) (value : Nat) :
    Step σ Failure Answer :=
  if m.canRead f.register then do
    let raw ← store.load address m.word
    store.save address m.word (m.updated f value raw)
    pure .nothing
  else do
    store.save address m.word (m.updated f value 0)
    pure .nothing

end Model

/-- What a getter does: one read. -/
def Field.getting {σ : Type} (f : Field) (store : Store σ) (address : Int) (word : Bits.IntType) :
    Step σ Failure Answer := do
  let raw ← store.load address word
  pure (f.answer raw)

namespace Device

/-- The accessors of a field do on every memory what the model says of the field. -/
structure Serves (m : Model) (d : Device) (f : Field) : Prop where
  getter : f.policy.readable = true → ∀ r ∈ m.registers, r.name = f.register →
    ∀ (σ : Type) (checks : Bool) (store : Store σ),
      d.call checks store f.getterName [] = f.getting store (d.base + r.offset) m.word
  setter : f.policy.writable = true → ∀ r ∈ m.registers, r.name = f.register →
    ∀ (σ : Type) (checks : Bool) (store : Store σ) (args : List Argument) (v : Nat),
      f.accepted? checks args = some v →
      d.call checks store f.setterName args = m.setting store f (d.base + r.offset) v

/-- All accessors do what the model says. -/
def Faithful (m : Model) (d : Device) : Prop :=
  ∀ f ∈ m.fields, d.Serves m f

/-- Nothing is in the way of a device. -/
structure Clear (m : Model) (d : Device) : Prop where
  lookup : d.kind.claims "__getattribute__" = false
  word : d.kind.hidesWord = false
  primitives : ∀ p ∈ d.kind.code.primitives, d.kind.hides p.name = false
  /-- A class in the place of the function that checks values makes a device at address zero
  instead, for which no register may lie at offset zero. -/
  guard : d.kind.hides AccessorCode.guardName = true →
    (∃ f ∈ m.fields, f.policy.writable = true ∧ f.single = false) →
    ∀ r ∈ m.registers, r.offset ≠ 0
  handles : ∀ r ∈ m.registers, ∃ h, d.ownHandle r.name = .ok h ∧ h.address = d.base + r.offset ∧
    (r.capability.readable = true → h.capability.readable = true) ∧
    (r.capability.writable = true → h.capability.writable = true)
  masks : ∀ f ∈ m.fields, f.policy.writable = true → ∀ r ∈ m.registers, r.name = f.register →
    r.capability.readable = true → ∃ keep : Nat, d.preserved r.name = .ok keep ∧
      ∀ i < m.word.bits, f.covers i = false → keep.testBit i = r.preserve.testBit i

end Device

end Specification

namespace Model.WellFormed

variable {t : ConstantTable} {decl : Description} {m : Model} (hm : m.WellFormed t decl)
include hm

theorem register?_eq {r : Register} (hr : r ∈ m.registers) : m.register? r.name = some r := by
  obtain ⟨s, hs⟩ : ∃ s, m.register? r.name = some s := by
    rw [← Option.isSome_iff_exists, Model.register?, List.find?_isSome]
    exact ⟨r, hr, by simp⟩
  have hname : s.name = r.name := by simpa using List.find?_some hs
  rw [hs, List.inj_on_of_nodup_map hm.registerNames_nodup (List.mem_of_find?_eq_some hs) hr hname]

theorem capabilityFor_eq {r : Register} (hr : r ∈ m.registers) {f : Field}
    (hf : r.name = f.register) : AccessorCode.capabilityFor m f = r.capability := by
  rw [AccessorCode.capabilityFor, ← hf, hm.register?_eq hr]

theorem readable_iff {r : Register} (hr : r ∈ m.registers) :
    r.capability.readable = true ↔
      ∃ f ∈ m.fields, f.register = r.name ∧ f.policy.readable = true := by
  have hw := (hm.gathers r hr).writeOnly_iff
  have hc : r.capability.readable = true ↔ r.capability ≠ .writeOnly := by
    cases r.capability <;> simp [Capability.readable]
  rw [hc, Ne, hw]
  simp [Policy.readable]

theorem writable_iff {r : Register} (hr : r ∈ m.registers) :
    r.capability.writable = true ↔
      ∃ f ∈ m.fields, f.register = r.name ∧ f.policy.writable = true := by
  have hw := (hm.gathers r hr).readOnly_iff
  have hc : r.capability.writable = true ↔ r.capability ≠ .readOnly := by
    cases r.capability <;> simp [Capability.writable]
  rw [hc, Ne, hw]
  simp [Policy.writable]

theorem readable_eq_canRead {r : Register} (hr : r ∈ m.registers) :
    r.capability.readable = m.canRead r.name := by
  rw [Bool.eq_iff_iff, hm.readable_iff hr]
  simp [Model.canRead]

theorem testBit_preserve {r : Register} (hr : r ∈ m.registers) {i : Nat} (hi : i < m.word.bits) :
    r.preserve.testBit i = !m.selfClears r.name i := by
  have hp := (hm.gathers r hr).testBit_preserve i hi
  have hs : m.selfClears r.name i = true ↔
      ∃ f ∈ m.fields, f.register = r.name ∧ f.policy.selfClearing = true ∧ f.covers i = true := by
    simp [Model.selfClears, and_assoc]
  rw [← hs] at hp
  cases hb : r.preserve.testBit i <;> cases hc : m.selfClears r.name i <;> simp_all

theorem merged_eq_updated {r : Register} (hr : r ∈ m.registers) {f : Field}
    (hf : r.name = f.register) {keep : Nat}
    (hk : ∀ i < m.word.bits, f.covers i = false → keep.testBit i = r.preserve.testBit i)
    (value raw : Nat) : f.merged m.word value keep raw = m.updated f value raw := by
  symm
  refine Field.eq_merged (Nat.ofBits_lt_two_pow _) fun i hi => ?_
  rw [Model.updated, Nat.testBit_ofBits_lt _ i hi]
  cases hc : f.covers i with
  | true => rfl
  | false =>
    rw [hk i hi hc, hm.testBit_preserve hr hi, hf]
    cases m.selfClears f.register i <;> simp

end Model.WellFormed

theorem Model.merged_zero_eq_updated (m : Model) (f : Field) (value : Nat) :
    f.merged m.word value 0 0 = m.updated f value 0 := by
  symm
  refine Field.eq_merged (Nat.ofBits_lt_two_pow _) fun i hi => ?_
  rw [Model.updated, Nat.testBit_ofBits_lt _ i hi]
  simp

namespace AccessorCode

theorem getter_primitive_mem {m : Model} {f : Field} (hf : f ∈ m.fields)
    (hr : f.policy.readable = true) : (getter f).action.primitive ∈ primitivesOf m := by
  refine List.mem_filter.2 ⟨?_, List.any_eq_true.2 ⟨f, hf, ?_⟩⟩
  · cases (getter f).action.primitive <;> decide
  · cases hs : f.single <;> simp [getter, hs, Action.primitive, serves, hr]

theorem setter_primitive_mem {m : Model} {f : Field} (hf : f ∈ m.fields) (hfits : f.Fits m.word)
    (hw : f.policy.writable = true) (seed : Seed) :
    (setterAction seed f).primitive ∈ primitivesOf m := by
  refine List.mem_filter.2 ⟨?_, List.any_eq_true.2 ⟨f, hf, ?_⟩⟩
  · cases (setterAction seed f).primitive <;> decide
  · cases hc : f.policy.selfClearing with
    | true =>
      have hs := hfits.single_of_selfClearing hc
      simp [setterAction, hc, Action.primitive, serves, hs, hw]
    | false => cases hs : f.single <;> simp [setterAction, hc, hs, Action.primitive, serves, hw]

theorem primitive_of_serves {p : Primitive} {f : Field} {word : Bits.IntType}
    (hf : f.Fits word) (h : serves p f = true) :
    (f.policy.readable = true ∧ p = (getter f).action.primitive) ∨
      (f.policy.writable = true ∧ ∀ seed, p = (setterAction seed f).primitive) := by
  have hc : f.single = false → f.policy.selfClearing = false := hf.not_selfClearing
  cases p <;> simp only [serves, Bool.and_eq_true, Bool.not_eq_true'] at h
  · exact .inl ⟨h.2, by simp [getter, h.1, Action.primitive]⟩
  · exact .inl ⟨h.2, by simp [getter, h.1, Action.primitive]⟩
  · refine .inr ⟨h.2, fun seed => ?_⟩
    cases hcl : f.policy.selfClearing <;> simp [setterAction, hcl, h.1, Action.primitive]
  · exact .inr ⟨h.2, fun seed => by simp [setterAction, hc h.1, h.1, Action.primitive]⟩

end AccessorCode

namespace Device

variable [Machine] {decl : Description} {o : Options} {external : External} {m : Model} {d : Device}
  (hd : d.Made decl o external m)
include hd

theorem Made.primitives_eq : d.kind.code.primitives = AccessorCode.primitivesOf m := by
  rw [hd.code_eq]
  rfl

theorem Made.exists_primitive : ∃ p, p ∈ d.kind.code.primitives := by
  obtain ⟨t, hm⟩ := hd.wellFormed
  obtain ⟨f, hf⟩ := List.exists_mem_of_ne_nil _ hm.inhabited
  rw [hd.primitives_eq]
  cases hread : f.policy.readable with
  | true => exact ⟨_, AccessorCode.getter_primitive_mem hf hread⟩
  | false =>
    have hwrite := Policy.writable_of_not_readable hread
    exact ⟨_, AccessorCode.setter_primitive_mem hf (hm.fits f hf) hwrite .zero⟩

/-- A class in the place of the function that checks values has devices at all addresses, as it
could not check the first one. -/
theorem Made.checkBase_eq (hg : d.kind.hides AccessorCode.guardName = true) (checks : Bool)
    (base : Int) : d.kind.checkBase checks base = .ok () := by
  obtain ⟨_, hcon⟩ := hd.constructed
  obtain ⟨-, hbase, -⟩ := AccessorClass.construct_eq_ok.1 hcon
  have hports : d.kind.code.ports.isEmpty = true := by
    by_contra hne
    rw [AccessorClass.checkBase, if_neg hne, if_pos hg] at hbase
    split at hbase <;> cases hbase
  rw [AccessorClass.checkBase, if_pos hports]

/-- A class in the place of the function that checks values lets those pass at which it has a
device. -/
theorem Made.exists_construct (hg : d.kind.hides AccessorCode.guardName = true) (checks : Bool)
    {base : Int} (hb : ∀ r ∈ m.registers, base + r.offset ≠ 0) :
    ∃ e, d.kind.construct checks base = .ok e := by
  obtain ⟨_, hcon⟩ := hd.constructed
  obtain ⟨hnew, -, hall, -⟩ := AccessorClass.construct_eq_ok.1 hcon
  refine ⟨_, AccessorClass.construct_eq_ok.2
    ⟨hnew, hd.checkBase_eq hg checks base, fun s hs => ⟨(hall s hs).1, ?_⟩, rfl⟩⟩
  · rw [hd.code_eq] at hs
    obtain ⟨r, hr, rfl⟩ := List.mem_map.1 hs
    exact hb r hr

theorem Made.checkFits_eq (hc : d.Clear m) {f : Field} (hf : f ∈ m.fields)
    (hw : f.policy.writable = true) {checks : Bool} {n : Int} (hs : f.single = false)
    (hn : f.admits checks n = true) :
    d.checkFits checks f.name f.width f.greatest n = .ok () := by
  rw [checkFits]
  cases hg : d.kind.hides AccessorCode.guardName with
  | true =>
    have hzero := hc.guard hg ⟨f, hf, hw, hs⟩
    have hbase : ∀ r ∈ m.registers,
        (if decide (0 ≤ n ∧ n ≤ f.greatest) = true then (1 : Int) else 0) + r.offset ≠ 0 := by
      intro r hr
      have := hd.offset_nonneg hr
      have := hzero r hr
      split <;> omega
    obtain ⟨e, he⟩ := hd.exists_construct hg checks hbase
    rw [if_pos rfl, he]
    rfl
  | false =>
    have hfits : (checks && !decide (0 ≤ n ∧ n ≤ f.greatest)) = false := by
      simp only [Field.admits, Bool.or_eq_true, Bool.and_eq_true, decide_eq_true_eq,
        Bool.not_eq_true'] at hn
      rcases hn with hn | ⟨hn, -⟩ <;> simp [hn]
    rw [if_neg Bool.false_ne_true, hfits, if_neg Bool.false_ne_true]

theorem Made.call_eq (hp : decl.isPlain = true) (hl : d.kind.claims "__getattribute__" = false)
    {f : Field} (hf : f ∈ m.fields) {a : Method} (ha : a ∈ AccessorCode.methodsOf m f) {σ : Type}
    (checks : Bool) (store : Store σ) (args : List Argument) :
    d.call checks store a.name args = d.callMember checks store (.method a) args := by
  rw [call, hd.member_eq hp hl hf ha, Step.ofOutcome_ok, pure_bind]

/-- Every call on a device fails when a register has taken the name of the lookup. -/
theorem Made.call_eq_fail (hp : decl.isPlain = true) (hl : d.kind.claims "__getattribute__" = true)
    {σ : Type} (checks : Bool) (store : Store σ) (name : String) (args : List Argument) :
    ∃ e, d.call checks store name args = Step.fail e := by
  obtain ⟨e, he⟩ := hd.member_eq_error hp hl name
  exact ⟨e, by rw [call, he, Step.ofOutcome_error, Step.fail_bind]⟩

section Accessors

variable (hp : decl.isPlain = true) (hl : d.kind.claims "__getattribute__" = false)
  (hword : d.kind.hidesWord = false) {f : Field} (hf : f ∈ m.fields) {h : Handle}
  (hh : d.ownHandle f.register = .ok h) {σ : Type} (store : Store σ)
include hp hl hword hf hh

/-- A getter that finds what it calls reads through the handle that it finds. -/
theorem Made.getter_eq (hread : f.policy.readable = true)
    (hprim : d.kind.hides (AccessorCode.getter f).action.primitive.name = false)
    (hcan : h.capability.readable = true) (checks : Bool) :
    d.call checks store f.getterName [] = f.getting store h.address m.word := by
  obtain ⟨t, hm⟩ := hd.wellFormed
  obtain ⟨w, hmem, hw⟩ := hm.word_mem
  obtain ⟨r, hr, hrf, -⟩ := hm.home f hf
  have hpayload := hd.payload_eq hr (hrf ▸ hh)
  have hcall := hd.call_eq hp hl hf (AccessorCode.getter_mem_methodsOf m hread) checks store []
  rw [show f.getterName = (AccessorCode.getter f).name from rfl, hcall,
    callMember_getter store (Bits.lt_bits_of_mem hmem) (hw ▸ hm.fits f hf) hh
      (hpayload.trans hw) ⟨hd.word_eq.trans hw, hword, hprim⟩ hcan checks, Field.getting, hw]

variable (hwrite : f.policy.writable = true) {r : Register} (hr : r ∈ m.registers)
  (hrf : r.name = f.register)
  (hprim : d.kind.hides
    (AccessorCode.setterAction (AccessorCode.seedOf r.capability) f).primitive.name = false)
  (hcan : h.capability.writable = true) {checks : Bool}
  (hguard : ∀ n, f.single = false → f.admits checks n = true →
    d.checkFits checks f.name f.width f.greatest n = .ok ())
  {args : List Argument} {v : Nat} (ha : f.accepted? checks args = some v)
include hwrite hr hrf hprim hcan hguard ha

theorem Made.setter_eq_of_readable (hc : r.capability.readable = true)
    (hread : h.capability.readable = true) {keep : Nat} (hk : d.preserved f.register = .ok keep) :
    d.call checks store f.setterName args =
      store.load h.address m.word >>= fun raw =>
        store.save h.address m.word (f.merged m.word v keep raw) >>= fun _ => pure .nothing := by
  obtain ⟨t, hm⟩ := hd.wellFormed
  obtain ⟨w, hmem, hw⟩ := hm.word_mem
  have hpayload := hd.payload_eq hr (hrf ▸ hh)
  have hcall := hd.call_eq hp hl hf (AccessorCode.setter_mem_methodsOf m hwrite) checks store args
  rw [show f.setterName = (AccessorCode.setter (AccessorCode.capabilityFor m f) f).name from rfl,
    hcall, hm.capabilityFor_eq hr hrf,
    callMember_setter_of_readable store (Bits.lt_bits_of_mem hmem) (hw ▸ hm.fits f hf) hh
      (hpayload.trans hw) ⟨hd.word_eq.trans hw, hword, hprim⟩ hcan hguard ha hc hread hk, hw]

theorem Made.setter_eq_of_not_readable (hc : r.capability.readable = false) :
    d.call checks store f.setterName args =
      store.save h.address m.word (f.merged m.word v 0 0) >>= fun _ => pure .nothing := by
  obtain ⟨t, hm⟩ := hd.wellFormed
  obtain ⟨w, hmem, hw⟩ := hm.word_mem
  have hpayload := hd.payload_eq hr (hrf ▸ hh)
  have hcall := hd.call_eq hp hl hf (AccessorCode.setter_mem_methodsOf m hwrite) checks store args
  rw [show f.setterName = (AccessorCode.setter (AccessorCode.capabilityFor m f) f).name from rfl,
    hcall, hm.capabilityFor_eq hr hrf,
    callMember_setter_of_not_readable store (Bits.lt_bits_of_mem hmem)
      (hw ▸ hm.fits f hf) hh (hpayload.trans hw) ⟨hd.word_eq.trans hw, hword, hprim⟩ hcan hguard ha
      hc, hw]

end Accessors

theorem Made.primitive_visible (hc : d.Clear m) {p : Primitive}
    (hp : p ∈ AccessorCode.primitivesOf m) : d.kind.hides p.name = false :=
  hc.primitives p (hd.primitives_eq ▸ hp)

/-- The accessors of a device that nothing is in the way of do what the model says. -/
theorem Made.faithful_of_clear (hp : decl.isPlain = true) (hc : d.Clear m) : d.Faithful m := by
  obtain ⟨t, hm⟩ := hd.wellFormed
  intro f hf
  constructor
  · intro hread r hr hrf σ checks store
    obtain ⟨h, hh, haddr, hcan, -⟩ := hc.handles r hr
    have hreadable := hcan ((hm.readable_iff hr).2 ⟨f, hf, hrf.symm, hread⟩)
    have hprim := hd.primitive_visible hc (AccessorCode.getter_primitive_mem hf hread)
    rw [hd.getter_eq hp hc.lookup hc.word hf (hrf ▸ hh) store hread hprim hreadable checks, haddr]
  · intro hwrite r hr hrf σ checks store args v ha
    obtain ⟨h, hh, haddr, hcanRead, hcanWrite⟩ := hc.handles r hr
    have hwritable := hcanWrite ((hm.writable_iff hr).2 ⟨f, hf, hrf.symm, hwrite⟩)
    have hprim := hd.primitive_visible hc (AccessorCode.setter_primitive_mem hf (hm.fits f hf)
      hwrite (AccessorCode.seedOf r.capability))
    have hguard : ∀ n, f.single = false → f.admits checks n = true →
        d.checkFits checks f.name f.width f.greatest n = .ok () := fun n hs hn =>
      hd.checkFits_eq hc hf hwrite hs hn
    rw [Model.setting, ← hrf, ← hm.readable_eq_canRead hr]
    cases hrc : r.capability.readable with
    | true =>
      obtain ⟨keep, hk, hbits⟩ := hc.masks f hf hwrite r hr hrf hrc
      rw [hd.setter_eq_of_readable hp hc.lookup hc.word hf (hrf ▸ hh) store hwrite hr hrf hprim
        hwritable hguard ha hrc (hcanRead hrc) (hrf ▸ hk), haddr, if_pos rfl]
      simp only [hm.merged_eq_updated hr hrf hbits]
    | false =>
      rw [hd.setter_eq_of_not_readable hp hc.lookup hc.word hf (hrf ▸ hh) store hwrite hr hrf hprim
        hwritable hguard ha hrc, haddr, if_neg Bool.false_ne_true, Model.merged_zero_eq_updated]

end Device

end RegisterMap
