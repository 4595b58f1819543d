import RegisterMap.Proofs.Accessor.Faithful
import RegisterMap.Proofs.Accessor.Loadable

/-!
# What a faithful device needs

Whatever is in the way of a device keeps some accessor from doing what the model says. A memory
that answers all reads with one word and only lists the accesses tells it apart. Main statement: a
device is faithful exactly when nothing is in its way. Names decide that: a class that takes the
name of no import, and registers of which no two are kept under one name.
-/

namespace RegisterMap

section

variable [Machine]

/-- A memory that holds one word at every address, whatever is written, and lists the accesses. -/
def Store.ledger (word : Nat) : Store (List (Int × Int)) where
  read address _ := fun accesses => (.ok word, accesses ++ [(address, (word : Int))])
  write address _ value := fun accesses => (.ok (), accesses ++ [(address, value)])

namespace Device

section Success

variable {σ : Type} {checks : Bool} {store : Store σ} {d : Device} {s t : σ}

omit [Machine] in
theorem visible_of_checkPrimitive {p : Primitive} {given : Nat}
    (h : d.checkPrimitive p given = .ok ()) : d.kind.hides p.name = false ∧
      d.kind.hidesWord = false := by
  unfold checkPrimitive at h
  split at h
  · cases h
  · next hp =>
    split at h
    · cases h
    · next hw => exact ⟨by simpa using hp, by simpa using hw⟩

theorem readable_of_readRegister {h : Handle} {v : Int} (hw : d.kind.hidesWord = false)
    (hr : (d.readRegister store h).run s = (.ok v, t)) : h.capability.readable = true := by
  by_contra hc
  simp only [readRegister, hw, Bool.false_and, Bool.false_eq_true, if_false, Handle.read, hc] at hr
  cases hr

theorem writable_of_writeRegister {h : Handle} {v : Int} (hw : d.kind.hidesWord = false)
    (hr : (d.writeRegister store h v).run s = (.ok (), t)) : h.capability.writable = true := by
  by_contra hc
  simp only [writeRegister, hw, Bool.false_and, Bool.false_eq_true, if_false, Handle.write,
    hc] at hr
  cases hr

/-- What a setter that succeeds has found. -/
theorem found_of_update {register : String} {seed : Seed} {p : Primitive}
    {change : Int → Except Bits.Fault Int} {a : Answer}
    (h : (d.update store register seed p change).run s = (.ok a, t)) :
    d.kind.hides p.name = false ∧ d.kind.hidesWord = false ∧
      ∃ h, d.ownHandle register = .ok h ∧ h.capability.writable = true := by
  obtain ⟨_, _, -, h⟩ := Step.run_bind_eq_ok.1 h
  obtain ⟨x, _, hx, h⟩ := Step.run_bind_eq_ok.1 h
  obtain ⟨_, _, hc, h⟩ := Step.run_bind_eq_ok.1 h
  obtain ⟨_, _, -, h⟩ := Step.run_bind_eq_ok.1 h
  obtain ⟨_, _, hw, -⟩ := Step.run_bind_eq_ok.1 h
  obtain ⟨hp, hv⟩ := visible_of_checkPrimitive (Step.run_ofOutcome_eq_ok.1 hc).1
  exact ⟨hp, hv, x, (Step.run_ofOutcome_eq_ok.1 hx).1, writable_of_writeRegister hv hw⟩

theorem found_of_getter {f : Field} {a : Answer}
    (h : (d.callMember checks store (.method (AccessorCode.getter f)) []).run s = (.ok a, t)) :
    d.kind.hides (AccessorCode.getter f).action.primitive.name = false ∧
      d.kind.hidesWord = false ∧
      ∃ h, d.ownHandle f.register = .ok h ∧ h.capability.readable = true := by
  obtain ⟨_, _, hm, h⟩ := Step.run_bind_eq_ok.1 h
  cases (Step.run_ofOutcome_eq_ok.1 hm).1
  obtain ⟨_, _, -, h⟩ := Step.run_bind_eq_ok.1 h
  cases hs : f.single with
  | true =>
    simp only [AccessorCode.getter, hs, if_true] at h ⊢
    obtain ⟨x, _, hx, h⟩ := Step.run_bind_eq_ok.1 h
    obtain ⟨_, _, hr, h⟩ := Step.run_bind_eq_ok.1 h
    obtain ⟨_, _, hc, -⟩ := Step.run_bind_eq_ok.1 h
    obtain ⟨hp, hv⟩ := visible_of_checkPrimitive (Step.run_ofOutcome_eq_ok.1 hc).1
    exact ⟨hp, hv, x, (Step.run_ofOutcome_eq_ok.1 hx).1, readable_of_readRegister hv hr⟩
  | false =>
    simp only [AccessorCode.getter, hs, Bool.false_eq_true, if_false] at h ⊢
    obtain ⟨x, _, hx, h⟩ := Step.run_bind_eq_ok.1 h
    obtain ⟨_, _, hr, h⟩ := Step.run_bind_eq_ok.1 h
    obtain ⟨_, _, hc, -⟩ := Step.run_bind_eq_ok.1 h
    obtain ⟨hp, hv⟩ := visible_of_checkPrimitive (Step.run_ofOutcome_eq_ok.1 hc).1
    exact ⟨hp, hv, x, (Step.run_ofOutcome_eq_ok.1 hx).1, readable_of_readRegister hv hr⟩

theorem found_of_setter {c : Capability} {f : Field} {args : List Argument} {a : Answer}
    (h : (d.callMember checks store (.method (AccessorCode.setter c f)) args).run s = (.ok a, t)) :
    d.kind.hides (AccessorCode.setterAction (AccessorCode.seedOf c) f).primitive.name = false ∧
      d.kind.hidesWord = false ∧
      ∃ h, d.ownHandle f.register = .ok h ∧ h.capability.writable = true := by
  obtain ⟨_, _, hm, h⟩ := Step.run_bind_eq_ok.1 h
  cases (Step.run_ofOutcome_eq_ok.1 hm).1
  obtain ⟨_, _, -, h⟩ := Step.run_bind_eq_ok.1 h
  simp only [AccessorCode.setter] at h
  cases hc : f.policy.selfClearing with
  | true =>
    simp only [AccessorCode.setterAction, hc, if_true] at h ⊢
    exact found_of_update h
  | false =>
    cases hs : f.single with
    | true =>
      simp only [AccessorCode.setterAction, hc, hs, Bool.false_eq_true, if_false, if_true] at h ⊢
      exact found_of_update h
    | false =>
      simp only [AccessorCode.setterAction, hc, hs, Bool.false_eq_true, if_false] at h ⊢
      obtain ⟨_, _, -, h⟩ := Step.run_bind_eq_ok.1 h
      obtain ⟨_, _, -, h⟩ := Step.run_bind_eq_ok.1 h
      exact found_of_update h

theorem checkFits_of_setter {c : Capability} {f : Field} {n : Int} {a : Answer}
    (hc : f.policy.selfClearing = false) (hs : f.single = false)
    (h : (d.callMember checks store (.method (AccessorCode.setter c f)) [.number n]).run s =
      (.ok a, t)) : d.checkFits checks f.name f.width f.greatest n = .ok () := by
  obtain ⟨_, _, hm, h⟩ := Step.run_bind_eq_ok.1 h
  cases (Step.run_ofOutcome_eq_ok.1 hm).1
  simp only [AccessorCode.setter, AccessorCode.setterAction, hc, hs, Bool.false_eq_true, if_false,
    argumentOf, Action.parameter] at h
  obtain ⟨_, _, ha, h⟩ := Step.run_bind_eq_ok.1 h
  cases (Step.run_ofOutcome_eq_ok.1 ha).1
  obtain ⟨_, _, hn, h⟩ := Step.run_bind_eq_ok.1 h
  cases (Step.run_ofOutcome_eq_ok.1 hn).1
  obtain ⟨_, _, hf, -⟩ := Step.run_bind_eq_ok.1 h
  exact (Step.run_ofOutcome_eq_ok.1 hf).1

end Success

end Device

theorem Field.exists_accepted (checks : Bool) (f : Field) :
    ∃ args v, f.accepted? checks args = some v := by
  cases hc : f.policy.selfClearing with
  | true => exact ⟨[], 1, by simp [accepted?, hc]⟩
  | false =>
    cases hs : f.single with
    | true => exact ⟨[.truth true], 1, by simp [accepted?, hc, hs, Argument.isTrue]⟩
    | false => exact ⟨[.number 0], 0, by simp [accepted?, hc, hs, Argument.number?, admits]⟩

namespace Device

variable {decl : Description} {o : Options} {external : External} {m : Model} {d : Device}
  (hd : d.Made decl o external m) (hp : decl.isPlain = true) (hf : d.Faithful m)
include hd hp hf

/-- Some accessor of a faithful device succeeds, so that names can be looked up on it. -/
theorem Made.claims_of_faithful : d.kind.claims "__getattribute__" = false := by
  obtain ⟨t, hm⟩ := hd.wellFormed
  obtain ⟨f, hmem⟩ := List.exists_mem_of_ne_nil _ hm.inhabited
  obtain ⟨r, hr, hrf, -⟩ := hm.home f hmem
  by_contra hc
  have hfail := hd.call_eq_fail hp (by simpa using hc) false (Store.ledger 0)
  cases hread : f.policy.readable with
  | true =>
    obtain ⟨e, he⟩ := hfail f.getterName []
    rw [(hf f hmem).getter hread r hr hrf] at he
    cases congrArg (Step.run · []) he
  | false =>
    have hwrite := Policy.writable_of_not_readable hread
    obtain ⟨args, v, ha⟩ := f.exists_accepted false
    obtain ⟨e, he⟩ := hfail f.setterName args
    rw [(hf f hmem).setter hwrite r hr hrf _ _ _ _ _ ha, Model.setting] at he
    split at he <;> cases congrArg (Step.run · []) he

theorem Made.member_of_faithful {f : Field} (hmem : f ∈ m.fields) {a : Method}
    (ha : a ∈ AccessorCode.methodsOf m f) {σ : Type} (checks : Bool) (store : Store σ)
    (args : List Argument) :
    d.callMember checks store (.method a) args = d.call checks store a.name args := by
  rw [call, hd.member_eq hp (hd.claims_of_faithful hp hf) hmem ha, Step.ofOutcome_ok, pure_bind]

theorem Made.getter_found {f : Field} (hmem : f ∈ m.fields) (hread : f.policy.readable = true)
    {r : Register} (hr : r ∈ m.registers) (hrf : r.name = f.register) :
    d.kind.hides (AccessorCode.getter f).action.primitive.name = false ∧
      d.kind.hidesWord = false ∧ ∃ h, d.ownHandle r.name = .ok h ∧
        h.capability.readable = true ∧ h.address = d.base + r.offset := by
  obtain ⟨t, hm⟩ := hd.wellFormed
  obtain ⟨w, hwmem, hword⟩ := hm.word_mem
  have hw : w < Machine.bits := Bits.lt_bits_of_mem hwmem
  have hrun : (d.callMember false (Store.ledger 0) (.method (AccessorCode.getter f)) []).run [] =
      (.ok (f.answer 0), [(d.base + r.offset, 0)]) := by
    rw [hd.member_of_faithful hp hf hmem (AccessorCode.getter_mem_methodsOf m hread)]
    exact congrArg (Step.run · []) ((hf f hmem).getter hread r hr hrf _ false (Store.ledger 0))
  obtain ⟨hprim, hvis, h, hh, hcan⟩ := found_of_getter hrun
  refine ⟨hprim, hvis, h, hrf ▸ hh, hcan, ?_⟩
  have hcall := callMember_getter (Store.ledger 0) hw (hword ▸ hm.fits f hmem) hh
    ((hd.payload_eq hr (hrf ▸ hh)).trans hword) ⟨hd.word_eq.trans hword, hvis, hprim⟩ hcan false
  rw [hcall] at hrun
  have haccess : [(h.address, (0 : Int))] = [(d.base + r.offset, 0)] := congrArg Prod.snd hrun
  simpa using haccess

section Setter

variable {f : Field} (hmem : f ∈ m.fields) (hwrite : f.policy.writable = true) {r : Register}
  (hr : r ∈ m.registers) (hrf : r.name = f.register)
include hmem hwrite hr hrf

/-- What each setter of a faithful device does on a memory of one word. -/
theorem Made.setter_runs (checks : Bool) (word : Nat) {args : List Argument} {v : Nat}
    (ha : f.accepted? checks args = some v) :
    (d.callMember checks (Store.ledger word) (.method (AccessorCode.setter r.capability f))
        args).run [] =
      (.ok .nothing, if m.canRead f.register then
          [(d.base + r.offset, (word : Int)), (d.base + r.offset, (m.updated f v word : Int))]
        else [(d.base + r.offset, (m.updated f v 0 : Int))]) := by
  obtain ⟨t, hm⟩ := hd.wellFormed
  have hcap := hm.capabilityFor_eq hr hrf
  rw [← hcap, hd.member_of_faithful hp hf hmem (AccessorCode.setter_mem_methodsOf m hwrite)]
  refine (congrArg (Step.run · [])
    ((hf f hmem).setter hwrite r hr hrf _ checks (Store.ledger word) args v ha)).trans ?_
  rw [Model.setting]
  split <;> rfl

theorem Made.guard_of_faithful (hs : f.single = false) {checks : Bool} {n : Int}
    (hn : f.admits checks n = true) :
    d.checkFits checks f.name f.width f.greatest n = .ok () := by
  obtain ⟨t, hm⟩ := hd.wellFormed
  have hc := (hm.fits f hmem).not_selfClearing hs
  have ha : f.accepted? checks [.number n] = some (n % (2 ^ f.width : Nat)).toNat := by
    simp [Field.accepted?, hc, hs, Argument.number?, hn]
  exact checkFits_of_setter hc hs (hd.setter_runs hp hf hmem hwrite hr hrf checks 0 ha)

theorem Made.setter_found :
    d.kind.hides (AccessorCode.setterAction (AccessorCode.seedOf r.capability) f).primitive.name =
      false ∧ d.kind.hidesWord = false ∧ ∃ h, d.ownHandle r.name = .ok h ∧
        h.capability.writable = true ∧
        (r.capability.readable = false → h.address = d.base + r.offset) := by
  obtain ⟨t, hm⟩ := hd.wellFormed
  obtain ⟨w, hwmem, hword⟩ := hm.word_mem
  have hw : w < Machine.bits := Bits.lt_bits_of_mem hwmem
  obtain ⟨args, v, ha⟩ := f.exists_accepted false
  have hrun := hd.setter_runs hp hf hmem hwrite hr hrf false 0 ha
  obtain ⟨hprim, hvis, h, hh, hcan⟩ := found_of_setter hrun
  refine ⟨hprim, hvis, h, hrf ▸ hh, hcan, fun hc => ?_⟩
  have hcall := callMember_setter_of_not_readable (Store.ledger 0) hw (hword ▸ hm.fits f hmem) hh
    ((hd.payload_eq hr (hrf ▸ hh)).trans hword) ⟨hd.word_eq.trans hword, hvis, hprim⟩ hcan
    (fun n hs hn => hd.guard_of_faithful hp hf hmem hwrite hr hrf hs hn) ha hc
  rw [hcall, ← hrf, ← hm.readable_eq_canRead hr, hc, if_neg Bool.false_ne_true] at hrun
  have haccess := congrArg Prod.snd hrun
  exact (Prod.ext_iff.1 (List.singleton_inj.1 haccess)).1

theorem Made.mask_of_faithful (hc : r.capability.readable = true) : ∃ keep : Nat,
    d.preserved r.name = .ok (keep : Int) ∧
      ∀ i < m.word.bits, f.covers i = false → keep.testBit i = r.preserve.testBit i := by
  obtain ⟨t, hm⟩ := hd.wellFormed
  obtain ⟨w, hwmem, hword⟩ := hm.word_mem
  have hw : w < Machine.bits := Bits.lt_bits_of_mem hwmem
  obtain ⟨s, -, -, hk⟩ := hd.exists_preserved hr
  refine ⟨s.preserve, hk, fun i hi hcov => ?_⟩
  obtain ⟨g, hg, hgr, hgread⟩ := (hm.readable_iff hr).1 hc
  obtain ⟨-, -, h, hh, hread, -⟩ := hd.getter_found hp hf hg hgread hr hgr.symm
  obtain ⟨hprim, hvis, h', hh', hcan, -⟩ := hd.setter_found hp hf hmem hwrite hr hrf
  cases hh.symm.trans hh'
  obtain ⟨args, v, ha⟩ := f.exists_accepted false
  -- all bits of the word that is read are set, so that the kept ones show
  have hrun := hd.setter_runs hp hf hmem hwrite hr hrf false (2 ^ w - 1) ha
  rw [callMember_setter_of_readable (Store.ledger (2 ^ w - 1)) hw (hword ▸ hm.fits f hmem)
    (hrf ▸ hh) ((hd.payload_eq hr hh).trans hword) ⟨hd.word_eq.trans hword, hvis, hprim⟩ hcan
    (fun n hs hn => hd.guard_of_faithful hp hf hmem hwrite hr hrf hs hn) ha hc hread (hrf ▸ hk),
    ← hrf, ← hm.readable_eq_canRead hr, hc, if_pos rfl] at hrun
  have hwords : f.merged m.word v s.preserve (2 ^ w - 1) = m.updated f v (2 ^ w - 1) := by
    have haccess : [(h.address, ((2 ^ w - 1 : Nat) : Int)),
        (h.address, (f.merged (Bits.unsigned w) v s.preserve (2 ^ w - 1) : Int))] =
        [(d.base + r.offset, ((2 ^ w - 1 : Nat) : Int)),
          (d.base + r.offset, (m.updated f v (2 ^ w - 1) : Int))] := congrArg Prod.snd hrun
    simp only [List.cons.injEq, Prod.mk.injEq, and_true] at haccess
    rw [hword]
    exact Int.ofNat_inj.1 haccess.2.2
  have hbit := congrArg (Nat.testBit · i) hwords
  have hiw : i < w := by
    rw [hword] at hi
    exact hi
  simp only [Field.testBit_merged _ _ _ _ _ hi, Model.updated, Nat.testBit_ofBits_lt _ i hi, hcov,
    Bool.false_eq_true, if_false, Nat.testBit_two_pow_sub_one, decide_eq_true hiw, Bool.and_true,
    ← hrf] at hbit
  rw [hbit, hm.testBit_preserve hr hi]
  cases m.selfClears r.name i <;> rfl

end Setter

theorem Made.visible_of_faithful {p : Primitive} (hprim : p ∈ d.kind.code.primitives) :
    d.kind.hides p.name = false ∧ d.kind.hidesWord = false := by
  obtain ⟨t, hm⟩ := hd.wellFormed
  rw [hd.primitives_eq] at hprim
  obtain ⟨f, hmem, hserves⟩ := List.any_eq_true.1 (List.mem_filter.1 hprim).2
  obtain ⟨r, hr, hrf, -⟩ := hm.home f hmem
  rcases AccessorCode.primitive_of_serves (hm.fits f hmem) hserves with ⟨hread, rfl⟩ |
    ⟨hwrite, hprim⟩
  · obtain ⟨hp, hw, -⟩ := hd.getter_found hp hf hmem hread hr hrf
    exact ⟨hp, hw⟩
  · obtain ⟨hp, hw, -⟩ := hd.setter_found hp hf hmem hwrite hr hrf
    exact ⟨hprim (AccessorCode.seedOf r.capability) ▸ hp, hw⟩

/-- A faithful device that has its class in the place of the check has no register at zero. -/
theorem Made.offset_ne_zero_of_faithful (hg : d.kind.hides AccessorCode.guardName = true)
    {f : Field} (hmem : f ∈ m.fields) (hwrite : f.policy.writable = true)
    (hs : f.single = false) {r : Register} (hr : r ∈ m.registers) : r.offset ≠ 0 := by
  obtain ⟨t, hm⟩ := hd.wellFormed
  obtain ⟨w, hwmem, hword⟩ := hm.word_mem
  obtain ⟨q, hq, hqf, -⟩ := hm.home f hmem
  have hn : f.admits false (-1) = true := by
    have hw := Bits.lt_bits_of_mem hwmem
    have hstop : f.stop < w := by simpa [hword, Bits.unsigned] using (hm.fits f hmem).inside
    have := (hm.fits f hmem).ordered
    have hlog : (1 : Nat).log2 = 0 := by decide
    have hstart : f.start < Machine.bits := by omega
    simp [Field.admits, hlog, hstart]
  have hcheck := hd.guard_of_faithful hp hf hmem hwrite hq hqf hs hn
  have hfits : decide ((0 : Int) ≤ -1 ∧ (-1 : Int) ≤ f.greatest) = false := by simp
  rw [checkFits, hg, if_pos rfl, hfits, if_neg Bool.false_ne_true, map_eq_ok] at hcheck
  obtain ⟨e, he, -⟩ := hcheck
  have hslot := ((AccessorClass.construct_eq_ok.1 he).2.2.1 _ (hd.slot_mem hr)).2
  simpa [Literal.value] using hslot

/-- Nothing is in the way of a faithful device. -/
theorem Made.clear_of_faithful : d.Clear m := by
  obtain ⟨t, hm⟩ := hd.wellFormed
  refine ⟨hd.claims_of_faithful hp hf, ?_, fun p hprim => (hd.visible_of_faithful hp hf hprim).1,
    ?_, ?_, fun f hmem hwrite r hr hrf hc => hd.mask_of_faithful hp hf hmem hwrite hr hrf hc⟩
  · obtain ⟨p, hprim⟩ := hd.exists_primitive
    exact (hd.visible_of_faithful hp hf hprim).2
  · rintro hg ⟨f, hmem, hwrite, hs⟩ r hr
    exact hd.offset_ne_zero_of_faithful hp hf hg hmem hwrite hs hr
  · intro r hr
    cases hc : r.capability.readable with
    | true =>
      obtain ⟨g, hg, hgr, hread⟩ := (hm.readable_iff hr).1 hc
      obtain ⟨-, -, h, hh, hcan, haddr⟩ := hd.getter_found hp hf hg hread hr hgr.symm
      refine ⟨h, hh, haddr, fun _ => hcan, fun hw => ?_⟩
      obtain ⟨f, hmem, hfr, hwrite⟩ := (hm.writable_iff hr).1 hw
      obtain ⟨-, -, h', hh', hcan', -⟩ := hd.setter_found hp hf hmem hwrite hr hfr.symm
      cases hh.symm.trans hh'
      exact hcan'
    | false =>
      have hwrites : r.capability.writable = true := by
        cases hcap : r.capability <;> simp_all [Capability.readable, Capability.writable]
      obtain ⟨f, hmem, hfr, hwrite⟩ := (hm.writable_iff hr).1 hwrites
      obtain ⟨-, -, h, hh, hcan, haddr⟩ := hd.setter_found hp hf hmem hwrite hr hfr.symm
      exact ⟨h, hh, haddr hc, by simp, fun _ => hcan⟩

end Device

section Names

variable {decl : Description} {o : Options} {external : External} {m : Model} {d : Device}
  (hd : d.Made decl o external m) (hp : decl.isPlain = true)
include hd hp

/-- The name of a register is the last segment of a path in lower case. -/
theorem Device.Made.exists_register_eq {r : Register} (hr : r ∈ m.registers) :
    ∃ last, Text.isAscii last = true ∧ r.name = Text.lower last := by
  obtain ⟨t, hm⟩ := hd.wellFormed
  obtain ⟨f, hf, hreg⟩ := (hm.gathers r hr).inhabited
  obtain ⟨e, he, hfe⟩ := exists_of_forall₂ hm.follows hf
  have hplain := List.all_eq_true.1 hp e he
  rw [Bool.and_eq_true] at hplain
  exact ⟨e.path.last, hplain.2, by rw [← hreg, hfe.register]; rfl⟩

theorem Device.Made.exists_head_eq {r : Register} (hr : r ∈ m.registers)
    (hu : r.name.toList.head? ≠ some '_') :
    ∃ c cs, r.name.toList = c :: cs ∧ c ≠ '_' ∧ c.toNat < 0x80 := by
  obtain ⟨t, hm⟩ := hd.wellFormed
  obtain ⟨last, hlast, hname⟩ := hd.exists_register_eq hp hr
  have hascii : Text.isAscii r.name = true := hname ▸ Text.isAscii_lower hlast
  cases hcs : r.name.toList with
  | nil =>
    have hid := (hm.registers_usable r hr).1
    simp [Text.isIdentifier, hcs] at hid
  | cons c cs =>
    refine ⟨c, cs, rfl, fun hc => hu (by rw [hcs, hc]; rfl), ?_⟩
    exact Text.lt_of_isAscii hascii c (by simp [hcs])

theorem Device.Made.memberName_eq {r : Register} (hr : r ∈ m.registers)
    (hu : r.name.toList.head? ≠ some '_') :
    AccessorClass.memberName o.className r.name = r.name := by
  obtain ⟨last, hlast, hname⟩ := hd.exists_register_eq hp hr
  obtain ⟨c, cs, hcs, hc, -⟩ := hd.exists_head_eq hp hr hu
  rw [AccessorClass.memberName, Text.canonical_of_isAscii (hname ▸ Text.isAscii_lower hlast)]
  exact AccessorClass.keptName_of_not_isPrivate
    (AccessorClass.isPrivate_of_head? (by rw [hcs]; rfl) hc)

theorem Device.Made.memberName_maskConstant_eq {r : Register} (hr : r ∈ m.registers)
    (hu : r.name.toList.head? ≠ some '_') :
    AccessorClass.memberName o.className r.maskConstant = r.maskConstant := by
  obtain ⟨last, hlast, hname⟩ := hd.exists_register_eq hp hr
  have hascii : Text.isAscii r.name = true := hname ▸ Text.isAscii_lower hlast
  obtain ⟨c, cs, hcs, hc, hlt⟩ := hd.exists_head_eq hp hr hu
  have hplain : Text.isAscii r.maskConstant = true := by
    rw [Register.maskConstant, maskConstantOf, Text.isAscii_append, Text.isAscii_upper hascii]
    rfl
  have hhead : r.maskConstant.toList.head? = some c.toUpper := by
    rw [Register.maskConstant, maskConstantOf]
    refine Field.head?_append ?_ _
    rw [Text.toList_upper hascii, hcs]
    rfl
  rw [AccessorClass.memberName, Text.canonical_of_isAscii hplain]
  exact AccessorClass.keptName_of_not_isPrivate
    (AccessorClass.isPrivate_of_head? hhead (Text.toUpper_ne_underscore hlt hc))

theorem Device.Made.name_eq_of_maskConstant_eq {r s : Register} (hr : r ∈ m.registers)
    (hs : s ∈ m.registers) (h : r.maskConstant = s.maskConstant) : r.name = s.name := by
  obtain ⟨last, hlast, hname⟩ := hd.exists_register_eq hp hr
  obtain ⟨last', hlast', hname'⟩ := hd.exists_register_eq hp hs
  have hupper : Text.upper r.name = Text.upper s.name := (String.append_left_inj _).1 h
  rw [hname, hname'] at hupper ⊢
  exact Text.lower_eq_of_upper_lower_eq hlast hlast' hupper

omit hp in
/-- A class that takes the name of no import hides none. -/
theorem Device.Made.hides_eq_false (hc : Text.canonical o.className ∉ d.kind.imported)
    (name : String) : d.kind.hides name = false := by
  have hclass : d.kind.code.className = o.className := by rw [hd.code_eq]; rfl
  rw [AccessorClass.hides, hclass, ← Bool.not_eq_true, Bool.and_eq_true, List.contains_iff_mem]
  rintro ⟨he, hmem⟩
  exact hc (eq_of_beq he ▸ hmem)

/-- Names keep nothing in the way: a class that takes the name of no import, and registers whose
names do not start with an underscore. -/
theorem Device.Made.clear_of_names
    (hc : Text.canonical o.className ∉ d.kind.imported)
    (hu : ∀ r ∈ m.registers, r.name.toList.head? ≠ some '_') : d.Clear m := by
  obtain ⟨t, hm⟩ := hd.wellFormed
  have hhides := hd.hides_eq_false hc
  have hown : ∀ r ∈ m.registers, d.ownHandle r.name =
      .ok ⟨r.capability, d.base + r.offset, r.offset, m.word⟩ := by
    intro r hr
    obtain ⟨s, hs, hname, hh⟩ := hd.exists_ownHandle hr
    rw [hd.memberName_eq hp hr (hu r hr), hd.memberName_eq hp hs (hu s hs)] at hname
    cases List.inj_on_of_nodup_map hm.registerNames_nodup hs hr hname
    exact hh
  refine ⟨?_, hhides _, fun p _ => hhides _, fun hg => ?_, ?_, ?_⟩
  · rw [AccessorClass.claims, hd.slots_eq, hd.code_eq, ← Bool.not_eq_true, List.contains_iff_mem]
    intro hmem
    obtain ⟨s, hs, hname⟩ := List.mem_map.1 hmem
    obtain ⟨r, hr, rfl⟩ := List.mem_map.1 hs
    obtain ⟨c, cs, hcs, hc', -⟩ := hd.exists_head_eq hp hr (hu r hr)
    have hprivate := AccessorClass.isPrivate_of_head? (by rw [hcs]; rfl) hc'
    rw [AccessorClass.keptName_of_not_isPrivate hprivate] at hname
    exact hu r hr (hname ▸ rfl)
  · rw [hhides] at hg
    cases hg
  · exact fun r hr => ⟨_, hown r hr, rfl, id, id⟩
  · intro f _ _ r hr _ _
    obtain ⟨s, hs, hname, hk⟩ := hd.exists_preserved hr
    rw [hd.memberName_maskConstant_eq hp hr (hu r hr),
      hd.memberName_maskConstant_eq hp hs (hu s hs)] at hname
    have hsr := hd.name_eq_of_maskConstant_eq hp hs hr hname
    cases List.inj_on_of_nodup_map hm.registerNames_nodup hs hr hsr
    exact ⟨_, hk, fun _ _ _ => rfl⟩

end Names

/-- A device is faithful exactly when nothing is in its way, and names keep everything out of its
way when the class takes that of no import and no register has one with an underscore in front. -/
theorem Device.Made.faithful_iff_clear {decl : Description} {o : Options} {external : External}
    {m : Model} {d : Device} (hd : d.Made decl o external m) (hp : decl.isPlain = true) :
    (d.Faithful m ↔ d.Clear m) ∧
      (Text.canonical o.className ∉ d.kind.imported →
        (∀ r ∈ m.registers, r.name.toList.head? ≠ some '_') → d.Faithful m) :=
  ⟨⟨hd.clear_of_faithful hp, hd.faithful_of_clear hp⟩,
    fun hc hu => hd.faithful_of_clear hp (hd.clear_of_names hp hc hu)⟩

end

def AccessorClass.timer : AccessorClass :=
  let c := AccessorCode.ofModel .timer "Timer" "timer"
  ⟨c, constantsOf c, ["ctrl", "data"], methodsOf c⟩

def Device.timer : Device :=
  ⟨.timer, 4096, [("ctrl", ⟨.readWrite, 4104, 8, Bits.unsigned 16⟩),
    ("data", ⟨.writeOnly, 4108, 12, Bits.unsigned 16⟩)]⟩

theorem AccessorClass.load_timer :
    load "timer.py" (AccessorCode.ofModel .timer "Timer" "timer") = .ok .timer := by
  obtain ⟨t, -, -, -, hm⟩ := Analysis.wellFormed_of_analyze Analysis.analyze_timer
  have hclean : (AccessorCode.ofModel .timer "Timer" "timer").IsClean :=
    AccessorCode.isClean_ofModel hm rfl rfl rfl (by decide)
  exact load_of_isClean rfl hclean rfl (by decide)

theorem Device.made_timer : Device.timer.Made .timer .timer .none .timer :=
  ⟨⟨[], _, Analysis.analyze_timer⟩, rfl, ⟨_, AccessorClass.load_timer⟩, ⟨true, rfl⟩⟩

theorem Device.faithful_timer : Device.timer.Made .timer .timer .none .timer ∧
    Description.timer.isPlain = true ∧ Device.timer.Faithful .timer :=
  ⟨made_timer, rfl, (made_timer.faithful_iff_clear rfl).2 (by decide) (by decide)⟩

end RegisterMap
