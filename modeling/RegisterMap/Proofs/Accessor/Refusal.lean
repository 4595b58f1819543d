import RegisterMap.Proofs.Accessor.Exact
import RegisterMap.Proofs.Accessor.Failing

/-!
# Refusals

How the parts of an accessor fail: a memory that does not answer, a primitive that refuses a number,
a class without a device at an address. A setter whose primitive refuses the number fails with what
the primitive complains of, unless its read fails before.
-/

namespace RegisterMap

/-- Whether an access to a word, the first one or one after a read of it, fails from a state and
with which state it ends. -/
def Store.Raises {σ : Type} (store : Store σ) (word : Bits.IntType) (s : σ) (fault : Memory.Fault)
    (t : σ) : Prop :=
  ∃ address : Int, (store.read address word.size).run s = (.error fault, t) ∨
    ∃ u value, (u = s ∨ ∃ raw, (store.read address word.size).run s = (.ok raw, u)) ∧
      (store.write address word.size value).run u = (.error fault, t)

namespace Store

variable {σ : Type} {store : Store σ} {word : Bits.IntType} {address : Int} {s t : σ}
  {e : Failure}

theorem raises_of_load (h : (store.load address word).run s = (.error e, t)) :
    ∃ fault, e = .memory fault ∧ store.Raises word s fault t := by
  obtain ⟨fault, hfails, rfl⟩ := Step.run_withFailure_eq_error.1 h
  exact ⟨fault, rfl, address, .inl hfails⟩

theorem raises_of_save {value : Nat} {f : Unit → Answer}
    (h : (store.save address word value >>= fun u => pure (f u)).run s = (.error e, t)) :
    ∃ fault, e = .memory fault ∧ store.Raises word s fault t := by
  obtain hfails | ⟨_, u, -, hrest⟩ := Step.run_bind_eq_error.1 h
  · obtain ⟨fault, hwrite, rfl⟩ := Step.run_withFailure_eq_error.1 hfails
    exact ⟨fault, rfl, address, .inr ⟨s, value, .inl rfl, hwrite⟩⟩
  · cases hrest

/-- What changes a word fails as its read or its write does. -/
theorem raises_of_change {g : Nat → Nat} {f : Unit → Answer}
    (h : (store.load address word >>= fun raw =>
      store.save address word (g raw) >>= fun u => pure (f u)).run s = (.error e, t)) :
    ∃ fault, e = .memory fault ∧ store.Raises word s fault t := by
  obtain hfails | ⟨raw, u, hload, hrest⟩ := Step.run_bind_eq_error.1 h
  · exact raises_of_load hfails
  · have hread := Step.run_withFailure_eq_ok.1 hload
    obtain hfails | ⟨_, _, -, hrest⟩ := Step.run_bind_eq_error.1 hrest
    · obtain ⟨fault, hwrite, rfl⟩ := Step.run_withFailure_eq_error.1 hfails
      exact ⟨fault, rfl, address, .inr ⟨u, _, .inr ⟨raw, hread⟩, hwrite⟩⟩
    · cases hrest

end Store

variable [Machine]

namespace Bits

theorem checkShift_eq_error {v start : Nat} (hs : start < Machine.bits)
    (hlong : Machine.bits ≤ v.log2 + start) :
    ∃ fault : Fault, (fault = .tooLong ∨ fault = .exhausted) ∧
      checkShift v start = .error fault := by
  have hv : v ≠ 0 := by
    rintro rfl
    rw [Nat.log2_zero] at hlong
    omega
  unfold checkShift
  rw [if_neg (by omega), if_neg hv, Int.toNat_natCast, if_pos hlong]
  split
  · exact ⟨_, .inl rfl, rfl⟩
  · exact ⟨_, .inr rfl, rfl⟩

/-- A number that is too long is not written, when it is not checked whether it fits. -/
theorem setBitRange_eq_error {w start stop : Nat} (hw : w < Machine.bits) (hs : start ≤ stop)
    (ht : stop < w) {v : Int} (hlong : Machine.bits ≤ v.natAbs.log2 + start) :
    ∃ fault : Fault, (fault = .tooLong ∨ fault = .exhausted) ∧
      ∀ n : Nat, setBitRange false n start stop v (unsigned w) = .error fault := by
  obtain ⟨fault, hfault, hshift⟩ := checkShift_eq_error (by omega) hlong
  have hfits : checkFits false start stop v = .ok () :=
    checkFits_unchecked v hs (by omega) (by omega)
  refine ⟨fault, hfault, fun n => ?_⟩
  rw [setBitRange, checkRange_unsigned hw hs ht, ok_bind, hfits, ok_bind, maskFor_unsigned hw hs ht,
    ok_bind, lowBits_unsigned hw, ok_bind, hshift, error_bind]

/-- A negative number is not written, when it is checked whether it fits. -/
theorem setBitRange_negative {w start stop : Nat} (hw : w < Machine.bits) (hs : start ≤ stop)
    (ht : stop < w) {v : Int} (hv : v < 0) (n : Nat) :
    setBitRange true n start stop v (unsigned w) = .error (.tooWide v start stop) := by
  have hfits : checkFits true start stop v = .error (.tooWide v start stop) := by
    rw [checkFits, if_pos hv, check_eq (isShort_tooWide v hs (by omega)), if_pos ⟨rfl, not_false⟩]
  rw [setBitRange, checkRange_unsigned hw hs ht, ok_bind, hfits, error_bind]

end Bits

namespace AccessorClass

omit [Machine] in
/-- Slots that can be taken are refused for nothing but an address of zero. -/
theorem fill_eq_error {k : AccessorClass} {base : Int} {slots : List Slot} {e : Failure}
    (hslots : ∀ s ∈ slots, k.Takes s) {known : List (String × Handle)}
    (h : k.fill base known slots = .error e) : ∃ capability offset,
      e = .nullRegister capability offset := by
  induction slots generalizing known with
  | nil => cases h
  | cons s slots ih =>
    obtain ⟨htakes, hslots⟩ := List.forall_mem_cons.1 hslots
    by_cases hz : base + s.offset.value = 0
    · have hmake : k.makeHandle base s =
          .error (.nullRegister s.capability s.offset.value) := by
        rw [makeHandle, htakes.visible, if_neg Bool.false_ne_true, Handle.ofOffset, if_pos hz]
      rw [fill, hmake, error_bind] at h
      cases h
      exact ⟨_, _, rfl⟩
    · have hmake := makeHandle_eq_ok.2 ⟨htakes.visible, hz, rfl⟩
      have hassign : k.assign s (k.handleOf base s) known = .ok _ := assign_eq_ok.2
        ⟨⟨htakes.assignable, htakes.known, htakes.ne_weakref, htakes.ne_dict⟩, rfl⟩
      rw [fill, hmake, ok_bind, hassign, ok_bind] at h
      exact ih hslots h

end AccessorClass

namespace Device

variable {σ : Type} {store : Store σ} {d : Device}

/-- The setter of a range first sees to it that the number fits. -/
theorem callMember_range {f : Field} (hc : f.policy.selfClearing = false) (hs : f.single = false)
    (c : Capability) {a : Argument} {n : Int} (hn : a.number? = .ok n) (checks : Bool) :
    d.callMember checks store (.method (AccessorCode.setter c f)) [a] =
      Step.ofOutcome (d.checkFits checks f.name f.width f.greatest n) >>= fun _ =>
        d.update store f.register (AccessorCode.seedOf c) .setRange fun word =>
          Bits.setBitRange checks word f.start f.stop n d.kind.code.word := by
  simp only [callMember, Member.method?, AccessorCode.setter, AccessorCode.setterAction, hc, hs,
    Bool.false_eq_true, if_false, argumentOf, Action.parameter, Step.ofOutcome_ok, pure_bind,
    perform, hn]

section Update

variable {w : Nat} (hw : w < Machine.bits) {p : Primitive} {h : Handle} {register : String}
  (hh : d.ownHandle register = .ok h) (hp : h.payload = Bits.unsigned w) (hd : d.Sees w p)
  {change : Int → Except Bits.Fault Int} {fault : Bits.Fault}
  (hchange : ∀ n : Nat, change n = .error fault)
include hw hh hp hd hchange

theorem update_preserved_error (hr : h.capability.readable = true) {keep : Nat}
    (hk : d.preserved register = .ok keep) :
    d.update store register .preserved p change =
      store.load h.address (Bits.unsigned w) >>= fun _ => Step.fail (.bits fault) := by
  have hfail : ∀ word : Int, 0 ≤ word → (change word).mapError Failure.bits =
      .error (.bits fault) := by
    intro word hword
    obtain ⟨n, rfl⟩ := Int.eq_ofNat_of_zero_le hword
    rw [hchange n]
    rfl
  have hcommon : ∀ a b : Int, 0 ≤ common a b := fun a b => Int.natCast_nonneg _
  simp only [update, seedWord, hh, hk, Step.ofOutcome_ok, pure_bind, bind_assoc,
    hd.readRegister_eq, h.read_eq store hw hp hr, hd.checkPrimitive_eq, hfail _ (hcommon _ _),
    Step.ofOutcome_error, Step.fail_bind]

omit hw hp in
theorem update_zero_error :
    d.update store register .zero p change = Step.fail (.bits fault) := by
  have hfail : change 0 = .error fault := hchange 0
  simp only [update, seedWord, hh, Step.ofOutcome_ok, pure_bind, hd.checkPrimitive_eq, hfail]
  rfl

end Update

omit [Machine] in
theorem checkFits_of_visible (hg : d.kind.hides AccessorCode.guardName = false) (checks : Bool)
    (field : String) (width greatest : Nat) (n : Int) :
    d.checkFits checks field width greatest n =
      if checks && !decide (0 ≤ n ∧ n ≤ greatest) then .error (.valueTooWide field width n)
      else .ok () := by
  rw [checkFits, hg, if_neg Bool.false_ne_true]

end Device

/-- A number that is not admitted does not fit, and is too long if that is not checked. -/
theorem Field.outside_of_admits {f : Field} {checks : Bool} {n : Int}
    (h : f.admits checks n = false) : ¬(0 ≤ n ∧ n ≤ (f.greatest : Int)) ∧
      (checks = false → Machine.bits ≤ n.natAbs.log2 + f.start) := by
  simp only [admits, Bool.or_eq_false_iff, Bool.and_eq_false_iff, decide_eq_false_iff_not,
    Bool.not_eq_false'] at h
  obtain ⟨hout, hlong⟩ := h
  refine ⟨fun hin => hout.elim (absurd hin.1) (absurd hin.2), fun hc => ?_⟩
  obtain hlong | hlong := hlong
  · cases hc.symm.trans hlong
  · exact Nat.not_lt.1 hlong

namespace Device

variable {decl : Description} {o : Options} {external : External} {m : Model} {d : Device}
  (hd : d.Made decl o external m)
include hd

theorem Made.construct_eq_error (hg : d.kind.hides AccessorCode.guardName = true) {checks : Bool}
    {base : Int} {e : Failure} (h : d.kind.construct checks base = .error e) :
    ∃ capability offset, e = .nullRegister capability offset := by
  obtain ⟨_, hcon⟩ := hd.constructed
  obtain ⟨hnew, -, hall, -⟩ := AccessorClass.construct_eq_ok.1 hcon
  rw [AccessorClass.construct, hnew, if_neg Bool.false_ne_true, hd.checkBase_eq hg, ok_bind] at h
  cases hfill : d.kind.fill base [] d.kind.code.slots with
  | error e' =>
    rw [hfill] at h
    cases h
    exact AccessorClass.fill_eq_error (fun s hs => (hall s hs).1) hfill
  | ok handles =>
    rw [hfill] at h
    cases h

/-- A change that is refused fails with what the change complains of, unless the memory fails
before. -/
theorem Made.update_refused {r : Register} (hr : r ∈ m.registers) {h : Handle}
    (hh : d.ownHandle r.name = .ok h)
    (hcan : r.capability.readable = true → h.capability.readable = true) {p : Primitive}
    (hvisible : d.kind.hidesWord = false) (hprim : d.kind.hides p.name = false)
    {change : Int → Except Bits.Fault Int} {fault : Bits.Fault}
    (hchange : ∀ n : Nat, change n = .error fault) {σ : Type} (store : Store σ) (s : σ) :
    ∃ e t, (d.update store r.name (AccessorCode.seedOf r.capability) p change).run s =
        (.error e, t) ∧
      (e = .bits fault ∨ ∃ fault, e = .memory fault ∧ store.Raises m.word s fault t) := by
  obtain ⟨_, hm⟩ := hd.wellFormed
  obtain ⟨w, hmem, hw⟩ := hm.word_mem
  have hpayload := (hd.payload_eq hr hh).trans hw
  have hsees : d.Sees w p := ⟨hd.word_eq.trans hw, hvisible, hprim⟩
  cases hcap : r.capability.readable with
  | true =>
    obtain ⟨q, -, -, hk⟩ := hd.exists_preserved hr
    rw [show AccessorCode.seedOf r.capability = .preserved from if_pos hcap,
      update_preserved_error (Bits.lt_bits_of_mem hmem) hh hpayload hsees hchange
        (hcan hcap) hk]
    cases hload : (store.load h.address (Bits.unsigned w)).run s with
    | mk outcome t =>
      cases outcome with
      | error e =>
        exact ⟨e, t, Step.run_bind_of_error hload, .inr (hw ▸ Store.raises_of_load hload)⟩
      | ok raw => exact ⟨_, t, Step.run_bind_of_ok hload, .inl rfl⟩
  | false =>
    rw [show AccessorCode.seedOf r.capability = .zero from if_neg (by simp [hcap]),
      update_zero_error hh hsees hchange]
    exact ⟨_, s, rfl, .inl rfl⟩

end Device

end RegisterMap
