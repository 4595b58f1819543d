import RegisterMap.Proofs.Accessor.Refusal

/-!
# Safe devices

A device is safe when its accessors fail for no reasons but three: the memory fails, a number is too
wide for its range, or, where that is not checked, a number is too long to be moved to its place. It
is safe exactly when its class hides nothing that the accessors call and each register finds a
handle that takes what its fields need. Whatever fails, all buffers stay as they were.
-/

namespace RegisterMap

open Memory

section

variable [Machine]

namespace Field

/-- The arguments that the setter of a field takes: none, or a truth value or an integer. -/
def Takes (f : Field) : List Argument → Prop
  | [] => f.policy.selfClearing = true
  | [a] => f.policy.selfClearing = false ∧ ∃ n, a.number? = .ok n
  | _ => False

/-- Why a call of the setter of a field that starts from `s` and ends with `t` may fail. -/
inductive Excuse {σ : Type} (f : Field) (word : Bits.IntType) (checks : Bool) (store : Store σ)
    (args : List Argument) (s t : σ) : Failure → Prop where
  | memory {fault : Memory.Fault} (h : store.Raises word s fault t) :
    f.Excuse word checks store args s t (.memory fault)
  /-- Nothing was accessed. -/
  | tooWide {a : Argument} {n : Int} (hargs : args = [a]) (hn : a.number? = .ok n)
    (hrange : f.single = false) (hout : ¬(0 ≤ n ∧ n ≤ f.greatest)) (hchecks : checks = true)
    (hstate : t = s) :
    f.Excuse word checks store args s t (.valueTooWide f.name f.width n)
  /-- There is no room for the number where it has to be moved. -/
  | tooLong {a : Argument} {n : Int} {fault : Bits.Fault} (hargs : args = [a])
    (hn : a.number? = .ok n) (hrange : f.single = false) (hout : ¬(0 ≤ n ∧ n ≤ f.greatest))
    (hchecks : checks = false) (hlong : Machine.bits ≤ n.natAbs.log2 + f.start)
    (hfault : fault = .tooLong ∨ fault = .exhausted) :
    f.Excuse word checks store args s t (.bits fault)

end Field

namespace Device

/-- The accessors of a field fail only for good reasons. -/
structure Protects (m : Model) (d : Device) (f : Field) : Prop where
  getter : f.policy.readable = true → ∀ (σ : Type) (checks : Bool) (store : Store σ) (s t : σ) (e),
    (d.call checks store f.getterName []).run s = (.error e, t) →
      ∃ fault, e = .memory fault ∧ store.Raises m.word s fault t
  setter : f.policy.writable = true → ∀ (args : List Argument), f.Takes args →
    ∀ (σ : Type) (checks : Bool) (store : Store σ) (s t : σ) (e),
      (d.call checks store f.setterName args).run s = (.error e, t) →
        f.Excuse m.word checks store args s t e

def Safe (m : Model) (d : Device) : Prop :=
  ∀ f ∈ m.fields, d.Protects m f

/-- The accessors of a device find what they call and handles that take what they do. -/
structure Able (m : Model) (d : Device) : Prop where
  lookup : d.kind.claims "__getattribute__" = false
  word : d.kind.hidesWord = false
  primitives : ∀ p ∈ d.kind.code.primitives, d.kind.hides p.name = false
  guard : (∃ f ∈ m.fields, f.policy.writable = true ∧ f.single = false) →
    d.kind.hides AccessorCode.guardName = false
  handles : ∀ r ∈ m.registers, ∃ h, d.ownHandle r.name = .ok h ∧
    (r.capability.readable = true → h.capability.readable = true) ∧
    (r.capability.writable = true → h.capability.writable = true)

end Device

/-- The setter of a range is the only one that refuses what it takes. -/
theorem Field.refused {f : Field} {checks : Bool} {args : List Argument} (ht : f.Takes args)
    (h : f.accepted? checks args = none) : ∃ a n, args = [a] ∧ a.number? = .ok n ∧
      f.policy.selfClearing = false ∧ f.single = false ∧ f.admits checks n = false := by
  match args with
  | [] =>
    have hc : f.policy.selfClearing = true := ht
    rw [accepted?, if_pos hc] at h
    cases h
  | [a] =>
    obtain ⟨hc, n, hn⟩ := ht
    simp only [accepted?, hc, hn, Bool.false_eq_true, if_false] at h
    split at h
    · cases h
    · next hs =>
      split at h
      · cases h
      · next had => exact ⟨a, n, rfl, hn, hc, by simpa using hs, by simpa using had⟩

omit [Machine] in
theorem AccessorCode.setRange_mem {m : Model} {f : Field} (hf : f ∈ m.fields)
    (hw : f.policy.writable = true) (hs : f.single = false) : .setRange ∈ primitivesOf m :=
  List.mem_filter.2 ⟨by decide, List.any_eq_true.2 ⟨f, hf, by simp [serves, hs, hw]⟩⟩

namespace Device

variable {decl : Description} {o : Options} {external : External} {m : Model} {d : Device}
  (hd : d.Made decl o external m) (hp : decl.isPlain = true)
include hd hp

section Able

variable (ha : d.Able m) {f : Field} (hf : f ∈ m.fields) {σ : Type} {store : Store σ} {s t : σ}
  {e : Failure} {checks : Bool}
include ha hf

theorem Made.getter_protects (hread : f.policy.readable = true)
    (hrun : (d.call checks store f.getterName []).run s = (.error e, t)) :
    ∃ fault, e = .memory fault ∧ store.Raises m.word s fault t := by
  obtain ⟨_, hm⟩ := hd.wellFormed
  obtain ⟨r, hr, hrf, -⟩ := hm.home f hf
  obtain ⟨h, hh, hcan, -⟩ := ha.handles r hr
  have hreadable := hcan ((hm.readable_iff hr).2 ⟨f, hf, hrf.symm, hread⟩)
  have hprim := ha.primitives _ (hd.primitives_eq ▸ AccessorCode.getter_primitive_mem hf hread)
  rw [hd.getter_eq hp ha.lookup ha.word hf (hrf ▸ hh) store hread hprim hreadable checks,
    Field.getting] at hrun
  obtain hfails | ⟨raw, u, -, hrest⟩ := Step.run_bind_eq_error.1 hrun
  · exact Store.raises_of_load hfails
  · cases hrest

variable (hwrite : f.policy.writable = true)
include hwrite

/-- A setter that accepts its arguments fails as its read or its write does. -/
theorem Made.setter_protects {args : List Argument} {v : Nat}
    (hacc : f.accepted? checks args = some v)
    (hrun : (d.call checks store f.setterName args).run s = (.error e, t)) :
    ∃ fault, e = .memory fault ∧ store.Raises m.word s fault t := by
  obtain ⟨_, hm⟩ := hd.wellFormed
  obtain ⟨r, hr, hrf, -⟩ := hm.home f hf
  obtain ⟨h, hh, hcanRead, hcanWrite⟩ := ha.handles r hr
  have hwritable := hcanWrite ((hm.writable_iff hr).2 ⟨f, hf, hrf.symm, hwrite⟩)
  have hprim := ha.primitives _ (hd.primitives_eq ▸ AccessorCode.setter_primitive_mem hf
    (hm.fits f hf) hwrite (AccessorCode.seedOf r.capability))
  have hguard : ∀ n, f.single = false → f.admits checks n = true →
      d.checkFits checks f.name f.width f.greatest n = .ok () := by
    intro n hs hn
    have hout : (checks && !decide (0 ≤ n ∧ n ≤ (f.greatest : Int))) = false := by
      cases checks <;> simp_all [Field.admits]
    rw [checkFits_of_visible (ha.guard ⟨f, hf, hwrite, hs⟩), hout, if_neg Bool.false_ne_true]
  cases hc : r.capability.readable with
  | true =>
    obtain ⟨q, -, -, hk⟩ := hd.exists_preserved hr
    rw [hd.setter_eq_of_readable hp ha.lookup ha.word hf (hrf ▸ hh) store hwrite hr hrf hprim
      hwritable hguard hacc hc (hcanRead hc) (hrf ▸ hk)] at hrun
    exact Store.raises_of_change hrun
  | false =>
    rw [hd.setter_eq_of_not_readable hp ha.lookup ha.word hf (hrf ▸ hh) store hwrite hr hrf hprim
      hwritable hguard hacc hc] at hrun
    exact Store.raises_of_save hrun

/-- A setter that does not accept a number says that it is too wide, or fails to move it. -/
theorem Made.refusal_protects {a : Argument} {n : Int} (hn : a.number? = .ok n)
    (hc : f.policy.selfClearing = false) (hs : f.single = false)
    (had : f.admits checks n = false)
    (hrun : (d.call checks store f.setterName [a]).run s = (.error e, t)) :
    f.Excuse m.word checks store [a] s t e := by
  obtain ⟨_, hm⟩ := hd.wellFormed
  obtain ⟨w, hmem, hw⟩ := hm.word_mem
  obtain ⟨r, hr, hrf, -⟩ := hm.home f hf
  obtain ⟨h, hh, hcan, -⟩ := ha.handles r hr
  have hfits := hm.fits f hf
  have hcall : d.call checks store f.setterName [a] =
      d.callMember checks store (.method (AccessorCode.setter r.capability f)) [a] :=
    hm.capabilityFor_eq hr hrf ▸
      hd.call_eq hp ha.lookup hf (AccessorCode.setter_mem_methodsOf m hwrite) checks store [a]
  rw [hcall, callMember_range hc hs _ hn,
    checkFits_of_visible (ha.guard ⟨f, hf, hwrite, hs⟩)] at hrun
  obtain ⟨hout, hlong⟩ := Field.outside_of_admits had
  cases checks with
  | true =>
    rw [decide_eq_false hout] at hrun
    cases hrun
    exact .tooWide rfl hn hs hout rfl rfl
  | false =>
    have hprim : d.kind.hides Primitive.setRange.name = false := ha.primitives _ <|
      hd.primitives_eq ▸ AccessorCode.setRange_mem hf hwrite hs
    have hstop : f.stop < w := by simpa [hw, Bits.unsigned] using hfits.inside
    obtain ⟨fault, hfault, hrefuses⟩ := Bits.setBitRange_eq_error
      (Bits.lt_bits_of_mem hmem) hfits.ordered hstop (hlong rfl)
    let change := fun word => Bits.setBitRange false word f.start f.stop n (Bits.unsigned w)
    have hchange : ∀ i : Nat, change i = .error fault := hrefuses
    obtain ⟨e', t', hfails, he⟩ := hd.update_refused hr hh hcan ha.word hprim hchange store s
    rw [Bool.false_and, if_neg Bool.false_ne_true, Step.ofOutcome_ok, pure_bind,
      hd.word_eq.trans hw, ← hrf, hfails] at hrun
    cases hrun
    obtain rfl | ⟨fault, rfl, hraises⟩ := he
    · exact .tooLong rfl hn hs hout rfl (hlong rfl) hfault
    · exact .memory hraises

end Able

/-- The accessors of a device that finds what it needs fail only for good reasons. -/
theorem Made.safe_of_able (ha : d.Able m) : d.Safe m := by
  intro f hf
  constructor
  · intro hread σ checks store s t e hrun
    exact hd.getter_protects hp ha hf hread hrun
  · intro hwrite args htakes σ checks store s t e hrun
    cases hacc : f.accepted? checks args with
    | some v =>
      obtain ⟨fault, rfl, hraises⟩ := hd.setter_protects hp ha hf hwrite hacc hrun
      exact .memory hraises
    | none =>
      obtain ⟨a, n, rfl, hn, hc, hs, had⟩ := Field.refused htakes hacc
      exact hd.refusal_protects hp ha hf hwrite hn hc hs had hrun

end Device

/-! ### What a safe device finds

On a memory that never fails, each accessor of a safe device succeeds with some arguments, so that
it has found what it calls.
-/

omit [Machine] in
theorem Store.not_raises_ledger {word : Nat} {type : Bits.IntType} {s t : List (Int × Int)}
    {fault : Memory.Fault} : ¬(Store.ledger word).Raises type s fault t := by
  rintro ⟨address, hread | ⟨u, value, -, hwrite⟩⟩
  · cases hread
  · cases hwrite

theorem Field.exists_taken (checks : Bool) (f : Field) :
    ∃ args v, f.Takes args ∧ f.accepted? checks args = some v := by
  cases hc : f.policy.selfClearing with
  | true => exact ⟨[], 1, hc, by simp [accepted?, hc]⟩
  | false =>
    cases hs : f.single with
    | true => exact ⟨[.truth true], 1, ⟨hc, 1, rfl⟩, by simp [accepted?, hc, hs, Argument.isTrue]⟩
    | false =>
      exact ⟨[.number 0], 0, ⟨hc, 0, rfl⟩,
        by simp [accepted?, hc, hs, Argument.number?, admits]⟩

/-- There is no excuse for arguments that are accepted but the memory's. -/
theorem Field.Excuse.memory_of_accepted {σ : Type} {f : Field} {word : Bits.IntType}
    {checks : Bool} {store : Store σ} {args : List Argument} {s t : σ} {e : Failure} {v : Nat}
    (h : f.Excuse word checks store args s t e) (hacc : f.accepted? checks args = some v) :
    ∃ fault, store.Raises word s fault t := by
  cases h with
  | memory h => exact ⟨_, h⟩
  | @tooWide a n hargs hn hrange hout hchecks =>
    subst hargs hchecks
    obtain ⟨-, h, -⟩ | ⟨-, hs, -⟩ | ⟨-, -, b, k, hb, hk, had, -⟩ := accepted?_eq_some hacc
    · cases h
    · cases hrange.symm.trans hs
    · cases hb
      cases hn.symm.trans hk
      have hin : 0 ≤ n ∧ n ≤ (f.greatest : Int) := by simpa [admits] using had
      exact absurd hin hout
  | @tooLong a n fault hargs hn hrange hout hchecks hlong =>
    subst hargs hchecks
    obtain ⟨-, h, -⟩ | ⟨-, hs, -⟩ | ⟨-, -, b, k, hb, hk, had, -⟩ := accepted?_eq_some hacc
    · cases h
    · cases hrange.symm.trans hs
    · cases hb
      cases hn.symm.trans hk
      simp only [admits, Bool.or_eq_true, Bool.and_eq_true, decide_eq_true_eq] at had
      omega

namespace Device

section Finds

variable {decl : Description} {o : Options} {external : External} {m : Model} {d : Device}
  (hd : d.Made decl o external m) (hp : decl.isPlain = true) (hsafe : d.Safe m) {f : Field}
  (hf : f ∈ m.fields)
include hsafe hf

theorem Safe.getter_succeeds (hread : f.policy.readable = true) :
    ∃ a t, (d.call false (Store.ledger 0) f.getterName []).run [] = (.ok a, t) := by
  cases hrun : (d.call false (Store.ledger 0) f.getterName []).run [] with
  | mk outcome t =>
    cases outcome with
    | ok a => exact ⟨a, t, rfl⟩
    | error e =>
      obtain ⟨fault, -, hraises⟩ := (hsafe f hf).getter hread _ _ _ _ _ _ hrun
      exact absurd hraises Store.not_raises_ledger

theorem Safe.setter_succeeds (hwrite : f.policy.writable = true) {checks : Bool}
    {args : List Argument} {v : Nat} (htakes : f.Takes args)
    (hacc : f.accepted? checks args = some v) :
    ∃ a t, (d.call checks (Store.ledger 0) f.setterName args).run [] = (.ok a, t) := by
  cases hrun : (d.call checks (Store.ledger 0) f.setterName args).run [] with
  | mk outcome t =>
    cases outcome with
    | ok a => exact ⟨a, t, rfl⟩
    | error e =>
      have hexcuse := (hsafe f hf).setter hwrite args htakes _ _ _ _ _ _ hrun
      obtain ⟨fault, hraises⟩ := hexcuse.memory_of_accepted hacc
      exact absurd hraises Store.not_raises_ledger

include hd hp

omit hf in
/-- Some accessor of a safe device succeeds, so that names can be looked up on it. -/
theorem Made.claims_of_safe : d.kind.claims "__getattribute__" = false := by
  obtain ⟨_, hm⟩ := hd.wellFormed
  obtain ⟨f, hf⟩ := List.exists_mem_of_ne_nil _ hm.inhabited
  by_contra hc
  have hfails := hd.call_eq_fail hp (by simpa using hc) false (Store.ledger 0)
  cases hread : f.policy.readable with
  | true =>
    obtain ⟨a, t, hok⟩ := hsafe.getter_succeeds hf hread
    obtain ⟨e, he⟩ := hfails f.getterName []
    rw [he] at hok
    cases hok
  | false =>
    obtain ⟨args, v, htakes, hacc⟩ := f.exists_taken false
    have hwrite := Policy.writable_of_not_readable hread
    obtain ⟨a, t, hok⟩ := hsafe.setter_succeeds hf hwrite htakes hacc
    obtain ⟨e, he⟩ := hfails f.setterName args
    rw [he] at hok
    cases hok

theorem Made.getter_finds (hread : f.policy.readable = true) :
    d.kind.hides (AccessorCode.getter f).action.primitive.name = false ∧
      d.kind.hidesWord = false ∧
      ∃ h, d.ownHandle f.register = .ok h ∧ h.capability.readable = true := by
  obtain ⟨a, t, hok⟩ := hsafe.getter_succeeds hf hread
  have hcall := hd.call_eq hp (hd.claims_of_safe hp hsafe) hf
    (AccessorCode.getter_mem_methodsOf m hread) false (Store.ledger 0) []
  exact found_of_getter (hcall ▸ hok)

theorem Made.setter_finds (hwrite : f.policy.writable = true) {r : Register}
    (hr : r ∈ m.registers) (hrf : r.name = f.register) :
    d.kind.hides (AccessorCode.setterAction (AccessorCode.seedOf r.capability) f).primitive.name =
        false ∧ d.kind.hidesWord = false ∧
      ∃ h, d.ownHandle f.register = .ok h ∧ h.capability.writable = true := by
  obtain ⟨_, hm⟩ := hd.wellFormed
  obtain ⟨args, v, htakes, hacc⟩ := f.exists_taken false
  obtain ⟨a, t, hok⟩ := hsafe.setter_succeeds hf hwrite htakes hacc
  have hcall := hd.call_eq hp (hd.claims_of_safe hp hsafe) hf
    (AccessorCode.setter_mem_methodsOf m hwrite) false (Store.ledger 0) args
  rw [hm.capabilityFor_eq hr hrf] at hcall
  exact found_of_setter (hcall ▸ hok)

omit hf in
/-- The registers of a safe device find handles that take what their fields need. -/
theorem Made.handle_of_safe {r : Register} (hr : r ∈ m.registers) :
    ∃ h, d.ownHandle r.name = .ok h ∧
      (r.capability.readable = true → h.capability.readable = true) ∧
      (r.capability.writable = true → h.capability.writable = true) := by
  obtain ⟨_, hm⟩ := hd.wellFormed
  obtain ⟨q, -, -, hh⟩ := hd.exists_ownHandle hr
  refine ⟨_, hh, fun hc => ?_, fun hc => ?_⟩
  · obtain ⟨g, hg, hgr, hread⟩ := (hm.readable_iff hr).1 hc
    obtain ⟨-, -, h, hh', hcan⟩ := hd.getter_finds hp hsafe hg hread
    rw [hgr, hh] at hh'
    cases hh'
    exact hcan
  · obtain ⟨g, hg, hgr, hwrite⟩ := (hm.writable_iff hr).1 hc
    obtain ⟨-, -, h, hh', hcan⟩ := hd.setter_finds hp hsafe hg hwrite hr hgr.symm
    rw [hgr, hh] at hh'
    cases hh'
    exact hcan

/-- A safe device has the check of values where its setters look for it: a class in its place would
let a negative number pass that the primitive then refuses, or find no device at address zero. -/
theorem Made.guard_of_safe (hwrite : f.policy.writable = true) (hs : f.single = false) :
    d.kind.hides AccessorCode.guardName = false := by
  obtain ⟨_, hm⟩ := hd.wellFormed
  obtain ⟨w, hsize, hw⟩ := hm.word_mem
  obtain ⟨r, hr, hrf, -⟩ := hm.home f hf
  obtain ⟨hprim, hvisible, -⟩ := hd.setter_finds hp hsafe hf hwrite hr hrf
  obtain ⟨h, hh, hcan, -⟩ := hd.handle_of_safe hp hsafe hr
  have hfits := hm.fits f hf
  have hc := hfits.not_selfClearing hs
  have hprim : d.kind.hides Primitive.setRange.name = false := by
    simpa [AccessorCode.setterAction, hc, hs, Action.primitive] using hprim
  have hcall := hd.call_eq hp (hd.claims_of_safe hp hsafe) hf
    (AccessorCode.setter_mem_methodsOf m hwrite) true (Store.ledger 0) [.number (-1)]
  rw [hm.capabilityFor_eq hr hrf, callMember_range hc hs _ rfl] at hcall
  have hwide : ∀ e t, (d.call true (Store.ledger 0) f.setterName [.number (-1)]).run [] =
      (.error e, t) → ∃ n, e = .valueTooWide f.name f.width n := by
    intro e t hrun
    have hexcuse := (hsafe f hf).setter hwrite [.number (-1)] ⟨hc, -1, rfl⟩ _ _ _ _ _ _ hrun
    cases hexcuse with
    | memory hraises => exact absurd hraises Store.not_raises_ledger
    | @tooWide a n => exact ⟨n, rfl⟩
    | tooLong _ _ _ _ hchecks => cases hchecks
  by_contra hg
  have hhidden : d.kind.hides AccessorCode.guardName = true := by simpa using hg
  have hcheck : d.checkFits true f.name f.width f.greatest (-1) =
      (d.kind.construct true 0).map fun _ => () := by
    rw [checkFits, if_pos hhidden]
    rfl
  rw [hcheck] at hcall
  cases hcon : d.kind.construct true 0 with
  | error e =>
    obtain ⟨capability, offset, rfl⟩ := hd.construct_eq_error hhidden hcon
    rw [hcon] at hcall
    obtain ⟨n, hn⟩ := hwide _ _ (congrArg (Step.run · []) hcall)
    cases hn
  | ok e =>
    let change := fun word => Bits.setBitRange true word f.start f.stop (-1) (Bits.unsigned w)
    have hchange : ∀ i : Nat, change i = .error (.tooWide (-1) f.start f.stop) :=
      Bits.setBitRange_negative (Bits.lt_bits_of_mem hsize) hfits.ordered
        (by simpa [hw, Bits.unsigned] using hfits.inside) (by decide)
    obtain ⟨e', t, hfails, he⟩ :=
      hd.update_refused hr hh hcan hvisible hprim hchange (Store.ledger 0) []
    rw [hcon, hd.word_eq.trans hw, ← hrf] at hcall
    obtain ⟨n, rfl⟩ := hwide e' t ((congrArg (Step.run · []) hcall).trans hfails)
    obtain he | ⟨fault, he, -⟩ := he <;> cases he

omit hf in
/-- A safe device finds what it needs. -/
theorem Made.able_of_safe : d.Able m := by
  obtain ⟨_, hm⟩ := hd.wellFormed
  have hvisible : ∀ p ∈ d.kind.code.primitives, d.kind.hides p.name = false ∧
      d.kind.hidesWord = false := by
    intro p hprim
    rw [hd.primitives_eq] at hprim
    obtain ⟨f, hf, hserves⟩ := List.any_eq_true.1 (List.mem_filter.1 hprim).2
    obtain ⟨r, hr, hrf, -⟩ := hm.home f hf
    obtain ⟨hread, rfl⟩ | ⟨hwrite, hp'⟩ := AccessorCode.primitive_of_serves (hm.fits f hf) hserves
    · obtain ⟨hp, hw, -⟩ := hd.getter_finds hp hsafe hf hread
      exact ⟨hp, hw⟩
    · obtain ⟨hp, hw, -⟩ := hd.setter_finds hp hsafe hf hwrite hr hrf
      exact ⟨hp' (AccessorCode.seedOf r.capability) ▸ hp, hw⟩
  refine ⟨hd.claims_of_safe hp hsafe, ?_, fun p hprim => (hvisible p hprim).1, ?_,
    fun r hr => hd.handle_of_safe hp hsafe hr⟩
  · obtain ⟨p, hprim⟩ := hd.exists_primitive
    exact (hvisible p hprim).2
  · rintro ⟨f, hf, hwrite, hs⟩
    exact hd.guard_of_safe hp hsafe hf hwrite hs

end Finds

/-- A class that takes the name of no import and registers whose names do not start with an
underscore make a device find what it needs. -/
theorem Made.able_of_names {decl : Description} {o : Options} {external : External} {m : Model}
    {d : Device} (hd : d.Made decl o external m) (hp : decl.isPlain = true)
    (hc : Text.canonical o.className ∉ d.kind.imported)
    (hu : ∀ r ∈ m.registers, r.name.toList.head? ≠ some '_') : d.Able m := by
  have hclear := hd.clear_of_names hp hc hu
  refine ⟨hclear.lookup, hclear.word, hclear.primitives, fun _ => hd.hides_eq_false hc _, ?_⟩
  intro r hr
  obtain ⟨h, hh, -, hread, hwrite⟩ := hclear.handles r hr
  exact ⟨h, hh, hread, hwrite⟩

/-- A device is safe exactly when it finds what it needs, names see to that when the class takes
that of no import and no register has one with an underscore in front, and no call that fails has
changed a buffer. -/
theorem Made.safe_iff_able {decl : Description} {o : Options} {external : External} {m : Model}
    {d : Device} (hd : d.Made decl o external m) (hp : decl.isPlain = true) :
    (d.Safe m ↔ d.Able m) ∧
      (Text.canonical o.className ∉ d.kind.imported →
        (∀ r ∈ m.registers, r.name.toList.head? ≠ some '_') → d.Safe m) ∧
      ∀ (checks : Bool) (ref : Ref) (name : String) (args : List Argument) (s t : Space)
        (e : Failure), (d.call checks (Space.store ref) name args).run s = (.error e, t) →
          ∀ q, t.buffer? q = s.buffer? q :=
  ⟨⟨hd.able_of_safe hp, hd.safe_of_able hp⟩,
    fun hc hu => hd.safe_of_able hp (hd.able_of_names hp hc hu),
    fun _ _ _ _ _ _ _ h => buffer?_of_call_eq_error h⟩

end Device

end

namespace Device

theorem safe_timer : Device.timer.Made .timer .timer .none .timer ∧
    Description.timer.isPlain = true ∧ Device.timer.Safe .timer :=
  ⟨made_timer, rfl, (made_timer.safe_iff_able rfl).2.1 (by decide) (by decide)⟩

end Device

end RegisterMap
