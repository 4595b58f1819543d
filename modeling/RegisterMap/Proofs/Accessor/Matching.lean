import RegisterMap.Accessor.Device
import RegisterMap.Proofs.Matching

/-!
# Devices side by side

Two devices that find the same members and fail in related ways do the same on two memories that
answer the same, whatever is asked of them. A device goes with itself, on two memories; and devices
of the same code under two names go together, on one.
-/

namespace RegisterMap

open Step (ofOutcome)

/-- Memories that answer accesses to the word of a handle alike and stay in step. -/
structure Store.Matches {σ τ : Type} (R : σ → τ → Prop) (store : Store σ) (other : Store τ)
    (h : Handle) : Prop where
  read : Step.Matches R Eq (store.read h.address h.payload.size)
    (other.read h.address h.payload.size)
  write : ∀ value, Step.Matches R Eq (store.write h.address h.payload.size value)
    (other.write h.address h.payload.size value)
  /-- A load of no bytes. -/
  probe : ∀ s t, R s t → ((store.read h.address 0).run s).1 = ((other.read h.address 0).run t).1

namespace Device

/-- Devices of which a name finds the same, and that fail in related ways. -/
structure Matches (F : Failure → Failure → Prop) (name : String) (d e : Device) : Prop where
  same : ∀ f, F f f
  member : RegisterMap.Matches F (d.member name) (e.member name)
  own : ∀ m, d.member name = .ok (.method m) →
    RegisterMap.Matches F (d.ownHandle m.register) (e.ownHandle m.register)
  preserved : ∀ m, d.member name = .ok (.method m) →
    RegisterMap.Matches F (d.preserved m.register) (e.preserved m.register)
  argument : ∀ m args, RegisterMap.Matches F (d.argumentOf m args) (e.argumentOf m args)
  primitive : ∀ p given, RegisterMap.Matches F (d.checkPrimitive p given) (e.checkPrimitive p given)
  fits : ∀ checks field width greatest value,
    RegisterMap.Matches F (d.checkFits checks field width greatest value)
      (e.checkFits checks field width greatest value)
  word : d.kind.code.word = e.kind.code.word
  hidesWord : d.kind.hidesWord = e.kind.hidesWord
  size : d.kind.claims "size" = e.kind.claims "size"
  writing : F d.writeFailure e.writeFailure

/-- A device goes with itself. -/
theorem Matches.refl (name : String) (d : Device) : Matches Eq name d d where
  same := fun _ => rfl
  member := .refl (fun _ => rfl) _
  own := fun _ _ => .refl (fun _ => rfl) _
  preserved := fun _ _ => .refl (fun _ => rfl) _
  argument := fun _ _ => .refl (fun _ => rfl) _
  primitive := fun _ _ => .refl (fun _ => rfl) _
  fits := fun _ _ _ _ _ => .refl (fun _ => rfl) _
  word := rfl
  hidesWord := rfl
  size := rfl
  writing := rfl

theorem lookup_of_handle {d : Device} {register : String} {h : Handle}
    (hh : d.handle register = .ok h) : d.handles.lookup register = some h := by
  unfold handle at hh
  obtain ⟨found, hfound, hmatch⟩ := bind_eq_ok.1 hh
  unfold member at hfound
  split at hfound
  · cases hfound
  · split at hfound
    · next hlookup =>
      cases hfound
      cases hmatch
      exact hlookup
    · cases hfound
      cases hmatch
    · cases hfound
      cases hmatch
    · cases hfound

theorem lookup_of_ownHandle {d : Device} {register : String} {h : Handle}
    (hh : d.ownHandle register = .ok h) : ∃ name, d.handles.lookup name = some h := by
  unfold ownHandle at hh
  split at hh
  · next hfound =>
    cases hh
    exact ⟨_, hfound⟩
  · cases hh

variable [Machine]

section Pair

variable {σ τ : Type} {R : σ → τ → Prop} {F : Failure → Failure → Prop} {store : Store σ}
  {other : Store τ} {name : String} {d e : Device} (hd : Matches F name d e)
include hd

omit [Machine] in
theorem ofOutcome_matches {α : Type} (x : Except Failure α) :
    Step.Matches R F (ofOutcome x) (ofOutcome x) :=
  .ofOutcome (.refl hd.same x)

section Word

variable {h : Handle} (hstore : store.Matches R other h)
include hstore

omit [Machine] in
theorem failRead_matches : Step.Matches R F (d.failRead store h) (e.failRead other h) := by
  unfold failRead
  rw [hd.size]
  by_cases hc : e.kind.claims "size" = true
  · rw [if_pos hc, if_pos hc]
    intro s t hst
    rw [Step.run_bind, Step.run_bind, Step.run_current, Step.run_current]
    dsimp only
    rw [hstore.probe s t hst]
    split
    · exact Step.Matches.fail (hd.same _) s t hst
    · exact Step.Matches.fail (hd.same _) s t hst
  · rw [if_neg hc, if_neg hc]
    exact .fail (hd.same _)

theorem readRegister_matches :
    Step.Matches R F (d.readRegister store h) (e.readRegister other h) := by
  unfold readRegister
  rw [hd.hidesWord]
  split
  · exact failRead_matches hd hstore
  · unfold Handle.read
    split
    · refine .bind (hstore.read.withFailure ?_) fun raw => ofOutcome_matches hd _
      rintro f _ rfl
      exact hd.same _
    · exact .fail (hd.same _)

theorem writeRegister_matches (value : Int) :
    Step.Matches R F (d.writeRegister store h value) (e.writeRegister other h value) := by
  unfold writeRegister
  rw [hd.hidesWord]
  split
  · exact .fail hd.writing
  · unfold Handle.write
    split
    · refine .bind (ofOutcome_matches hd _) fun raw => (hstore.write raw).withFailure ?_
      rintro f _ rfl
      exact hd.same _
    · exact .fail (hd.same _)

end Word

variable (hstore : ∀ name h, d.handles.lookup name = some h → store.Matches R other h)
include hstore

section Method

variable {m : Method} (hm : d.member name = .ok (.method m))
include hm

omit [Machine] in
theorem ownHandle_bind_matches {α : Type} {f : Handle → Step σ Failure α}
    {g : Handle → Step τ Failure α}
    (hf : ∀ h, store.Matches R other h → Step.Matches R F (f h) (g h)) :
    Step.Matches R F (ofOutcome (d.ownHandle m.register) >>= f)
      (ofOutcome (e.ownHandle m.register) >>= g) := by
  refine .outcome_bind (hd.own m hm) fun h hh => ?_
  obtain ⟨found, hfound⟩ := lookup_of_ownHandle hh
  exact hf h (hstore found h hfound)

theorem seedWord_matches (seed : Seed) : Step.Matches R F (d.seedWord store m.register seed)
    (e.seedWord other m.register seed) := by
  cases seed with
  | zero => exact .pure 0
  | preserved =>
    refine ownHandle_bind_matches hd hstore hm fun h hh => ?_
    refine .bind (readRegister_matches hd hh) fun value => ?_
    refine .bind (.ofOutcome (hd.preserved m hm)) fun mask => ?_
    exact .pure _

theorem update_matches (seed : Seed) (p : Primitive) (change : Int → Except Bits.Fault Int) :
    Step.Matches R F (d.update store m.register seed p change)
      (e.update other m.register seed p change) := by
  refine .bind (seedWord_matches hd hstore hm seed) fun word => ?_
  refine ownHandle_bind_matches hd hstore hm fun h hh => ?_
  refine .bind (.ofOutcome (hd.primitive p 5)) fun _ => ?_
  refine .bind (ofOutcome_matches hd _) fun value => ?_
  refine .bind (writeRegister_matches hd hh value) fun _ => ?_
  exact .pure _

theorem perform_matches (checks : Bool) (a : Argument) (action : Action) :
    Step.Matches R F (d.perform checks store m.register a action)
      (e.perform checks other m.register a action) := by
  unfold perform
  rw [hd.word]
  cases action with
  | readBit bit =>
    refine ownHandle_bind_matches hd hstore hm fun h hh => ?_
    refine .bind (readRegister_matches hd hh) fun word => ?_
    refine .bind (.ofOutcome (hd.primitive _ _)) fun _ => ?_
    refine .bind (ofOutcome_matches hd _) fun b => ?_
    exact .pure _
  | readRange start stop =>
    refine ownHandle_bind_matches hd hstore hm fun h hh => ?_
    refine .bind (readRegister_matches hd hh) fun word => ?_
    refine .bind (.ofOutcome (hd.primitive _ _)) fun _ => ?_
    refine .bind (ofOutcome_matches hd _) fun n => ?_
    exact .pure _
  | raiseBit seed bit => exact update_matches hd hstore hm seed _ _
  | writeBit seed bit => exact update_matches hd hstore hm seed _ _
  | writeRange seed start stop field width greatest =>
    refine .bind (ofOutcome_matches hd _) fun value => ?_
    refine .bind (.ofOutcome (hd.fits checks field width greatest value)) fun _ => ?_
    exact update_matches hd hstore hm seed _ _

end Method

/-- A call does the same on both devices. -/
theorem call_matches (checks : Bool) (args : List Argument) :
    Step.Matches R F (d.call checks store name args) (e.call checks other name args) := by
  refine .outcome_bind hd.member fun found hfound => ?_
  cases found with
  | method m =>
    unfold callMember Member.method?
    dsimp only
    rw [Step.ofOutcome_ok, Step.ofOutcome_ok, pure_bind, pure_bind]
    refine .bind (.ofOutcome (hd.argument m args)) fun a => ?_
    exact perform_matches hd hstore hfound checks a m.action
  | handle h => exact .fail (hd.same _)
  | constant value => exact .fail (hd.same _)

omit [Machine] hstore in
theorem handle_matches : RegisterMap.Matches F (d.handle name) (e.handle name) :=
  hd.member.bind fun _ => .refl hd.same _

omit [Machine] in
theorem handle_bind_matches {α : Type} {f : Handle → Step σ Failure α}
    {g : Handle → Step τ Failure α}
    (hf : ∀ h, store.Matches R other h → Step.Matches R F (f h) (g h)) :
    Step.Matches R F (ofOutcome (d.handle name) >>= f) (ofOutcome (e.handle name) >>= g) :=
  .outcome_bind (handle_matches hd) fun h hh => hf h (hstore name h (lookup_of_handle hh))

theorem read_matches : Step.Matches R F (d.read store name) (e.read other name) :=
  handle_bind_matches hd hstore fun _ hh => readRegister_matches hd hh

theorem write_matches (value : Int) :
    Step.Matches R F (d.write store name value) (e.write other name value) :=
  handle_bind_matches hd hstore fun _ hh => writeRegister_matches hd hh value

end Pair

end Device

end RegisterMap
