import RegisterMap.Proofs.Accessor.Frame
import RegisterMap.Proofs.Memory.Spaces

/-!
# Calls that fail

An accessor writes as the last thing it does, and a memory that refuses a store has not changed. So
whatever fails in a call, all buffers hold what they held before: only the histories of buses tell
of it.
-/

namespace RegisterMap

variable [Machine]

open Memory

namespace Memory.Space

open Step

/-- Which buffers a space has and what they hold. -/
def Holds (held : Ref → Option Buffer) (s : Space) : Prop :=
  ∀ ref, s.buffer? ref = held ref

variable {held : Ref → Option Buffer} {s : Space} {ref : Ref}

theorem Holds.put_bus (h : s.Holds held) {b : Bus} (hb : s.bus? ref = some b) (c : Bus) :
    (s.put ref (.bus c)).Holds held := by
  intro q
  rw [← h q]
  by_cases hq : ref = q
  · subst hq
    have hnone : s.buffer? ref = none := by
      unfold bus? at hb
      unfold buffer?
      split at hb
      · next hcomponent => rw [hcomponent]
      · cases hb
    rw [hnone]
    unfold buffer? put
    rw [List.getElem?_set]
    split <;> simp_all
  · unfold buffer? put
    rw [List.getElem?_set_ne hq]

theorem readWithin_keeps (depth : Nat) (ref : Ref) (address size : Int) :
    (readWithin depth ref address size).Keeps (Holds held) :=
  readWithin_keeps_of (fun _ _ h => h) (fun _ _ _ _ hb h => h.put_bus hb _) depth ref address size

theorem writeWithin_keepsIfFails (depth : Nat) (ref : Ref) (address size value : Int) :
    (writeWithin depth ref address size value).KeepsIfFails (Holds held) :=
  writeWithin_keepsIfFails_of (fun _ _ h => h) (fun _ _ _ _ hb h => h.put_bus hb _) depth ref
    address size value

end Memory.Space

namespace Device

open Step

section Failing

variable {σ : Type} {P : σ → Prop} {store : Store σ} {d : Device}
  (hread : ∀ address size, (store.read address size).Keeps P)
  (hwrite : ∀ address size value, (store.write address size value).KeepsIfFails P)

include hwrite in
theorem writeRegister_keepsIfFails (h : Handle) (value : Int) :
    (d.writeRegister store h value).KeepsIfFails P := by
  unfold writeRegister
  split
  · exact (keeps_fail _).keepsIfFails
  · unfold Handle.write
    split
    · refine (keeps_ofOutcome _).bind_keepsIfFails fun raw => ?_
      exact (hwrite _ _ _).withFailure _
    · exact (keeps_fail _).keepsIfFails

include hread hwrite

theorem update_keepsIfFails (register : String) (seed : Seed) (p : Primitive)
    (change : Int → Except Bits.Fault Int) :
    (d.update store register seed p change).KeepsIfFails P := by
  unfold update
  refine (seedWord_keeps (fun h _ => hread _ _) seed).bind_keepsIfFails fun word => ?_
  refine (keeps_ofOutcome _).bind_keepsIfFails fun h => ?_
  refine (keeps_ofOutcome _).bind_keepsIfFails fun _ => ?_
  refine (keeps_ofOutcome _).bind_keepsIfFails fun value => ?_
  exact (writeRegister_keepsIfFails hwrite h value).bind_pure _

theorem perform_keepsIfFails (checks : Bool) (register : String) (a : Argument) (action : Action) :
    (d.perform checks store register a action).KeepsIfFails P := by
  have hget : ∀ {h}, d.ownHandle register = .ok h → (d.readRegister store h).Keeps P :=
    readRegister_keeps fun h _ => hread _ _
  cases action with
  | readBit bit =>
    refine (ownHandle_bind_keeps fun h hh => ?_).keepsIfFails
    refine (hget hh).bind fun word => ?_
    exact (keeps_ofOutcome _).bind fun _ => (keeps_ofOutcome _).bind fun b => keeps_pure _
  | readRange start stop =>
    refine (ownHandle_bind_keeps fun h hh => ?_).keepsIfFails
    refine (hget hh).bind fun word => ?_
    exact (keeps_ofOutcome _).bind fun _ => (keeps_ofOutcome _).bind fun n => keeps_pure _
  | raiseBit seed bit => exact update_keepsIfFails hread hwrite register seed _ _
  | writeBit seed bit => exact update_keepsIfFails hread hwrite register seed _ _
  | writeRange seed start stop field width greatest =>
    refine (keeps_ofOutcome _).bind_keepsIfFails fun value => ?_
    refine (keeps_ofOutcome _).bind_keepsIfFails fun _ => ?_
    exact update_keepsIfFails hread hwrite register seed _ _

theorem call_keepsIfFails (checks : Bool) (name : String) (args : List Argument) :
    (d.call checks store name args).KeepsIfFails P := by
  refine (keeps_ofOutcome _).bind_keepsIfFails fun found => ?_
  refine (keeps_ofOutcome _).bind_keepsIfFails fun m => ?_
  refine (keeps_ofOutcome _).bind_keepsIfFails fun a => ?_
  exact perform_keepsIfFails hread hwrite checks m.register a m.action

end Failing

/-- A call that fails leaves all buffers as they were, whatever memory the device is on. -/
theorem buffer?_of_call_eq_error {d : Device} {checks : Bool} {ref : Ref} {name : String}
    {args : List Argument} {s t : Space} {e : Failure}
    (h : (d.call checks (Space.store ref) name args).run s = (.error e, t)) (q : Ref) :
    t.buffer? q = s.buffer? q := by
  have hread : ∀ address size, ((Space.store ref).read address size).Keeps
      (Space.Holds s.buffer?) := fun address size =>
    keeps_current.bind fun s => Space.readWithin_keeps _ _ _ _
  have hwrite : ∀ address size value, ((Space.store ref).write address size value).KeepsIfFails
      (Space.Holds s.buffer?) := fun address size value =>
    keeps_current.bind_keepsIfFails fun s => Space.writeWithin_keepsIfFails _ _ _ _ _
  exact call_keepsIfFails hread hwrite checks name args s e t (fun _ => rfl) h q

end Device

end RegisterMap
