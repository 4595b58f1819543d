import Mathlib.Tactic.Common
import RegisterMap.Outcome
import RegisterMap.Step

/-!
# How chains end

What is known of the outcome of a chain of steps, of its answer as of its failure. Each step of the
chain passes on what the next one needs.
-/

namespace RegisterMap

variable {σ ε δ α β : Type} {P P' : ε → Prop} {Q Q' : α → Prop} {R : β → Prop}

/-- An outcome that is an answer with a property or a failure with another one. -/
def Ends (P : ε → Prop) (Q : α → Prop) : Except ε α → Prop
  | .ok a => Q a
  | .error e => P e

namespace Ends

theorem of_ok {x : Except ε α} {a : α} (h : Ends P Q x) (hx : x = .ok a) : Q a := by
  rw [hx] at h
  exact h

theorem of_error {x : Except ε α} {e : ε} (h : Ends P Q x) (hx : x = .error e) : P e := by
  rw [hx] at h
  exact h

theorem imp {x : Except ε α} (h : Ends P Q x) (hP : ∀ e, P e → P' e) (hQ : ∀ a, Q a → Q' a) :
    Ends P' Q' x := by
  cases x with
  | error e => exact hP e h
  | ok a => exact hQ a h

theorem bind {x : Except ε α} {f : α → Except ε β} (hx : Ends P Q x)
    (hf : ∀ a, Q a → Ends P R (f a)) : Ends P R (x >>= f) := by
  cases x with
  | error e => exact hx
  | ok a => exact hf a hx

theorem map {x : Except ε α} {f : α → β} (hx : Ends P Q x) (hf : ∀ a, Q a → R (f a)) :
    Ends P R (x.map f) := by
  cases x with
  | error e => exact hx
  | ok a => exact hf a hx

theorem mapError {x : Except ε α} {f : ε → δ} {S : δ → Prop} (hx : Ends P Q x)
    (hf : ∀ e, P e → S (f e)) : Ends S Q (x.mapError f) := by
  cases x with
  | error e => exact hf e hx
  | ok a => exact hx

theorem mapM {f : α → Except ε β} {xs : List α} (h : ∀ x ∈ xs, Ends P R (f x)) :
    Ends P (fun ys => ∀ y ∈ ys, R y) (xs.mapM f) := by
  induction xs with
  | nil => exact nofun
  | cons x xs ih =>
    rw [List.mapM_cons]
    refine (h x List.mem_cons_self).bind fun y hy => ?_
    refine (ih fun x hx => h x (List.mem_cons_of_mem _ hx)).bind fun ys hys => ?_
    exact List.forall_mem_cons.2 ⟨hy, hys⟩

end Ends

namespace Step

/-- A step whose outcome ends so from any state. -/
def Ends (P : ε → Prop) (Q : α → Prop) (x : Step σ ε α) : Prop :=
  ∀ s, RegisterMap.Ends P Q (x.run s).1

namespace Ends

theorem pure {a : α} (h : Q a) : Ends P Q (Pure.pure a : Step σ ε α) :=
  fun _ => h

theorem fail {e : ε} (h : P e) : Ends P Q (Step.fail e : Step σ ε α) :=
  fun _ => h

theorem change (f : σ → σ) : Ends P (fun _ => True) (Step.change f : Step σ ε Unit) :=
  fun _ => trivial

theorem ofOutcome {x : Except ε α} (h : RegisterMap.Ends P Q x) :
    Ends P Q (Step.ofOutcome x : Step σ ε α) :=
  fun _ => h

theorem imp {x : Step σ ε α} (h : Ends P Q x) (hP : ∀ e, P e → P' e) (hQ : ∀ a, Q a → Q' a) :
    Ends P' Q' x :=
  fun s => (h s).imp hP hQ

theorem bind {x : Step σ ε α} {f : α → Step σ ε β} (hx : Ends P Q x)
    (hf : ∀ a, Q a → Ends P R (f a)) : Ends P R (x >>= f) := by
  intro s
  have hs := hx s
  rw [run_bind]
  generalize x.run s = outcome at hs ⊢
  rcases outcome with ⟨e | a, t⟩
  · exact hs
  · exact hf a hs t

theorem foldlM {f : β → α → Step σ ε β} {xs : List α} {b : β} (hb : R b)
    (hf : ∀ b, R b → ∀ a ∈ xs, Ends P R (f b a)) : Ends P R (xs.foldlM f b) := by
  induction xs generalizing b with
  | nil => exact pure hb
  | cons a xs ih =>
    rw [List.foldlM_cons]
    refine (hf b hb a List.mem_cons_self).bind fun c hc => ?_
    exact ih hc fun b hb a ha => hf b hb a (List.mem_cons_of_mem _ ha)

theorem forM {f : α → Step σ ε Unit} {xs : List α}
    (hf : ∀ a ∈ xs, Ends P (fun _ => True) (f a)) : Ends P (fun _ => True) (xs.forM f) := by
  induction xs with
  | nil => exact pure trivial
  | cons a xs ih =>
    refine (hf a List.mem_cons_self).bind fun _ _ => ?_
    exact ih fun a ha => hf a (List.mem_cons_of_mem _ ha)

end Ends

end Step

end RegisterMap
