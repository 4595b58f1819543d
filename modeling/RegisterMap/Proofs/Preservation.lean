import Mathlib.Tactic.Common
import RegisterMap.Step

/-!
# What steps keep

Steps that keep a property of states, always or when they fail, and steps whose outcome does not
depend on the state. Each of these is composed along the chain of a step.
-/

namespace RegisterMap.Step

variable {σ ε δ α β : Type} {P : σ → Prop}

/-- A step that keeps a property of states, whether it succeeds or not. -/
def Keeps (P : σ → Prop) (x : Step σ ε α) : Prop :=
  ∀ s, P s → P (x.run s).2

theorem keeps_pure (a : α) : (pure a : Step σ ε α).Keeps P :=
  fun _ hs => hs

theorem keeps_fail (e : ε) : (fail e : Step σ ε α).Keeps P :=
  fun _ hs => hs

theorem keeps_current : (current : Step σ ε σ).Keeps P :=
  fun _ hs => hs

theorem keeps_ofOutcome (x : Except ε α) : (ofOutcome x : Step σ ε α).Keeps P :=
  fun _ hs => hs

theorem keeps_change {f : σ → σ} (hf : ∀ s, P s → P (f s)) :
    (change f : Step σ ε Unit).Keeps P :=
  hf

/-- A step that looks at the state keeps what it keeps from the state that it has seen. -/
theorem keeps_current_bind {f : σ → Step σ ε α} (h : ∀ s, P s → P ((f s).run s).2) :
    (current >>= f).Keeps P :=
  h

theorem keeps_outcome_bind {x : Except ε α} {f : α → Step σ ε β} {s : σ} (hs : P s)
    (h : ∀ a, x = .ok a → P ((f a).run s).2) : P ((ofOutcome x >>= f).run s).2 := by
  cases x with
  | error e => exact hs
  | ok a => exact h a rfl

/-- A step that keeps a property of states when it fails. -/
def KeepsIfFails (P : σ → Prop) (x : Step σ ε α) : Prop :=
  ∀ s e t, P s → x.run s = (.error e, t) → P t

theorem keepsIfFails_change (f : σ → σ) : (change f : Step σ ε Unit).KeepsIfFails P := by
  rintro s e t - ⟨⟩

namespace Keeps

variable {x : Step σ ε α} (hx : x.Keeps P)
include hx

theorem bind {f : α → Step σ ε β} (hf : ∀ a, (f a).Keeps P) : (x >>= f).Keeps P := by
  intro s hs
  have hxs := hx s hs
  rw [run_bind]
  generalize x.run s = outcome at hxs ⊢
  rcases outcome with ⟨_ | a, t⟩
  · exact hxs
  · exact hf a t hxs

theorem withFailure {f : ε → δ} : (Step.withFailure f x).Keeps P := by
  intro s hs
  rw [run_withFailure]
  exact hx s hs

theorem keepsIfFails : x.KeepsIfFails P := by
  intro s e t hs hrun
  have ht := hx s hs
  rwa [hrun] at ht

theorem bind_keepsIfFails {f : α → Step σ ε β} (hf : ∀ a, (f a).KeepsIfFails P) :
    (x >>= f).KeepsIfFails P := by
  intro s e t hs hrun
  obtain hfails | ⟨a, u, hok, hrest⟩ := run_bind_eq_error.1 hrun
  · exact hx.keepsIfFails s e t hs hfails
  · have hu := hx s hs
    rw [hok] at hu
    exact hf a u e t hu hrest

end Keeps

namespace KeepsIfFails

variable {x : Step σ ε α} (hx : x.KeepsIfFails P)
include hx

/-- What comes after the last step that may fail does not count. -/
theorem bind_pure (f : α → β) : (x >>= fun a => pure (f a)).KeepsIfFails P := by
  intro s e t hs hrun
  obtain hfails | ⟨a, u, -, hrest⟩ := run_bind_eq_error.1 hrun
  · exact hx s e t hs hfails
  · cases hrest

theorem withFailure (f : ε → δ) : (Step.withFailure f x).KeepsIfFails P := by
  intro s e t hs hrun
  obtain ⟨e', hfails, -⟩ := run_withFailure_eq_error.1 hrun
  exact hx s e' t hs hfails

end KeepsIfFails

/-- A step that keeps a property of states and, from states with it, fails only as `E` says. -/
structure FailsOnly (P : σ → Prop) (E : ε → Prop) (x : Step σ ε α) : Prop where
  keeps : x.Keeps P
  fails : ∀ s e t, P s → x.run s = (.error e, t) → E e

namespace FailsOnly

variable {E E' : ε → Prop} {D : δ → Prop}

theorem pure (a : α) : (Pure.pure a : Step σ ε α).FailsOnly P E :=
  ⟨keeps_pure a, nofun⟩

theorem fail {e : ε} (h : E e) : (Step.fail e : Step σ ε α).FailsOnly P E := by
  refine ⟨keeps_fail e, ?_⟩
  rintro s e' t - ⟨⟩
  exact h

theorem ofOutcome {x : Except ε α} (h : ∀ e, x = .error e → E e) :
    (Step.ofOutcome x).FailsOnly P E := by
  refine ⟨keeps_ofOutcome x, fun s e t _ hrun => h e ?_⟩
  exact congrArg Prod.fst hrun

theorem change {f : σ → σ} (hf : ∀ s, P s → P (f s)) :
    (Step.change f : Step σ ε Unit).FailsOnly P E :=
  ⟨keeps_change hf, nofun⟩

theorem bind {x : Step σ ε α} {f : α → Step σ ε β} (hx : x.FailsOnly P E)
    (hf : ∀ a, (f a).FailsOnly P E) : (x >>= f).FailsOnly P E := by
  refine ⟨hx.keeps.bind fun a => (hf a).keeps, fun s e t hs hrun => ?_⟩
  obtain hfails | ⟨a, u, hok, hrest⟩ := run_bind_eq_error.1 hrun
  · exact hx.fails s e t hs hfails
  · have hu := hx.keeps s hs
    rw [hok] at hu
    exact (hf a).fails u e t hu hrest

theorem withFailure {f : ε → δ} {x : Step σ ε α} (hx : x.FailsOnly P E)
    (h : ∀ e, E e → D (f e)) : (Step.withFailure f x).FailsOnly P D := by
  refine ⟨hx.keeps.withFailure, fun s e t hs hrun => ?_⟩
  obtain ⟨e', hfails, rfl⟩ := run_withFailure_eq_error.1 hrun
  exact h e' (hx.fails s e' t hs hfails)

theorem imp {x : Step σ ε α} (hx : x.FailsOnly P E) (h : ∀ e, E e → E' e) : x.FailsOnly P E' :=
  ⟨hx.keeps, fun s e t hs hrun => h e (hx.fails s e t hs hrun)⟩

theorem mapM {f : α → Step σ ε β} {xs : List α} (h : ∀ x ∈ xs, (f x).FailsOnly P E) :
    (xs.mapM f).FailsOnly P E := by
  induction xs with
  | nil => exact pure []
  | cons x xs ih =>
    rw [List.mapM_cons]
    refine (h x List.mem_cons_self).bind fun y => ?_
    exact (ih fun x hx => h x (List.mem_cons_of_mem _ hx)).bind fun ys => pure _

end FailsOnly

/-- A step that answers only as `A` says. -/
def Answers (A : α → Prop) (x : Step σ ε α) : Prop :=
  ∀ s a t, x.run s = (.ok a, t) → A a

namespace Answers

variable {A : α → Prop} {B : β → Prop}

theorem pure {a : α} (h : A a) : (Pure.pure a : Step σ ε α).Answers A := by
  rintro s a' t ⟨⟩
  exact h

theorem ofOutcome {x : Except ε α} (h : ∀ a, x = .ok a → A a) :
    (Step.ofOutcome x : Step σ ε α).Answers A :=
  fun _ a _ hrun => h a (congrArg Prod.fst hrun)

theorem bind {x : Step σ ε α} {f : α → Step σ ε β} (hx : x.Answers A)
    (hf : ∀ a, A a → (f a).Answers B) : (x >>= f).Answers B := by
  intro s b t hrun
  obtain ⟨a, u, hfirst, hrest⟩ := run_bind_eq_ok.1 hrun
  exact hf a (hx s a u hfirst) u b t hrest

/-- What the first step answers need not be known. -/
theorem after {x : Step σ ε α} {f : α → Step σ ε β} (hf : ∀ a, (f a).Answers B) :
    (x >>= f).Answers B :=
  bind (A := fun _ => True) (fun _ _ _ _ => trivial) fun a _ => hf a

theorem mapM {f : α → Step σ ε β} {xs : List α} (h : ∀ x ∈ xs, (f x).Answers B) :
    (xs.mapM f).Answers fun ys => ∀ y ∈ ys, B y := by
  induction xs with
  | nil => exact pure (List.forall_mem_nil _)
  | cons x xs ih =>
    rw [List.mapM_cons]
    refine (h x List.mem_cons_self).bind fun y hy => ?_
    refine (ih fun x hx => h x (List.mem_cons_of_mem _ hx)).bind fun ys hys => ?_
    exact pure (List.forall_mem_cons.2 ⟨hy, hys⟩)

end Answers

/-- A step that has the same outcome from all states. -/
def IsSteady (x : Step σ ε α) : Prop :=
  ∀ s t, (x.run s).1 = (x.run t).1

theorem isSteady_pure (a : α) : (pure a : Step σ ε α).IsSteady :=
  fun _ _ => rfl

theorem isSteady_ofOutcome (x : Except ε α) : (ofOutcome x : Step σ ε α).IsSteady :=
  fun _ _ => rfl

theorem isSteady_change (f : σ → σ) : (change f : Step σ ε Unit).IsSteady :=
  fun _ _ => rfl

namespace IsSteady

variable {x : Step σ ε α} (hx : x.IsSteady)
include hx

theorem exists_run_eq_ok {s t : σ} {a : α} (h : x.run s = (.ok a, t)) (u : σ) :
    ∃ v, x.run u = (.ok a, v) := by
  have hu : (x.run u).1 = .ok a := by rw [hx u s, h]
  exact ⟨(x.run u).2, Prod.ext hu rfl⟩

theorem bind {f : α → Step σ ε β} (hf : ∀ a, (f a).IsSteady) : (x >>= f).IsSteady := by
  intro s t
  have hst := hx s t
  rw [run_bind, run_bind]
  generalize x.run s = outcome at hst ⊢
  generalize x.run t = other at hst ⊢
  obtain ⟨outcome, s⟩ := outcome
  obtain ⟨other, t⟩ := other
  obtain rfl : outcome = other := hst
  cases outcome with
  | error e => rfl
  | ok a => exact hf a s t

end IsSteady

theorem isSteady_foldlM {f : β → α → Step σ ε β} (hf : ∀ b a, (f b a).IsSteady) (xs : List α)
    (b : β) : (xs.foldlM f b).IsSteady := by
  induction xs generalizing b with
  | nil => exact isSteady_pure b
  | cons a xs ih =>
    rw [List.foldlM_cons]
    exact (hf b a).bind ih

end RegisterMap.Step
