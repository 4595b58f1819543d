import Mathlib.Tactic.Common
import RegisterMap.Outcome
import RegisterMap.Step

/-!
# Steps side by side

Two computations that answer the same, or both fail and do so in related ways, and steps that do
this on related states and leave related states. Each of these is composed along a chain.
-/

namespace RegisterMap

section Outcomes

variable {ε δ ε' δ' α β α' β' : Type} {F : ε → δ → Prop} {G : ε' → δ' → Prop}

/-- Outcomes that are related answers or related failures. -/
inductive Pairs (Q : α → β → Prop) (F : ε → δ → Prop) : Except ε α → Except δ β → Prop
  | ok {a : α} {b : β} (h : Q a b) : Pairs Q F (.ok a) (.ok b)
  | error {e : ε} {e' : δ} (h : F e e') : Pairs Q F (.error e) (.error e')

theorem Pairs.bind {Q : α → β → Prop} {Q' : α' → β' → Prop} {x : Except ε α} {y : Except δ β}
    {f : α → Except ε α'} {g : β → Except δ β'} (hx : Pairs Q F x y)
    (hf : ∀ a b, Q a b → Pairs Q' F (f a) (g b)) : Pairs Q' F (x >>= f) (y >>= g) := by
  cases hx with
  | ok h => exact hf _ _ h
  | error h => exact .error h

/-- The answers of related outcomes are what the outcomes say. -/
theorem Pairs.answers {Q : α → β → Prop} {x : Except ε α} {y : Except δ β} (h : Pairs Q F x y) :
    Pairs (fun a b => x = .ok a ∧ y = .ok b) F x y := by
  cases h with
  | ok h => exact .ok ⟨rfl, rfl⟩
  | error h => exact .error h

theorem Pairs.imp {Q Q' : α → β → Prop} {F' : ε → δ → Prop} {x : Except ε α} {y : Except δ β}
    (h : Pairs Q F x y) (hF : ∀ e e', F e e' → F' e e') (hQ : ∀ a b, Q a b → Q' a b) :
    Pairs Q' F' x y := by
  cases h with
  | ok h => exact .ok (hQ _ _ h)
  | error h => exact .error (hF _ _ h)

/-- Outcomes that are the same answer or related failures. -/
def Matches (F : ε → δ → Prop) (x : Except ε α) (y : Except δ α) : Prop :=
  Pairs Eq F x y

namespace Matches

theorem ok (a : α) : Matches F (.ok a) (.ok a) :=
  Pairs.ok rfl

theorem error {e : ε} {e' : δ} (h : F e e') : Matches (α := α) F (.error e) (.error e') :=
  Pairs.error h

theorem refl {F : ε → ε → Prop} (hF : ∀ e, F e e) (x : Except ε α) : Matches F x x := by
  cases x with
  | ok a => exact .ok a
  | error e => exact .error (hF e)

theorem eq {x y : Except ε α} (h : Matches Eq x y) : x = y := by
  cases h with
  | ok h => rw [h]
  | error h => rw [h]

theorem bind {x : Except ε α} {y : Except δ α} {f : α → Except ε β} {g : α → Except δ β}
    (hx : Matches F x y) (hf : ∀ a, Matches F (f a) (g a)) : Matches F (x >>= f) (y >>= g) := by
  refine Pairs.bind hx ?_
  rintro a _ rfl
  exact hf a

theorem mapError {x : Except ε α} {y : Except δ α} {p : ε → ε'} {q : δ → δ'} (hx : Matches F x y)
    (h : ∀ e e', F e e' → G (p e) (q e')) : Matches G (x.mapError p) (y.mapError q) := by
  cases hx with
  | ok h => exact h ▸ .ok _
  | error he => exact .error (h _ _ he)

end Matches

end Outcomes

namespace Step

variable {σ τ ε δ ε' δ' α β α' β' : Type} {R : σ → τ → Prop} {F : ε → δ → Prop} {G : ε' → δ' → Prop}

/-- Steps that come from related states to related outcomes and to related states again. -/
def Pairs (R : σ → τ → Prop) (Q : α → β → Prop) (F : ε → δ → Prop) (x : Step σ ε α)
    (y : Step τ δ β) : Prop :=
  ∀ s t, R s t → RegisterMap.Pairs Q F (x.run s).1 (y.run t).1 ∧ R (x.run s).2 (y.run t).2

namespace Pairs

variable {Q : α → β → Prop}

theorem pure {a : α} {b : β} (h : Q a b) :
    Pairs R Q F (pure a : Step σ ε α) (pure b : Step τ δ β) :=
  fun _ _ hst => ⟨.ok h, hst⟩

theorem ofOutcome {x : Except ε α} {y : Except δ β} (h : RegisterMap.Pairs Q F x y) :
    Pairs R Q F (Step.ofOutcome x) (Step.ofOutcome y) :=
  fun _ _ hst => ⟨h, hst⟩

theorem bind {Q' : α' → β' → Prop} {x : Step σ ε α} {y : Step τ δ β} {f : α → Step σ ε α'}
    {g : β → Step τ δ β'} (hx : Pairs R Q F x y) (hf : ∀ a b, Q a b → Pairs R Q' F (f a) (g b)) :
    Pairs R Q' F (x >>= f) (y >>= g) := by
  intro s t hst
  obtain ⟨houtcome, hstate⟩ := hx s t hst
  rw [run_bind, run_bind]
  generalize x.run s = left at houtcome hstate ⊢
  generalize y.run t = right at houtcome hstate ⊢
  obtain ⟨outcome, u⟩ := left
  obtain ⟨outcome', v⟩ := right
  cases houtcome with
  | ok h => exact hf _ _ h u v hstate
  | error h => exact ⟨.error h, hstate⟩

end Pairs

/-- Steps that come from related states to matching outcomes and to related states again. -/
def Matches (R : σ → τ → Prop) (F : ε → δ → Prop) (x : Step σ ε α) (y : Step τ δ α) : Prop :=
  Pairs R Eq F x y

namespace Matches

theorem refl {F : ε → ε → Prop} (hF : ∀ e, F e e) (x : Step σ ε α) : Matches Eq F x x := by
  rintro s _ rfl
  exact ⟨RegisterMap.Matches.refl hF _, rfl⟩

theorem pure (a : α) : Matches R F (pure a : Step σ ε α) (pure a : Step τ δ α) :=
  Pairs.pure rfl

theorem fail {e : ε} {e' : δ} (h : F e e') :
    Matches R F (Step.fail e : Step σ ε α) (Step.fail e') :=
  fun _ _ hst => ⟨.error h, hst⟩

theorem ofOutcome {x : Except ε α} {y : Except δ α} (h : RegisterMap.Matches F x y) :
    Matches R F (Step.ofOutcome x) (Step.ofOutcome y) :=
  Pairs.ofOutcome h

variable {x : Step σ ε α} {y : Step τ δ α}

theorem bind {f : α → Step σ ε β} {g : α → Step τ δ β} (hx : Matches R F x y)
    (hf : ∀ a, Matches R F (f a) (g a)) : Matches R F (x >>= f) (y >>= g) := by
  refine Pairs.bind hx ?_
  rintro a _ rfl
  exact hf a

/-- What follows a computation that needs no state may use what came of it. -/
theorem outcome_bind {x : Except ε α} {y : Except δ α} {f : α → Step σ ε β} {g : α → Step τ δ β}
    (hx : RegisterMap.Matches F x y) (hf : ∀ a, x = .ok a → Matches R F (f a) (g a)) :
    Matches R F (Step.ofOutcome x >>= f) (Step.ofOutcome y >>= g) := by
  cases hx with
  | ok heq =>
    cases heq
    exact hf _ rfl
  | error h => exact fail h

theorem withFailure {p : ε → ε'} {q : δ → δ'} (hx : Matches R F x y)
    (h : ∀ e e', F e e' → G (p e) (q e')) :
    Matches R G (Step.withFailure p x) (Step.withFailure q y) := by
  intro s t hst
  obtain ⟨houtcome, hstate⟩ := hx s t hst
  exact ⟨RegisterMap.Matches.mapError houtcome h, hstate⟩

end Matches

/-- What comes of steps that are taken one after the other, whether they fail or not, and the state
after them. -/
def runAll : List (Step σ ε α) → σ → List (Except ε α) × σ
  | [], s => ([], s)
  | x :: xs, s => ((x.run s).1 :: (runAll xs (x.run s).2).1, (runAll xs (x.run s).2).2)

/-- Steps that match one by one match one after the other. -/
theorem runAll_matches {κ : Type} {f : κ → Step σ ε α} {g : κ → Step τ δ α} {ks : List κ}
    (h : ∀ k ∈ ks, Matches R F (f k) (g k)) {s : σ} {t : τ} (hst : R s t) :
    List.Forall₂ (RegisterMap.Matches F) (runAll (ks.map f) s).1 (runAll (ks.map g) t).1 ∧
      R (runAll (ks.map f) s).2 (runAll (ks.map g) t).2 := by
  induction ks generalizing s t with
  | nil => exact ⟨.nil, hst⟩
  | cons k ks ih =>
    obtain ⟨hk, hks⟩ := List.forall_mem_cons.1 h
    obtain ⟨houtcome, hstate⟩ := hk s t hst
    obtain ⟨houtcomes, hend⟩ := ih hks hstate
    exact ⟨.cons houtcome houtcomes, hend⟩

end Step

end RegisterMap
