/-!
# Steps

A step reads and changes a state and may fail. The state it leaves counts in either case: what was
done before a failure stays done.
-/

namespace RegisterMap

/-- A step over states `σ` that answers with an `α` or fails with an `ε`. -/
def Step (σ ε α : Type) : Type :=
  σ → Except ε α × σ

namespace Step

variable {σ τ ε δ α β γ : Type}

/-- The outcome of a step from a state, and the state after it. -/
def run (x : Step σ ε α) (s : σ) : Except ε α × σ :=
  x s

/-- The step that answers with `a` and changes nothing. -/
def answer (a : α) : Step σ ε α :=
  fun s => (.ok a, s)

def fail (e : ε) : Step σ ε α :=
  fun s => (.error e, s)

/-- One step after another; nothing follows a failure. -/
def andThen (x : Step σ ε α) (f : α → Step σ ε β) : Step σ ε β :=
  fun s =>
    match x s with
    | (.ok a, s) => f a s
    | (.error e, s) => (.error e, s)

instance : Monad (Step σ ε) where
  pure := answer
  bind := andThen

def current : Step σ ε σ :=
  fun s => (.ok s, s)

def change (f : σ → σ) : Step σ ε Unit :=
  fun s => (.ok (), f s)

/-- The step of an outcome that needs no state. -/
def ofOutcome (x : Except ε α) : Step σ ε α :=
  fun s => (x, s)

/-- A step with its failures seen as others. -/
def withFailure (f : ε → δ) (x : Step σ ε α) : Step σ δ α :=
  fun s => ((x s).1.mapError f, (x s).2)

/-- A step on a part of a larger state. -/
def onPart (part : τ → σ) (put : σ → τ → τ) (x : Step σ ε α) : Step τ ε α :=
  fun t => ((x (part t)).1, put (x (part t)).2 t)

@[simp] theorem run_pure (a : α) (s : σ) : (pure a : Step σ ε α).run s = (.ok a, s) := rfl

@[simp] theorem run_answer (a : α) (s : σ) : (answer a : Step σ ε α).run s = (.ok a, s) := rfl

@[simp] theorem run_fail (e : ε) (s : σ) : (fail e : Step σ ε α).run s = (.error e, s) := rfl

@[simp] theorem run_current (s : σ) : (current : Step σ ε σ).run s = (.ok s, s) := rfl

@[simp] theorem run_change (f : σ → σ) (s : σ) :
    (change f : Step σ ε Unit).run s = (.ok (), f s) := rfl

@[simp] theorem run_ofOutcome (x : Except ε α) (s : σ) : (ofOutcome x).run s = (x, s) := rfl

theorem run_withFailure (f : ε → δ) (x : Step σ ε α) (s : σ) :
    (withFailure f x).run s = ((x.run s).1.mapError f, (x.run s).2) := rfl

/-- A run of two steps, by the outcome of the first. -/
theorem run_bind (x : Step σ ε α) (f : α → Step σ ε β) (s : σ) :
    (x >>= f).run s =
      match x.run s with
      | (.ok a, s) => (f a).run s
      | (.error e, s) => (.error e, s) := rfl

theorem run_bind_of_ok {x : Step σ ε α} {f : α → Step σ ε β} {s t : σ} {a : α}
    (h : x.run s = (.ok a, t)) : (x >>= f).run s = (f a).run t := by
  rw [run_bind, h]

theorem run_bind_of_error {x : Step σ ε α} {f : α → Step σ ε β} {s t : σ} {e : ε}
    (h : x.run s = (.error e, t)) : (x >>= f).run s = (.error e, t) := by
  rw [run_bind, h]

/-- Two steps succeed exactly when the first does and then the second. -/
theorem run_bind_eq_ok {x : Step σ ε α} {f : α → Step σ ε β} {s t : σ} {b : β} :
    (x >>= f).run s = (.ok b, t) ↔ ∃ a u, x.run s = (.ok a, u) ∧ (f a).run u = (.ok b, t) := by
  rw [run_bind]
  rcases x.run s with ⟨_ | a, u⟩
  · simp
  · constructor
    · exact fun h => ⟨a, u, rfl, h⟩
    · rintro ⟨a', u', h, h'⟩
      cases h
      exact h'

/-- Two steps fail exactly when the first does, or the second after it. -/
theorem run_bind_eq_error {x : Step σ ε α} {f : α → Step σ ε β} {s t : σ} {e : ε} :
    (x >>= f).run s = (.error e, t) ↔
      x.run s = (.error e, t) ∨ ∃ a u, x.run s = (.ok a, u) ∧ (f a).run u = (.error e, t) := by
  rw [run_bind]
  rcases x.run s with ⟨_ | a, u⟩
  · simp
  · constructor
    · exact fun h => .inr ⟨a, u, rfl, h⟩
    · rintro (h | ⟨a', u', h, h'⟩)
      · cases h
      · cases h
        exact h'

theorem run_ofOutcome_eq_ok {x : Except ε α} {s t : σ} {a : α} :
    (ofOutcome x : Step σ ε α).run s = (.ok a, t) ↔ x = .ok a ∧ s = t := by
  simp [Prod.ext_iff]

theorem run_withFailure_eq_error {f : ε → δ} {x : Step σ ε α} {s t : σ} {e : δ} :
    (withFailure f x).run s = (.error e, t) ↔ ∃ e', x.run s = (.error e', t) ∧ f e' = e := by
  rw [run_withFailure]
  rcases x.run s with ⟨e' | a, u⟩
  · constructor
    · rintro ⟨⟩
      exact ⟨e', rfl, rfl⟩
    · rintro ⟨_, ⟨⟩, rfl⟩
      rfl
  · constructor
    · rintro ⟨⟩
    · rintro ⟨_, ⟨⟩, _⟩

theorem run_withFailure_eq_ok {f : ε → δ} {x : Step σ ε α} {s t : σ} {a : α} :
    (withFailure f x).run s = (.ok a, t) ↔ x.run s = (.ok a, t) := by
  rw [run_withFailure]
  rcases x.run s with ⟨e | b, u⟩
  · constructor <;> rintro ⟨⟩
  · constructor <;> rintro ⟨⟩ <;> rfl

theorem ext {x y : Step σ ε α} (h : ∀ s, x.run s = y.run s) : x = y :=
  funext h

theorem bind_pure_id (x : Step σ ε α) : (x >>= fun a => pure a) = x := by
  refine ext fun s => ?_
  rw [run_bind]
  rcases x.run s with ⟨_ | a, t⟩ <;> rfl

theorem bind_bind (x : Step σ ε α) (f : α → Step σ ε β) (g : β → Step σ ε γ) :
    (x >>= f >>= g) = x >>= fun a => f a >>= g := by
  refine ext fun s => ?_
  rw [run_bind, run_bind, run_bind]
  rcases x.run s with ⟨_ | a, t⟩ <;> rfl

instance : LawfulMonad (Step σ ε) :=
  LawfulMonad.mk' _ bind_pure_id (fun _ _ => rfl) bind_bind

@[simp] theorem ofOutcome_ok (a : α) : (ofOutcome (.ok a) : Step σ ε α) = pure a := rfl

@[simp] theorem ofOutcome_error (e : ε) : (ofOutcome (.error e) : Step σ ε α) = fail e := rfl

@[simp] theorem fail_bind (e : ε) (f : α → Step σ ε β) :
    (fail e >>= f : Step σ ε β) = fail e := rfl

end Step

end RegisterMap
