import RegisterMap.Proofs.Accessor.Frame

/-!
# What checks add

Checks are made in the constructor, in setters and in each primitive. A computation with checks is
compared with the same one without: it fails a check, or it does all that the other does, with
everything that the failures and the accesses to the memory consist of. So a whole session without
a failed check is the same when no checks are made.
-/

namespace RegisterMap

section Outcomes

variable {ε δ α β : Type} {P : ε → Prop} {Q : δ → Prop}

/-- An outcome that is the other one, unless it is a failure of some kind. -/
def Guards (P : ε → Prop) (x y : Except ε α) : Prop :=
  (∃ e, P e ∧ x = .error e) ∨ x = y

namespace Guards

theorem refl (x : Except ε α) : Guards P x x :=
  .inr rfl

theorem bind {x y : Except ε α} {f g : α → Except ε β} (hx : Guards P x y)
    (hf : ∀ a, Guards P (f a) (g a)) : Guards P (x >>= f) (y >>= g) := by
  rcases hx with ⟨e, he, rfl⟩ | rfl
  · exact .inl ⟨e, he, rfl⟩
  · cases x with
    | error e => exact refl _
    | ok a => exact hf a

theorem map {x y : Except ε α} (hx : Guards P x y) (f : α → β) : Guards P (x.map f) (y.map f) := by
  rcases hx with ⟨e, he, rfl⟩ | rfl
  · exact .inl ⟨e, he, rfl⟩
  · exact refl _

theorem mapError {x y : Except ε α} {f : ε → δ} (hx : Guards P x y) (hf : ∀ e, P e → Q (f e)) :
    Guards Q (x.mapError f) (y.mapError f) := by
  rcases hx with ⟨e, he, rfl⟩ | rfl
  · exact .inl ⟨f e, hf e he, rfl⟩
  · exact refl _

end Guards

end Outcomes

namespace Step

variable {σ τ ε α β : Type} {P : ε → Prop}

/-- A step that does what the other one does, unless it ends in a failure of some kind. -/
def Guards (P : ε → Prop) (x y : Step σ ε α) : Prop :=
  ∀ s, (∃ e, P e ∧ (x.run s).1 = .error e) ∨ x.run s = y.run s

namespace Guards

theorem refl (x : Step σ ε α) : Guards P x x :=
  fun _ => .inr rfl

theorem ofOutcome {x y : Except ε α} (h : RegisterMap.Guards P x y) :
    Guards P (Step.ofOutcome x : Step σ ε α) (Step.ofOutcome y) := by
  rcases h with h | rfl
  · exact fun s => .inl h
  · exact refl _

theorem bind {x y : Step σ ε α} {f g : α → Step σ ε β} (hx : Guards P x y)
    (hf : ∀ a, Guards P (f a) (g a)) : Guards P (x >>= f) (y >>= g) := by
  intro s
  rw [run_bind, run_bind]
  rcases hx s with ⟨e, he, hs⟩ | hs
  · generalize x.run s = outcome at hs ⊢
    obtain ⟨_, t⟩ := outcome
    cases hs
    exact .inl ⟨e, he, rfl⟩
  · rw [hs]
    generalize y.run s = outcome
    rcases outcome with ⟨e | a, t⟩
    · exact .inr rfl
    · exact hf a t

theorem onPart {part : τ → σ} {put : σ → τ → τ} {x y : Step σ ε α} (h : Guards P x y) :
    Guards P (Step.onPart part put x) (Step.onPart part put y) := by
  intro t
  rcases h (part t) with ⟨e, he, hs⟩ | hs
  · exact .inl ⟨e, he, hs⟩
  · exact .inr (congrArg (fun outcome => (outcome.1, put outcome.2 t)) hs)

end Guards

end Step

namespace Bits

/-- A failed check of a primitive. -/
def Fault.IsCheck (f : Fault) : Prop :=
  (Failure.bits f).category = .assertion

theorem check_guards (condition : Prop) [Decidable condition] {f : Fault} (hf : f.IsCheck) :
    Guards Fault.IsCheck (check true condition f) (check false condition f) := by
  cases hshort : f.numbers.all Number.isShort with
  | false =>
    rw [check_of_long hshort, check_of_long hshort]
    exact .refl _
  | true =>
    by_cases hc : condition
    · rw [check_of_holds hc hshort, check_of_holds hc hshort]
      exact .refl _
    · rw [check_eq hshort, if_pos ⟨rfl, hc⟩]
      exact .inl ⟨f, hf, rfl⟩

theorem checkRange_guards (start stop : Int) (t : IntType) :
    Guards Fault.IsCheck (checkRange true start stop t) (checkRange false start stop t) :=
  check_guards _ rfl

variable [Machine]

theorem getBit_guards (value index : Int) (t : IntType) :
    Guards Fault.IsCheck (getBit true value index t) (getBit false value index t) := by
  refine .bind (check_guards _ rfl) fun _ => ?_
  exact .refl _

theorem setBit_guards (value index : Int) (flag : Bool) (t : IntType) :
    Guards Fault.IsCheck (setBit true value index flag t) (setBit false value index flag t) := by
  refine .bind (check_guards _ rfl) fun _ => ?_
  exact .refl _

theorem checkFits_guards (start stop bits : Int) :
    Guards Fault.IsCheck (checkFits true start stop bits) (checkFits false start stop bits) := by
  unfold checkFits
  by_cases hneg : bits < 0
  · simp only [if_pos hneg]
    exact check_guards False rfl
  · simp only [if_neg hneg]
    refine .bind (.refl _) fun _ => ?_
    exact check_guards _ rfl

theorem getBitRange_guards (value start stop : Int) (t : IntType) :
    Guards Fault.IsCheck (getBitRange true value start stop t)
      (getBitRange false value start stop t) := by
  refine .bind (checkRange_guards start stop t) fun _ => ?_
  exact .refl _

theorem setBitRange_guards (value start stop bits : Int) (t : IntType) :
    Guards Fault.IsCheck (setBitRange true value start stop bits t)
      (setBitRange false value start stop bits t) := by
  refine .bind (checkRange_guards start stop t) fun _ => ?_
  refine .bind (checkFits_guards start stop bits) fun _ => ?_
  exact .refl _

end Bits

/-- A failed check. -/
def Failure.IsCheck (e : Failure) : Prop :=
  e.category = .assertion

instance : DecidablePred Failure.IsCheck :=
  fun e => decEq e.category .assertion

namespace AccessorClass

variable (k : AccessorClass) (base : Int)

theorem checkBase_guards :
    Guards Failure.IsCheck (checkBase true k base) (checkBase false k base) := by
  unfold checkBase
  by_cases hports : k.code.ports.isEmpty = true
  · simp only [if_pos hports]
    exact .refl _
  · by_cases hclaims : k.claims "__getattribute__" = true
    · simp only [if_neg hports, if_pos hclaims]
      exact .refl _
    · by_cases hhides : k.hides AccessorCode.guardName = true
      · simp only [if_neg hports, if_neg hclaims, if_pos hhides]
        exact .refl _
      · simp only [if_neg hports, if_neg hclaims, if_neg hhides, Bool.true_and, Bool.false_and,
          Bool.false_eq_true, if_false]
        by_cases hbase : (!(k.code.ports.map (·.value)).contains base) = true
        · rw [if_pos hbase]
          exact .inl ⟨.notAPort base k.code.className, rfl, rfl⟩
        · rw [if_neg hbase]
          exact .refl _

theorem construct_guards :
    Guards Failure.IsCheck (construct true k base) (construct false k base) := by
  unfold construct
  by_cases hnew : k.claims "__new__" = true
  · simp only [if_pos hnew]
    exact .refl _
  · simp only [if_neg hnew]
    refine .bind (checkBase_guards k base) fun _ => ?_
    exact .refl _

end AccessorClass

namespace Device

/-- A class in the place of the check makes the checks of its constructor instead. -/
theorem checkFits_guards (d : Device) (field : String) (width greatest : Nat) (value : Int) :
    Guards Failure.IsCheck (d.checkFits true field width greatest value)
      (d.checkFits false field width greatest value) := by
  unfold checkFits
  by_cases hhides : d.kind.hides AccessorCode.guardName = true
  · simp only [if_pos hhides]
    exact .map (d.kind.construct_guards _) _
  · simp only [if_neg hhides, Bool.true_and, Bool.false_and, Bool.false_eq_true, if_false]
    by_cases hfits : (!decide (0 ≤ value ∧ value ≤ greatest)) = true
    · rw [if_pos hfits]
      exact .inl ⟨.valueTooWide field width value, rfl, rfl⟩
    · rw [if_neg hfits]
      exact .refl _

variable [Machine] {σ : Type} (store : Store σ) (d : Device)

theorem update_guards (register : String) (seed : Seed) (p : Primitive)
    {change change' : Int → Except Bits.Fault Int}
    (hchange : ∀ word, Guards Bits.Fault.IsCheck (change word) (change' word)) :
    Step.Guards Failure.IsCheck (d.update store register seed p change)
      (d.update store register seed p change') := by
  refine .bind (.refl _) fun word => ?_
  refine .bind (.refl _) fun h => ?_
  refine .bind (.refl _) fun _ => ?_
  refine .bind (.ofOutcome ((hchange word).mapError fun _ he => he)) fun _ => ?_
  exact .refl _

theorem perform_guards (register : String) (a : Argument) (action : Action) :
    Step.Guards Failure.IsCheck (d.perform true store register a action)
      (d.perform false store register a action) := by
  cases action with
  | readBit bit =>
    refine .bind (.refl _) fun h => ?_
    refine .bind (.refl _) fun word => ?_
    refine .bind (.refl _) fun _ => ?_
    refine .bind (.ofOutcome ((Bits.getBit_guards word bit _).mapError fun _ he => he)) fun _ => ?_
    exact .refl _
  | readRange start stop =>
    refine .bind (.refl _) fun h => ?_
    refine .bind (.refl _) fun word => ?_
    refine .bind (.refl _) fun _ => ?_
    refine .bind
      (.ofOutcome ((Bits.getBitRange_guards word start stop _).mapError fun _ he => he)) fun _ => ?_
    exact .refl _
  | raiseBit seed bit =>
    exact d.update_guards store register seed _ fun word => Bits.setBit_guards word bit true _
  | writeBit seed bit =>
    exact d.update_guards store register seed _ fun word => Bits.setBit_guards word bit a.isTrue _
  | writeRange seed start stop field width greatest =>
    refine .bind (.refl _) fun value => ?_
    refine .bind (.ofOutcome (d.checkFits_guards field width greatest value)) fun _ => ?_
    exact d.update_guards store register seed _ fun word =>
      Bits.setBitRange_guards word start stop value _

theorem call_guards (name : String) (args : List Argument) :
    Step.Guards Failure.IsCheck (d.call true store name args) (d.call false store name args) := by
  refine .bind (.refl _) fun found => ?_
  refine .bind (.refl _) fun m => ?_
  refine .bind (.refl _) fun a => ?_
  exact d.perform_guards store m.register a m.action

end Device

/-- A step of a session with the devices of a class. -/
inductive Move where
  | make (base : Int)
  | call (name : String) (args : List Argument)
  | read (register : String)
  | write (register : String) (value : Int)
  deriving Repr

/-- What a step of a session answers; one that needs a device when there is none is left out. -/
inductive Reply where
  | made
  | answered (a : Answer)
  | value (n : Int)
  | written
  | leftOut
  deriving DecidableEq, Repr

/-- A session: its device, the last one that could be made, and its memory. -/
structure Session (σ : Type) where
  device : Option Device
  memory : σ

/-- What there is to see of a step of a session: what came of it, the accesses that it tried and
the memory after it. -/
structure Event (σ : Type) where
  outcome : Except Failure Reply
  accesses : List Memory.Access
  memory : σ

/-- Whether a step of a session ends in a failed check. -/
def Event.failsCheck {σ : Type} (v : Event σ) : Bool :=
  match v.outcome with
  | .ok _ => false
  | .error e => decide e.IsCheck

namespace Session

section Devices

variable {σ : Type}

/-- A step on the device of a session, if it has one. -/
def onDevice (x : Device → Step σ Failure Reply) : Step (Session σ) Failure Reply := do
  let s ← Step.current
  match s.device with
  | none => pure .leftOut
  | some d => Step.onPart memory (fun memory s => { s with memory }) (x d)

theorem onDevice_guards {x y : Device → Step σ Failure Reply}
    (h : ∀ d, Step.Guards Failure.IsCheck (x d) (y d)) :
    Step.Guards Failure.IsCheck (onDevice x) (onDevice y) := by
  refine .bind (.refl _) fun s => ?_
  cases s.device with
  | none => exact .refl _
  | some d => exact (h d).onPart

end Devices

variable [Machine] {σ : Type} (checks : Bool) (k : AccessorClass) (store : Store σ)

def move : Move → Step (Session σ) Failure Reply
  | .make base => do
    let d ← Step.ofOutcome (k.construct checks base)
    Step.change fun s => { s with device := some d }
    pure .made
  | .call name args => onDevice fun d => do
    let a ← d.call checks store name args
    pure (.answered a)
  | .read register => onDevice fun d => do
    let n ← d.read store register
    pure (.value n)
  | .write register value => onDevice fun d => do
    d.write store register value
    pure .written

/-- A step of a session on a memory of which the accesses are traced. -/
def event (m : Move) (s : Session σ) : Event σ × Session σ :=
  let (outcome, t) := (move checks k store.traced m).run ⟨s.device, (s.memory, [])⟩
  (⟨outcome, t.memory.2, t.memory.1⟩, ⟨t.device, t.memory.1⟩)

/-- All that there is to see of a session, one step after the other. -/
def events : List Move → Session σ → List (Event σ)
  | [], _ => []
  | m :: ms, s => (event checks k store m s).1 :: events ms (event checks k store m s).2

theorem move_guards (m : Move) :
    Step.Guards Failure.IsCheck (move true k store m) (move false k store m) := by
  cases m with
  | make base =>
    refine .bind (.ofOutcome (k.construct_guards base)) fun d => ?_
    exact .refl _
  | call name args =>
    refine onDevice_guards fun d => ?_
    refine .bind (d.call_guards store name args) fun _ => ?_
    exact .refl _
  | read register => exact .refl _
  | write register value => exact .refl _

/-- A step that fails no check is the same without checks. -/
theorem event_eq {m : Move} {s : Session σ} (h : (event true k store m s).1.failsCheck = false) :
    event false k store m s = event true k store m s := by
  rcases move_guards k store.traced m ⟨s.device, (s.memory, [])⟩ with ⟨e, he, hs⟩ | hs
  · have hfails : (event true k store m s).1.failsCheck = true := by
      unfold Event.failsCheck event
      dsimp only
      rw [hs]
      exact decide_eq_true he
    rw [hfails] at h
    cases h
  · unfold event
    rw [hs]

/-- Checks only add failures: a session in which no check fails is the same, step by step, in what
comes of it, in the accesses to the memory and in the memory, when no checks are made. -/
theorem events_eq_of_no_failed_check (ms : List Move) (s : Session σ)
    (h : ∀ v ∈ events true k store ms s, v.failsCheck = false) :
    events false k store ms s = events true k store ms s := by
  induction ms generalizing s with
  | nil => rfl
  | cons m ms ih =>
    have hm : event false k store m s = event true k store m s :=
      event_eq k store (h _ List.mem_cons_self)
    unfold events
    rw [hm, ih _ fun v hv => h v (List.mem_cons_of_mem _ hv)]

end Session

namespace Session

/-- Makes a timer in its place, sets its level and reads it, and uses the registers directly. -/
def timerMoves : List Move :=
  [.make 4096, .call "set_level" [.number 3], .call "get_level" [], .read "ctrl",
    .write "data" 70000, .read "data"]

/-- A session on a bus with a buffer in the place of the timer. -/
def timer : Session Memory.Space :=
  ⟨none, ⟨[.buffer ⟨4096, 16, .blank, by decide⟩,
    .bus ⟨[⟨"dev", ⟨4096, 4112⟩, 0⟩], false, true, 16, []⟩], []⟩⟩

theorem events_eq_timer :
    (∀ v ∈ events true .timer (Memory.Space.store 1) timerMoves timer, v.failsCheck = false) ∧
      events false .timer (Memory.Space.store 1) timerMoves timer =
        events true .timer (Memory.Space.store 1) timerMoves timer := by
  have h : ∀ v ∈ events true .timer (Memory.Space.store 1) timerMoves timer,
      v.failsCheck = false := by
    decide +kernel
  exact ⟨h, events_eq_of_no_failed_check _ _ _ _ h⟩

end Session

end RegisterMap
