import Mathlib.Data.List.Induction
import RegisterMap.Proofs.Matching
import RegisterMap.Settings

/-!
# Scopes

A program changes its settings, opens scopes in which checks are made or not, leaves the innermost
of them, and makes checks. However deep its scopes are nested and whatever is changed inside, checks
are after a scope what they were before it, while the width of registers stays what it was set to
last.
-/

namespace RegisterMap

namespace Settings

/-- Whether a change is of a setting that there is not. -/
def Change.isUnknown : Change → Bool
  | .unknown _ => true
  | _ => false

/-- What a change sets the checks to, if it is one of them. -/
def Change.validate? : Change → Option Bool
  | .validate on => some on
  | _ => none

/-- What a change sets the width of registers to, if it is one of it. -/
def Change.wordBits? : Change → Option Int
  | .wordBits bits => some bits
  | _ => none

/-- Known changes are all made, the last one of a setting counting. -/
theorem configure_of_known (s : Settings) {changes : List Change}
    (h : changes.any Change.isUnknown = false) :
    s.configure changes = .ok ⟨(changes.reverse.findSome? Change.validate?).getD s.validate,
      (changes.reverse.findSome? Change.wordBits?).getD s.wordBits⟩ := by
  induction changes generalizing s with
  | nil => rfl
  | cons change changes ih =>
    rw [List.any_cons, Bool.or_eq_false_iff] at h
    have hrest : ∀ t, s.apply change = .ok t →
        s.configure (change :: changes) = t.configure changes := by
      intro t ht
      rw [configure, List.foldlM_cons, ht]
      rfl
    rw [List.reverse_cons, List.findSome?_append, List.findSome?_append]
    cases change with
    | validate on =>
      rw [hrest _ rfl, ih _ h.2]
      cases changes.reverse.findSome? Change.validate? <;>
        cases changes.reverse.findSome? Change.wordBits? <;> rfl
    | wordBits bits =>
      rw [hrest _ rfl, ih _ h.2]
      cases changes.reverse.findSome? Change.validate? <;>
        cases changes.reverse.findSome? Change.wordBits? <;> rfl
    | unknown name => cases h.1

theorem configure_of_unknown (s : Settings) {changes : List Change}
    (h : changes.any Change.isUnknown = true) :
    ∃ name, .unknown name ∈ changes ∧ s.configure changes = .error (.unknownSetting name) := by
  induction changes generalizing s with
  | nil => cases h
  | cons change changes ih =>
    rw [configure, List.foldlM_cons]
    cases change with
    | validate on =>
      obtain ⟨name, hname, he⟩ := ih { s with validate := on } h
      exact ⟨name, List.mem_cons_of_mem _ hname, he⟩
    | wordBits bits =>
      obtain ⟨name, hname, he⟩ := ih { s with wordBits := bits } h
      exact ⟨name, List.mem_cons_of_mem _ hname, he⟩
    | unknown name => exact ⟨name, List.mem_cons_self, rfl⟩

end Settings

namespace Scopes

/-- Something that a program does with its settings. -/
inductive Act where
  | configure (changes : List Settings.Change)
  | enter (on : Bool)
  | leave
  | assert (condition : Bool) (message : String)
  deriving DecidableEq, Repr

/-- Performs an act, which may be rejected. -/
def perform : Act → Step Scopes Failure Unit
  | .configure changes => do
    let s ← Step.current
    let t ← Step.ofOutcome (s.configure changes)
    Step.change fun _ => t
  | .enter on => Step.change fun s => s.enter on
  | .leave => Step.change leave
  | .assert condition message => do
    let s ← Step.current
    Step.ofOutcome (s.settings.assert condition message)

/-- The settings after acts in order, those that are rejected among them. -/
def after (s : Scopes) (acts : List Act) : Scopes :=
  (Step.runAll (acts.map perform) s).2

/-- How many scopes are open after acts, if each scope that they leave is open; `n` were open
before. -/
def depth? : Nat → List Act → Option Nat
  | n, [] => some n
  | n, .enter _ :: acts => depth? (n + 1) acts
  | 0, .leave :: _ => none
  | n + 1, .leave :: acts => depth? n acts
  | n, .configure _ :: acts => depth? n acts
  | n, .assert _ _ :: acts => depth? n acts

/-- Acts that end inside a scope: the scope was entered after `outer`, and all that were opened in
it since are left again. -/
structure EndsInside (acts outer : List Act) (on : Bool) (body : List Act) : Prop where
  eq_append : acts = outer ++ .enter on :: body
  closed : depth? 0 body = some 0

/-- What comes of an act and how it leaves the settings that it met. -/
def Act.IsPerformed (s : Scopes) : Act → Except Failure Unit × Scopes → Prop
  | .configure changes, (outcome, t) =>
    ((∃ name, .unknown name ∈ changes) → (∃ e, outcome = .error e) ∧ t = s) ∧
      ((∀ name, .unknown name ∉ changes) → outcome = .ok () ∧ t.saved = s.saved ∧
        t.settings.validate =
          (changes.reverse.findSome? Settings.Change.validate?).getD s.settings.validate ∧
        t.settings.wordBits =
          (changes.reverse.findSome? Settings.Change.wordBits?).getD s.settings.wordBits)
  | .enter on, (outcome, t) =>
    outcome = .ok () ∧ t.settings = { s.settings with validate := on }
  | .leave, (outcome, t) => outcome = .ok () ∧ t.settings.wordBits = s.settings.wordBits
  | .assert condition message, (outcome, t) =>
    (outcome = .error (.asserted message) ↔ condition = false ∧ s.settings.validate = true) ∧
      (outcome = .ok () ↔ ¬(condition = false ∧ s.settings.validate = true)) ∧ t = s

/-- What an act sets the width of registers to, if it does and is not rejected. -/
def Act.wordBits? : Act → Option Int
  | .configure changes =>
    if changes.any Settings.Change.isUnknown then none
    else changes.reverse.findSome? Settings.Change.wordBits?
  | _ => none

/-- The width of registers that was set last. -/
def lastWordBits? (acts : List Act) : Option Int :=
  acts.reverse.findSome? Act.wordBits?

/-! ## One act -/

section Acts

variable (s : Scopes)

theorem run_configure_of_known {changes : List Settings.Change}
    (h : changes.any Settings.Change.isUnknown = false) :
    (perform (.configure changes)).run s = (.ok (), ⟨⟨(changes.reverse.findSome?
      Settings.Change.validate?).getD s.settings.validate, (changes.reverse.findSome?
      Settings.Change.wordBits?).getD s.settings.wordBits⟩, s.saved⟩) := by
  have hs := s.settings.configure_of_known h
  unfold perform
  rw [Step.run_bind_of_ok (Step.run_current s), Scopes.configure, hs]
  rfl

theorem run_configure_of_unknown {changes : List Settings.Change}
    (h : changes.any Settings.Change.isUnknown = true) :
    ∃ name, .unknown name ∈ changes ∧
      (perform (.configure changes)).run s = (.error (.unknownSetting name), s) := by
  obtain ⟨name, hname, hs⟩ := s.settings.configure_of_unknown h
  refine ⟨name, hname, ?_⟩
  unfold perform
  rw [Step.run_bind_of_ok (Step.run_current s), Scopes.configure, hs]
  rfl

theorem run_assert (condition : Bool) (message : String) :
    (perform (.assert condition message)).run s = (s.settings.assert condition message, s) :=
  rfl

theorem wordBits_leave : s.leave.settings.wordBits = s.settings.wordBits := by
  unfold leave
  split <;> rfl

theorem isPerformed (act : Act) : act.IsPerformed s ((perform act).run s) := by
  cases act with
  | configure changes =>
    have hknown : changes.any Settings.Change.isUnknown = true ↔
        ∃ name, .unknown name ∈ changes := by
      rw [List.any_eq_true]
      constructor
      · rintro ⟨change, hmem, hunknown⟩
        cases change with
        | unknown name => exact ⟨name, hmem⟩
        | _ => cases hunknown
      · rintro ⟨name, hmem⟩
        exact ⟨_, hmem, rfl⟩
    cases h : changes.any Settings.Change.isUnknown with
    | true =>
      obtain ⟨name, hmem, hrun⟩ := s.run_configure_of_unknown h
      rw [hrun]
      exact ⟨fun _ => ⟨⟨_, rfl⟩, rfl⟩, fun hall => absurd hmem (hall name)⟩
    | false =>
      rw [s.run_configure_of_known h]
      refine ⟨fun hsome => ?_, fun _ => ⟨rfl, rfl, rfl, rfl⟩⟩
      rw [hknown.2 hsome] at h
      cases h
  | enter on => exact ⟨rfl, rfl⟩
  | leave => exact ⟨rfl, s.wordBits_leave⟩
  | assert condition message =>
    rw [run_assert, Settings.assert]
    cases condition <;> cases h : s.settings.validate <;> simp [Act.IsPerformed, h]

/-- An act sets the width of registers or keeps it. -/
theorem wordBits_perform (act : Act) : ((perform act).run s).2.settings.wordBits =
    act.wordBits?.getD s.settings.wordBits := by
  cases act with
  | configure changes =>
    cases h : changes.any Settings.Change.isUnknown with
    | true =>
      obtain ⟨name, -, hs⟩ := s.run_configure_of_unknown h
      rw [hs, Act.wordBits?, if_pos h]
      rfl
    | false => rw [s.run_configure_of_known h, Act.wordBits?, if_neg (by simp [h])]
  | enter on => rfl
  | leave => exact s.wordBits_leave
  | assert condition message => rfl

theorem saved_configure (changes : List Settings.Change) :
    ((perform (.configure changes)).run s).2.saved = s.saved := by
  cases h : changes.any Settings.Change.isUnknown with
  | true =>
    obtain ⟨name, -, hs⟩ := s.run_configure_of_unknown h
    rw [hs]
  | false => rw [s.run_configure_of_known h]

end Acts

/-! ## Acts in order -/

@[simp] theorem after_nil (s : Scopes) : s.after [] = s := rfl

@[simp] theorem after_cons (s : Scopes) (act : Act) (acts : List Act) :
    s.after (act :: acts) = after ((perform act).run s).2 acts := rfl

theorem after_append (s : Scopes) (acts more : List Act) :
    s.after (acts ++ more) = (s.after acts).after more := by
  induction acts generalizing s with
  | nil => rfl
  | cons act acts ih => exact ih _

theorem depth?_append (n : Nat) (acts more : List Act) :
    depth? n (acts ++ more) = (depth? n acts).bind (depth? · more) := by
  induction acts generalizing n with
  | nil => rfl
  | cons act acts ih =>
    cases act with
    | leave =>
      cases n with
      | zero => rfl
      | succ n => exact ih n
    | _ => exact ih _

/-- What was saved before stays saved while the scopes that are opened since come and go. -/
theorem exists_saved_after {acts : List Act} {n k : Nat} (h : depth? n acts = some k) {s : Scopes}
    {inner outer : List Bool} (hs : s.saved = inner ++ outer) (hn : inner.length = n) :
    ∃ inner', (s.after acts).saved = inner' ++ outer ∧ inner'.length = k := by
  induction acts generalizing n s inner with
  | nil =>
    cases h
    exact ⟨inner, hs, hn⟩
  | cons act acts ih =>
    cases act with
    | configure changes =>
      exact ih h ((s.saved_configure changes).trans hs) hn
    | enter on =>
      have henter : (s.enter on).saved = (s.settings.validate :: inner) ++ outer :=
        congrArg (s.settings.validate :: ·) hs
      exact ih h henter (congrArg (· + 1) hn)
    | leave =>
      cases n with
      | zero => cases h
      | succ n =>
        -- what is left was opened since, so it does not reach what was saved before
        obtain ⟨on, inner, rfl⟩ := List.exists_cons_of_length_eq_add_one hn
        have hleave : s.leave.saved = inner ++ outer := by
          rw [leave, hs]
          rfl
        exact ih h hleave (Nat.succ.inj hn)
    | assert condition message => exact ih h hs hn

theorem saved_after_of_closed {body : List Act} (h : depth? 0 body = some 0) (s : Scopes) :
    (s.after body).saved = s.saved := by
  obtain ⟨inner, hsaved, hlength⟩ := exists_saved_after h (List.nil_append _).symm rfl
  rw [hsaved, List.length_eq_zero_iff.1 hlength]
  rfl

/-- A scope that is left gives back how checks were when it was entered. -/
theorem EndsInside.after_leave {acts outer body : List Act} {on : Bool}
    (h : EndsInside acts outer on body) (s : Scopes) :
    (s.after (acts ++ [.leave])).settings.validate = (s.after outer).settings.validate ∧
      (s.after (acts ++ [.leave])).saved = (s.after outer).saved := by
  have hbody : (((s.after outer).enter on).after body).saved =
      (s.after outer).settings.validate :: (s.after outer).saved :=
    saved_after_of_closed h.closed _
  have hleave : s.after (acts ++ [.leave]) = (((s.after outer).enter on).after body).leave := by
    rw [h.eq_append, after_append, after_append]
    rfl
  rw [hleave, leave, hbody]
  exact ⟨rfl, rfl⟩

/-- Of the scopes that are open one was entered when `k` were open, and `j` were opened in it since
that are open still. -/
theorem exists_entered {acts : List Act} {k j : Nat} (h : depth? 0 acts = some (k + 1 + j)) :
    ∃ outer on body, acts = outer ++ .enter on :: body ∧ depth? 0 outer = some k ∧
      depth? 0 body = some j := by
  induction acts using List.reverseRecOn generalizing j with
  | nil =>
    have hzero : 0 = k + 1 + j := Option.some.inj h
    omega
  | append_singleton front act ih =>
    rw [depth?_append, Option.bind_eq_some_iff] at h
    obtain ⟨n, hfront, hact⟩ := h
    -- an act behind which the scope is still open is the last one of its body
    have hlast : ∀ {i}, n = k + 1 + i → depth? i [act] = some j →
        ∃ outer on body, front ++ [act] = outer ++ .enter on :: body ∧ depth? 0 outer = some k ∧
          depth? 0 body = some j := by
      rintro i rfl hi
      obtain ⟨outer, on, body, rfl, houter, hbody⟩ := ih hfront
      refine ⟨outer, on, body ++ [act], List.append_assoc _ _ _, houter, ?_⟩
      rw [depth?_append, hbody]
      exact hi
    cases act with
    | configure changes => exact hlast (Option.some.inj hact) rfl
    | assert condition message => exact hlast (Option.some.inj hact) rfl
    | enter on =>
      have hn : n + 1 = k + 1 + j := Option.some.inj hact
      cases j with
      | zero =>
        obtain rfl : n = k := by omega
        exact ⟨front, on, [], rfl, hfront, rfl⟩
      | succ j => exact hlast (i := j) (by omega) rfl
    | leave =>
      cases n with
      | zero => cases hact
      | succ n =>
        have hn : n = k + 1 + j := Option.some.inj hact
        exact hlast (i := j + 1) (by omega) rfl

/-- Acts after which a scope can be left end inside one. -/
theorem exists_endsInside {acts : List Act} {n : Nat}
    (h : depth? 0 (acts ++ [.leave]) = some n) :
    ∃ outer on body, EndsInside acts outer on body := by
  rw [depth?_append, Option.bind_eq_some_iff] at h
  obtain ⟨k, hacts, hleave⟩ := h
  cases k with
  | zero => cases hleave
  | succ k =>
    obtain ⟨outer, on, body, heq, -, hclosed⟩ := exists_entered (j := 0) hacts
    exact ⟨outer, on, body, heq, hclosed⟩

theorem wordBits_after (s : Scopes) (acts : List Act) :
    (s.after acts).settings.wordBits = (lastWordBits? acts).getD s.settings.wordBits := by
  induction acts generalizing s with
  | nil => rfl
  | cons act acts ih =>
    rw [after_cons, ih, wordBits_perform, lastWordBits?, lastWordBits?, List.reverse_cons,
      List.findSome?_append]
    cases acts.reverse.findSome? Act.wordBits? <;> cases hact : act.wordBits? <;> simp [hact]

/-- Of a program that leaves no scope but open ones: whatever scope it leaves, checks are then what
they were when that scope was entered, and the width of registers is always what was set last.
Entering a scope switches checks and nothing else; a call with an unknown setting is rejected and
changes nothing, any other one sets what it names; and a check fails exactly when its condition does
not hold and checks are made at that moment. -/
theorem settings_of_acts (settings : Settings) (acts : List Act)
    (hacts : (depth? 0 acts).isSome = true) :
    (∀ front rest, acts = front ++ .leave :: rest →
      (∃ outer on body, EndsInside front outer on body) ∧
      ∀ outer on body, EndsInside front outer on body →
        (after ⟨settings, []⟩ (front ++ [.leave])).settings.validate =
          (after ⟨settings, []⟩ outer).settings.validate) ∧
    (∀ front rest, acts = front ++ rest →
      (after ⟨settings, []⟩ front).settings.wordBits =
        (lastWordBits? front).getD settings.wordBits) ∧
    ∀ front act rest, acts = front ++ act :: rest →
      act.IsPerformed (after ⟨settings, []⟩ front)
        ((perform act).run (after ⟨settings, []⟩ front)) := by
  refine ⟨?left, fun front _ _ => wordBits_after _ front, fun _ act _ _ => isPerformed _ act⟩
  case left =>
    rintro front rest rfl
    refine ⟨?_, fun outer on body hinside => (hinside.after_leave _).1⟩
    obtain ⟨n, hn⟩ := Option.isSome_iff_exists.1 hacts
    have hsplit : front ++ .leave :: rest = (front ++ [.leave]) ++ rest := by simp
    rw [hsplit, depth?_append, Option.bind_eq_some_iff] at hn
    obtain ⟨k, hk, -⟩ := hn
    exact exists_endsInside hk

/-- Two scopes, one in the other, with changes and checks in them. -/
def nestedActs : List Act :=
  [.configure [.wordBits 16], .enter false, .assert false "ignored", .enter true,
    .configure [.validate false, .wordBits 64], .configure [.wordBits 8, .unknown "colour"],
    .assert false "ignored", .leave, .assert false "ignored", .leave, .assert false "boom"]

/-- After the outer one of the two scopes checks are made again, and registers have the width that
was set in the inner one. -/
theorem settings_of_nestedActs : (depth? 0 nestedActs).isSome = true ∧
    EndsInside (nestedActs.take 9) (nestedActs.take 1) false ((nestedActs.drop 2).take 7) ∧
    (after ⟨{}, []⟩ (nestedActs.take 10)).settings.validate = true ∧
    (after ⟨{}, []⟩ (nestedActs.take 10)).settings.wordBits = 64 := by
  have hacts : (depth? 0 nestedActs).isSome = true := rfl
  have hinside : EndsInside (nestedActs.take 9) (nestedActs.take 1) false
      ((nestedActs.drop 2).take 7) := ⟨rfl, rfl⟩
  obtain ⟨hleft, hbits, -⟩ := settings_of_acts {} nestedActs hacts
  exact ⟨hacts, hinside, (hleft _ (nestedActs.drop 10) rfl).2 _ _ _ hinside,
    hbits _ (nestedActs.drop 10) rfl⟩

end Scopes

end RegisterMap
