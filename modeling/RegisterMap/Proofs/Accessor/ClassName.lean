import RegisterMap.Compile
import RegisterMap.Proofs.Accessor.Checks
import RegisterMap.Proofs.Accessor.Exact
import RegisterMap.Proofs.Accessor.Exchange

/-!
# The name of the class

The class name is only a name. A description is compiled and its code is loaded under two class
names that mean nothing else in the code: the texts are the same but for the names, and whatever is
then asked of the classes and of their devices, on the same memory, comes to the same but for the
names in complaints, with the same accesses and the same memory.
-/

namespace RegisterMap

open AccessorClass AccessorCode

/-! ## What is asked -/

/-- Something that is asked of a class or of its device: a step of a session, with checks or
without, a constant of the class, or the handle of a register. -/
inductive Errand where
  | move (checks : Bool) (m : Move)
  | constant (name : String)
  | handle (register : String)
  deriving Repr

/-- The names that a step of a session asks for. -/
def Move.asked : Move → List String
  | .make _ => []
  | .call name _ => [name]
  | .read register => [register]
  | .write register _ => [register]

def Errand.asked : Errand → List String
  | .move _ m => m.asked
  | .constant name => [name]
  | .handle register => [register]

/-- What comes of an errand. -/
inductive Finding where
  | reply (r : Reply)
  | constant (value : ConstantValue)
  | handle (h : Handle) (text : String)
  deriving DecidableEq, Repr

/-- What there is to see of an errand: what came of it, the accesses that it tried and the memory
after it. -/
structure Sight (σ : Type) where
  outcome : Except Failure Finding
  accesses : List Memory.Access
  memory : σ

/-- Sights that are the same but for names in complaints. -/
structure Sight.Alike {σ : Type} (n n' : String) (v w : Sight σ) : Prop where
  outcome : Matches (Failure.Renamed n n') v.outcome w.outcome
  accesses : v.accesses = w.accesses
  memory : v.memory = w.memory

namespace Session

variable [Machine] {σ : Type} (k : AccessorClass) (store : Store σ)

/-- An errand with a class; the handle of a register is left out if there is no device. -/
def errand : Errand → Step (Session σ) Failure Finding
  | .move checks m => do
    let r ← move checks k store m
    pure (.reply r)
  | .constant name => do
    let value ← Step.ofOutcome ((Binding.accessors k).constant name)
    pure (.constant value)
  | .handle register => do
    let s ← Step.current
    match s.device with
    | none => pure (.reply .leftOut)
    | some d => do
      let h ← Step.ofOutcome (d.handle register)
      pure (.handle h (d.handleText h))

/-- An errand on a memory of which the accesses are traced. -/
def sight (e : Errand) (s : Session σ) : Sight σ × Session σ :=
  let (outcome, t) := (errand k store.traced e).run ⟨s.device, (s.memory, [])⟩
  (⟨outcome, t.memory.2, t.memory.1⟩, ⟨t.device, t.memory.1⟩)

/-- All that there is to see of errands, one after the other. -/
def sights : List Errand → Session σ → List (Sight σ)
  | [], _ => []
  | e :: es, s => (sight k store e s).1 :: sights es (sight k store e s).2

end Session

/-! ## Sessions side by side -/

/-- Sessions on the same memory, with devices of the same code under two names or with none. -/
inductive Session.Paired {σ : Type} (c : AccessorCode) (n' : String) :
    Session σ → Session σ → Prop where
  | fresh (memory : σ) : Paired c n' ⟨none, memory⟩ ⟨none, memory⟩
  | made (base : Int) (memory : σ) :
    Paired c n' ⟨some (c.deviceAt base), memory⟩ ⟨some ((c.renamed n').deviceAt base), memory⟩

namespace AccessorCode.Interchanges

open Session

variable {c : AccessorCode} {n' : String} {asked : List String} {σ : Type}

/-- A step on the devices of two sessions, that is taken by both or left out by both. -/
theorem onDevice_matches {x y : Device → Step σ Failure Reply}
    (hxy : ∀ base, Step.Matches Eq (Failure.Renamed c.className n') (x (c.deviceAt base))
      (y ((c.renamed n').deviceAt base))) :
    Step.Matches (Paired c n') (Failure.Renamed c.className n') (onDevice x) (onDevice y) := by
  rintro s t (⟨memory⟩ | ⟨base, memory⟩)
  · exact ⟨.ok rfl, .fresh memory⟩
  · obtain ⟨houtcome, hmemory⟩ := hxy base memory memory rfl
    unfold onDevice
    rw [Step.run_bind, Step.run_bind, Step.run_current, Step.run_current]
    dsimp only [Step.onPart, Step.run] at hmemory ⊢
    rw [← hmemory]
    exact ⟨houtcome, .made base _⟩

variable (h : c.Interchanges n' asked)
include h

theorem constant_renamed {name : String} (hname : name ∈ asked) :
    (Binding.accessors c.loaded).constant name =
      (Binding.accessors (c.renamed n').loaded).constant name := by
  unfold Binding.constant
  dsimp only
  rw [constant?_renamed (h.foundAlike hname)]

theorem handleText_renamed (base : Int) (handle : Handle) :
    (c.deviceAt base).handleText handle = ((c.renamed n').deviceAt base).handleText handle := by
  unfold Device.handleText hidesWord
  rw [kind_deviceAt, kind_deviceAt, h.first.hides_eq_false, h.hides_renamed,
    if_neg Bool.false_ne_true, if_neg Bool.false_ne_true]

variable [Machine] (store : Store σ)

theorem move_matches (checks : Bool) {m : Move} (hm : ∀ x ∈ m.asked, x ∈ asked) :
    Step.Matches (Paired c n') (Failure.Renamed c.className n') (move checks c.loaded store m)
      (move checks (c.renamed n').loaded store m) := by
  have hstore : ∀ handle, store.Matches Eq store handle := fun handle =>
    ⟨.refl (fun _ => rfl) _, fun _ => .refl (fun _ => rfl) _, fun _ _ hst => hst ▸ rfl⟩
  cases m with
  | make base =>
    refine Step.Pairs.bind (.ofOutcome (h.construct_pairs checks base)) ?_
    rintro _ _ ⟨rfl, rfl⟩ s t (⟨memory⟩ | ⟨_, memory⟩)
    · exact ⟨.ok rfl, .made base memory⟩
    · exact ⟨.ok rfl, .made base memory⟩
  | call name args =>
    have hname : name ∈ asked := hm name List.mem_cons_self
    refine onDevice_matches fun base => ?_
    have hcall := Device.call_matches (h.device_matches hname base) (fun _ _ _ => hstore _)
    exact .bind (hcall checks args) fun _ => .pure _
  | read register =>
    have hregister : register ∈ asked := hm register List.mem_cons_self
    refine onDevice_matches fun base => ?_
    exact .bind (Device.read_matches (h.device_matches hregister base) fun _ _ _ => hstore _)
      fun _ => .pure _
  | write register value =>
    have hregister : register ∈ asked := hm register List.mem_cons_self
    refine onDevice_matches fun base => ?_
    have hwrite := Device.write_matches (h.device_matches hregister base) (fun _ _ _ => hstore _)
    exact .bind (hwrite value) fun _ => .pure _

/-- An errand comes to the same with both classes, and leaves sessions side by side. -/
theorem errand_matches {e : Errand} (he : ∀ x ∈ e.asked, x ∈ asked) :
    Step.Matches (Paired c n') (Failure.Renamed c.className n') (errand c.loaded store e)
      (errand (c.renamed n').loaded store e) := by
  cases e with
  | move checks m => exact .bind (h.move_matches store checks he) fun _ => .pure _
  | constant name =>
    refine .bind (.ofOutcome ?_) fun _ => .pure _
    rw [h.constant_renamed (he name List.mem_cons_self)]
    exact .refl .same _
  | handle register =>
    have hregister : register ∈ asked := he register List.mem_cons_self
    rintro s t (⟨memory⟩ | ⟨base, memory⟩)
    · exact ⟨.ok rfl, .fresh memory⟩
    · have hhandle := Device.handle_matches (h.device_matches hregister base)
      have hfound : Step.Matches (Paired (σ := σ) c n') (Failure.Renamed c.className n')
          (Step.ofOutcome ((c.deviceAt base).handle register) >>= fun handle =>
            pure (Finding.handle handle ((c.deviceAt base).handleText handle)))
          (Step.ofOutcome (((c.renamed n').deviceAt base).handle register) >>= fun handle =>
            pure (Finding.handle handle (((c.renamed n').deviceAt base).handleText handle))) := by
        refine .bind (.ofOutcome hhandle) fun handle => ?_
        rw [h.handleText_renamed]
        exact .pure _
      exact hfound _ _ (.made base memory)

/-- What there is to see of an errand is the same with both classes, but for names. -/
theorem sight_alike {e : Errand} (he : ∀ x ∈ e.asked, x ∈ asked) {s t : Session σ}
    (hst : Paired c n' s t) :
    (sight c.loaded store e s).1.Alike c.className n' (sight (c.renamed n').loaded store e t).1 ∧
      Paired c n' (sight c.loaded store e s).2 (sight (c.renamed n').loaded store e t).2 := by
  have htraced : Paired c n' (⟨s.device, (s.memory, [])⟩ : Session (σ × List Memory.Access))
      ⟨t.device, (t.memory, [])⟩ := by
    cases hst with
    | fresh memory => exact .fresh _
    | made base memory => exact .made base _
  obtain ⟨houtcome, hafter⟩ := h.errand_matches store.traced he _ _ htraced
  unfold sight
  dsimp only
  generalize (errand c.loaded store.traced e).run _ = left at houtcome hafter ⊢
  generalize (errand (c.renamed n').loaded store.traced e).run _ = right at houtcome hafter ⊢
  obtain ⟨outcome, u⟩ := left
  obtain ⟨outcome', v⟩ := right
  cases hafter with
  | fresh memory => exact ⟨⟨houtcome, rfl, rfl⟩, .fresh _⟩
  | made base memory => exact ⟨⟨houtcome, rfl, rfl⟩, .made base _⟩

/-- All that there is to see is the same with both classes, but for names. -/
theorem sights_alike {es : List Errand} (hes : ∀ x ∈ es.flatMap Errand.asked, x ∈ asked)
    {s t : Session σ} (hst : Paired c n' s t) :
    List.Forall₂ (Sight.Alike c.className n') (sights c.loaded store es s)
      (sights (c.renamed n').loaded store es t) := by
  induction es generalizing s t with
  | nil => exact .nil
  | cons e es ih =>
    rw [List.flatMap_cons, List.forall_mem_append] at hes
    obtain ⟨halike, hafter⟩ := h.sight_alike store hes.1 hst
    exact .cons halike (ih hes.2 hafter)

end AccessorCode.Interchanges

/-! ## Compiling -/

/-- Notices that are the same but for class names in them. -/
inductive Notice.Renamed (n n' : String) : Notice → Notice → Prop where
  | same (notice : Notice) : Renamed n n' notice notice
  | generated (lines accessors : Nat) :
    Renamed n n' (.generated n lines accessors) (.generated n' lines accessors)
  | loaded :
    Renamed n n' (.loaded ("regforge_" ++ Text.lower n)) (.loaded ("regforge_" ++ Text.lower n'))

/-- Options for another class name. -/
def Options.withClass (o : Options) (n : String) (hn : Text.isIdentifier n = true) : Options :=
  { o with className := n, isIdentifier_className := hn }

namespace AccessorCode

variable {c : AccessorCode}

/-- A class name that has no other meaning finds the class. -/
theorem Admits.ofName_loaded (h : c.Admits c.className) :
    Binding.ofName c.loaded c.className = .ok (.accessors c.loaded) := by
  rw [Binding.ofName, if_neg h.ordinary.1, if_neg h.ordinary.2, code_loaded, if_pos h.canonical]

end AccessorCode

namespace Compile

/-- Loads code: what the class name then finds. -/
def find (o : Options) (c : AccessorCode) : Noting Failure Binding := do
  let k ← Step.ofOutcome (AccessorClass.load o.sourceName c)
  note (.loaded ("regforge_" ++ Text.lower o.className))
  Step.ofOutcome (Binding.ofName k o.className)

/-- Compiles a description and loads its code. -/
def build [Machine] (d : Description) (o : Options) (external : External) :
    Noting Failure (AccessorCode × Binding) := do
  let (_, c) ← compile d o external
  let found ← find o c
  pure (c, found)

/-- Code and what was found in it, under two class names: texts that are the same but for names, and
classes of which all errands come to the same but for names. -/
structure BuiltAlike [Machine] (n n' : String) (es : List Errand)
    (x y : AccessorCode × Binding) : Prop where
  text : Text.Renamed n n' x.1.text y.1.text
  classes : ∃ k k', x.2 = .accessors k ∧ y.2 = .accessors k' ∧
    ∀ (σ : Type) (store : Store σ) (memory : σ), List.Forall₂ (Sight.Alike n n')
      (Session.sights k store es ⟨none, memory⟩) (Session.sights k' store es ⟨none, memory⟩)

/-- Answers that go together, or failures that are the same but for names, and such notices. -/
structure EndAlike {α : Type} (n n' : String) (Q : α → α → Prop)
    (x y : Except Failure α × List Notice) : Prop where
  outcome : Pairs Q (Failure.Renamed n n') x.1 y.1
  notices : List.Forall₂ (Notice.Renamed n n') x.2 y.2

section ClassName

variable (o : Options) {n' : String} (hn' : Text.isIdentifier n' = true)

theorem note_pairs {n : String} {a b : Notice} (h : Notice.Renamed n n' a b) :
    Step.Pairs (List.Forall₂ (Notice.Renamed n n')) (fun _ _ => True) (Failure.Renamed n n')
      (note a) (note b) :=
  fun _ _ hst => ⟨.ok trivial, List.rel_append hst (.cons h .nil)⟩

theorem code_pairs (m : Model) :
    Pairs (fun c c' => c.className = o.className ∧ c' = c.renamed n')
      (Failure.Renamed o.className n') (code m o) (code m (o.withClass n' hn')) := by
  unfold code Options.withClass
  dsimp only
  split
  · exact .error (.same _)
  · cases AccessorCode.checkMembers m with
    | error fault => exact .error (.same _)
    | ok _ => exact .ok ⟨rfl, rfl⟩

theorem generate_pairs (m : Model) :
    Step.Pairs (List.Forall₂ (Notice.Renamed o.className n'))
      (fun c c' => c.className = o.className ∧ c' = c.renamed n') (Failure.Renamed o.className n')
      (generate m o) (generate m (o.withClass n' hn')) := by
  refine .bind (.ofOutcome (code_pairs o hn' m)) ?_
  rintro c _ ⟨hname, rfl⟩
  have hn : Text.isIdentifier c.className = true := hname ▸ o.isIdentifier_className
  have hlines : lineCount c.text = lineCount (c.renamed n').text := by
    rw [lineCount, lineCount, Text.countBreaks, Text.countBreaks]
    exact (c.renamed_text hn hn').count_eq hn hn' (by decide +kernel) (by decide +kernel)
  rw [hlines]
  exact .bind (note_pairs (.generated _ _)) fun _ _ _ => .pure ⟨hname, rfl⟩

/-- Code is loaded and its class is found, under both class names or under neither. -/
theorem find_pairs {c : AccessorCode} {asked : List String} (hname : c.className = o.className)
    (h : c.Interchanges n' asked) :
    Step.Pairs (List.Forall₂ (Notice.Renamed o.className n'))
      (fun x y => x = .accessors c.loaded ∧ y = .accessors (c.renamed n').loaded)
      (Failure.Renamed o.className n') (find o c) (find (o.withClass n' hn') (c.renamed n')) := by
  have hn : Text.isIdentifier c.className = true := hname ▸ o.isIdentifier_className
  have hload := hname ▸ h.load_pairs hn hn' o.sourceName
  refine .bind (.ofOutcome hload) ?_
  rintro _ _ ⟨rfl, rfl⟩
  refine .bind (note_pairs .loaded) fun _ _ _ => .ofOutcome ?_
  rw [← hname, h.first.ofName_loaded]
  have hsecond := h.second.renamed.ofName_loaded
  rw [className_renamed] at hsecond
  exact hsecond.symm ▸ .ok ⟨rfl, rfl⟩

end ClassName

section Building

variable [Machine] (o : Options) {n' : String} (hn' : Text.isIdentifier n' = true)

/-- A description compiles to the same code under another class name. -/
theorem compile_alike (d : Description) (external : External) :
    EndAlike o.className n' (fun a b => a.2.className = o.className ∧ b = (a.1, a.2.renamed n'))
      ((compile d o external).run []) ((compile d (o.withClass n' hn') external).run []) := by
  unfold compile
  rw [Step.run_bind, Step.run_bind]
  have hbits : (o.withClass n' hn').wordBits = o.wordBits := rfl
  rw [hbits]
  rcases (Analysis.analyze d o.wordBits external).run [] with ⟨e | m, log⟩
  · exact ⟨.error (.same e), List.forall₂_same.2 fun notice _ => .same notice⟩
  · have hgenerate : Step.Pairs (List.Forall₂ (Notice.Renamed o.className n'))
        (fun a b : Model × AccessorCode => a.2.className = o.className ∧ b = (a.1, a.2.renamed n'))
        (Failure.Renamed o.className n') (generate m o >>= fun c => pure (m, c))
        (generate m (o.withClass n' hn') >>= fun c => pure (m, c)) := by
      refine .bind (generate_pairs o hn' m) ?_
      rintro c _ ⟨hname, rfl⟩
      exact .pure ⟨hname, rfl⟩
    obtain ⟨houtcome, hlog⟩ :=
      hgenerate log log (List.forall₂_same.2 fun notice _ => .same notice)
    exact ⟨houtcome, hlog⟩

/-- Descriptions are built alike under class names that are exchanged in their code. -/
theorem build_alike_of_interchanges (d : Description) (external : External) (es : List Errand)
    (h : ∀ m c log, (compile d o external).run [] = (.ok (m, c), log) →
      c.Interchanges n' (es.flatMap Errand.asked)) :
    EndAlike o.className n' (BuiltAlike o.className n' es) ((build d o external).run [])
      ((build d (o.withClass n' hn') external).run []) := by
  have hcompile := compile_alike o hn' d external
  unfold build
  rw [Step.run_bind, Step.run_bind]
  generalize hleft : (compile d o external).run [] = left at hcompile ⊢
  generalize (compile d (o.withClass n' hn') external).run [] = right at hcompile ⊢
  obtain ⟨outcome, log⟩ := left
  obtain ⟨outcome', log'⟩ := right
  obtain ⟨houtcome, hlog⟩ := hcompile
  cases houtcome with
  | error he => exact ⟨.error he, hlog⟩
  | @ok a b hab =>
    obtain ⟨m, c⟩ := a
    obtain ⟨hname, rfl⟩ := hab
    have hn : Text.isIdentifier c.className = true := hname ▸ o.isIdentifier_className
    have hc := h m c log hleft
    have hbuild : Step.Pairs (List.Forall₂ (Notice.Renamed o.className n'))
        (BuiltAlike o.className n' es) (Failure.Renamed o.className n')
        (find o c >>= fun found => pure (c, found))
        (find (o.withClass n' hn') (c.renamed n') >>= fun found => pure (c.renamed n', found)) := by
      refine .bind (find_pairs o hn' hname hc) ?_
      rintro _ _ ⟨rfl, rfl⟩
      refine .pure ⟨hname ▸ c.renamed_text hn hn', _, _, rfl, rfl, fun σ store memory => ?_⟩
      exact hname ▸ hc.sights_alike store (fun _ hx => hx) (.fresh memory)
    obtain ⟨hend, hnotices⟩ := hbuild log log' hlog
    exact ⟨hend, hnotices⟩

/-- Under another class name that means nothing else in the code and keeps its members alike, a
description ends in the same way: in code of the same text but for the name, of which all that is
asked comes to the same but for the name in complaints, or in the same failure. Where fields and
registers have public names, any class names keep the members alike. -/
theorem build_alike (d : Description) (external : External) (es : List Errand) :
    ((∀ m c log, (compile d o external).run [] = (.ok (m, c), log) →
        c.Interchanges n' (es.flatMap Errand.asked)) →
      EndAlike o.className n' (BuiltAlike o.className n' es) ((build d o external).run [])
        ((build d (o.withClass n' hn') external).run [])) ∧
    ∀ m c log, (compile d o external).run [] = (.ok (m, c), log) → m.HasPublicNames →
      c.Admits o.className → c.Admits n' → ∀ asked, c.Interchanges n' asked := by
  refine ⟨build_alike_of_interchanges o hn' d external es, ?_⟩
  intro m c log hcompile hu hfirst hsecond asked
  obtain ⟨⟨_, hanalyze⟩, hcode⟩ := exists_compile_eq_ok.1 ⟨log, hcompile⟩
  obtain ⟨_, _, -, -, hm⟩ := Analysis.wellFormed_of_analyze hanalyze
  obtain ⟨-, -, rfl⟩ := code_eq_ok hcode
  exact interchanges_of_hasPublicNames hm hu hfirst hsecond asked

end Building

end Compile

namespace Compile

/-- Asks for a constant, makes a timer away from its place and in it, looks at a handle, sets the
level and reads it, and asks for a register that there is not. -/
def timerErrands : List Errand :=
  [.constant "PORTS", .move true (.make 0), .move true (.make 4096), .handle "ctrl",
    .move true (.call "set_level" [.number 3]), .move true (.call "get_level" []),
    .move false (.read "status")]

theorem admits_timer : ∀ n ∈ ["Timer", "Clock"], (ofModel .timer "Timer" "timer").Admits n := by
  have hordinary : ∀ n ∈ ["Timer", "Clock"], isClassName n = true ∧ Text.canonical n = n ∧
      n ≠ "__class__" ∧ n ≠ "__dict__" := by
    decide
  have hvisible : ∀ n ∈ ["Timer", "Clock"],
      n ∉ (ofModel .timer "Timer" "timer").loaded.imported := by
    rw [imported, code_loaded]
    decide
  intro n hn
  obtain ⟨hvalid, hcanonical, hnames⟩ := hordinary n hn
  exact ⟨hvalid, hcanonical, hnames, hvisible n hn⟩

/-- The timer has code in which its class is found. -/
theorem exists_build_timer : ∃ x log, (build .timer .timer .none).run [] = (.ok x, log) := by
  obtain ⟨log, hcompile⟩ := exists_compile_timer
  have hload : load Options.timer.sourceName (ofModel .timer "Timer" "timer") = .ok .timer := by
    -- the name of the file matters for null characters only
    have hfile := load_timer
    rw [load, if_neg (by decide)] at hfile ⊢
    exact hfile
  have hfind : (find .timer (ofModel .timer "Timer" "timer")).run log =
      (.ok (.accessors .timer), log ++ [.loaded "regforge_timer"]) := by
    unfold find
    rw [hload]
    rfl
  refine ⟨(ofModel .timer "Timer" "timer", .accessors .timer),
    log ++ [.loaded "regforge_timer"], ?_⟩
  unfold build
  rw [Step.run_bind_of_ok hcompile]
  dsimp only
  rw [Step.run_bind_of_ok hfind, Step.run_pure]

/-- The timer under the names `Timer` and `Clock`. -/
theorem build_alike_timer : Text.isIdentifier "Clock" = true ∧
    (∃ x log, (build .timer .timer .none).run [] = (.ok x, log)) ∧
    EndAlike "Timer" "Clock" (BuiltAlike "Timer" "Clock" timerErrands)
      ((build .timer .timer .none).run [])
      ((build .timer (Options.timer.withClass "Clock" (by decide)) .none).run []) := by
  have hclock : Text.isIdentifier "Clock" = true := by decide
  obtain ⟨halike, hpublic⟩ := build_alike .timer hclock .timer .none timerErrands
  refine ⟨hclock, exists_build_timer, halike fun m c log hcompile => ?_⟩
  have hboth := hpublic m c log hcompile
  obtain ⟨⟨_, hanalyze⟩, hcode⟩ := exists_compile_eq_ok.1 ⟨log, hcompile⟩
  cases hanalyze.symm.trans Analysis.analyze_timer
  obtain ⟨-, -, rfl⟩ := code_eq_ok hcode
  exact hboth (by decide) (admits_timer _ List.mem_cons_self)
    (admits_timer _ (List.mem_cons_of_mem _ List.mem_cons_self)) _

end Compile

end RegisterMap
