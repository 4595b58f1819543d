import RegisterMap.CommandLine.Run
import RegisterMap.Proofs.Compiling
import RegisterMap.Proofs.Files.Writing

/-!
# Failures that the user is told

Whatever goes wrong with a file, with what it holds, or with compiling it, ends a run with a message
to the user, unless what the file holds is nested deeper than calls can be.
-/

namespace RegisterMap

/-- A failure that the user is told at the end of a run. -/
def Failure.IsReported (f : Failure) : Prop :=
  CommandLine.isReported f.category = true

/-- A failure that the user is told, or one of calls that are nested too deep if `D` holds. -/
def Failure.IsReportedUnless (D : Prop) (f : Failure) : Prop :=
  f.IsReported ∨ f = .tooDeep ∧ D

open Failure (IsReported IsReportedUnless)

namespace Files.Tree

theorem isReported_file (fault : PathFault) (path : String) :
    (Failure.file fault path).IsReported := by
  cases fault <;> rfl

theorem locate_ends (t : Tree) (p : FilePath) :
    Ends IsReported (fun _ => True) (t.locate p) := by
  rw [locate]
  split
  · rfl
  · split
    · rfl
    · cases t.follow p with
      | error fault => exact isReported_file fault p.text
      | ok place => trivial

theorem read_ends (t : Tree) (p : FilePath) : Ends IsReported (fun _ => True) (t.read p) := by
  refine (locate_ends t p).bind fun place _ => ?_
  split
  · trivial
  · exact isReported_file _ _
  · exact isReported_file _ _

theorem checkDirectory_ends (t : Tree) (p : FilePath) (place : List Name) :
    Ends IsReported (fun _ => True) (t.checkDirectory p place) := by
  rw [checkDirectory]
  split
  · trivial
  · exact isReported_file _ _
  · exact isReported_file _ _

theorem write_ends (t : Tree) (p : FilePath) (content : List UInt8) :
    Ends IsReported (fun _ => True) (t.write p content) := by
  refine (locate_ends t p).bind fun place _ => ?_
  split
  · exact isReported_file _ _
  · exact (checkDirectory_ends t p place).bind fun _ _ => trivial

theorem makeOne_ends (t : Tree) (p : FilePath) :
    Ends IsReported (fun _ => True) (t.makeOne p) := by
  refine (locate_ends t p).bind fun place _ => ?_
  split
  · trivial
  · exact isReported_file _ _
  · exact (checkDirectory_ends t p place).bind fun _ _ => trivial

theorem revise_ends {P : Failure → Prop} {f : Tree → Except Failure Tree}
    (h : ∀ t, Ends P (fun _ => True) (f t)) : Step.Ends P (fun _ => True) (revise f) := by
  intro t
  rw [run_revise]
  have ht := h t
  split
  · trivial
  · next e he => exact ht.of_error he

theorem makeUpTo_ends (levels : Nat) (p : FilePath) :
    Step.Ends IsReported (fun _ => True) (makeUpTo levels p) := by
  have hone : ∀ p : FilePath, Step.Ends IsReported (fun _ => True) (revise (·.makeOne p)) :=
    fun p => revise_ends fun t => makeOne_ends t p
  induction levels generalizing p with
  | zero => exact hone p
  | succ levels ih =>
    intro t
    rw [makeUpTo, Step.run_bind, Step.run_current]
    dsimp only
    split
    · split
      · exact isReported_file _ _
      · exact (ih p.parent).bind (fun _ _ => hone p) t
    · exact revise_ends (fun _ => makeOne_ends t p) t

/-- A file is opened, or the user is told why not. -/
theorem openAnew_ends (p : FilePath) : Step.Ends IsReported (fun _ => True) (openAnew p) :=
  (makeUpTo_ends _ p.parent).bind fun _ _ => revise_ends fun t => write_ends t p []

end Files.Tree

/-- The outcome of a step, whatever it says. -/
def outcomeOf {α : Type} (x : Noting Failure α) : Except Failure α :=
  (x.run []).1

namespace Compile

variable [Machine] {L : Prop} {wordBits : Nat}

/-- What a file holds is a text that is nested deeper than calls can be. -/
def IsTooDeep (content : List UInt8) : Prop :=
  ∃ text, textOfBytes content = .ok text ∧
    (TextTooDeep text ∨ Machine.brackets < Json.depth text)

theorem TextFailure.isReported {text source : String} {e : Failure}
    (h : TextFailure text source e) : e.IsReportedUnless (TextTooDeep text) := by
  cases h with
  | tooDeep deep => exact .inr ⟨rfl, deep⟩
  | _ => exact .inl rfl

theorem FileFailure.isReported {content : List UInt8} {e : Failure} (h : FileFailure content e) :
    e.IsReportedUnless (IsTooDeep content) := by
  cases h with
  | undecodable => exact .inl rfl
  | form text failure =>
    cases failure with
    | tooDeep deep => exact .inr ⟨rfl, _, text, .inr deep⟩
    | _ => exact .inl rfl

omit [Machine] in
theorem isReported_of_tells {e : Failure} (h : AnalysisFault.Tells (ShortUnless L) e) :
    e.IsReported := by
  obtain ⟨message, field, kind, rfl⟩ | ⟨rfl, -⟩ := refused_or_long h <;> rfl

omit [Machine] in
theorem textOfBytes_isReported (content : List UInt8) :
    Ends IsReported (fun text => textOfBytes content = .ok text) (textOfBytes content) := by
  refine (textOfBytes_ends content).imp ?_ fun _ => id
  rintro _ ⟨fault, -, rfl⟩
  rfl

/-- A description is read from a file, in whichever form, or the user is told why not. -/
theorem descriptionOfFile_outcome (path : Files.FilePath) (content : List UInt8)
    (h : wordBits ∈ wordSizes) :
    (∀ e, outcomeOf (descriptionOfFile path content wordBits) = .error e →
        e.IsReportedUnless (IsTooDeep content)) ∧
      ∀ d, outcomeOf (descriptionOfFile path content wordBits) = .ok d →
        ∃ L, ∀ f ∈ d.fields, f.bit.Uses (ShortUnless L) := by
  rw [descriptionOfFile]
  split
  · have hread := jsonOfFile_ends content path.text h
    refine ⟨fun e he => (hread.of_error he).isReported, fun d hd => ?_⟩
    obtain ⟨s, -, huses⟩ := hread.of_ok hd
    exact ⟨_, huses⟩
  · rw [outcomeOf, Step.run_bind, Step.run_ofOutcome]
    cases htext : textOfBytes content with
    | error e =>
      refine ⟨?_, nofun⟩
      rintro _ ⟨⟩
      exact .inl ((textOfBytes_isReported content).of_error htext)
    | ok text =>
      have hread := readText_ends text path.text h []
      refine ⟨fun e he => ?_, fun d hd => ⟨_, hread.of_ok hd⟩⟩
      exact (hread.of_error he).isReported.imp_right fun hdeep =>
        ⟨hdeep.1, text, htext, .inl hdeep.2⟩

theorem constantsOfFile_ends (path : Files.FilePath) (content : List UInt8) :
    Step.Ends (IsReportedUnless (IsTooDeep content)) (fun _ => True)
      (constantsOfFile path content) := by
  have htext : Ends (IsReportedUnless (IsTooDeep content))
      (fun text => textOfBytes content = .ok text) (textOfBytes content) :=
    (textOfBytes_isReported content).imp (fun _ => .inl) fun _ => id
  refine (Step.Ends.ofOutcome htext).bind fun text htext => ?_
  refine (Step.Ends.ofOutcome (Q := fun _ => True) ?_).bind fun constants _ =>
    (Analysis.note_ends _).bind fun _ _ => .pure trivial
  rw [readConstants]
  cases hread : Parser.readConstants text with
  | error fault =>
    by_cases hdeep : fault.cause = .tooDeep
    · refine .inr ⟨?_, text, htext, .inl (Parser.readConstants_deep hread hdeep)⟩
      rw [SourceFault.failure, hdeep]
    · change IsReportedUnless _ (fault.failure path.text)
      rw [SourceFault.failure_of_shallow hdeep, Failure.showing]
      split <;> exact .inl rfl
  | ok constants => trivial

/-- A description with constants beside it is compiled, or the user is told why not. -/
theorem compile_isReported {d : Description} {o : Options}
    (h : ∀ f ∈ d.fields, f.bit.Uses (ShortUnless L)) (given : List Constant) :
    Step.Ends IsReported (fun _ => True) (compile d o (.items given)) :=
  (compile_ends h given).imp (fun _ => isReported_of_tells) fun _ => id

end Compile

namespace Options

theorem ofParts_ends (className : String) (wordBits : Int) (sourceName : String) :
    Ends IsReported (fun _ => True) (ofParts className wordBits sourceName) := by
  rw [ofParts]
  split
  · split
    · trivial
    · rfl
  · rfl

end Options

end RegisterMap
