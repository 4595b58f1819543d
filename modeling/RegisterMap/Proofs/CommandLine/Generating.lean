import RegisterMap.Proofs.CommandLine.Accessors
import RegisterMap.Proofs.Shell.Printing

/-!
# Generating accessors

What a run leaves that generates accessors. A file gets what would be printed without it; and
nothing is written before the accessors are complete, so that a run that fails leaves all files as
they were. The one exception is a text that has no bytes: that shows only when its file has been
opened, and so emptied. Where the output stream has no bytes for a text, nothing of it is printed.
-/

namespace RegisterMap.CommandLine

open Files (FilePath Tree)

variable {α β γ : Type}

/-! ### What is reported, and what is saved -/

namespace Ending

variable {outcome : Except Failure Unit}

theorem ofOutcome_eq_done : ofOutcome outcome = .done ↔ outcome = .ok () := by
  cases outcome with
  | ok => simp [ofOutcome]
  | error e =>
    rw [ofOutcome]
    split <;> simp

theorem ofOutcome_ne_done (h : outcome ≠ .ok ()) : ofOutcome outcome ≠ .done :=
  mt ofOutcome_eq_done.1 h

theorem ofOutcome_of_isReported {e : Failure} (h : e.IsReported) :
    ofOutcome (.error e) = .told e :=
  if_pos h

end Ending

/-- How a text is saved in a file. -/
inductive Saves (p : FilePath) (text : String) (files after : Tree) : Except Failure Unit → Prop
  | unopened {e : Failure} (reported : e.IsReported) (kept : Tree.Keeps p files after) :
    Saves p text files after (.error e)
  /-- The text has no bytes, which shows when the file has been emptied. -/
  | emptied {fault : Text.Utf8.EncodeFault} (noBytes : Text.Utf8.encode text = .error fault)
    (empty : Tree.Rewrites p [] files after) :
    Saves p text files after (.error (.unencodable fault))
  | written {bytes : List UInt8} (hasBytes : Text.Utf8.encode text = .ok bytes)
    (full : Tree.Rewrites p bytes files after) : Saves p text files after (.ok ())

namespace Saves

variable {p : FilePath} {text : String} {files after : Tree} {outcome : Except Failure Unit}

theorem isReported {e : Failure} (h : Saves p text files after (.error e)) : e.IsReported := by
  cases h with
  | unopened reported => exact reported
  | emptied => rfl

theorem rewrites (h : Saves p text files after (.ok ())) :
    ∃ bytes, Text.Utf8.encode text = .ok bytes ∧ Tree.Rewrites p bytes files after := by
  cases h with
  | written hasBytes full => exact ⟨_, hasBytes, full⟩

theorem keeps {bytes : List UInt8} (h : Saves p text files after outcome)
    (hbytes : Text.Utf8.encode text = .ok bytes) (hfails : outcome ≠ .ok ()) :
    Tree.Keeps p files after := by
  cases h with
  | unopened _ kept => exact kept
  | emptied noBytes => cases noBytes.symm.trans hbytes
  | written => exact absurd rfl hfails

theorem empties {fault : Text.Utf8.EncodeFault} (h : Saves p text files after outcome)
    (hfault : Text.Utf8.encode text = .error fault) :
    outcome ≠ .ok () ∧ (Tree.Keeps p files after ∨
      outcome = .error (.unencodable fault) ∧ Tree.Rewrites p [] files after) := by
  cases h with
  | unopened _ kept => exact ⟨nofun, .inl kept⟩
  | emptied noBytes empty =>
    cases hfault.symm.trans noBytes
    exact ⟨nofun, .inr ⟨rfl, empty⟩⟩
  | written hasBytes => cases hfault.symm.trans hasBytes

end Saves

/-! ### What a run leaves -/

section Runs

variable [Machine]

namespace Request

/-- The request for the same accessors, to be printed. -/
def printing (r : Request) : Request :=
  { r with output := none }

/-- The accessors have a text that can be written, if there are any. -/
def IsWritable (r : Request) (files : Tree) : Prop :=
  ∀ c, r.accessors files = .ok c → ∃ bytes, Text.Utf8.encode c.text = .ok bytes

end Request

/-- How a text is printed behind the text `before`: all of it, or nothing of it where the output
stream has no bytes for it. -/
inductive Prints (text before : String) : Except Failure Unit → String → Prop
  | taken (fits : Shell.streamFault? text = none) : Prints text before (.ok ()) (before ++ text)
  | refused {fault : Text.Utf8.EncodeFault} (noBytes : Shell.streamFault? text = some fault) :
    Prints text before (.error (.unencodable fault)) before

theorem run_onTerminal (x : Shell.Turn α) (w : World) :
    (onTerminal x).run w =
      ((x.run w.terminal).1, { w with terminal := (x.run w.terminal).2 }) := rfl

theorem Prints.isReported {text before shown : String} {e : Failure}
    (h : Prints text before (.error e) shown) : e.IsReported := by
  cases h
  rfl

theorem print_spec (text : String) (w : World) :
    ((print text).run w).2.files = w.files ∧
      Prints text w.out ((print text).run w).1 ((print text).run w).2.out := by
  rw [print, run_onTerminal, Shell.print]
  cases hfault : Shell.streamFault? text with
  | none => exact ⟨rfl, .taken hfault⟩
  | some fault => exact ⟨rfl, .refused hfault⟩

theorem run_onFiles (x : Step Tree Failure α) (w : World) :
    (onFiles x).run w = ((x.run w.files).1, { w with files := (x.run w.files).2 }) := rfl

theorem save_spec (output : FilePath) (c : AccessorCode) (w : World) :
    Saves output c.text w.files ((Request.save output c).run w).2.files
        ((Request.save output c).run w).1 ∧
      ((Request.save output c).run w).2.out = w.out := by
  rw [Request.save, Step.run_bind, writeText, Step.run_bind, run_onFiles]
  obtain ⟨e, after, hrun, hkept⟩ | ⟨after, hrun, hempty⟩ := Tree.run_openAnew w.files output
  · have hreported := (Tree.openAnew_ends output w.files).of_error (congrArg Prod.fst hrun)
    rw [hrun]
    exact ⟨.unopened hreported hkept, rfl⟩
  · rw [hrun]
    dsimp only
    rw [Step.run_bind, Step.run_ofOutcome]
    cases hencode : Text.Utf8.encode c.text with
    | error fault => exact ⟨.emptied hencode hempty, rfl⟩
    | ok bytes =>
      obtain ⟨last, hwrite⟩ := Tree.exists_write_of_read hempty.read bytes
      dsimp only [mapError_ok]
      rw [run_onFiles, Tree.run_revise, hwrite]
      exact ⟨.written hencode (hempty.trans (Tree.write_rewrites hwrite)), rfl⟩

/-- What a run that generates accessors leaves of a world. -/
structure Leaves (r : Request) (before after : World) (outcome : Except Failure Unit) : Prop where
  refused : ∀ e, r.accessors before.files = .error e →
    outcome = .error e ∧ after.files = before.files
  printed : ∀ c, r.accessors before.files = .ok c → r.output = none →
    after.files = before.files ∧ Prints c.text before.out outcome after.out
  saved : ∀ c output, r.accessors before.files = .ok c → r.output = some output →
    Saves (FilePath.ofText output) c.text before.files after.files outcome ∧ after.out = before.out

/-- What is checked after the first of two steps can be seen as a part of it. -/
theorem bind_bind_eq (x : Run α) (y : Run β) (f : α → Run γ) :
    (x >>= fun a => y >>= fun _ => f a) = (x >>= fun a => y >>= fun _ => pure a) >>= f := by
  simp only [bind_assoc, pure_bind]

theorem generate_spec (r : Request) (w : World) :
    Leaves r w (r.generate.run w).2 (r.generate.run w).1 := by
  obtain ⟨u, hrun, hfiles, hout⟩ := code_finds r w
  rw [Request.generate, bind_bind_eq, Step.run_bind, hrun]
  refine ⟨fun e he => ?_, fun c hc hprint => ?_, fun c output hc hwrite => ?_⟩
  · rw [he]
    exact ⟨rfl, hfiles⟩
  · rw [hc, hprint, ← hfiles, ← hout]
    exact print_spec c.text u
  · rw [hc, hwrite, ← hfiles, ← hout]
    exact save_spec (FilePath.ofText output) c u

theorem run_perform_generate (r : Request) (typed : List String) (w : World) :
    (perform .generate r typed).run w = r.generate.run w := by
  rw [perform, start, Step.run_bind, Step.run_bind]
  rcases r.generate.run w with ⟨_ | ⟨⟩, u⟩ <;> rfl

/-- What is left of a run that generates accessors. -/
theorem runRequest_generate (settings : Settings) (files : Tree) (r : Request) (typed : String) :
    ∃ outcome u, runRequest settings files .generate r typed = report r.logConsole outcome u ∧
      Leaves r (World.ofFiles settings files) u outcome := by
  refine ⟨_, _, ?_, generate_spec r (World.ofFiles settings files)⟩
  rw [runRequest, run_perform_generate]

namespace Leaves

variable {r : Request} {before after : World} {outcome : Except Failure Unit}

/-- The run ends well, or the user is told why not; only a file that is nested deeper than calls can
be and an option that has two dashes for a value may end it otherwise. -/
theorem ending (h : Leaves r before after outcome) :
    Ending.ofOutcome outcome = .done ∨ (∃ f, Ending.ofOutcome outcome = .told f) ∨
      (r.IsDeep before.files ∧ Ending.ofOutcome outcome = .broken .tooDeep) ∨
      r.HasDashes ∧ Ending.ofOutcome outcome = .broken .noMember := by
  cases outcome with
  | ok => exact .inl rfl
  | error e =>
    have htold : e.IsReported → ∃ f, Ending.ofOutcome (.error e) = .told f := fun he =>
      ⟨e, Ending.ofOutcome_of_isReported he⟩
    cases hmade : r.accessors before.files with
    | error e' =>
      cases (h.refused e' hmade).1
      obtain hreported | ⟨rfl, hdeep⟩ | ⟨hdashes, rfl⟩ :=
        (r.accessors_ends before.files).of_error hmade
      · exact .inr (.inl (htold hreported))
      · exact .inr (.inr (.inl ⟨hdeep, rfl⟩))
      · exact .inr (.inr (.inr ⟨hdashes, rfl⟩))
    | ok c =>
      cases houtput : r.output with
      | none => exact .inr (.inl (htold (h.printed c hmade houtput).2.isReported))
      | some output => exact .inr (.inl (htold (h.saved c output hmade houtput).1.isReported))

theorem exists_made (h : Leaves r before after (.ok ())) :
    ∃ c, r.accessors before.files = .ok c := by
  cases hmade : r.accessors before.files with
  | error e => cases (h.refused e hmade).1
  | ok c => exact ⟨c, rfl⟩

theorem keeps (h : Leaves r before after outcome) {output : String}
    (houtput : r.output = some output) (hfails : outcome ≠ .ok ())
    (hwritable : r.IsWritable before.files) :
    Tree.Keeps (FilePath.ofText output) before.files after.files := by
  cases hmade : r.accessors before.files with
  | error e =>
    rw [(h.refused e hmade).2]
    exact .refl _ _
  | ok c =>
    obtain ⟨bytes, hbytes⟩ := hwritable c hmade
    exact (h.saved c output hmade houtput).1.keeps hbytes hfails

end Leaves

/-- How a run ends that prints a text. -/
theorem Prints.ending {text shown : String} {outcome : Except Failure Unit}
    (h : Prints text "" outcome shown) :
    (Shell.streamFault? text = none → Ending.ofOutcome outcome = .done ∧ shown = text) ∧
      ∀ fault, Shell.streamFault? text = some fault →
        Ending.ofOutcome outcome = .told (.unencodable fault) ∧ shown = "" := by
  cases h with
  | taken fits =>
    exact ⟨fun _ => ⟨rfl, String.empty_append⟩, fun _ h => (nomatch fits.symm.trans h)⟩
  | refused noBytes =>
    refine ⟨fun h => (nomatch noBytes.symm.trans h), fun fault h => ?_⟩
    cases noBytes.symm.trans h
    exact ⟨rfl, rfl⟩

/-- What is reported of a run that generates accessors, and of one that prints them. -/
structure Generates (r : Request) (files : Tree) (result printed : Report) : Prop where
  /-- Only a file that is nested deeper than calls can be and an option that has two dashes for a
  value may break a run. -/
  ending : result.ending = .done ∨ (∃ f, result.ending = .told f) ∨
    (r.IsDeep files ∧ result.ending = .broken .tooDeep) ∨
    r.HasDashes ∧ result.ending = .broken .noMember
  /-- Without accessors nothing is touched. -/
  refuses : ∀ e, r.accessors files = .error e →
    result.ending = Ending.ofOutcome (.error e) ∧ result.ending ≠ .done ∧ result.files = files
  /-- The text is printed if the output stream has bytes for it. -/
  prints : ∀ c, r.accessors files = .ok c → printed.files = files ∧
    (Shell.streamFault? c.text = none → printed.ending = .done ∧ printed.out = c.text) ∧
    ∀ fault, Shell.streamFault? c.text = some fault →
      printed.ending = .told (.unencodable fault) ∧ printed.out = ""
  /-- A file gets the text that is printed without it. -/
  writes : ∀ output, r.output = some output → result.ending = .done →
    ∃ bytes, Text.Utf8.encode printed.out = .ok bytes ∧ printed.ending = .done ∧
      Tree.Rewrites (FilePath.ofText output) bytes files result.files ∧ result.out = ""
  /-- A run that fails leaves the file as it was. -/
  keeps : ∀ output, r.output = some output → result.ending ≠ .done → r.IsWritable files →
    Tree.Keeps (FilePath.ofText output) files result.files
  /-- A text without bytes is not written, but its file is empty then, if it can be opened. -/
  empties : ∀ c output fault, r.accessors files = .ok c → r.output = some output →
    Text.Utf8.encode c.text = .error fault →
    result.ending ≠ .done ∧ (Tree.Keeps (FilePath.ofText output) files result.files ∨
      result.ending = .told (.unencodable fault) ∧
        Tree.Rewrites (FilePath.ofText output) [] files result.files)

/-- A file gets what would be printed without it, and a run that fails leaves all files as they
were, unless it fails at a text without bytes when it has opened the file for it. -/
theorem generates_of_arguments {arguments : List String} {r : Request}
    (h : commandOf false arguments = .ok (.generate, r)) (settings : Settings) (files : Tree)
    (typed : String) :
    ∃ result, runProgram settings files arguments typed = .ok result ∧
      Generates r files result (runRequest settings files .generate r.printing typed) := by
  refine ⟨runRequest settings files .generate r typed, by rw [runProgram, h]; rfl, ?_⟩
  obtain ⟨outcome, u, hrun, hleaves⟩ := runRequest_generate settings files r typed
  obtain ⟨outcome', v, hprint, hprinted⟩ := runRequest_generate settings files r.printing typed
  have hprints : ∀ c, r.accessors files = .ok c →
      v.files = files ∧ Prints c.text "" outcome' v.out := fun c hc => hprinted.printed c hc rfl
  rw [hrun, hprint]
  refine ⟨hleaves.ending, fun e he => ?_, fun c hc => ?_, fun output houtput hdone => ?_,
    fun output houtput hfails => hleaves.keeps houtput (mt Ending.ofOutcome_eq_done.2 hfails),
    fun c output fault hc houtput hfault => ?_⟩
  · obtain ⟨rfl, hfiles⟩ := hleaves.refused e he
    have hfails : (.error e : Except Failure Unit) ≠ .ok () := nofun
    exact ⟨rfl, Ending.ofOutcome_ne_done hfails, hfiles⟩
  · exact ⟨(hprints c hc).1, (hprints c hc).2.ending⟩
  · obtain rfl := Ending.ofOutcome_eq_done.1 hdone
    obtain ⟨c, hc⟩ := hleaves.exists_made
    obtain ⟨hsaves, hout⟩ := hleaves.saved c output hc houtput
    obtain ⟨bytes, hbytes, hrewrites⟩ := hsaves.rewrites
    obtain ⟨hdone', hsame⟩ := (hprints c hc).2.ending.1 (Shell.streamFault?_of_encode hbytes)
    exact ⟨bytes, (congrArg Text.Utf8.encode hsame).trans hbytes, hdone', hrewrites, hout⟩
  · obtain ⟨hfails, hkept⟩ := (hleaves.saved c output hc houtput).1.empties hfault
    refine ⟨Ending.ofOutcome_ne_done hfails, hkept.imp_right ?_⟩
    rintro ⟨rfl, hempty⟩
    exact ⟨rfl, hempty⟩

end Runs

/-- Arguments that ask for a timer's accessors in a file. -/
def timerArguments : List String :=
  ["generate", "timer.regs", "--constants", "map.regs", "--class-name", "Timer", "-o",
    "made/timer.py"]

def timerRequest : Request :=
  { input := some "timer.regs", constants := [some "map.regs"], className := "Timer",
    output := some "made/timer.py" }

/-- The files of the arguments, in the directory of the run. -/
def timerFiles : Tree :=
  ⟨[], [([Files.Name.ofText "timer.regs"], .file "#[bit(0, RW, CTRL)] en".toUTF8.toList),
    ([Files.Name.ofText "map.regs"], .file "const CTRL = 0;".toUTF8.toList)]⟩

theorem generates_timer :
    commandOf false timerArguments = .ok (.generate, timerRequest) ∧
      ∃ result, runProgram {} timerFiles timerArguments "" = .ok result ∧
        Generates timerRequest timerFiles result
          (runRequest {} timerFiles .generate timerRequest.printing "") :=
  have h : commandOf false timerArguments = .ok (.generate, timerRequest) := by rfl
  ⟨h, generates_of_arguments h {} timerFiles ""⟩

end RegisterMap.CommandLine
