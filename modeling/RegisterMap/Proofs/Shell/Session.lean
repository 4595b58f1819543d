import RegisterMap.Proofs.Description.PathReading
import RegisterMap.Proofs.Shell.Commands

/-!
# Sessions go on

On a bus of buffers every line comes to an end with an answer, and none that complains has changed
the memory. So a script is run part by part to its end. All that a line needs is that the output
stream has bytes for its first word, if it is no command.
-/

namespace RegisterMap

open Memory

namespace Shell

/-! ### Words of a line -/

/-- The characters that have been read at a place and may still become part of the open word. -/
def WordPlace.held : WordPlace → List Char
  | .escaped (some _) => ['\\']
  | _ => []

/-- The words are parts of what is open and of the rest of the line, in their order. -/
theorem sublist_of_mem_wordsFrom {place : WordPlace} {word cs : List Char}
    {ws : List (List Char)} (h : wordsFrom place word cs = .ok ws) :
    ∀ w ∈ ws, w.Sublist (word.reverse ++ place.held ++ cs) := by
  induction cs generalizing place word ws with
  | nil =>
    cases place <;> simp only [wordsFrom, reduceCtorEq, Except.ok.injEq] at h
    · simp [← h]
    · simp [← h]
  | cons c cs ih =>
    -- A character is added to the open word, behind a backslash that is given back, or left out.
    have hstep : ∀ {place' : WordPlace} {word' : List Char},
        (word'.reverse ++ place'.held).Sublist (word.reverse ++ place.held ++ [c]) →
        wordsFrom place' word' cs = .ok ws →
        ∀ w ∈ ws, w.Sublist (word.reverse ++ place.held ++ c :: cs) := by
      intro place' word' hsub hrest w hw
      have hwhole := (ih hrest w hw).trans (hsub.append_right cs)
      rwa [List.append_assoc _ [c], List.singleton_append] at hwhole
    cases place with
    | outside =>
      simp only [wordsFrom] at h
      split_ifs at h
      all_goals exact hstep (by simp [WordPlace.held]) h
    | inside =>
      simp only [wordsFrom] at h
      split_ifs at h
      · cases hrest : wordsFrom .outside [] cs with
        | error fault =>
          rw [hrest] at h
          cases h
        | ok rest =>
          rw [hrest] at h
          cases h
          intro w hw
          rcases List.mem_cons.1 hw with rfl | hw
          · simp [WordPlace.held]
          · have hcs : w.Sublist cs := by simpa [WordPlace.held] using ih hrest w hw
            exact (hcs.cons c).trans (List.sublist_append_right _ _)
      all_goals exact hstep (by simp [WordPlace.held]) h
    | quoted quote =>
      simp only [wordsFrom] at h
      split_ifs at h with _ hescape
      · exact hstep (by simp [WordPlace.held]) h
      · exact hstep (by simp [WordPlace.held, hescape.1]) h
      · exact hstep (by simp [WordPlace.held]) h
    | escaped quote =>
      cases quote with
      | none =>
        simp only [wordsFrom] at h
        exact hstep (by simp [WordPlace.held]) h
      | some quote =>
        simp only [wordsFrom] at h
        split_ifs at h
        all_goals exact hstep (by simp [WordPlace.held]) h

theorem sublist_of_mem_words {line : String} {ws : List String} (h : words line = .ok ws) :
    ∀ w ∈ ws, w.toList.Sublist line.toList := by
  intro w hw
  obtain ⟨parts, hparts, rfl⟩ := map_eq_ok.1 h
  obtain ⟨part, hpart, rfl⟩ := List.mem_map.1 hw
  rw [String.toList_ofList]
  exact sublist_of_mem_wordsFrom hparts part hpart

/-! ### Lines of a script -/

theorem length_stripChars_le (cs : List Char) : (Text.stripChars cs).length ≤ cs.length := by
  rw [Text.stripChars, List.length_reverse]
  refine (List.length_dropWhile_le _ _).trans ?_
  rw [List.length_reverse]
  exact List.length_dropWhile_le _ _

theorem length_le_of_mem_scriptLines {script line : String} (h : line ∈ scriptLines script) :
    line.length ≤ script.length := by
  obtain ⟨part, hpart, rfl⟩ := List.mem_map.1 h
  obtain ⟨cs, hcs, rfl⟩ := List.mem_map.1 (List.mem_filter.1 hpart).1
  rw [Text.splitOnChar_eq_splitOn] at hcs
  have hwithin := @Text.isInfix_of_mem_intercalate [';'] _ _ hcs
  rw [List.intercalate_splitOn] at hwithin
  have hle := (length_stripChars_le cs).trans hwithin.length_le
  rwa [String.length_toList, ← String.length_ofList] at hle

/-! ### What may stop a line -/

theorem length_expand_le (cs : List Char) : (expand cs).length ≤ cs.length + 4 := by
  unfold expand
  split
  · next rest =>
    have hhelp : "help ".toList.length = 5 := rfl
    rw [List.length_append, hhelp, List.length_cons]
    omega
  · omega

/-- The first word of a line, if the line is no command. -/
def strangeWord? (line : String) : Option String :=
  match words (String.ofList (expand (Text.stripChars line.toList))) with
  | .ok (word :: _) => if Verb.ofName? (verbName word) = none then some word else none
  | _ => none

section

variable [Machine]

/-- Where the output stream has no bytes for what is said of a line that is no command. -/
def wordFault? (line : String) : Option Text.Utf8.EncodeFault :=
  (strangeWord? line).bind fun word => streamFault? ("unknown command: " ++ word ++ "\n")

/-- What came of a line on a bus of buffers: it fails as `L` says, and it changes nothing when it
fails or complains. -/
structure Ran {α : Type} (ref : Ref) (L : Failure → Prop) (s : Terminal)
    (r : Except Failure α × Terminal) : Prop where
  bus : r.2.space.HasBuffers ref
  fails : ∀ e, r.1 = .error e → L e
  answers : ∃ answer, r.2.shown = s.shown ++ answer ∧
    ((complains answer = true ∨ ∃ e, r.1 = .error e) → s.space.Alike r.2.space)

section Ran

variable {ref : Ref} {L : Failure → Prop} {s : Terminal}

theorem ran_pure {α : Type} (hs : s.space.HasBuffers ref) (a : α) :
    Ran ref L s ((pure a : Turn α).run s) :=
  ⟨hs, nofun, "", String.append_empty.symm, fun _ => .refl _⟩

/-- A line that only prints. -/
theorem ran_printLine (hs : s.space.HasBuffers ref) {text : String}
    (h : ∀ f, streamFault? (text ++ "\n") = some f → L (.unencodable f)) :
    Ran ref L s ((printLine text).run s) := by
  unfold printLine print
  cases hfault : streamFault? (text ++ "\n") with
  | none => exact ⟨hs, nofun, text ++ "\n", rfl, fun _ => .refl _⟩
  | some f =>
    refine ⟨hs, ?_, "", String.append_empty.symm, fun _ => .refl _⟩
    rintro e ⟨⟩
    exact h f hfault

theorem ran_printLine_of_isClean (hs : s.space.HasBuffers ref) {text : String}
    (h : Text.isClean text = true) : Ran ref L s ((printLine text).run s) := by
  have hline : Text.isClean (text ++ "\n") = true := by
    rw [Text.isClean_append, h]
    decide
  exact ran_printLine hs fun f hf => nomatch (streamFault?_of_isClean hline).symm.trans hf

omit [Machine] in
/-- A complaint ends before a line does. -/
theorem complains_of_line {answer : String} (h : complains (answer ++ "\n") = true) :
    complains answer = true := by
  rw [complains_eq_true] at h ⊢
  obtain ⟨start, hstart, hstarts⟩ := h
  refine ⟨start, hstart, ?_⟩
  rw [String.toList_append, show "\n".toList = ['\n'] from rfl, List.prefix_concat_iff] at hstarts
  have hbreak : ∀ start ∈ complaints, '\n' ∉ start.toList := by decide
  refine hstarts.resolve_left fun heq => hbreak start hstart ?_
  rw [heq]
  simp

theorem run_printAnswer (word : String) (x : Step Space Failure String) (s : Terminal) :
    (printAnswer word x).run s = match x.run s.space with
      | (.ok answer, u) =>
        if answer = "" then (.ok (), { s with space := u })
        else (printLine answer).run { s with space := u }
      | (.error e, u) =>
        if isMendable e.category then
          (printLine ("error: " ++ shownFailure e)).run
            { s with space := u.say (Log.record .debug sessionTopic (word ++ " failed")) }
        else (.error e, { s with space := u }) := by
  unfold printAnswer onSpace Step.onPart
  dsimp only [Step.run]
  rcases x s.space with ⟨e | answer, u⟩ <;> rfl

/-- The answer of a command is printed, or the reason why it has none. -/
theorem printAnswer_ran {x : Step Space Failure String} (hx : Minds ref x)
    (hanswers : x.Answers (Text.isClean · = true)) (word : String)
    (hs : s.space.HasBuffers ref) : Ran ref L s ((printAnswer word x).run s) := by
  have hkeeps := hx.failsOnly.keeps s.space hs
  rw [run_printAnswer]
  rcases hout : x.run s.space with ⟨e | answer, u⟩
  · obtain ⟨hmendable, hclean⟩ := hx.failsOnly.fails _ _ _ hs hout
    have halike := hx.spares _ _ _ hs hout nofun
    rw [hout] at hkeeps
    have hline : Text.isClean ("error: " ++ shownFailure e) = true := by
      rw [Text.isClean_append, hclean]
      decide
    dsimp only
    rw [if_pos hmendable, run_printLine hline]
    exact ⟨hkeeps, nofun, "error: " ++ shownFailure e ++ "\n", rfl, fun _ => halike⟩
  · have hclean := hanswers _ _ _ hout
    have halike : complains answer = true → s.space.Alike u := by
      intro hcomplains
      refine hx.spares _ _ _ hs hout ?_
      rintro answer' ⟨⟩
      exact hcomplains
    rw [hout] at hkeeps
    dsimp only
    split
    · next hempty =>
      refine ⟨hkeeps, nofun, "", String.append_empty.symm, ?_⟩
      rintro (hcomplains | ⟨e, he⟩)
      · exact halike (hempty ▸ hcomplains)
      · cases he
    · rw [run_printLine hclean]
      refine ⟨hkeeps, nofun, answer ++ "\n", rfl, ?_⟩
      rintro (hcomplains | ⟨e, he⟩)
      · exact halike (complains_of_line hcomplains)
      · cases he

theorem Ran.bind_pure {α β : Type} {x : Turn α} (h : Ran ref L s (x.run s)) (b : β) :
    Ran ref L s ((x >>= fun _ => pure b).run s) := by
  obtain ⟨hbus, hfails, answer, hshown, halike⟩ := h
  rw [Step.run_bind]
  generalize x.run s = r at hbus hfails hshown halike
  obtain ⟨e | a, t⟩ := r
  · refine ⟨hbus, ?_, answer, hshown, fun _ => halike (.inr ⟨e, rfl⟩)⟩
    rintro e' ⟨⟩
    exact hfails e rfl
  · refine ⟨hbus, nofun, answer, hshown, ?_⟩
    rintro (hcomplains | ⟨e, he⟩)
    · exact halike (.inl hcomplains)
    · cases he

end Ran

namespace Target

variable {decl : Description} {o : Options} {external : External} {t : Target}
  (hd : t.device.Made decl o external t.model) (hp : decl.isPlain = true)
  (hu : ∀ r ∈ t.model.registers, ¬"__".toList <+: r.name.toList)
  (hc : Text.canonical o.className ∉ t.device.kind.imported)
include hd hp hu hc

theorem runCommand_ran {s : Terminal} (hs : s.space.HasBuffers t.bus) {line : String}
    {L : Failure → Prop} (hline : line.length < 2 * Machine.bytes)
    (hstrange : ∀ word rest f, words line = .ok (word :: rest) →
      Verb.ofName? (verbName word) = none →
      streamFault? ("unknown command: " ++ word ++ "\n") = some f → L (.unencodable f)) :
    Ran t.bus L s ((t.runCommand line).run s) := by
  obtain ⟨_, hm⟩ := hd.wellFormed
  unfold runCommand
  split
  · next fault _ => exact ran_printLine_of_isClean hs (by cases fault <;> decide)
  · exact ran_pure hs ()
  · next word arguments hwords =>
    split
    · next hverb => exact ran_printLine hs fun f hf => hstrange word arguments f hwords hverb hf
    · next verb _ =>
      have hargs : ∀ a ∈ arguments, a.length < 2 * Machine.bytes := by
        intro a ha
        have hle := (sublist_of_mem_words hwords a (List.mem_cons_of_mem _ ha)).length_le
        rw [String.length_toList, String.length_toList] at hle
        exact hle.trans_lt hline
      exact printAnswer_ran (command_minds hd hp hu hc verb hargs)
        (command_answers (isNamed_of_wellFormed hm) verb arguments) word hs

/-- A line that the machine has room for comes to an end, unless the output stream has no bytes for
what is said of it. -/
theorem runLine_ran {s : Terminal} (hs : s.space.HasBuffers t.bus) {line : String}
    (hline : line.length < Machine.bytes) :
    Ran t.bus (fun e => ∃ f, wordFault? line = some f ∧ e = .unencodable f) s
      ((t.runLine line).run s) := by
  have hlength : (String.ofList (expand (Text.stripChars line.toList))).length <
      2 * Machine.bytes := by
    have hexpand := length_expand_le (Text.stripChars line.toList)
    have hstrip := length_stripChars_le line.toList
    have hroom := Machine.addresses_lt
    rw [String.length_toList] at hstrip
    rw [String.length_ofList]
    omega
  unfold runLine
  split
  · exact ran_pure hs (some false)
  · split
    · exact ran_pure hs (some true)
    · exact (ran_printLine_of_isClean hs (by decide)).bind_pure (some true)
    · exact (ran_printLine_of_isClean hs (by decide)).bind_pure none
    · refine (runCommand_ran hd hp hu hc hs hlength ?_).bind_pure none
      intro word rest f hwords hverb hf
      refine ⟨f, ?_, rfl⟩
      unfold wordFault? strangeWord?
      rw [hwords]
      dsimp only
      rw [if_pos hverb, Option.bind_some, hf]

theorem run_lines {s : Terminal} (hs : s.space.HasBuffers t.bus) {lines : List String}
    (hlines : ∀ line ∈ lines, line.length < Machine.bytes ∧ wordFault? line = none) :
    (lines.forM fun line => do
      let _ ← t.runLine line
      pure () : Turn Unit).run s =
      (.ok (), lines.foldl (fun s line => ((t.runLine line).run s).2) s) := by
  induction lines generalizing s with
  | nil => rfl
  | cons line lines ih =>
    obtain ⟨⟨hlength, hnone⟩, hlines⟩ := List.forall_mem_cons.1 hlines
    obtain ⟨hbus, hfails, -⟩ := runLine_ran hd hp hu hc hs hlength
    rw [List.foldl_cons]
    change (t.runLine line >>= (fun _ => pure ()) >>= fun _ => lines.forM _).run s = _
    rw [Step.run_bind, Step.run_bind]
    rcases hrun : (t.runLine line).run s with ⟨e | stops, u⟩
    · rw [hrun] at hfails
      obtain ⟨f, hf, -⟩ := hfails e rfl
      cases hnone.symm.trans hf
    · rw [hrun] at hbus
      exact ih hbus hlines

end Target

end

/-- A timer whose registers lie in a buffer but for the last. -/
def Target.timer : Target :=
  ⟨.timer, .timer, 4096, 1, true⟩

def Terminal.timer : Terminal :=
  ⟨⟨[.buffer ⟨4096, 10, Cells.blank, by decide⟩,
    .bus ⟨[⟨"low", ⟨4096, 4106⟩, 0⟩], false, true, 8, []⟩], []⟩, ""⟩

end Shell

end RegisterMap
