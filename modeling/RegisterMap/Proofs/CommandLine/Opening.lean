import RegisterMap.Proofs.CommandLine.Accessors
import RegisterMap.Proofs.Shell.Showing

/-!
# Opening a shell

What a shell stands on that has been opened: a device made for its model, at its base, and behind it
a blank region that reaches to the end of the farthest register. So its registers and words are
shown at once, and over a buffer it runs whole scripts.
-/

namespace RegisterMap

open Memory

namespace CommandLine

theorem construct_of_binding {k : AccessorClass} {name : String} {checks : Bool} {base : Int}
    {d : Device} (h : (do
      let found ← Binding.ofName k name
      found.construct checks base) = .ok d) : k.construct checks base = .ok d := by
  obtain ⟨found, hfound, hconstruct⟩ := bind_eq_ok.1 h
  unfold Binding.ofName at hfound
  split_ifs at hfound
  · cases hfound
    cases hconstruct
  · cases hfound
    cases hconstruct
  · cases hfound
    exact hconstruct

end CommandLine

variable [Machine]

namespace Compile

variable {d : Description} {o : Options} {external : External} {m : Model} {c : AccessorCode}

/-- What compiling gives is the model of the description and its code. -/
theorem compile_eq_ok (h : outcomeOf (compile d o external) = .ok (m, c)) :
    (∃ ns ns', (Analysis.analyze d o.wordBits external).run ns = (.ok m, ns')) ∧
      code m o = .ok c := by
  have hrun : (compile d o external).run [] =
      (.ok (m, c), ((compile d o external).run []).2) := Prod.ext h rfl
  obtain ⟨m', ns, hanalyzed, hrest⟩ := Step.run_bind_eq_ok.1 hrun
  obtain ⟨c', ns', hgenerated, ⟨⟩⟩ := Step.run_bind_eq_ok.1 hrest
  obtain ⟨c'', ns'', hcode, hnoted⟩ := Step.run_bind_eq_ok.1 hgenerated
  obtain ⟨_, _, -, ⟨⟩⟩ := Step.run_bind_eq_ok.1 hnoted
  exact ⟨⟨[], ns, hanalyzed⟩, (Step.run_ofOutcome_eq_ok.1 hcode).1⟩

end Compile

namespace CommandLine

open Shell (Target Terminal)

variable {r : Request} {w w' : World} {t : Target}

/-- The description in the input file of a request. -/
def Request.Describes (r : Request) (files : Files.Tree) (o : Options) (decl : Description) :
    Prop :=
  r.options = .ok o ∧ ∃ content, files.read r.inputPath = .ok content ∧
    outcomeOf (Compile.descriptionOfFile r.inputPath content o.wordBits) = .ok decl

theorem compiled_eq_ok {files : Files.Tree} {input : Files.FilePath}
    {constants : List (Option Files.FilePath)} {o : Options} {m : Model} {c : AccessorCode}
    (h : compiled files input constants o = .ok (m, c)) :
    ∃ content d external, files.read input = .ok content ∧
      outcomeOf (Compile.descriptionOfFile input content o.wordBits) = .ok d ∧
      outcomeOf (Compile.compile d o external) = .ok (m, c) := by
  obtain ⟨content, hcontent, hread⟩ := bind_eq_ok.1 h
  obtain ⟨d, hd, hdescribed⟩ := bind_eq_ok.1 hread
  obtain ⟨lists, -, hcompiled⟩ := bind_eq_ok.1 hdescribed
  exact ⟨content, d, _, hcontent, hd, hcompiled⟩

theorem run_onSpace_eq_ok {α : Type} {x : Step Space Failure α} {a : α}
    (h : (onSpace x).run w = (.ok a, w')) :
    x.run w.terminal.space = (.ok a, w'.terminal.space) := by
  obtain ⟨houtcome, rfl⟩ := Prod.mk.inj h
  exact Prod.ext houtcome rfl

/-- A bus that has been made over no pages has buffers. -/
theorem Request.hasBuffers_of_makeBus (hr : r.isPaged = false) {base size : Int} {u s : Space}
    {bus : Ref} (h : (r.makeBus base size).run u = (.ok bus, s)) : s.HasBuffers bus := by
  unfold makeBus at h
  rw [Step.run_bind_of_ok (Space.run_createBus u), hr] at h
  change (Space.map u.components.length r.className base size none >>= fun _ =>
    pure u.components.length).run _ = _ at h
  obtain ⟨leaf, v, hmap, ⟨⟩⟩ := Step.run_bind_eq_ok.1 h
  obtain ⟨b, v, hb, -, hbacks, rfl⟩ := Space.run_map_eq_ok.1 hmap
  cases (Space.bus?_add_emptyBus u).symm.trans hb
  have hbus := hbacks.bus? hb
  cases hbacks with
  | @fresh buffer _ =>
    refine ⟨_, Space.bus?_put_self hbus _, fun region hregion => ⟨buffer, ?_⟩⟩
    rw [List.mem_singleton.1 hregion]
    have hne : (u.add (.bus Space.emptyBus)).components.length ≠ u.components.length := by
      rw [Space.length_add]
      exact Nat.succ_ne_self _
    exact (Space.component_put_of_ne hne _ _).trans (Space.component_add_self _ _)

/-- A shell that opens has a device made for its model, over a blank region. -/
theorem Request.opened_of_target (h : r.target.run w = (.ok t, w')) :
    ∃ decl o external, r.Describes w.files o decl ∧
      t.device.Made decl o external t.model ∧ t.device.base = t.base ∧
      w'.terminal.space.Carries t.bus t.window Cells.blank ∧
      (r.isPaged = false → w'.terminal.space.HasBuffers t.bus) := by
  obtain ⟨o, _, hoptions, h⟩ := Step.run_bind_eq_ok.1 h
  obtain ⟨ho, rfl⟩ := Step.run_ofOutcome_eq_ok.1 hoptions
  obtain ⟨⟨m, c⟩, w₁, hcompile, h⟩ := Step.run_bind_eq_ok.1 h
  obtain ⟨_, _, -, h⟩ := Step.run_bind_eq_ok.1 h
  obtain ⟨base, w₂, -, h⟩ := Step.run_bind_eq_ok.1 h
  obtain ⟨bus, w₃, hbus, h⟩ := Step.run_bind_eq_ok.1 h
  obtain ⟨kind, w₄, hkind, h⟩ := Step.run_bind_eq_ok.1 h
  obtain ⟨hload, rfl⟩ := Step.run_ofOutcome_eq_ok.1 hkind
  obtain ⟨_, w₅, hloaded, h⟩ := Step.run_bind_eq_ok.1 h
  obtain ⟨_, _, ⟨⟩, h⟩ := Step.run_bind_eq_ok.1 h
  obtain ⟨device, w₆, hdevice, h⟩ := Step.run_bind_eq_ok.1 h
  obtain ⟨hconstruct, rfl⟩ := Step.run_ofOutcome_eq_ok.1 hdevice
  obtain ⟨_, _, hbuilt, ⟨⟩⟩ := Step.run_bind_eq_ok.1 h
  cases hbuilt
  cases hloaded
  replace hconstruct := construct_of_binding hconstruct
  obtain rfl := (AccessorClass.construct_eq_ok.1 hconstruct).2.2.2
  have hcode : kind.code = c := by rw [(AccessorClass.load_eq_ok hload).2.1]
  obtain ⟨u, hfound, -⟩ := compileFile_finds r.inputPath r.constantPaths o w
  obtain ⟨content, decl, external, hcontent, hdecl, hcompiled⟩ :=
    compiled_eq_ok (congrArg Prod.fst (hfound.symm.trans hcompile))
  obtain ⟨hanalyzed, hgenerated⟩ := Compile.compile_eq_ok hcompiled
  have hmade : (⟨kind, base, kind.handles base kind.code.slots []⟩ : Device).Made decl o external
      m := {
    analyzed := hanalyzed
    compiled := hcode ▸ hgenerated
    loaded := ⟨_, hcode ▸ hload⟩
    constructed := ⟨_, hconstruct⟩ }
  have hmapped : (r.makeBus base m.span).run w₂.terminal.space = (.ok bus, w₃.terminal.space) :=
    Step.run_withFailure_eq_ok.1 (run_onSpace_eq_ok hbus)
  -- What is said when the code is loaded and the device built leaves the memories alone.
  exact ⟨decl, o, external, ⟨ho, content, hcontent, hdecl⟩, hmade, rfl,
    (carries_of_makeBus hmade.span_pos hmapped).of_alike fun _ => rfl,
    fun hr => (hasBuffers_of_makeBus hr hmapped).of_alike fun _ => rfl⟩

/-- A shell shows its registers as soon as it is opened, and its words if they fill the region: all
of them blank, and loaded from the region alone. -/
theorem Request.opened_shows_region (h : r.target.run w = (.ok t, w'))
    (hu : ∀ reg ∈ t.model.registers, Text.isPublic reg.name = true)
    (hword : (∃ reg ∈ t.model.registers, reg.capability.readable = true) →
      t.device.kind.hidesWord = false) :
    (∀ q ∈ t.registerLoads, q.IsWithin t.bus t.window) ∧
      t.Answers "regs" t.registerLoads (t.registersText Cells.blank) w'.terminal ∧
      ((t.model.word.size : Int) ∣ t.model.span →
        (∀ q ∈ t.rowLoads, q.IsWithin t.bus t.window) ∧
          t.Answers "mem words" t.rowLoads (t.rowsText Cells.blank) w'.terminal) := by
  obtain ⟨decl, o, external, -, hd, hbase, hcarries, -⟩ := Request.opened_of_target h
  refine ⟨Target.registerLoads_isWithin hd, Target.answers_regs hd hbase hu hword hcarries,
    fun hdvd => ⟨?_, Target.answers_words hd hdvd hcarries⟩⟩
  exact (Target.rowLoads_isWithin_iff hd.word_bounds.1 hd.span_pos).2 hdvd

/-- A shell over a buffer runs each part of a script to its end, from the moment it is opened. -/
theorem Request.opened_runs_script (h : r.target.run w = (.ok t, w')) (hr : r.isPaged = false)
    {o : Options} {decl : Description} (hdecl : r.Describes w.files o decl)
    (hp : decl.isPlain = true)
    (hu : ∀ reg ∈ t.model.registers, ¬"__".toList <+: reg.name.toList)
    (hc : Text.canonical o.className ∉ t.device.kind.imported) {script : String}
    (hscript : script.length < Machine.bytes)
    (hwords : ∀ line ∈ Shell.scriptLines script, Shell.wordFault? line = none) :
    (t.runScript script).run w'.terminal =
      (.ok (), (Shell.scriptLines script).foldl
        (fun s line => ((t.runLine line).run s).2) w'.terminal) := by
  obtain ⟨decl', o', external, ⟨ho', content', hcontent', hdecl'⟩, hd, -, -, hbuffers⟩ :=
    Request.opened_of_target h
  obtain ⟨ho, content, hcontent, hdecl⟩ := hdecl
  cases ho.symm.trans ho'
  cases hcontent.symm.trans hcontent'
  cases hdecl.symm.trans hdecl'
  exact Target.run_lines hd hp hu hc (hbuffers hr) fun line hline =>
    ⟨(Shell.length_le_of_mem_scriptLines hline).trans_lt hscript, hwords line hline⟩

end CommandLine

end RegisterMap
