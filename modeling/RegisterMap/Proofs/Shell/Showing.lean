import RegisterMap.Proofs.Accessor.Clashes
import RegisterMap.Proofs.Memory.Backends
import RegisterMap.Proofs.Shell.Rows
import RegisterMap.Proofs.Shell.Session

/-!
# Showing a region

What the lines `regs` and `mem words` load from the region of a device and print of it. The
registers lie in the region as a whole, and the words do when the region has the size of a number of
them. Over a buffer of just the region, `mem words` is answered with an error otherwise.
-/

namespace RegisterMap

open Memory

theorem Model.end_le_span {m : Model} {r : Register} (hr : r ∈ m.registers) :
    r.offset + m.word.size ≤ m.span := by
  have hmem : r.offset ∈ m.registers.map (·.offset) := List.mem_map_of_mem hr
  unfold span
  cases hmax : (m.registers.map (·.offset)).max? with
  | none =>
    rw [List.max?_eq_none_iff] at hmax
    simp [hmax] at hmem
  | some greatest =>
    have hle := (List.max?_eq_some_iff.1 hmax).2 r.offset hmem
    dsimp only
    omega

namespace Shell

namespace Target

/-! ### Registers -/

/-- The load of a register, if it can be read. -/
def registerLoad (t : Target) (r : Register) : List Request :=
  if r.capability.readable then [.read t.bus (t.base + r.offset) t.model.word.size] else []

/-- The line of a register, over the bytes of a flat memory. -/
def registerText (t : Target) (flat : Cells) (r : Register) : String :=
  column 16 r.name ++ " +" ++ Number.prefixedHex 4 r.offset ++ " ["
    ++ Number.prefixedHex 8 (t.base + r.offset) ++ "] " ++ r.capability.keyword ++ " = "
    ++ if r.capability.readable
      then Number.prefixedHex 8 (flat.load (t.base + r.offset) t.model.word.size)
      else "(write-only)"

/-- The loads of all registers that can be read, in order. -/
def registerLoads (t : Target) : List Request :=
  t.model.registers.flatMap t.registerLoad

def registersText (t : Target) (flat : Cells) : String :=
  "\n".intercalate (t.model.registers.map (t.registerText flat))

/-! ### Texts -/

theorem colon_not_mem_joined {lines : List String} (h : ∀ l ∈ lines, ':' ∉ l.toList) :
    ':' ∉ ("\n".intercalate lines).toList := by
  induction lines with
  | nil => decide
  | cons l lines ih =>
    obtain ⟨hl, hlines⟩ := List.forall_mem_cons.1 h
    cases lines with
    | nil => rwa [String.intercalate_singleton]
    | cons l' lines =>
      rw [String.intercalate_cons_cons]
      exact colon_not_mem_append (colon_not_mem_append hl (by decide)) (ih hlines)

theorem joined_ne_empty {l : String} (h : l ≠ "") (lines : List String) :
    "\n".intercalate (l :: lines) ≠ "" := by
  cases lines with
  | nil => rwa [String.intercalate_singleton]
  | cons l' lines =>
    rw [String.intercalate_cons_cons, Ne, String.append_eq_empty_iff, String.append_eq_empty_iff]
    exact fun hempty => h hempty.1.1

theorem colon_not_mem_hexChars (width : Nat) (v : Int) : ':' ∉ Number.hexChars width v := by
  have hnot := colon_not_mem_prefixedHex width v
  rw [Number.toList_prefixedHex, List.mem_cons, List.mem_cons] at hnot
  exact fun hmem => hnot (.inr (.inr hmem))

theorem colon_not_mem_bytesLine (base offset : Int) (bytes : List UInt8) :
    ':' ∉ Dump.bytesLine base offset bytes := by
  have hbytes : ':' ∉ bytes.reverse.flatMap Dump.byteDigits := by
    rw [List.mem_flatMap]
    rintro ⟨b, -, hb⟩
    exact colon_not_mem_hexChars 2 b.toNat hb
  have hfront : ':' ∉ "+0x".toList ∧ ':' ∉ " [0x".toList ∧ ':' ∉ "] = 0x".toList := by decide
  unfold Dump.bytesLine
  simp only [List.mem_append, not_or]
  exact ⟨⟨⟨⟨⟨hfront.1, colon_not_mem_hexChars _ _⟩, hfront.2.1⟩, colon_not_mem_hexChars _ _⟩,
    hfront.2.2⟩, hbytes⟩

theorem complains_rowsText (t : Target) (flat : Cells) : complains (t.rowsText flat) = false := by
  refine complains_of_plain (colon_not_mem_joined ?_)
  simp only [List.forall_mem_map, String.toList_ofList]
  exact fun k _ => colon_not_mem_bytesLine _ _ _

theorem rowsText_ne_empty {t : Target} (hcount : 0 < t.rowCount) (flat : Cells) :
    t.rowsText flat ≠ "" := by
  obtain ⟨last, hlast⟩ := Nat.exists_eq_add_one.2 hcount
  unfold rowsText Dump.joinLines
  rw [hlast, List.range_succ_eq_map, List.map_cons, List.map_cons]
  refine joined_ne_empty (fun hempty => ?_) _
  have hnil := congrArg String.toList hempty
  rw [String.toList_ofList] at hnil
  exact List.cons_ne_nil '+' _ hnil

theorem registerText_ne_empty (t : Target) (flat : Cells) (r : Register) :
    t.registerText flat r ≠ "" := by
  unfold registerText
  intro hempty
  rw [String.append_eq_empty_iff, String.append_eq_empty_iff] at hempty
  exact absurd hempty.1.2 (by decide)

theorem registersText_ne_empty {t : Target} (h : t.model.registers ≠ []) (flat : Cells) :
    t.registersText flat ≠ "" := by
  obtain ⟨r, rs, hrs⟩ := List.exists_cons_of_ne_nil h
  unfold registersText
  rw [hrs, List.map_cons]
  exact joined_ne_empty (registerText_ne_empty t flat r) _

theorem colon_not_mem_registerText (t : Target) (flat : Cells) {r : Register}
    (hname : Text.isIdentifier r.name = true) : ':' ∉ (t.registerText flat r).toList := by
  have hcolumn : ':' ∉ (column 16 r.name).toList := by
    unfold column Dump.padRight
    rw [String.toList_ofList, List.mem_append, List.mem_replicate]
    rintro (hmem | ⟨-, hblank⟩)
    · exact Text.not_mem_of_isIdentifier (by decide) (by decide) hname hmem
    · cases hblank
  have hkeyword : ':' ∉ r.capability.keyword.toList := by
    cases r.capability <;> decide
  have hvalue : ':' ∉ (if r.capability.readable
      then Number.prefixedHex 8 (flat.load (t.base + r.offset) t.model.word.size)
      else "(write-only)").toList := by
    split
    · exact colon_not_mem_prefixedHex _ _
    · decide
  have hsigns : ':' ∉ " +".toList ∧ ':' ∉ " [".toList ∧ ':' ∉ "] ".toList ∧ ':' ∉ " = ".toList := by
    decide
  have hoffset := colon_not_mem_append (colon_not_mem_append hcolumn hsigns.1)
    (colon_not_mem_prefixedHex 4 r.offset)
  have haddress := colon_not_mem_append (colon_not_mem_append hoffset hsigns.2.1)
    (colon_not_mem_prefixedHex 8 (t.base + r.offset))
  have hpolicy := colon_not_mem_append (colon_not_mem_append haddress hsigns.2.2.1) hkeyword
  exact colon_not_mem_append (colon_not_mem_append hpolicy hsigns.2.2.2) hvalue

theorem complains_registersText (t : Target) (flat : Cells)
    (hnames : ∀ r ∈ t.model.registers, Text.isIdentifier r.name = true) :
    complains (t.registersText flat) = false := by
  refine complains_of_plain (colon_not_mem_joined ?_)
  simp only [List.forall_mem_map]
  exact fun r hr => colon_not_mem_registerText t flat (hnames r hr)

end Target

end Shell

section

variable [Machine]

/-- A machine has room for small numbers. -/
theorem lt_bytes_of_small {n : Nat} (h : n < 500) : n < Machine.bytes :=
  (h.trans (by decide)).trans Machine.addresses_lt

namespace Device.Made

variable {decl : Description} {o : Options} {external : External} {m : Model} {d : Device}
  (hd : d.Made decl o external m)
include hd

theorem word_bounds : 0 < m.word.size ∧ m.word.size < 500 := by
  obtain ⟨_, hm⟩ := hd.wellFormed
  obtain ⟨w, hw, heq⟩ := hm.word_mem
  have hall : ∀ w ∈ wordSizes, 0 < (Bits.unsigned w).size ∧ (Bits.unsigned w).size < 500 := by
    decide
  exact heq ▸ hall w hw

theorem registers_ne_nil : m.registers ≠ [] := by
  obtain ⟨_, hm⟩ := hd.wellFormed
  obtain ⟨f, hf⟩ := List.exists_mem_of_ne_nil _ hm.inhabited
  obtain ⟨r, hr, -⟩ := hm.home f hf
  exact List.ne_nil_of_mem hr

theorem word_lt_bytes : m.word.size < Machine.bytes :=
  lt_bytes_of_small hd.word_bounds.2

theorem span_pos : 0 < m.span := by
  obtain ⟨r, hr⟩ := List.exists_mem_of_ne_nil _ hd.registers_ne_nil
  have hoffset := hd.offset_nonneg hr
  have hend := Model.end_le_span hr
  have hsize := hd.word_bounds.1
  omega

end Device.Made

namespace Shell

/-- Whether a line is answered with a text that is no complaint, after some requests to the memories
and nothing else. -/
def Target.Answers (t : Target) (line : String) (requests : List Request) (text : String)
    (s : Terminal) : Prop :=
  (t.runLine line).run s = (.ok none, ⟨s.space.after requests, s.shown ++ (text ++ "\n")⟩) ∧
    complains text = false

theorem Target.answers_of_command {t : Target} {line word text : String} {verb : Verb}
    {args : List String} {requests : List Request} {s : Terminal} (hn : t.IsNamed)
    (hline : t.runLine line = printAnswer word (t.command verb args) >>= fun _ => pure none)
    (hrun : (t.command verb args).run s.space = (.ok text, s.space.after requests))
    (hne : text ≠ "") (hplain : complains text = false) : t.Answers line requests text s := by
  refine ⟨?_, hplain⟩
  have hclean := command_answers hn verb args _ _ _ hrun
  have hanswer : (printAnswer word (t.command verb args)).run s =
      (.ok (), ⟨s.space.after requests, s.shown ++ (text ++ "\n")⟩) := by
    rw [run_printAnswer, hrun]
    dsimp only
    rw [if_neg hne, run_printLine hclean]
  rw [hline, Step.run_bind_of_ok hanswer]
  rfl

namespace Target

/-! ### Answers -/

theorem runLine_words (t : Target) : t.runLine "mem words" =
    printAnswer "mem" (t.command .mem ["words"]) >>= fun _ => pure none := by
  rfl

theorem runLine_regs (t : Target) : t.runLine "regs" =
    printAnswer "regs" (t.command .regs []) >>= fun _ => pure none := by
  rfl

section Registers

variable {decl : Description} {o : Options} {external : External} {t : Target} {flat : Cells}
  (hd : t.device.Made decl o external t.model) (hbase : t.device.base = t.base)
include hd

theorem includes_register {r : Register} (hr : r ∈ t.model.registers) :
    t.window.Includes (t.base + r.offset) t.model.word.size := by
  have hoffset := hd.offset_nonneg hr
  have hend := Model.end_le_span hr
  have hsize := hd.word_bounds.1
  unfold window
  refine ⟨Span.has_iff.2 ?_, ?_⟩
  · dsimp only
    omega
  · dsimp only
    omega

theorem registerLoads_isWithin : ∀ q ∈ t.registerLoads, q.IsWithin t.bus t.window := by
  intro q hq
  obtain ⟨r, hr, hq⟩ := List.mem_flatMap.1 hq
  have hin := includes_register hd hr
  have hsize := hd.word_bounds.1
  unfold registerLoad at hq
  split at hq
  · rw [List.mem_singleton.1 hq]
    exact ⟨rfl, by omega, (Span.has_iff.1 hin.first).1, hin.last⟩
  · cases hq

variable (hu : ∀ r ∈ t.model.registers, Text.isPublic r.name = true)
  (hword : (∃ r ∈ t.model.registers, r.capability.readable = true) →
    t.device.kind.hidesWord = false)
include hbase hu hword

theorem run_registerLine {r : Register} (hr : r ∈ t.model.registers) {s : Space}
    (hs : s.Carries t.bus t.window flat) :
    (t.registerLine r).run s = (.ok (t.registerText flat r), s.after (t.registerLoad r)) ∧
      (s.after (t.registerLoad r)).Carries t.bus t.window flat := by
  have hascii : ∀ r ∈ t.model.registers, Text.isAscii r.name = true := fun r hr =>
    (Text.isPublic_iff.1 (hu r hr)).1
  have hunmarked : ∀ r ∈ t.model.registers, ¬"__".toList <+: r.name.toList := by
    intro r hr hmarked
    obtain ⟨rest, hrest⟩ := hmarked
    exact (Text.isPublic_iff.1 (hu r hr)).2 (by rw [← hrest]; rfl)
  obtain ⟨_, hm⟩ := hd.wellFormed
  obtain ⟨w, hmem, hw⟩ := hm.word_mem
  unfold registerLine
  rw [hd.handle_of_unmarked hascii hunmarked hr, hbase, Step.ofOutcome_ok, pure_bind]
  dsimp only
  unfold registerText registerLoad
  by_cases hread : r.capability.readable = true
  · obtain ⟨hload, hafter⟩ := run_load hs (includes_register hd hr) hd.word_lt_bytes
    have hbits : flat.load (t.base + r.offset) t.model.word.size % 2 ^ w =
        flat.load (t.base + r.offset) t.model.word.size := by
      have hlt := Cells.load_lt flat (t.base + r.offset) t.model.word.size
      have hw : t.model.word.bits = w := congrArg Bits.IntType.bits hw
      rw [← hd.bits_eq, hw] at hlt
      exact Nat.mod_eq_of_lt hlt
    have hstore : (t.store.load (t.base + r.offset) (Bits.unsigned w)).run s =
        (.ok (flat.load (t.base + r.offset) t.model.word.size),
          s.afterOne (.read t.bus (t.base + r.offset) t.model.word.size)) := by
      rw [← hw]
      exact hload
    rw [if_pos hread, if_pos hread, if_pos hread, Device.readRegister, hword ⟨r, hr, hread⟩,
      Bool.false_and, if_neg Bool.false_ne_true,
      Handle.read_eq t.store (Bits.lt_bits_of_mem hmem) hw hread]
    refine ⟨?_, hafter⟩
    simp only [bind_assoc, pure_bind]
    rw [Step.run_bind_of_ok hstore, hbits]
    rfl
  · rw [if_neg hread, if_neg hread, if_neg hread]
    exact ⟨rfl, hs⟩

theorem run_registerLines {rs : List Register} (hrs : ∀ r ∈ rs, r ∈ t.model.registers) {s : Space}
    (hs : s.Carries t.bus t.window flat) :
    (rs.mapM t.registerLine).run s =
      (.ok (rs.map (t.registerText flat)), s.after (rs.flatMap t.registerLoad)) := by
  induction rs generalizing s with
  | nil => rfl
  | cons r rs ih =>
    obtain ⟨hr, hrs⟩ := List.forall_mem_cons.1 hrs
    obtain ⟨hline, hafter⟩ := run_registerLine hd hbase hu hword hr hs
    rw [List.mapM_cons, Step.run_bind_of_ok hline, Step.run_bind_of_ok (ih hrs hafter),
      List.flatMap_cons, Space.after_append]
    rfl

theorem run_registers {s : Space} (hs : s.Carries t.bus t.window flat) :
    t.registers.run s = (.ok (t.registersText flat), s.after t.registerLoads) := by
  have hlines := run_registerLines hd hbase hu hword (fun r hr => hr) hs
  unfold registers
  rw [Step.run_bind_of_ok hlines]
  rfl

end Registers

section Commands

variable {t : Target} {s : Space} {flat : Cells} (hs : s.Carries t.bus t.window flat)
  (hsize : 0 < t.model.word.size) (hsmall : t.model.word.size < 500)
include hs hsize hsmall

theorem run_memory_words (hdvd : (t.model.word.size : Int) ∣ t.model.span)
    (hspan : 0 < t.model.span) (rest : List String) (hrest : rest.length ≤ 1) :
    (t.memory ("words" :: rest)).run s = (.ok (t.rowsText flat), s.after t.rowLoads) := by
  have hlimit := lt_bytes_of_small hsmall
  have hne : (List.range t.rowCount).map (t.rowWord flat) ≠ [] := by
    simp [Nat.ne_of_gt (rowCount_pos hsize hspan)]
  have hlines := wordLines_map_rowWord hsize flat 0 t.rowCount
  rw [rowOffset_zero, Nat.cast_zero, ← List.range_eq_range'] at hlines
  have hdump : Dump.words t.base t.model.word.size ((List.range t.rowCount).map (t.rowWord flat)) =
      .ok (t.rowsText flat) := by
    rw [Dump.words, if_neg hne, checkPlaces_of_lt (by omega) (by omega), ok_bind,
      if_neg (by omega), hlines]
    rfl
  have hmemory : t.memory ("words" :: rest) = (do
      let ws ← t.loadWords t.model.span 0 t.model.span.toNat
      Step.ofOutcome (Dump.words t.base t.model.word.size ws)) := if_neg (Nat.not_lt.2 hrest)
  rw [hmemory, Step.run_bind_of_ok (run_loadWords_all hsize hlimit hdvd hspan.le hs), hdump]
  rfl

end Commands

/-- A line that fails for a reason its user is told of is answered with an error. -/
theorem run_printAnswer_of_error {x : Step Space Failure String} {s : Terminal} {f : Failure}
    {u : Space} (hrun : x.run s.space = (.error f, u)) (htold : IsTold f) (word : String) :
    ∃ v, (printAnswer word x).run s =
      (.ok (), ⟨v, s.shown ++ ("error: " ++ shownFailure f ++ "\n")⟩) := by
  have hline : Text.isClean ("error: " ++ shownFailure f) = true := by
    rw [Text.isClean_append, htold.clean]
    decide
  rw [run_printAnswer, hrun]
  dsimp only
  rw [if_pos htold.mendable, run_printLine hline]
  exact ⟨_, rfl⟩

variable {decl : Description} {o : Options} {external : External} {t : Target}

theorem answers_regs (hd : t.device.Made decl o external t.model) (hbase : t.device.base = t.base)
    (hu : ∀ r ∈ t.model.registers, Text.isPublic r.name = true)
    (hword : (∃ r ∈ t.model.registers, r.capability.readable = true) →
      t.device.kind.hidesWord = false) {s : Terminal} {flat : Cells}
    (hs : s.space.Carries t.bus t.window flat) :
    t.Answers "regs" t.registerLoads (t.registersText flat) s := by
  obtain ⟨_, hm⟩ := hd.wellFormed
  refine answers_of_command (isNamed_of_wellFormed hm) (runLine_regs t)
    (run_registers hd hbase hu hword hs) (registersText_ne_empty hd.registers_ne_nil flat)
    (complains_registersText t flat ?_)
  exact fun r hr => (hm.registers_usable r hr).1

theorem answers_words (hd : t.device.Made decl o external t.model)
    (hdvd : (t.model.word.size : Int) ∣ t.model.span) {s : Terminal} {flat : Cells}
    (hs : s.space.Carries t.bus t.window flat) :
    t.Answers "mem words" t.rowLoads (t.rowsText flat) s := by
  obtain ⟨hsize, hsmall⟩ := hd.word_bounds
  obtain ⟨_, hm⟩ := hd.wellFormed
  have hspan := hd.span_pos
  exact answers_of_command (isNamed_of_wellFormed hm) (runLine_words t)
    (run_memory_words hs hsize hsmall hdvd hspan [] (Nat.zero_le _))
    (rowsText_ne_empty (rowCount_pos hsize hspan) flat) (complains_rowsText t flat)

/-- On the region that is made for a device, whatever stands behind it and whatever it holds by now,
`regs` loads the registers that can be read, each where it lies in the region, and shows their
words. `mem words` shows each byte of the region in exactly one row. It loads nothing but bytes of
the region exactly when this has the size of a number of words, and then it shows all of them. -/
theorem shows_region (hd : t.device.Made decl o external t.model)
    (hbase : t.device.base = t.base) (hu : ∀ r ∈ t.model.registers, Text.isPublic r.name = true)
    (hword : (∃ r ∈ t.model.registers, r.capability.readable = true) →
      t.device.kind.hidesWord = false) :
    (∀ (r : CommandLine.Request) (u s : Space),
      (r.makeBus t.base t.model.span).run u = (.ok t.bus, s) →
        s.Carries t.bus t.window Cells.blank) ∧
    (∀ q ∈ t.registerLoads, q.IsWithin t.bus t.window) ∧
    ((∀ q ∈ t.rowLoads, q.IsWithin t.bus t.window) ↔
      (t.model.word.size : Int) ∣ t.model.span) ∧
    (∀ a, t.window.has a = true → ∃! k, k < t.rowCount ∧ (t.rowSpan k).has a = true) ∧
    ∀ (s : Terminal) (flat : Cells), s.space.Carries t.bus t.window flat →
      t.Answers "regs" t.registerLoads (t.registersText flat) s ∧
      ((t.model.word.size : Int) ∣ t.model.span →
        t.Answers "mem words" t.rowLoads (t.rowsText flat) s) := by
  obtain ⟨hsize, -⟩ := hd.word_bounds
  have hspan := hd.span_pos
  refine ⟨?mapped, registerLoads_isWithin hd, rowLoads_isWithin_iff hsize hspan,
    fun a => existsUnique_row hsize, fun s flat hs => ⟨answers_regs hd hbase hu hword hs,
      fun hdvd => answers_words hd hdvd hs⟩⟩
  exact fun r u s hrun => CommandLine.Request.carries_of_makeBus (by omega) hrun

/-- Over a buffer of just the region, `mem words` is answered with an error when the region ends in
a part of a word: the last row starts in it and passes its end. -/
theorem words_refused (hd : t.device.Made decl o external t.model)
    (hdvd : ¬(t.model.word.size : Int) ∣ t.model.span) {s : Terminal} {flat : Cells} {name : String}
    {leaf : Ref} (hs : s.space.Mirrors t.bus [⟨name, t.window, leaf⟩] flat) :
    ∃ f v, isMendable f.category = true ∧ (t.runLine "mem words").run s =
      (.ok none, ⟨v, s.shown ++ ("error: " ++ shownFailure f ++ "\n")⟩) := by
  obtain ⟨hsize, -⟩ := hd.word_bounds
  have hspan := hd.span_pos
  obtain ⟨last, hstarts, hpasses⟩ := exists_passing_row hsize hdvd hspan
  have hloads : ∀ q ∈ (List.range last).map t.rowLoad,
      ∃ ref address size, q = .read ref address size := by
    simp only [List.forall_mem_map]
    exact fun k _ => ⟨_, _, _, rfl⟩
  have hafter := hs.of_alike (Space.alike_after_loads hloads)
  obtain ⟨⟨r, hr, -, -, hfits⟩, -⟩ | ⟨-, e, u, -, hread, hrefuses⟩ :=
    hafter.read (t.base + t.rowOffset last) t.model.word.size
  · rw [List.mem_singleton.1 hr] at hfits
    rw [rowOffset_succ] at hpasses
    unfold window at hfits
    dsimp only at hfits
    omega
  · have hload : (t.load (t.base + t.rowOffset last) t.model.word.size).run _ =
        (.error (.memory e), u) := Step.run_withFailure_eq_error.2 ⟨e, hread, rfl⟩
    have hwords : (t.command .mem ["words"]).run s.space = (.error (.memory e), u) :=
      Step.run_bind_of_error
        (run_loadWords_of_error hsize hd.word_lt_bytes hstarts hs.carries hload)
    have htold : IsTold (.memory e) := isTold_of_misses (hrefuses.imp_right And.left)
    obtain ⟨v, hanswer⟩ := run_printAnswer_of_error hwords htold "mem"
    refine ⟨_, v, htold.mendable, ?_⟩
    rw [runLine_words, Step.run_bind_of_ok hanswer]
    rfl

end Target

end Shell

end

namespace Shell.Target

/-- A timer on a bus of its own. -/
def onlyTimer : Target :=
  { timer with bus := 0 }

/-- The seven words of a timer are shown as they are at first, each byte a zero. -/
theorem shows_region_timer : Device.timer.Made .timer .timer .none .timer ∧
    (∀ r ∈ Model.timer.registers, Text.isPublic r.name = true) ∧
    Device.timer.kind.hidesWord = false ∧
    (onlyTimer.model.word.size : Int) ∣ onlyTimer.model.span ∧ ∃ s,
      (({} : CommandLine.Request).makeBus 4096 onlyTimer.model.span).run .empty = (.ok 0, s) ∧
      onlyTimer.Answers "mem words" onlyTimer.rowLoads (onlyTimer.rowsText .blank) ⟨s, ""⟩ := by
  have hu : ∀ r ∈ Model.timer.registers, Text.isPublic r.name = true := by decide
  have hword : Device.timer.kind.hidesWord = false := by decide
  have hdvd : (onlyTimer.model.word.size : Int) ∣ onlyTimer.model.span := by decide
  obtain ⟨hmapped, -, -, -, hshows⟩ := shows_region (t := onlyTimer) Device.made_timer rfl hu
    fun _ => hword
  have hrun : (({} : CommandLine.Request).makeBus 4096 onlyTimer.model.span).run .empty =
      (.ok 0, _) := rfl
  refine ⟨Device.made_timer, hu, hword, hdvd, _, hrun, ?_⟩
  exact (hshows ⟨_, ""⟩ Cells.blank (hmapped {} .empty _ hrun)).2 hdvd

end Shell.Target

end RegisterMap
