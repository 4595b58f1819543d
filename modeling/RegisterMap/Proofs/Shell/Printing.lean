import RegisterMap.Proofs.Analysis.WellFormed
import RegisterMap.Proofs.Number.Prefixed
import RegisterMap.Proofs.Preservation
import RegisterMap.Proofs.Text.Clean
import RegisterMap.Shell.Session

/-!
# What a session prints

Commands answer with clean texts, for which every output stream has bytes: names are identifiers,
and what a line gives besides is shown as a number or in quotes. Only the word of a line that is no
command is printed as it stands.
-/

namespace RegisterMap

/-! ### Texts in quotes -/

namespace Text

theorem isCleanChar_toLower {c : Char} (h : c.isAlphanum = true) :
    isCleanChar c.toLower = true :=
  of_forall_lt (fun c => c.isAlphanum = true → isCleanChar c.toLower = true) (by decide)
    (lt_of_isAlphanum h) h

theorem isCleanChar_of_isPrintable {c : Char} (h : isPrintable c = true) :
    isCleanChar c = true := by
  have hnull : c ≠ '\x00' := by
    rintro rfl
    exact absurd h (by decide)
  have hmark : c ≠ halfMark := by
    rintro rfl
    exact absurd h (by decide +kernel)
  simp [isCleanChar, hnull, hmark]

theorem all_lowHex (count n : Nat) : (lowHex count n).all isCleanChar = true := by
  have hdigits := Number.isDigitOf_padZeros count
    (Number.isDigitOf_hexDigitsBefore n (fun c hc => absurd hc List.not_mem_nil))
  refine List.all_eq_true.2 fun c hc => ?_
  obtain ⟨d, hd, rfl⟩ := List.mem_map.1 hc
  exact isCleanChar_toLower (Number.isAlphanum_of_isDigitOf (hdigits d hd))

theorem all_numericEscape (n : Nat) : (numericEscape n).all isCleanChar = true := by
  unfold numericEscape
  split
  · exact all_lowHex 2 n
  · split
    · exact all_lowHex 4 n
    · exact all_lowHex 8 n

theorem all_quotedPoint {quote : Char} (hquote : isCleanChar quote = true) (p : Point) :
    (quotedPoint quote p).all isCleanChar = true := by
  cases p with
  | half place => exact all_numericEscape _
  | char c =>
    rw [quotedPoint]
    split_ifs with hkept _ _ _ hshown
    · have hslash : isCleanChar '\\' = true := by decide
      rcases hkept with rfl | rfl
      · simp [hquote, hslash]
      · decide
    · decide
    · decide
    · decide
    · simp [isCleanChar_of_isPrintable hshown]
    · exact all_numericEscape _

theorem all_quotedChars (cs : List Char) : (quotedChars cs).all isCleanChar = true := by
  have hquote : isCleanChar (quoteFor cs) = true := by
    unfold quoteFor
    split <;> decide
  unfold quotedChars
  rw [List.all_cons, List.all_append, List.all_flatMap, hquote, List.all_eq_true.2]
  · simp [hquote]
  · exact fun p _ => all_quotedPoint hquote p

theorem isClean_quoted (s : String) : isClean (quoted s) = true := by
  rw [quoted, isClean_ofList, all_quotedChars]

theorem isClean_toString_int (v : Int) : isClean (toString v) = true := by
  cases v with
  | ofNat n => exact isClean_toString n
  | negSucc n => exact (isClean_append "-" _).trans (isClean_toString (n + 1))

end Text

open Text

theorem Number.LiteralFault.isClean_message (rule : Notation) (s : String) (f : LiteralFault) :
    isClean (f.message rule s) = true := by
  cases f with
  | malformed =>
    have hshown : isClean (String.ofList ((quotedChars s.toList).take 200)) = true := by
      rw [isClean_ofList, List.all_eq_true]
      exact fun c hc => List.all_eq_true.1 (all_quotedChars _) c (List.mem_of_mem_take hc)
    unfold message
    cases rule <;> simp only [isClean_append, hshown] <;> decide
  | tooLong digits =>
    unfold message
    simp only [isClean_append, isClean_toString]
    decide

theorem Number.isClean_longNumberMessage : isClean longNumberMessage = true := by
  unfold longNumberMessage
  simp only [isClean_append, isClean_toString]
  decide

/-! ### Texts of dumps -/

namespace Dump

theorem all_padRight {width : Nat} {cs : List Char} (h : cs.all isCleanChar = true) :
    (padRight width cs).all isCleanChar = true := by
  have hblank : isCleanChar ' ' = true := by decide
  rw [padRight, List.all_append, h, Bool.true_and, List.all_eq_true]
  intro c hc
  rw [List.eq_of_mem_replicate hc, hblank]

theorem isCleanChar_shownByte (b : UInt8) : isCleanChar (shownByte b) = true := by
  have hall : ∀ n < 0x80, 0x20 ≤ n → isCleanChar (Char.ofNat n) = true := by decide
  unfold shownByte
  split
  · next h =>
    rw [Bool.and_eq_true, decide_eq_true_iff, decide_eq_true_iff] at h
    have hlow : 0x20 ≤ b.toNat := h.1
    have hhigh : b.toNat < 0x7F := h.2
    exact hall _ (by omega) hlow
  · decide

theorem all_byteDigits (b : UInt8) : (byteDigits b).all isCleanChar = true :=
  all_hexChars 2 b.toNat

theorem all_byteColumn (bs : List UInt8) : (byteColumn bs).all isCleanChar = true := by
  fun_induction byteColumn bs with
  | case1 => rfl
  | case2 b => exact all_byteDigits b
  | case3 b bs _ ih =>
    rw [List.all_append, all_byteDigits, List.all_cons, ih]
    decide

theorem all_row (address : Int) (width : Nat) (bs : List UInt8) :
    (row address width bs).all isCleanChar = true := by
  have hblanks : "  ".toList.all isCleanChar = true := by decide
  have hshown : (bs.map shownByte).all isCleanChar = true := by
    simp [isCleanChar_shownByte]
  unfold row
  simp only [List.all_append, all_hexChars, hblanks, all_padRight (all_byteColumn bs), hshown,
    Bool.and_self]

theorem all_of_mem_rows {address : Int} {width : Nat} {bs : List UInt8} :
    ∀ line ∈ rows address width bs, line.all isCleanChar = true := by
  fun_induction rows address width bs with
  | case1 => exact List.forall_mem_nil _
  | case2 address bs _ ih => exact List.forall_mem_cons.2 ⟨all_row _ _ _, ih⟩

theorem all_of_mem_wordLines {base step offset : Int} {ws : List Int} :
    ∀ line ∈ wordLines base step offset ws, line.all isCleanChar = true := by
  induction ws generalizing offset with
  | nil => exact List.forall_mem_nil _
  | cons w ws ih =>
    refine List.forall_mem_cons.2 ⟨?_, ih⟩
    have hfixed : "+0x".toList.all isCleanChar = true ∧ " [0x".toList.all isCleanChar = true ∧
        "] = 0x".toList.all isCleanChar = true := by decide
    unfold wordLine
    simp only [List.all_append, all_hexChars, hfixed, Bool.and_self]

theorem isClean_joinLines {lines : List (List Char)}
    (h : ∀ line ∈ lines, line.all isCleanChar = true) : isClean (joinLines lines) = true := by
  refine isClean_intercalate (by decide) fun s hs => ?_
  obtain ⟨line, hline, rfl⟩ := List.mem_map.1 hs
  rw [isClean_ofList, h line hline]

variable [Machine]

theorem isClean_of_bytes {base width : Int} {data : List UInt8} {text : String}
    (h : bytes base width data = .ok text) : isClean text = true := by
  unfold bytes at h
  split at h
  · cases h
  · split at h
    · cases h
      rfl
    · obtain ⟨_, -, hrows⟩ := bind_eq_ok.1 h
      cases hrows
      exact isClean_joinLines all_of_mem_rows

theorem isClean_of_words {base step : Int} {ws : List Int} {text : String}
    (h : words base step ws = .ok text) : isClean text = true := by
  unfold words at h
  split at h
  · cases h
    rfl
  · obtain ⟨_, -, hlines⟩ := bind_eq_ok.1 h
    split at hlines
    · cases hlines
    · cases hlines
      exact isClean_joinLines all_of_mem_wordLines

end Dump

namespace Shell

/-! ### What commands answer -/

theorem isClean_column (width : Nat) {s : String} (h : isClean s = true) :
    isClean (column width s) = true := by
  rw [column, isClean_ofList, Dump.all_padRight h]

namespace Target

/-- Whether the names of a device are clean. -/
structure IsNamed (t : Target) : Prop where
  field : ∀ f ∈ t.model.fields, isClean f.name = true ∧ isClean f.register = true
  register : ∀ r ∈ t.model.registers, isClean r.name = true

variable {t : Target}

theorem isNamed_of_wellFormed {table : ConstantTable} {decl : Description}
    (hm : t.model.WellFormed table decl) : t.IsNamed := by
  have hregister : ∀ r ∈ t.model.registers, isClean r.name = true := fun r hr =>
    isClean_of_isIdentifier (hm.registers_usable r hr).1
  refine ⟨fun f hf => ⟨isClean_of_isIdentifier (hm.usable f hf).1, ?_⟩, hregister⟩
  obtain ⟨r, hr, hname, -⟩ := hm.home f hf
  exact hname ▸ hregister r hr

theorem mem_of_field {name : String} {f : Field} (h : t.field name = .ok f) :
    f ∈ t.model.fields := by
  unfold field at h
  split at h
  · next f' hf =>
    cases h
    exact List.mem_of_find?_eq_some hf
  · cases h

theorem isClean_policyKeyword (p : Policy) : isClean p.keyword = true := by
  cases p <;> decide

theorem isClean_capabilityKeyword (c : Capability) : isClean c.keyword = true := by
  cases c <;> decide

theorem isClean_fieldLine {f : Field} (hn : isClean f.name = true)
    (hr : isClean f.register = true) : isClean (fieldLine f) = true := by
  unfold fieldLine
  split <;> simp only [isClean_append, isClean_column, isClean_toString, isClean_policyKeyword,
    hn, hr] <;> decide

theorem isClean_valueLine {f : Field} (hn : isClean f.name = true) (answer : Answer) :
    isClean (valueLine f answer) = true := by
  cases answer with
  | truth b =>
    unfold valueLine
    cases b <;> simp only [isClean_append, hn] <;> decide
  | number n =>
    unfold valueLine
    simp only [isClean_append, isClean_prefixedHex, isClean_toString, hn]
    decide
  | nothing => rfl

theorem isClean_fields (ht : t.IsNamed) : isClean t.fields = true := by
  unfold fields
  split
  · decide
  · refine isClean_intercalate (by decide) fun s hs => ?_
    obtain ⟨f, hf, rfl⟩ := List.mem_map.1 hs
    exact isClean_fieldLine (ht.field f hf).1 (ht.field f hf).2

section Answers

variable [Machine] (ht : t.IsNamed)
include ht

theorem get_answers (args : List String) : (t.get args).Answers (isClean · = true) := by
  unfold get
  split
  · next name =>
    refine .bind (.ofOutcome fun f h => (ht.field f (mem_of_field h)).1) fun f hn => ?_
    split
    · exact .after fun answer => .pure (isClean_valueLine hn answer)
    · refine .pure ?_
      rw [isClean_append, hn]
      decide
  · exact .pure (by decide)

theorem set_answers (args : List String) : (t.set args).Answers (isClean · = true) := by
  unfold set
  split
  · exact .pure (by decide)
  next name values =>
  refine .bind (.ofOutcome fun f h => (ht.field f (mem_of_field h)).1) fun f hn => ?_
  split
  · refine .pure ?_
    rw [isClean_append, hn]
    decide
  · refine .after fun setter => ?_
    split
    · refine .after fun _ => .pure ?_
      unfold Field.setterName
      split <;> simp only [isClean_append, hn] <;> decide
    · split
      · refine .after fun value => .after fun _ => .pure ?_
        simp only [isClean_append, hn, isClean_prefixedHex]
        decide
      · exact .pure (by decide)

theorem registers_answers : t.registers.Answers (isClean · = true) := by
  refine Step.Answers.bind (.mapM fun r hr => ?_) fun lines hlines =>
    .pure (isClean_intercalate (by decide) hlines)
  have hline : ∀ (h : Handle) {value : String}, isClean value = true →
      isClean (column 16 r.name ++ " +" ++ Number.prefixedHex 4 r.offset ++ " ["
        ++ Number.prefixedHex 8 h.address ++ "] " ++ r.capability.keyword ++ " = " ++ value) =
        true := by
    intro h value hvalue
    simp only [isClean_append, isClean_column _ (ht.register r hr), isClean_prefixedHex,
      isClean_capabilityKeyword, hvalue]
    decide
  unfold registerLine
  refine .after fun h => ?_
  dsimp only
  split
  · exact .after fun v => .bind (.pure (isClean_prefixedHex 8 v)) fun value hvalue =>
      .pure (hline h hvalue)
  · exact .bind (.pure (by decide)) fun value hvalue => .pure (hline h hvalue)

omit ht in
theorem memory_answers (args : List String) : (t.memory args).Answers (isClean · = true) := by
  unfold memory
  split
  · split
    · exact .pure (by decide)
    · exact .after fun ws => .ofOutcome fun text => Dump.isClean_of_words
  · exact .after fun offset => .after fun data => .ofOutcome fun text => Dump.isClean_of_bytes
  · exact .after fun offset => .after fun count => .after fun data =>
      .ofOutcome fun text => Dump.isClean_of_bytes
  · exact .pure (by decide)

omit ht in
theorem poke_answers (args : List String) : (t.poke args).Answers (isClean · = true) := by
  unfold poke
  split
  · refine .after fun offset => .after fun value => .after fun _ => .pure ?_
    simp only [isClean_append, isClean_prefixedHex]
    decide
  · exact .pure (by decide)

omit ht in
theorem log_answers (args : List String) : (t.log args).Answers (isClean · = true) := by
  unfold log
  split
  · next switch =>
    dsimp only
    split
    · next hword =>
      refine .after fun _ => .pure ?_
      rcases hword with hon | hoff
      · rw [hon]
        decide
      · rw [hoff]
        decide
    · exact .pure (by decide)
  · exact .pure (by decide)

/-- Commands answer with clean texts. -/
theorem command_answers (verb : Verb) (args : List String) :
    (t.command verb args).Answers (isClean · = true) := by
  cases verb with
  | fields => exact .pure (isClean_fields ht)
  | get => exact get_answers ht args
  | log => exact log_answers args
  | mem => exact memory_answers args
  | poke => exact poke_answers args
  | regs => exact registers_answers ht
  | set => exact set_answers ht args

end Answers

end Target

/-! ### What is told of a failure -/

/-- Whether the user can mend what went wrong, and is told so by a clean text. -/
structure IsTold (e : Failure) : Prop where
  mendable : isMendable e.category = true
  clean : isClean (shownFailure e) = true

/-- A missing key is shown in quotes. -/
theorem isTold_of_key {e : Failure} (h : e.category = .key) : IsTold e where
  mendable := by rw [h]; rfl
  clean := by rw [shownFailure, if_pos h, isClean_quoted]

theorem isTold_longNumber : IsTold (.memory .longNumber) where
  mendable := rfl
  clean := by
    rw [shownFailure, if_neg (by decide)]
    exact Number.isClean_longNumberMessage

theorem isTold_tooWide {name : String} (h : isClean name = true) (width value : Int) :
    IsTold (.valueTooWide name width value) where
  mendable := rfl
  clean := by
    have hmessage : shownFailure (.valueTooWide name width value) = name ++ " holds " ++
        toString width ++ " bits, got " ++ Number.prefixedHex 0 value := rfl
    rw [hmessage]
    simp only [isClean_append, isClean_toString_int, isClean_prefixedHex, h]
    decide

theorem isTold_badLiteral (rule : Number.Notation) (s : String) (f : Number.LiteralFault) :
    IsTold (.badLiteral rule s f) :=
  ⟨rfl, Number.LiteralFault.isClean_message rule s f⟩

theorem isTold_of_number {written : String} {e : Failure} (h : number written = .error e) :
    IsTold e := by
  unfold number at h
  cases hread : Number.read .prefixed written with
  | ok v =>
    rw [hread] at h
    cases h
  | error fault =>
    rw [hread] at h
    cases h
    exact isTold_badLiteral _ _ _

theorem Target.isTold_of_field {t : Target} {name : String} {e : Failure}
    (h : t.field name = .error e) : IsTold e := by
  unfold field at h
  split at h <;> cases h
  exact isTold_of_key rfl

/-! ### What the output stream takes -/

variable [Machine]

/-- The output stream takes what has bytes. -/
theorem streamFault?_of_encode {text : String} {bytes : List UInt8}
    (h : Utf8.encode text = .ok bytes) : streamFault? text = none := by
  rw [Utf8.encode] at h
  split at h
  · cases h
  · next hwhole =>
    rw [streamFault?, Utf8.firstFault_eq_none]
    intro p hp
    have hchar := Utf8.firstFault_eq_none.1 hwhole p hp
    exact eq_false_of_ne_true fun hrefused =>
      absurd (Machine.isHalf_of_refuses p hrefused) (ne_true_of_eq_false hchar)

theorem streamFault?_of_isClean {text : String} (h : isClean text = true) :
    streamFault? text = none := by
  obtain ⟨bytes, hbytes⟩ := exists_encode_of_isClean h
  exact streamFault?_of_encode hbytes

/-- A clean line is printed. -/
theorem run_printLine {text : String} (h : isClean text = true) (s : Terminal) :
    (printLine text).run s = (.ok (), { s with shown := s.shown ++ (text ++ "\n") }) := by
  have hline : isClean (text ++ "\n") = true := by
    rw [isClean_append, h]
    decide
  unfold printLine print
  rw [streamFault?_of_isClean hline]
  rfl

end Shell

end RegisterMap
