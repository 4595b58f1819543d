import RegisterMap.Proofs.Description.Separated
import RegisterMap.Proofs.Description.Tokenized

/-!
# Numbers are read whole

The lexer cuts a mistyped number like `12ab` in two, and no mark stands between the halves. As a
mark stands behind each number of a description, none has such a number: a run of letters and
digits that starts with a digit is one number.
-/

namespace RegisterMap

open Text Number

namespace Lexer

/-- What stands behind two slashes in one line is in a comment or in documentation. -/
def Commented (before : List Char) : Prop :=
  ['/', '/'] <:+: lastLine before

/-- A longest run of letters, digits and underscores that starts with a digit. -/
structure DigitRun (before run after : List Char) : Prop where
  word : ∀ c ∈ run, isWordPart c = true
  digit : ∃ c ∈ run.head?, c.isDigit = true
  before : ∀ c ∈ before.getLast?, isWordPart c = false
  after : ∀ c ∈ after.head?, isWordPart c = false

/-- A literal covers the run, and one of the tokens is the number that the literal denotes. -/
def CoveredBy (ts : List Token) (before run after : List Char) : Prop :=
  ∃ front lead trail behind n, before = front ++ lead ∧ after = trail ++ behind ∧
    Longest .integer (lead ++ run ++ trail) (lead ++ run ++ trail ++ behind) ∧
    Denotes (lead ++ run ++ trail) n ∧
    ⟨.number n, lineAfter front, columnAfter front⟩ ∈ ts

section Comments

variable {before gap more cs x y : List Char} {c : Char}

/-- A character of two texts, one behind the other, is in the one or in the other. -/
theorem split_append {front behind : List Char} (h : front ++ behind = x ++ c :: y) :
    (∃ z, front = x ++ c :: z ∧ y = z ++ behind) ∨
      ∃ z, x = front ++ z ∧ behind = z ++ c :: y := by
  obtain ⟨z, hx, hz⟩ | ⟨z, hfront, hz⟩ := List.append_eq_append_iff.1 h
  · exact .inr ⟨z, hx, hz⟩
  · cases z with
    | nil => exact .inr ⟨[], by simpa using hfront.symm, hz.symm⟩
    | cons d z =>
      obtain ⟨rfl, rfl⟩ := List.cons.inj hz
      exact .inl ⟨z, hfront, rfl⟩

theorem lastLine_suffix (front cs : List Char) : lastLine cs <:+ lastLine (front ++ cs) := by
  rw [lastLine, lastLine, List.rtakeWhile, List.rtakeWhile, List.reverse_append,
    List.reverse_suffix, List.takeWhile_append]
  split
  · next h =>
    rw [(List.takeWhile_prefix _).eq_of_length h]
    exact List.prefix_append _ _
  · exact List.prefix_refl _

theorem Commented.append (h : Commented cs) (front : List Char) : Commented (front ++ cs) :=
  h.trans (lastLine_suffix front cs).isInfix

theorem commented_of_line (hline : '\n' ∉ cs) (h : ['/', '/'] <+: cs) : Commented cs := by
  have hlast : lastLine cs = cs := by
    rw [← List.nil_append cs, lastLine_append hline]
    rfl
  rw [Commented, hlast]
  exact h.isInfix

theorem Commented.mem_slash (h : Commented before) : '/' ∈ before := by
  have hlast : lastLine before <:+ before := List.rtakeWhile_suffix _ _
  exact hlast.subset (h.subset (by simp))

/-- A word character behind two slashes. -/
theorem commented_of_slashes (hline : '\n' ∉ more) (hc : isWordPart c = true)
    (h : '/' :: '/' :: more = x ++ c :: y) : Commented x := by
  have hslash : '/' ≠ c := by
    rintro rfl
    cases hc
  refine commented_of_line (fun hmem => ?_) ?_
  · have hmore : '\n' ∈ '/' :: '/' :: more := h ▸ List.mem_append_left _ hmem
    simp [hline] at hmore
  · obtain _ | ⟨d, _ | ⟨e, ds⟩⟩ := x
    · exact absurd (List.cons.inj h).1 hslash
    · exact absurd (List.cons.inj (List.cons.inj h).2).1 hslash
    · rw [← (List.cons.inj h).1, ← (List.cons.inj (List.cons.inj h).2).1]
      exact ⟨ds, rfl⟩

theorem isWordPart_of_isLineBlank (h : isLineBlank c = true) : isWordPart c = false := by
  simp only [isLineBlank, Bool.or_eq_true, beq_iff_eq] at h
  obtain (rfl | rfl) | rfl := h <;> rfl

/-- Word characters in a gap are in its comments. -/
theorem commented_of_gap (h : Gap gap) (hc : isWordPart c = true) (hgap : gap = x ++ c :: y) :
    Commented x := by
  induction h generalizing x with
  | none => simp at hgap
  | @blank d cs hd _ ih =>
    cases x with
    | nil =>
      obtain ⟨rfl, -⟩ := List.cons.inj hgap
      cases hc.symm.trans (isWordPart_of_isLineBlank hd)
    | cons e x => exact (ih (List.cons.inj hgap).2).append [e]
  | newline _ ih =>
    cases x with
    | nil =>
      obtain ⟨rfl, -⟩ := List.cons.inj hgap
      cases hc
    | cons e x => exact (ih (List.cons.inj hgap).2).append [e]
  | @comment text cs htext _ ih =>
    obtain ⟨more, rfl, hline, -⟩ := htext
    obtain ⟨z, htext, -⟩ | ⟨z, rfl, hz⟩ := split_append hgap
    · exact commented_of_slashes hline hc htext
    · cases z with
      | nil =>
        obtain ⟨rfl, -⟩ := List.cons.inj hz
        cases hc
      | cons e z =>
        rw [List.append_cons]
        exact (ih (List.cons.inj hz).2).append _

/-- Word characters behind the last token are in comments. -/
theorem commented_of_ending (h : Ending (x ++ c :: y)) (hc : isWordPart c = true) :
    Commented x := by
  obtain ⟨gap, last, heq, hgap, hlast⟩ := h
  obtain ⟨z, rfl, -⟩ | ⟨z, rfl, rfl⟩ := split_append heq.symm
  · exact commented_of_gap hgap hc rfl
  · obtain hnil | ⟨more, hmore, hline, -⟩ := hlast
    · simp at hnil
    · exact (commented_of_slashes hline hc hmore.symm).append gap

end Comments

section Runs

variable {start rest run after x y written cs : List Char} {c : Char} {p : Piece} {l : Lexeme}
  {r : Except Fault (List Token)} {ts : List Token}

theorem isWordStart_of_isDigit (h : c.isDigit = true) : isWordStart c = false :=
  of_forall_lt (fun c => c.isDigit = true → isWordStart c = false) (by decide) (lt_of_isDigit h) h

theorem isWordPart_of_isDigit (h : c.isDigit = true) : isWordPart c = true := by
  rw [isWordPart, Char.isAlphanum, h, Bool.or_true, Bool.true_or]

theorem isWordPart_of_mem_mark {m : Mark} (h : c ∈ m.text.toList) : isWordPart c = false := by
  have hmarks : m.text.toList.all (fun d => !isWordPart d) = true := by cases m <;> rfl
  simpa using List.all_eq_true.1 hmarks c h

/-- A digit that no word goes on to stands in documentation or in a number. -/
theorem number_of_digit (h : Spells p written) (hmeans : Means p written l)
    (hc : c.isDigit = true) (hwritten : written = x ++ c :: y)
    (hx : ∀ d ∈ x.getLast?, isWordPart d = false) :
    Commented x ∨ p = .integer ∨ p = .fraction := by
  have hword := isWordPart_of_isDigit hc
  cases hmeans with
  | doc cs =>
    cases h with
    | doc hline =>
      have hline' : '\n' ∉ '/' :: cs := by simpa using hline
      exact .inl (commented_of_slashes hline' hword hwritten)
  | name =>
    cases h with
    | @name d ds hd hds =>
      have hall : ∀ e ∈ d :: ds, isWordPart e = true :=
        List.forall_mem_cons.2 ⟨isWordPart_of_isWordStart hd, hds⟩
      rw [hwritten] at hall
      cases hlast : x.getLast? with
      | none =>
        rw [List.getLast?_eq_none_iff.1 hlast] at hwritten
        obtain ⟨rfl, -⟩ := List.cons.inj hwritten
        cases hd.symm.trans (isWordStart_of_isDigit hc)
      | some e =>
        have he := hall e (List.mem_append_left _ (List.mem_of_getLast? hlast))
        cases he.symm.trans (hx e hlast)
  | number => exact .inr (.inl rfl)
  | fraction => exact .inr (.inr rfl)
  | mark m =>
    have hmem : c ∈ m.text.toList := hwritten ▸ List.mem_append_right x List.mem_cons_self
    cases hword.symm.trans (isWordPart_of_mem_mark hmem)

theorem not_commented_nil : ¬Commented [] := by
  rintro ⟨front, behind, h⟩
  have hlength := congrArg List.length h
  simp [lastLine] at hlength

/-- The tokens of a text that starts with a word character do not start with a mark. -/
theorem peek_ne_mark (h : Lexes start (c :: cs) r) (hr : r = .ok ts) (hc : isWordPart c = true)
    (m : Mark) : Parser.peek ts ≠ .mark m := by
  intro hpeek
  generalize htext : c :: cs = text at h
  cases h with
  | ending =>
    cases hr
    cases hpeek
  | unexpected => cases hr
  | badInteger => cases hr
  | @token _ gap written rest p l following hgap hlongest hmeans others =>
    obtain ⟨us, -, rfl⟩ := map_eq_ok.1 hr
    obtain rfl : l = .mark m := hpeek
    cases hmeans
    obtain ⟨z, rfl, -⟩ | ⟨z, hz, hmark⟩ := split_append (x := []) htext.symm
    · exact not_commented_nil (commented_of_gap hgap hc rfl)
    · obtain ⟨rfl, rfl⟩ := List.append_eq_nil_iff.1 hz.symm
      obtain ⟨z, hz, -⟩ | ⟨z, hz, -⟩ := split_append (x := []) hmark
      · have hmem : c ∈ m.text.toList := by simp [hz]
        cases hc.symm.trans (isWordPart_of_mem_mark hmem)
      · exact (Spells.mark m).ne_nil (List.append_eq_nil_iff.1 hz.symm).1

theorem CoveredBy.cons {before : List Char} (h : CoveredBy ts before run after) (t : Token) :
    CoveredBy (t :: ts) before run after := by
  obtain ⟨front, lead, trail, behind, n, hbefore, hafter, hlongest, hn, hmem⟩ := h
  exact ⟨front, lead, trail, behind, n, hbefore, hafter, hlongest, hn, List.mem_cons_of_mem t hmem⟩

/-- A number in which a run starts goes on to the end of the run when a mark stands behind it. -/
theorem covered_of_number {front lead : List Char} {n : Nat} {m : Mark}
    (hlongest : Longest .integer (lead ++ written) (lead ++ written ++ rest))
    (hn : Denotes (lead ++ written) n) (others : Lexes (front ++ (lead ++ written)) rest (.ok ts))
    (hmark : Parser.peek ts = .mark m) (htail : run ++ after = written ++ rest)
    (hrun : ∀ c ∈ run, isWordPart c = true) :
    CoveredBy (⟨.number n, lineAfter front, columnAfter front⟩ :: ts) (front ++ lead) run
      after := by
  have hcovered : ∀ trail, written = run ++ trail → after = trail ++ rest →
      CoveredBy (⟨.number n, lineAfter front, columnAfter front⟩ :: ts) (front ++ lead) run
        after := by
    rintro trail rfl rfl
    rw [← List.append_assoc] at hlongest hn
    exact ⟨front, lead, trail, rest, n, rfl, rfl, hlongest, hn, List.mem_cons_self⟩
  obtain ⟨trail, hwritten, hafter⟩ | ⟨left, hleft, hrest⟩ := List.append_eq_append_iff.1 htail
  · exact hcovered trail hwritten hafter
  · cases left with
    | nil => exact hcovered [] (by simpa using hleft.symm) hrest.symm
    | cons c left =>
      -- what is left of the run starts the next token, which is no mark then
      have hc : isWordPart c = true := hrun c (by simp [hleft])
      subst hrest
      exact absurd hmark (peek_ne_mark others rfl hc m)

/-- Among separated tokens, a run that is no comment and that starts with a digit is covered by a
number. -/
theorem covered_of_lexes (h : Lexes start rest r) (hr : r = .ok ts) (hts : Grammar.Separated ts)
    (hrest : rest = x ++ (run ++ after)) (hrun : DigitRun (start ++ x) run after)
    (hplain : ¬Commented (start ++ x)) : CoveredBy ts (start ++ x) run after := by
  obtain ⟨c, hhead, hc⟩ := hrun.digit
  obtain ⟨ds, rfl⟩ := List.head?_eq_some_iff.1 hhead
  have hword := isWordPart_of_isDigit hc
  rw [List.cons_append] at hrest
  induction h generalizing ts x with
  | ending hgap =>
    rw [hrest] at hgap
    exact absurd ((commented_of_ending hgap hword).append _) hplain
  | unexpected => cases hr
  | badInteger => cases hr
  | @token start gap written rest p l following hgap hlongest hmeans others ih =>
    obtain ⟨us, rfl, rfl⟩ := map_eq_ok.1 hr
    cases hts with
    | cons hfraction hnumber hothers =>
    obtain ⟨z, rfl, -⟩ | ⟨z, rfl, hz⟩ := split_append hrest
    · exact absurd ((commented_of_gap hgap hword rfl).append start) hplain
    have hassoc : start ++ (gap ++ z) = start ++ gap ++ z := (List.append_assoc ..).symm
    rw [hassoc] at hrun hplain ⊢
    obtain ⟨w, rfl, htail⟩ | ⟨w, rfl, hw⟩ := split_append hz
    · -- the digit is in this token
      have hz : ∀ d ∈ z.getLast?, isWordPart d = false := fun d hd =>
        hrun.before d (List.mem_getLast?_append_of_mem_getLast? hd)
      obtain hcommented | rfl | rfl := number_of_digit hlongest.spells hmeans hc rfl hz
      · exact absurd (hcommented.append _) hplain
      · cases hmeans with
        | number hn =>
        obtain ⟨m, hmark⟩ := hnumber _ rfl
        have htail' : c :: ds ++ after = c :: w ++ rest := by simp [htail]
        exact covered_of_number hlongest hn others hmark htail' hrun.word
      · cases hmeans
        exact absurd rfl (hfraction _)
    · rw [← List.append_assoc] at hrun hplain ⊢
      exact (ih rfl hothers hplain hw hrun).cons _

end Runs

/-- How a run that starts with a digit is read: it is a literal, and a number covers it. The number
goes on beyond the run only where a decimal digit of another script adjoins it. Without one in
front, the run denotes a number by itself. -/
structure ReadWhole (ts : List Token) (before run after : List Char) : Prop where
  literal : Spells .integer run
  covered : CoveredBy ts before run after
  denotes : (∀ d ∈ before.getLast?, isDecimal d = false) → ∃ n, Denotes run n
  whole : (∀ d ∈ before.getLast?, isDecimal d = false) → (∀ d ∈ after.head?, isDecimal d = false) →
    ∃ n : Nat, Denotes run n ∧ ⟨.number n, lineAfter before, columnAfter before⟩ ∈ ts

section Literals

variable {before lead run trail after front behind : List Char} {ts : List Token} {n : Nat}

theorem isWordPart_of_isBasePart {base : Nat} {c : Char} (h : isBasePart base c = true) :
    isWordPart c = true := by
  obtain h | h := Bool.or_eq_true_iff.1 h
  · rw [isWordPart, isAlphanum_of_isDigitOf h, Bool.true_or]
  · rw [isWordPart, h, Bool.or_true]

theorem isWordPart_of_baseOf? {base : Nat} {letter : Char} {cs : List Char}
    (hbase : baseOf? letter = some base) (h : ∀ d ∈ cs, isBasePart base d = true) :
    ∀ c ∈ '0' :: letter :: cs, isWordPart c = true := by
  refine List.forall_mem_cons.2 ⟨by decide, List.forall_mem_cons.2 ⟨?_, fun c hc => ?_⟩⟩
  · rw [isWordPart, (baseOf?_eq_some hbase).1, Bool.true_or]
  · exact isWordPart_of_isBasePart (h c hc)

/-- A literal consists of decimal digits and underscores, or of plain letters, digits and
underscores. -/
theorem Spells.integer_parts (h : Spells .integer run) :
    (∀ c ∈ run, isDigitPart c = true) ∨ ∀ c ∈ run, isWordPart c = true := by
  cases h with
  | decimal h => exact .inl h.isDigitPart
  | prefixed hbase _ h => exact .inr (isWordPart_of_baseOf? hbase h)

theorem isDecimal_of_isDigitPart {c : Char} (h : isDigitPart c = true)
    (hc : isWordPart c = false) : isDecimal c = true := by
  refine (Bool.or_eq_true_iff.1 h).resolve_right fun hunder => ?_
  rw [isWordPart, hunder, Bool.or_true] at hc
  cases hc

/-- What a literal has in front of a run in it ends in a decimal digit. -/
theorem lead_of_literal (h : Spells .integer (lead ++ run ++ trail))
    (hrun : DigitRun (front ++ lead) run after) : ∀ d ∈ lead.getLast?, isDecimal d = true := by
  intro d hd
  have hmem : d ∈ lead ++ run ++ trail := by simp [List.mem_of_getLast? hd]
  have hword := hrun.before d (List.mem_getLast?_append_of_mem_getLast? hd)
  obtain hparts | hparts := h.integer_parts
  · exact isDecimal_of_isDigitPart (hparts d hmem) hword
  · cases hword.symm.trans (hparts d hmem)

theorem trail_of_literal (h : Spells .integer (lead ++ run ++ trail))
    (hrun : DigitRun before run (trail ++ behind)) : ∀ d ∈ trail.head?, isDecimal d = true := by
  intro d hd
  have hmem : d ∈ lead ++ run ++ trail := by simp [List.mem_of_mem_head? hd]
  have hword := hrun.after d (List.mem_head?_append_of_mem_head? hd)
  obtain hparts | hparts := h.integer_parts
  · exact isDecimal_of_isDigitPart (hparts d hmem) hword
  · cases hword.symm.trans (hparts d hmem)

/-- A literal of plain characters that a run is in is the run. -/
theorem eq_nil_of_literal (h : ∀ c ∈ lead ++ run ++ trail, isWordPart c = true)
    (hrun : DigitRun (front ++ lead) run (trail ++ behind)) : lead = [] ∧ trail = [] := by
  constructor
  · refine List.getLast?_eq_none_iff.1 (Option.eq_none_iff_forall_ne_some.2 fun d hd => ?_)
    have hword := hrun.before d (List.mem_getLast?_append_of_mem_getLast? hd)
    cases hword.symm.trans (h d (by simp [List.mem_of_getLast? hd]))
  · refine List.head?_eq_none_iff.1 (Option.eq_none_iff_forall_ne_some.2 fun d hd => ?_)
    have hword := hrun.after d (List.mem_head?_append_of_mem_head? hd)
    cases hword.symm.trans (h d (by simp [List.mem_of_mem_head? hd]))

theorem isDigits_of_run (h : ∀ c ∈ run, isDigitPart c = true) (hrun : DigitRun before run after) :
    IsDigits run := by
  obtain ⟨c, hhead, hc⟩ := hrun.digit
  obtain ⟨ds, rfl⟩ := List.head?_eq_some_iff.1 hhead
  exact ⟨c, ds, rfl, isDecimal_of_isDigit hc, (List.forall_mem_cons.1 h).2⟩

theorem spells_of_literal (h : Spells .integer (lead ++ run ++ trail))
    (hrun : DigitRun (front ++ lead) run (trail ++ behind)) : Spells .integer run := by
  obtain hparts | hparts := h.integer_parts
  · exact .decimal (isDigits_of_run (fun c hc => hparts c (by simp [hc])) hrun)
  · obtain ⟨rfl, rfl⟩ := eq_nil_of_literal hparts hrun
    simpa using h

theorem denotes_of_literal (h : Denotes (run ++ trail) n)
    (hrun : DigitRun before run (trail ++ behind)) : ∃ m, Denotes run m := by
  generalize htext : run ++ trail = text at h
  cases id h with
  | decimal hdigits hcount hn hzero =>
    subst htext
    rw [List.filterMap_append] at hcount hn hzero
    have hrun' := isDigits_of_run (fun c hc => hdigits.isDigitPart c (by simp [hc])) hrun
    obtain ⟨vs, hvs, hne, -⟩ := exists_digits hrun'
    rw [hvs] at hcount hn hzero
    rw [List.length_append] at hcount
    refine ⟨_, .decimal hrun' (by rw [hvs]; omega) rfl fun hhead => ?_⟩
    rw [hvs] at hhead ⊢
    -- where a zero leads, all digits of the literal are zeros
    have hall : n = 0 := hzero (by rw [List.head?_append, hhead]; rfl)
    rw [hall, List.reverse_append, Nat.ofDigits_append] at hn
    exact (Nat.mul_eq_zero.1 (Nat.add_eq_zero_iff.1 hn.symm).2).resolve_left (by simp)
  | prefixed hbase hcs =>
    have hparts : ∀ c ∈ [] ++ run ++ trail, isWordPart c = true := by
      rw [List.nil_append, htext]
      exact isWordPart_of_baseOf? hbase hcs
    have hrun' : DigitRun (before ++ []) run (trail ++ behind) := by rwa [List.append_nil]
    obtain ⟨-, rfl⟩ := eq_nil_of_literal hparts hrun'
    rw [List.append_nil] at htext
    exact ⟨n, htext ▸ h⟩

/-- How a run is read that a number covers. -/
theorem CoveredBy.readWhole (h : CoveredBy ts before run after) (hrun : DigitRun before run after) :
    ReadWhole ts before run after := by
  obtain ⟨front, lead, trail, behind, n, rfl, rfl, hlongest, hn, hmem⟩ := id h
  have hlead : (∀ d ∈ (front ++ lead).getLast?, isDecimal d = false) → lead = [] := by
    intro hbefore
    refine List.getLast?_eq_none_iff.1 (Option.eq_none_iff_forall_ne_some.2 fun d hd => ?_)
    have hdecimal := lead_of_literal hlongest.spells hrun d hd
    cases hdecimal.symm.trans (hbefore d (List.mem_getLast?_append_of_mem_getLast? hd))
  have htrail : (∀ d ∈ (trail ++ behind).head?, isDecimal d = false) → trail = [] := by
    intro hafter
    refine List.head?_eq_none_iff.1 (Option.eq_none_iff_forall_ne_some.2 fun d hd => ?_)
    have hdecimal := trail_of_literal hlongest.spells hrun d hd
    cases hdecimal.symm.trans (hafter d (List.mem_head?_append_of_mem_head? hd))
  refine ⟨spells_of_literal hlongest.spells hrun, h, fun hbefore => ?_, fun hbefore hafter => ?_⟩
  · obtain rfl := hlead hbefore
    exact denotes_of_literal hn hrun
  · obtain rfl := hlead hbefore
    obtain rfl := htrail hafter
    rw [List.nil_append, List.append_nil] at hn
    rw [List.append_nil]
    exact ⟨n, hn, hmem⟩

end Literals

section

variable [Machine]

theorem separated_of_accepted {text source : String} {wordBits : Int}
    (h : (∃ d, Parser.readDescription text source wordBits = .ok d) ∨
      ∃ cs, Parser.readConstants text = .ok cs) :
    ∃ ts, tokens text = .ok ts ∧ Grammar.Separated ts := by
  obtain ⟨d, h⟩ | ⟨cs, h⟩ := h
  · obtain ⟨ts, htokens, h⟩ := bind_eq_ok.1 h
    have htext := Parser.tokens_eq_ok.1 htokens
    exact ⟨ts, htext, Grammar.separated_of_description (lexed_of_tokens htext).1 h⟩
  · obtain ⟨ts, htokens, h⟩ := bind_eq_ok.1 h
    have htext := Parser.tokens_eq_ok.1 htokens
    exact ⟨ts, htext, Grammar.separated_of_constantFile (lexed_of_tokens htext).1 h⟩

/-- In a text that is read as a description or as a list of constants, no number has a point, and
each run of letters, digits and underscores that starts with a digit is read whole, unless it is a
comment or documentation. -/
theorem readWhole_of_accepted {text source : String} {wordBits : Int}
    (h : (∃ d, Parser.readDescription text source wordBits = .ok d) ∨
      ∃ cs, Parser.readConstants text = .ok cs) :
    ∃ ts, tokens text = .ok ts ∧ (∀ t ∈ ts, ∀ s, t.lexeme ≠ .fraction s) ∧
      ∀ before run after, text.toList = before ++ (run ++ after) → DigitRun before run after →
        ¬Commented before → ReadWhole ts before run after := by
  obtain ⟨ts, htext, hts⟩ := separated_of_accepted h
  have hlexes := lexes_tokens text
  rw [htext] at hlexes
  refine ⟨ts, htext, hts.no_fraction, fun before run after heq hrun hplain => ?_⟩
  exact (covered_of_lexes hlexes rfl hts heq hrun hplain).readWhole hrun

end

theorem readWhole_constant :
    Parser.readConstants "const A = 0x1F; // 08" = .ok [⟨.inModules [] "A", 31, [], 1⟩] ∧
      ∃ ts, tokens "const A = 0x1F; // 08" = .ok ts ∧
        (∀ t ∈ ts, ∀ s, t.lexeme ≠ .fraction s) ∧
        ∀ before run after, "const A = 0x1F; // 08".toList = before ++ (run ++ after) →
          DigitRun before run after → ¬Commented before → ReadWhole ts before run after := by
  have h : Parser.readConstants "const A = 0x1F; // 08" = .ok [⟨.inModules [] "A", 31, [], 1⟩] := by
    decide +kernel
  exact ⟨h, @readWhole_of_accepted _ _ "" 32 (.inr ⟨_, h⟩)⟩

/-- A run that is no number by itself may go on with one of another script. -/
theorem not_forall_without_zero :
    ¬∀ text before after, (∃ cs, Parser.readConstants text = .ok cs) →
      text.toList = before ++ (['0', '8'] ++ after) → DigitRun before ['0', '8'] after →
        Commented before := by
  intro h
  have hread : Parser.readConstants "const A = \u066308;" =
      .ok [⟨.inModules [] "A", 308, [], 1⟩] := by
    decide +kernel
  have hlast : "const A = \u0663".toList.getLast? = some '\u0663' := by decide +kernel
  have hrun : DigitRun "const A = \u0663".toList ['0', '8'] [';'] := by
    refine ⟨?_, ⟨'0', rfl, rfl⟩, ?_, ?_⟩
    · exact List.forall_mem_cons.2 ⟨rfl, List.forall_mem_singleton.2 rfl⟩
    · rw [hlast]
      rintro _ ⟨⟩
      rfl
    · rintro _ ⟨⟩
      rfl
  have htext : "const A = \u066308;".toList =
      "const A = \u0663".toList ++ (['0', '8'] ++ [';']) := by
    decide
  exact absurd (h _ _ _ ⟨_, hread⟩ htext hrun).mem_slash (by decide)

end Lexer

end RegisterMap
