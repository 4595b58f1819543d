import RegisterMap.Proofs.Description.Spelling

/-!
# Layouts

Tokens are laid out as a text with blanks, line breaks and comments between them, or with nothing
between two tokens that do not run together. Main statement: the tokens of the text are the tokens
that were laid out.
-/

namespace RegisterMap

open Text Number

namespace Lexer

/-! ## Gaps -/

/-- Two slashes and the rest of a line. Three slashes are none, unless a fourth follows. -/
def IsComment (cs : List Char) : Prop :=
  ∃ more, cs = '/' :: '/' :: more ∧ '\n' ∉ more ∧
    (more.head? = some '/' → more.tail.head? = some '/')

/-- Blanks, line breaks, and comments up to the end of their lines. -/
inductive Gap : List Char → Prop where
  | none : Gap []
  | blank {c : Char} {cs : List Char} (hc : isLineBlank c = true) (others : Gap cs) : Gap (c :: cs)
  | newline {cs : List Char} (others : Gap cs) : Gap ('\n' :: cs)
  | comment {text cs : List Char} (h : IsComment text) (others : Gap cs) :
      Gap (text ++ '\n' :: cs)

/-- What may stand behind the last token: a gap, and perhaps a comment without a line break. -/
def Ending (cs : List Char) : Prop :=
  ∃ gap last, cs = gap ++ last ∧ Gap gap ∧ (last = [] ∨ IsComment last)

section Gaps

variable {line column : Nat} {c : Char} {cs rest : List Char}

theorem front?_blank (hc : isLineBlank c = true) (rest : List Char) :
    front? c rest = some (.blank, runLength isLineBlank rest) := by
  have hslash : c ≠ '/' := by
    rintro rfl
    cases hc
  rw [front?, if_neg hslash, if_pos hc]

theorem size_blank (hc : isLineBlank c = true) (cs : List Char) : size (c :: cs) = size cs + 1 := by
  have hmark : c ≠ halfMark := by
    rintro rfl
    exact absurd hc (by decide)
  rw [size, points.eq_def]
  simp only [if_neg hmark, List.length_cons, size]

/-- Blanks are skipped in one piece, which is the same as one by one. -/
theorem tokensFrom_blank (hc : isLineBlank c = true) (line column : Nat) (rest : List Char) :
    tokensFrom line column (c :: rest) = tokensFrom line (column + 1) rest := by
  rw [tokensFrom_skip (front?_blank hc rest) (by decide) rfl, size_blank hc]
  cases rest with
  | nil => rfl
  | cons d rest =>
    by_cases hd : isLineBlank d = true
    · have hrun : runLength isLineBlank (d :: rest) = runLength isLineBlank rest + 1 := by
        rw [runLength, List.takeWhile_cons_of_pos hd, List.length_cons, runLength]
      rw [hrun, List.take_succ_cons, List.drop_succ_cons,
        tokensFrom_skip (front?_blank hd rest) (by decide) rfl, Nat.add_comm (size _) 1,
        ← Nat.add_assoc]
    · have hrun : runLength isLineBlank (d :: rest) = 0 := by
        rw [runLength, List.takeWhile_cons_of_neg hd, List.length_nil]
      rw [hrun]
      rfl

theorem front?_comment {text : List Char} (hline : '\n' ∉ text)
    (hslash : text.head? = some '/' → text.tail.head? = some '/')
    (hrest : ∀ d ∈ rest.head?, d = '\n') :
    front? '/' ('/' :: text ++ rest) = some (.comment, ('/' :: text).length) := by
  have hrun : runLength (· != '\n') ('/' :: text ++ rest) = ('/' :: text).length :=
    runLength_line (fun h => hline (List.mem_of_ne_of_mem (by decide) h)) hrest
  rw [front?, if_pos rfl, slashFront?.eq_def, hrun]
  cases text with
  | nil =>
    cases rest with
    | nil => rfl
    | cons d rest =>
      obtain rfl := hrest d rfl
      rfl
  | cons d ds =>
    by_cases hd : d = '/'
    · subst hd
      -- a fourth slash follows the third
      obtain ⟨ds, rfl⟩ := List.head?_eq_some_iff.1 (hslash rfl)
      rfl
    · simp [hd]

/-- A comment goes on to the end of its line. -/
theorem tokensFrom_comment (hcs : IsComment cs) (hrest : ∀ d ∈ rest.head?, d = '\n')
    (line column : Nat) :
    ∃ column', tokensFrom line column (cs ++ rest) = tokensFrom line column' rest := by
  obtain ⟨text, rfl, hline, hslash⟩ := hcs
  have hskip := tokensFrom_skip (front?_comment hline hslash hrest) (by decide) rfl line column
  rw [List.drop_left] at hskip
  exact ⟨_, hskip⟩

theorem tokensFrom_gap (h : Gap cs) (rest : List Char) (line column : Nat) :
    ∃ line' column', tokensFrom line column (cs ++ rest) = tokensFrom line' column' rest := by
  induction h generalizing line column with
  | none => exact ⟨line, column, rfl⟩
  | blank hc _ ih =>
    obtain ⟨line', column', heq⟩ := ih line (column + 1)
    exact ⟨line', column', (tokensFrom_blank hc line column _).trans heq⟩
  | newline _ ih =>
    obtain ⟨line', column', heq⟩ := ih (line + 1) 1
    exact ⟨line', column', (tokensFrom_newline line column _).trans heq⟩
  | @comment text cs htext _ ih =>
    obtain ⟨line', column', heq⟩ := ih (line + 1) 1
    have hline : ∀ d ∈ ('\n' :: (cs ++ rest)).head?, d = '\n' := by
      rintro d ⟨⟩
      rfl
    obtain ⟨column₁, hcomment⟩ := tokensFrom_comment htext hline line column
    rw [List.append_assoc, List.cons_append, hcomment, tokensFrom_newline]
    exact ⟨line', column', heq⟩

theorem tokensFrom_ending (h : Ending cs) (line column : Nat) :
    ∃ line' column', tokensFrom line column cs = .ok [⟨.endOfInput, line', column'⟩] := by
  obtain ⟨gap, last, rfl, hgap, hlast⟩ := h
  obtain ⟨line₁, column₁, heq⟩ := tokensFrom_gap hgap last line column
  rw [heq]
  obtain rfl | hlast := hlast
  · exact ⟨line₁, column₁, by rw [tokensFrom]⟩
  · have hnone : ∀ d ∈ ([] : List Char).head?, d = '\n' := by simp
    obtain ⟨column₂, hcomment⟩ := tokensFrom_comment hlast hnone line₁ column₁
    rw [List.append_nil] at hcomment
    exact ⟨line₁, column₂, by rw [hcomment, tokensFrom]⟩

end Gaps

/-! ## Texts -/

/-- Whether two tokens run together when nothing stands between them. -/
def joins : Lexeme → Lexeme → Bool
  | .name _, .name _ => true
  | .name _, .number _ => true
  | .number _, .name _ => true
  | .number _, .number _ => true
  | .number _, .mark .dot => true
  | .mark .dot, .mark .dot => true
  | .mark .dot, .mark .openRange => true
  | .mark .dot, .mark .inclusiveRange => true
  | .mark .openRange, .mark .equals => true
  | .mark .colon, .mark .colon => true
  | .mark .colon, .mark .pathSeparator => true
  | _, _ => false

/-- A text of tokens with a gap in front of each, where `before` is the token in front of the text
if there is one. The gap is empty only between tokens that do not run together. -/
inductive LaidOut : Option Lexeme → List Lexeme → List Char → Prop where
  | done {before : Option Lexeme} {cs : List Char} (h : Ending cs) : LaidOut before [] cs
  | token {before : Option Lexeme} {l : Lexeme} {ls : List Lexeme} {gap written cs : List Char}
      (hgap : Gap gap) (hjoins : (∃ b ∈ before, joins b l = true) → gap ≠ [])
      (h : Writes l written) (others : LaidOut (some l) ls cs) :
      LaidOut before (l :: ls) (gap ++ written ++ cs)

section Texts

variable {l next : Lexeme} {ls : List Lexeme} {cs rest : List Char}

/-- No token goes on behind a character that a gap or a comment starts with. -/
theorem stops_of_gap {c : Char} (hc : isLineBlank c = true ∨ c = '\n' ∨ c = '/') (l : Lexeme)
    (cs : List Char) : Stops l (c :: cs) := by
  have hne : isWordPart c = false ∧ isDecimal c = false ∧ c ≠ '.' ∧ c ≠ '=' ∧ c ≠ ':' := by
    simp only [isLineBlank, Bool.or_eq_true, beq_iff_eq] at hc
    obtain ((rfl | rfl) | rfl) | rfl | rfl := hc <;> decide
  obtain ⟨hword, hdecimal, hdot, hequals, hcolon⟩ := hne
  unfold Stops
  split <;> simp_all

theorem Gap.eq_nil_or_cons (h : Gap cs) :
    cs = [] ∨ ∃ c more, cs = c :: more ∧ (isLineBlank c = true ∨ c = '\n' ∨ c = '/') := by
  cases h with
  | none => exact .inl rfl
  | blank hc _ => exact .inr ⟨_, _, rfl, .inl hc⟩
  | newline _ => exact .inr ⟨_, _, rfl, .inr (.inl rfl)⟩
  | comment htext _ =>
    obtain ⟨more, rfl, -⟩ := htext
    exact .inr ⟨_, _, rfl, .inr (.inr rfl)⟩

theorem stops_ending (h : Ending cs) (l : Lexeme) : Stops l cs := by
  obtain ⟨gap, last, rfl, hgap, hlast⟩ := h
  obtain rfl | ⟨c, more, rfl, hc⟩ := hgap.eq_nil_or_cons
  · obtain rfl | ⟨more, rfl, -⟩ := hlast
    · exact stops_nil l
    · exact stops_of_gap (.inr (.inr rfl)) l _
  · exact stops_of_gap hc l _

theorem stops_word {c : Char} {s : String} (hc : isWordPart c = true)
    (hl : joins l (.name s) = false) (cs : List Char) : Stops l (c :: cs) := by
  have hne : ∀ {d : Char}, isWordPart d = false → c ≠ d := by
    rintro d hd rfl
    cases hc.symm.trans hd
  have hhead : ∀ {d : Char}, isWordPart d = false → (c :: cs).head? ≠ some d := fun hd h =>
    hne hd (Option.some.inj h)
  unfold Stops
  split
  · cases hl
  · cases hl
  · exact hhead (by decide)
  · exact hhead (by decide)
  · exact hhead (by decide)
  · trivial

theorem stops_mark {m : Mark} (hl : joins l (.mark m) = false) (rest : List Char) :
    Stops l (m.text.toList ++ rest) := by
  cases l with
  | name s => cases m <;> rintro c ⟨⟩ <;> rfl
  | number n =>
    cases m with
    | dot => cases hl
    | openRange => exact ⟨by rintro c ⟨⟩; decide, by rintro - c ⟨⟩; rfl⟩
    | inclusiveRange => exact ⟨by rintro c ⟨⟩; decide, by rintro - c ⟨⟩; rfl⟩
    | _ => exact ⟨by rintro c ⟨⟩; decide, nofun⟩
  | mark b =>
    cases b with
    | dot =>
      cases m with
      | dot => cases hl
      | openRange => cases hl
      | inclusiveRange => cases hl
      | _ => exact nofun
    | openRange =>
      cases m with
      | equals => cases hl
      | _ => exact nofun
    | colon =>
      cases m with
      | colon => cases hl
      | pathSeparator => cases hl
      | _ => exact nofun
    | _ => trivial
  | _ => trivial

theorem IsNumeral.exists_start {n : Nat} (h : IsNumeral n cs) :
    ∃ c more, cs = c :: more ∧ isWordPart c = true := by
  cases h with
  | @decimal _ c more hc _ =>
    refine ⟨c, more, rfl, ?_⟩
    rw [isWordPart, Char.isAlphanum, hc, Bool.or_true, Bool.true_or]
  | prefixed hbase hcs hne => exact ⟨_, _, rfl, by decide⟩

/-- Tokens that do not run together need no gap. -/
theorem stops_written (h : Writes next cs) (hnext : next.Plain) (hl : joins l next = false)
    (rest : List Char) : Stops l (cs ++ rest) := by
  cases h with
  | doc text => exact stops_of_gap (.inr (.inr rfl)) l _
  | name s =>
    obtain ⟨c, cs, hs, hc, -⟩ := hnext
    rw [hs]
    exact stops_word (isWordPart_of_isWordStart hc) hl _
  | @number n _ h =>
    obtain ⟨c, more, rfl, hc⟩ := h.exists_start
    have hname : joins l (.name "") = false := by
      cases l with
      | name s => cases hl
      | number k => cases hl
      | mark m => cases m <;> rfl
      | _ => rfl
    exact stops_word hc hname _
  | mark m => exact stops_mark hl rest

/-- What is laid out behind a token leaves the token as it is. -/
theorem stops_of_laidOut (h : LaidOut (some l) ls cs) (hls : ∀ next ∈ ls, next.Plain) :
    Stops l cs := by
  cases h with
  | done h => exact stops_ending h l
  | @token _ next _ gap written cs hgap hjoins hwritten _ =>
    rw [List.append_assoc]
    obtain rfl | ⟨c, more, rfl, hc⟩ := hgap.eq_nil_or_cons
    · refine stops_written hwritten (hls next List.mem_cons_self) ?_ cs
      exact eq_false_of_ne_true fun h => hjoins ⟨l, rfl, h⟩ rfl
    · exact stops_of_gap hc l _

/-- The tokens of a text are those that were laid out, and the end of input. -/
theorem tokensFrom_laidOut {before : Option Lexeme} (h : LaidOut before ls cs)
    (hls : ∀ l ∈ ls, l.Plain) (line column : Nat) :
    ∃ ts, tokensFrom line column cs = .ok ts ∧ ts.map (·.lexeme) = ls ++ [.endOfInput] := by
  -- the place is general, since each gap and token moves it by as much as it is long
  induction h generalizing line column with
  | done h =>
    obtain ⟨line', column', heq⟩ := tokensFrom_ending h line column
    exact ⟨_, heq, rfl⟩
  | @token _ l ls gap written cs hgap _ hwritten others ih =>
    obtain ⟨hl, hls⟩ := List.forall_mem_cons.1 hls
    obtain ⟨line₁, column₁, hskip⟩ := tokensFrom_gap hgap (written ++ cs) line column
    obtain ⟨line₂, column₂, htoken⟩ :=
      tokensFrom_written hwritten hl (stops_of_laidOut others hls) line₁ column₁
    obtain ⟨ts, hts, hlexemes⟩ := ih hls line₂ column₂
    refine ⟨⟨l, line₁, column₁⟩ :: ts, ?_, by rw [List.map_cons, hlexemes, List.cons_append]⟩
    rw [List.append_assoc, hskip, htoken, hts]
    rfl

theorem exists_writes (hl : l.Plain) : ∃ cs, Writes l cs := by
  cases l with
  | doc line => exact ⟨_, .doc line⟩
  | name s => exact ⟨_, .name s⟩
  | number n =>
    obtain ⟨k, rfl⟩ := Int.eq_ofNat_of_zero_le hl.1
    exact ⟨_, .number (isNumeral_toDigits k)⟩
  | mark m => exact ⟨_, .mark m⟩
  | _ => exact hl.elim

/-- Tokens that can be written can be laid out. -/
theorem exists_laidOut (hls : ∀ l ∈ ls, l.Plain) (before : Option Lexeme) :
    ∃ cs, LaidOut before ls cs := by
  induction ls generalizing before with
  | nil => exact ⟨[], .done ⟨[], [], rfl, .none, .inl rfl⟩⟩
  | cons l ls ih =>
    obtain ⟨hl, hls⟩ := List.forall_mem_cons.1 hls
    obtain ⟨written, hwritten⟩ := exists_writes hl
    obtain ⟨cs, others⟩ := ih hls (some l)
    have hgap : Gap [' '] := .blank (by decide) .none
    exact ⟨_, .token hgap (fun _ => nofun) hwritten others⟩

end Texts

end Lexer

end RegisterMap
