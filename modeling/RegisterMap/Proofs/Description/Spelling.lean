import RegisterMap.Proofs.Description.PathText
import RegisterMap.Proofs.Number.Prefixed

/-!
# Tokens as text

How a token may be written, and what may follow it for the token to end there. Main statement: a
token that is written in front of what ends it is the first token of the text.
-/

namespace RegisterMap

open Text Number

/-- What can be laid out: lines without blanks at their ends, words, marks, and numbers that are not
negative and not too long to be written in decimal. -/
def Lexeme.Plain : Lexeme → Prop
  | .doc line => '\n' ∉ line.toList ∧ strip line = line
  | .name s => Lexer.IsWord s
  | .number n => 0 ≤ n ∧ isShort n = true
  | .mark _ => True
  | .fraction _ => False
  | .endOfInput => False

instance : DecidablePred Lexeme.Plain
  | .doc line => inferInstanceAs (Decidable ('\n' ∉ line.toList ∧ strip line = line))
  | .name s => inferInstanceAs (Decidable (Lexer.IsWord s))
  | .number n => inferInstanceAs (Decidable (0 ≤ n ∧ isShort n = true))
  | .mark _ => isTrue trivial
  | .fraction _ => isFalse id
  | .endOfInput => isFalse id

namespace Lexer

/-- The ways to write a number: its decimal digits, or digits of another base behind a prefix, with
underscores among them. -/
inductive IsNumeral : Nat → List Char → Prop where
  | decimal {n : Nat} {c : Char} {cs : List Char} (hc : c.isDigit = true)
      (h : (c :: cs).filter (· != '_') = Nat.toDigits 10 n) : IsNumeral n (c :: cs)
  | prefixed {base : Nat} {letter : Char} {cs : List Char} (hbase : baseOf? letter = some base)
      (hcs : ∀ c ∈ cs, isBasePart base c = true) (hne : cs.filter (· != '_') ≠ []) :
      IsNumeral (digitsValue base 0 (cs.filter (· != '_'))) ('0' :: letter :: cs)

/-- The ways to write a token. -/
inductive Writes : Lexeme → List Char → Prop where
  | doc (line : String) : Writes (.doc line) ("/// ".toList ++ line.toList ++ ['\n'])
  | name (s : String) : Writes (.name s) s.toList
  | number {n : Nat} {cs : List Char} (h : IsNumeral n cs) : Writes (.number n) cs
  | mark (m : Mark) : Writes (.mark m) m.text.toList

/-- What may follow a token for it to end there. -/
def Stops : Lexeme → List Char → Prop
  | .name _, rest => ∀ c ∈ rest.head?, isWordPart c = false
  | .number _, rest => (∀ c ∈ rest.head?, isWordPart c = false ∧ isDecimal c = false) ∧
      (rest.head? = some '.' → ∀ c ∈ rest.tail.head?, isDecimal c = false)
  | .mark .dot, rest => rest.head? ≠ some '.'
  | .mark .openRange, rest => rest.head? ≠ some '='
  | .mark .colon, rest => rest.head? ≠ some ':'
  | _, _ => True

theorem stops_nil (l : Lexeme) : Stops l [] := by
  unfold Stops
  split <;> simp

section Pieces

variable {line column : Nat} {c : Char} {cs rest : List Char}

/-- The piece at the front makes a token. -/
theorem tokensFrom_piece {piece : Piece} {l : Lexeme}
    (hfront : front? c (cs ++ rest) = some (piece, cs.length)) (hpiece : piece ≠ .newline)
    (hl : lexeme? piece (c :: cs) = .ok (some l)) (line column : Nat) :
    tokensFrom line column (c :: cs ++ rest) =
      (tokensFrom line (column + size (c :: cs)) rest).map (⟨l, line, column⟩ :: ·) := by
  rw [List.cons_append, tokensFrom]
  simp only [hfront, if_neg hpiece, List.take_left, List.drop_left, hl]

theorem tokensFrom_skip {piece : Piece} {more : Nat} (hfront : front? c rest = some (piece, more))
    (hpiece : piece ≠ .newline) (hl : lexeme? piece (c :: rest.take more) = .ok none)
    (line column : Nat) :
    tokensFrom line column (c :: rest) =
      tokensFrom line (column + size (c :: rest.take more)) (rest.drop more) := by
  rw [tokensFrom]
  simp only [hfront, hl, if_neg hpiece]

theorem tokensFrom_newline (line column : Nat) (rest : List Char) :
    tokensFrom line column ('\n' :: rest) = tokensFrom (line + 1) 1 rest := by
  have hfront : front? '\n' rest = some (.newline, 0) := rfl
  rw [tokensFrom]
  simp only [hfront, lexeme?, if_true, List.drop_zero]

theorem runLength_append {p : Char → Bool} (hcs : ∀ d ∈ cs, p d = true)
    (hrest : ∀ d ∈ rest.head?, p d = false) : runLength p (cs ++ rest) = cs.length := by
  have hnone : rest.takeWhile p = [] := by
    cases rest with
    | nil => rfl
    | cons d rest => exact List.takeWhile_cons_of_neg (by simp [hrest d rfl])
  rw [runLength, List.takeWhile_append_of_pos hcs, hnone, List.append_nil]

theorem runLength_line (hcs : '\n' ∉ cs) (hrest : ∀ d ∈ rest.head?, d = '\n') :
    runLength (· != '\n') (cs ++ rest) = cs.length := by
  refine runLength_append (fun d hd => bne_iff_ne.2 fun h => hcs (h ▸ hd)) fun d hd => ?_
  rw [hrest d hd]
  rfl

end Pieces

section Numerals

variable {c : Char} {cs rest : List Char} {base n : Nat}

theorem front?_of_isDecimal (hc : isDecimal c = true) (rest : List Char) :
    front? c rest = some (numberFront c rest) := by
  have hne : ∀ {d : Char}, isDecimal d = false → c ≠ d := by
    rintro d hd rfl
    cases hc.symm.trans hd
  have hblank : isLineBlank c = false := by
    have hspace : c ≠ ' ' := hne (by decide)
    have htab : c ≠ '\t' := hne (by decide)
    have hreturn : c ≠ '\r' := hne (by decide)
    simp [isLineBlank, hspace, htab, hreturn]
  rw [front?, if_neg (hne (by decide)), if_neg (by simp [hblank]), if_neg (hne (by decide)),
    if_pos hc]

theorem front?_of_isDigit (hc : c.isDigit = true) (rest : List Char) :
    front? c rest = some (numberFront c rest) :=
  front?_of_isDecimal (isDecimal_of_isDigit hc) rest

theorem isDigitPart_of_isDigit (hc : c.isDigit = true) : isDigitPart c = true := by
  rw [isDigitPart, isDecimal_of_isDigit hc, Bool.true_or]

theorem exists_toDigits (n : Nat) :
    ∃ c cs, Nat.toDigits 10 n = c :: cs ∧ c.isDigit = true ∧ ∀ d ∈ cs, d.isDigit = true := by
  have hdigits : ∀ c ∈ Nat.toDigits 10 n, c.isDigit = true := fun c hc =>
    Nat.isDigit_of_mem_toDigits (by decide) (by decide) hc
  cases hn : Nat.toDigits 10 n with
  | nil => exact absurd hn Nat.toDigits_ne_nil
  | cons c cs =>
    rw [hn] at hdigits
    exact ⟨c, cs, rfl, List.forall_mem_cons.1 hdigits⟩

theorem isNumeral_toDigits (n : Nat) : IsNumeral n (Nat.toDigits 10 n) := by
  obtain ⟨c, cs, hdigits, hc, hcs⟩ := exists_toDigits n
  have hall : ∀ d ∈ c :: cs, d.isDigit = true := List.forall_mem_cons.2 ⟨hc, hcs⟩
  have hfilter : (c :: cs).filter (· != '_') = Nat.toDigits 10 n := by
    rw [hdigits, List.filter_eq_self]
    exact fun d hd => bne_iff_ne.2 (ne_of_isDigit (hall d hd) (by decide))
  rw [hdigits]
  exact .decimal hc hfilter

theorem readLoose_decimal {s : String} (hs : s.toList.filter (· != '_') = Nat.toDigits 10 n)
    (hn : isShort n = true) : readLoose s = .ok n := by
  rw [readLoose, hs]
  exact read_toString hn

theorem baseOf?_eq_some {letter : Char} (h : baseOf? letter = some base) :
    letter.isAlphanum = true ∧ isDecimal letter = false ∧ base ≠ 10 ∧
      ∀ cs, splitPrefix ('0' :: letter :: cs) = (base, skipUnderscore cs) := by
  rw [baseOf?] at h
  split at h
  · next hx =>
    cases h
    obtain rfl | rfl := hx <;> exact ⟨by decide, by decide, by decide, fun _ => rfl⟩
  split at h
  · next hb =>
    cases h
    obtain rfl | rfl := hb <;> exact ⟨by decide, by decide, by decide, fun _ => rfl⟩
  split at h
  · next ho =>
    cases h
    obtain rfl | rfl := ho <;> exact ⟨by decide, by decide, by decide, fun _ => rfl⟩
  · cases h

/-- A letter that names a base does not go on a decimal number. -/
theorem isDigitPart_of_baseOf? {letter : Char} (h : baseOf? letter = some base) :
    isDigitPart letter = false := by
  obtain ⟨hletter, hdecimal, -⟩ := baseOf?_eq_some h
  rw [isDigitPart, hdecimal, Bool.false_or]
  exact beq_false_of_ne (ne_underscore_of_isAlphanum hletter)

theorem readLoose_prefixed {letter : Char} (hbase : baseOf? letter = some base)
    (hcs : ∀ c ∈ cs, isBasePart base c = true) (hne : cs.filter (· != '_') ≠ []) :
    readLoose (String.ofList ('0' :: letter :: cs)) =
      .ok (digitsValue base 0 (cs.filter (· != '_'))) := by
  obtain ⟨hletter, -, hten, hsplit⟩ := baseOf?_eq_some hbase
  have hdigits : ∀ c ∈ cs.filter (· != '_'), isDigitOf base c = true := by
    intro c hc
    obtain ⟨hmem, hplain⟩ := List.mem_filter.1 hc
    obtain h | h := Bool.or_eq_true_iff.1 (hcs c hmem)
    · exact h
    · exact absurd (eq_of_beq h) (bne_iff_ne.1 hplain)
  have hfilter : ('0' :: letter :: cs).filter (· != '_') =
      '0' :: letter :: cs.filter (· != '_') := by
    have hkeep : letter ≠ '_' := ne_underscore_of_isAlphanum hletter
    simp [hkeep]
  have hplain : ('0' :: letter :: cs.filter (· != '_')).map plainChar =
      '0' :: letter :: cs.filter (· != '_') := by
    refine (List.map_congr_left fun c hc => plainChar_of_isAlphanum ?_).trans (List.map_id _)
    obtain rfl | hc := List.mem_cons.1 hc
    · rfl
    obtain rfl | hc := List.mem_cons.1 hc
    · exact hletter
    · exact isAlphanum_of_isDigitOf (hdigits c hc)
  rw [readLoose, Number.read, String.toList_ofList, String.toList_ofList, hfilter, hplain,
    readChars_of_prefix hsplit hten hdigits hne]

/-- Where a number ends, no literal with a prefix starts behind its first digit. -/
theorem prefixedLength_decimal (hcs : ∀ d ∈ cs, isDigitPart d = true)
    (hrest : ∀ d ∈ rest.head?, isWordPart d = false) : prefixedLength (cs ++ rest) = none := by
  have hnone : ∀ d ∈ (cs ++ rest).head?, baseOf? d = none := by
    intro d hd
    by_contra hbase
    obtain ⟨base, hbase⟩ := Option.ne_none_iff_exists'.1 hbase
    cases cs with
    | nil =>
      have hd' := (baseOf?_eq_some hbase).1
      have hword := hrest d hd
      rw [isWordPart, hd', Bool.true_or] at hword
      cases hword
    | cons e cs =>
      obtain rfl : e = d := Option.some.inj hd
      cases (isDigitPart_of_baseOf? hbase).symm.trans (hcs e List.mem_cons_self)
  rw [prefixedLength.eq_def]
  split
  · rfl
  · next d ds heq => rw [hnone d (by rw [heq]; rfl)]

theorem numberFront_decimal (hcs : ∀ d ∈ cs, isDigitPart d = true)
    (hrest : Stops (.number n) rest) (c : Char) :
    numberFront c (cs ++ rest) = (.integer, cs.length) := by
  obtain ⟨hword, hpoint⟩ := hrest
  have hhead : ∀ d ∈ rest.head?, isDigitPart d = false := fun d hd => by
    rw [isDigitPart, (hword d hd).2, Bool.false_or]
    exact (Bool.or_eq_false_iff.1 (hword d hd).1).2
  have hsplit : (if c = '0' then prefixedLength (cs ++ rest) else none) = none := by
    rw [prefixedLength_decimal hcs fun d hd => (hword d hd).1, ite_self]
  rw [numberFront, runLength_append hcs hhead, List.drop_left, hsplit]
  split
  · next d ds =>
    rw [hpoint rfl d rfl]
    rfl
  · rfl

/-- A literal with a prefix goes on as long as there are digits of its base. -/
theorem numberFront_of_baseOf? {letter : Char} (hbase : baseOf? letter = some base)
    (hrun : runLength (isBasePart base) rest ≠ 0) :
    numberFront '0' (letter :: rest) = (.integer, runLength (isBasePart base) rest + 1) := by
  have hwhole : runLength isDigitPart (letter :: rest) = 0 := by
    rw [runLength, List.takeWhile_cons_of_neg (by simp [isDigitPart_of_baseOf? hbase]),
      List.length_nil]
  have hlength : prefixedLength (letter :: rest) = some (runLength (isBasePart base) rest + 1) := by
    rw [prefixedLength.eq_def]
    simp only [hbase, if_neg hrun]
  have hpoint : letter ≠ '.' := by
    rintro rfl
    cases (baseOf?_eq_some hbase).1
  rw [numberFront, hwhole, List.drop_zero, if_pos rfl, hlength]
  split
  · next heq => exact absurd (List.cons.inj heq).1 hpoint
  · rfl

theorem numberFront_prefixed {letter : Char} (hbase : baseOf? letter = some base)
    (hcs : ∀ d ∈ cs, isBasePart base d = true) (hne : cs ≠ []) (hrest : Stops (.number n) rest) :
    numberFront '0' (letter :: cs ++ rest) = (.integer, (letter :: cs).length) := by
  have hhead : ∀ d ∈ rest.head?, isBasePart base d = false := by
    intro d hd
    have hword := (hrest.1 d hd).1
    by_contra h
    obtain h | h := Bool.or_eq_true_iff.1 (eq_true_of_ne_false h)
    · rw [isWordPart, isAlphanum_of_isDigitOf h, Bool.true_or] at hword
      cases hword
    · rw [isWordPart, h, Bool.or_true] at hword
      cases hword
  have hrun := runLength_append hcs hhead
  have hne' : runLength (isBasePart base) (cs ++ rest) ≠ 0 := by
    rw [hrun]
    exact mt List.length_eq_zero_iff.1 hne
  rw [List.cons_append, numberFront_of_baseOf? hbase hne', hrun, List.length_cons]

end Numerals

section Fronts

variable {line column : Nat} {c : Char} {cs rest : List Char}

theorem front?_of_isWordStart (hc : isWordStart c = true) (rest : List Char) :
    front? c rest = some (.name, runLength isWordPart rest) := by
  obtain ⟨hslash, hblank, hline, hdecimal⟩ : c ≠ '/' ∧ isLineBlank c = false ∧ c ≠ '\n' ∧
      isDecimal c = false :=
    of_forall_lt
      (fun c => isWordStart c = true → c ≠ '/' ∧ isLineBlank c = false ∧ c ≠ '\n' ∧
        isDecimal c = false)
      (by decide) (lt_of_isWordStart hc) hc
  rw [front?, if_neg hslash, if_neg (by simp [hblank]), if_neg hline, if_neg (by simp [hdecimal]),
    if_pos hc]

theorem front?_word (hc : isWordStart c = true) (hcs : ∀ d ∈ cs, isWordPart d = true)
    (hrest : ∀ d ∈ rest.head?, isWordPart d = false) :
    front? c (cs ++ rest) = some (.name, cs.length) := by
  rw [front?_of_isWordStart hc, runLength_append hcs hrest]

theorem front?_doc {text : List Char} (hline : '\n' ∉ text) (rest : List Char) :
    front? '/' (('/' :: '/' :: ' ' :: text) ++ '\n' :: rest) =
      some (.doc, ('/' :: '/' :: ' ' :: text).length) := by
  have htext : '\n' ∉ '/' :: '/' :: ' ' :: text := by simpa using hline
  have hrun : runLength (· != '\n') (('/' :: '/' :: ' ' :: text) ++ '\n' :: rest) =
      ('/' :: '/' :: ' ' :: text).length :=
    runLength_line htext (by rintro d ⟨⟩; rfl)
  rw [front?, if_pos rfl, slashFront?.eq_def, hrun]
  rfl

theorem lexeme?_doc {text : String} (h : strip text = text) :
    lexeme? .doc ('/' :: '/' :: '/' :: ' ' :: text.toList) = .ok (some (.doc text)) := by
  have hstrip : stripChars (' ' :: text.toList) = stripChars text.toList := by
    rw [stripChars, List.dropWhile_cons_of_pos (by decide), stripChars]
  have htext : String.ofList (stripChars text.toList) = text := h
  rw [lexeme?, List.drop_succ_cons, List.drop_succ_cons, List.drop_succ_cons, List.drop_zero,
    hstrip, htext]

theorem front?_openRange (hrest : rest.head? ≠ some '=') :
    front? '.' ('.' :: rest) = some (.mark .openRange, 1) := by
  cases rest with
  | nil => rfl
  | cons d rest =>
    have hd : d ≠ '=' := fun h => hrest (by rw [h]; rfl)
    have hmark : markFront? '.' ('.' :: d :: rest) = some (.openRange, 1) := by
      rw [markFront?.eq_def]
      simp [hd]
    exact congrArg (Option.map _) hmark

theorem front?_dot (h : rest.head? ≠ some '.') : front? '.' rest = some (.mark .dot, 0) := by
  cases rest with
  | nil => rfl
  | cons d rest =>
    have hd : d ≠ '.' := fun heq => h (by rw [heq]; rfl)
    have hmark : markFront? '.' (d :: rest) = some (.dot, 0) := by
      rw [markFront?.eq_def]
      simp [hd]
    exact congrArg (Option.map _) hmark

theorem front?_colon (h : rest.head? ≠ some ':') : front? ':' rest = some (.mark .colon, 0) := by
  cases rest with
  | nil => rfl
  | cons d rest =>
    have hd : d ≠ ':' := fun heq => h (by rw [heq]; rfl)
    have hmark : markFront? ':' (d :: rest) = some (.colon, 0) := by
      rw [markFront?.eq_def]
      simp [hd]
    exact congrArg (Option.map _) hmark

/-- A mark is read as itself, unless what follows makes a longer one of it. -/
theorem front?_mark {m : Mark} (h : Stops (.mark m) rest) :
    ∃ c cs, m.text.toList = c :: cs ∧ front? c (cs ++ rest) = some (.mark m, cs.length) := by
  cases m with
  | dot => exact ⟨_, _, rfl, front?_dot h⟩
  | openRange => exact ⟨_, _, rfl, front?_openRange h⟩
  | colon => exact ⟨_, _, rfl, front?_colon h⟩
  | _ => exact ⟨_, _, rfl, rfl⟩

theorem tokensFrom_mark {m : Mark} (h : Stops (.mark m) rest) (line column : Nat) :
    ∃ column', tokensFrom line column (m.text.toList ++ rest) =
      (tokensFrom line column' rest).map (⟨.mark m, line, column⟩ :: ·) := by
  obtain ⟨c, cs, hm, hfront⟩ := front?_mark h
  rw [hm]
  exact ⟨_, tokensFrom_piece hfront nofun rfl line column⟩

theorem tokensFrom_numeral {n : Nat} (h : IsNumeral n cs) (hn : isShort n = true)
    (hrest : Stops (.number n) rest) (line column : Nat) :
    ∃ column', tokensFrom line column (cs ++ rest) =
      (tokensFrom line column' rest).map (⟨.number n, line, column⟩ :: ·) := by
  cases h with
  | @decimal _ c cs hc hcs =>
    have hpart : ∀ d ∈ cs, isDigitPart d = true := by
      intro d hd
      by_cases hunder : d = '_'
      · rw [hunder]
        rfl
      · have hmem : d ∈ Nat.toDigits 10 n := by
          rw [← hcs]
          exact List.mem_filter.2 ⟨List.mem_cons_of_mem c hd, bne_iff_ne.2 hunder⟩
        exact isDigitPart_of_isDigit (Nat.isDigit_of_mem_toDigits (by decide) (by decide) hmem)
    have hfront : front? c (cs ++ rest) = some (.integer, cs.length) := by
      rw [front?_of_isDigit hc, numberFront_decimal hpart hrest]
    have hvalue : lexeme? .integer (c :: cs) = .ok (some (.number n)) := by
      rw [lexeme?, readLoose_decimal (by rwa [String.toList_ofList]) hn]
    exact ⟨_, tokensFrom_piece hfront (by decide) hvalue line column⟩
  | @prefixed base letter cs hbase hcs hne =>
    have hcs' : cs ≠ [] := by
      rintro rfl
      exact hne rfl
    have hfront : front? '0' (letter :: cs ++ rest) = some (.integer, (letter :: cs).length) := by
      rw [front?_of_isDigit (by decide), numberFront_prefixed hbase hcs hcs' hrest]
    have hvalue : lexeme? .integer ('0' :: letter :: cs) =
        .ok (some (.number (digitsValue base 0 (cs.filter (· != '_'))))) := by
      rw [lexeme?, readLoose_prefixed hbase hcs hne]
    exact ⟨_, tokensFrom_piece hfront (by decide) hvalue line column⟩

/-- A token is read as itself where it stops. -/
theorem tokensFrom_written {l : Lexeme} (h : Writes l cs) (hl : l.Plain) (hrest : Stops l rest)
    (line column : Nat) :
    ∃ line' column', tokensFrom line column (cs ++ rest) =
      (tokensFrom line' column' rest).map (⟨l, line, column⟩ :: ·) := by
  cases h with
  | doc text =>
    obtain ⟨hline, hstrip⟩ := hl
    have hdoc := tokensFrom_piece (front?_doc hline rest) (by decide) (lexeme?_doc hstrip) line
      column
    rw [tokensFrom_newline] at hdoc
    refine ⟨_, _, Eq.trans (congrArg _ ?_) hdoc⟩
    rw [List.append_assoc]
    rfl
  | name s =>
    obtain ⟨c, cs, hs, hc, hcs⟩ := hl
    have hname : lexeme? .name (c :: cs) = .ok (some (.name s)) := by
      rw [lexeme?, ← hs, String.ofList_toList]
    rw [hs]
    exact ⟨_, _, tokensFrom_piece (front?_word hc hcs hrest) (by decide) hname line column⟩
  | number h =>
    obtain ⟨column', hnumber⟩ := tokensFrom_numeral h hl.2 hrest line column
    exact ⟨line, column', hnumber⟩
  | mark m =>
    obtain ⟨column', hmark⟩ := tokensFrom_mark hrest line column
    exact ⟨line, column', hmark⟩

end Fronts

end Lexer

end RegisterMap
