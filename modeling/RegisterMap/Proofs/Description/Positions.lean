import RegisterMap.Proofs.Description.Lexed
import RegisterMap.Proofs.Text.Position

/-!
# Positions of tokens and faults

Every token is where its piece starts in the text, and what the lexer rejects is where it says. A
fault of the parser shows at a token.
-/

namespace RegisterMap

namespace Lexer

open Text

/-- What a token of the lexeme looks like at the front of the rest of a text. -/
def Starts (l : Lexeme) (rest : List Char) : Prop :=
  l = .endOfInput ∧ rest = [] ∨
    ∃ c cs piece more, rest = c :: cs ∧ front? c cs = some (piece, more) ∧
      lexeme? piece (c :: cs.take more) = .ok (some l)

/-- The rest of a text that the lexer rejects: no piece starts there, or an integer that is no
number. -/
def Rejected (rest : List Char) : Prop :=
  ∃ c cs, rest = c :: cs ∧ (front? c cs = none ∨
    ∃ more written, front? c cs = some (.integer, more) ∧
      lexeme? .integer (c :: cs.take more) = .error (.badInteger written))

/-- A character that is part of a line and no mark for a half. -/
def IsInner (d : Char) : Prop :=
  d ≠ '\n' ∧ d ≠ halfMark

instance : DecidablePred IsInner :=
  fun d => inferInstanceAs (Decidable (d ≠ '\n' ∧ d ≠ halfMark))

section Pieces

variable {c : Char} {rest : List Char} {more : Nat} {p : Char → Bool}

theorem drop_runLength (p : Char → Bool) (cs : List Char) :
    cs.drop (runLength p cs) = cs.dropWhile p := by
  have h : (cs.takeWhile p ++ cs.dropWhile p).drop (runLength p cs) = cs.dropWhile p :=
    List.drop_left
  rwa [List.takeWhile_append_dropWhile] at h

theorem isInner_of (hp : p '\n' = false ∧ p halfMark = false) {d : Char} (hd : p d = true) :
    IsInner d := by
  constructor
  · rintro rfl
    exact absurd hd (by simp [hp.1])
  · rintro rfl
    exact absurd hd (by simp [hp.2])

theorem isInner_of_run (hp : p '\n' = false ∧ p halfMark = false) :
    ∀ d ∈ rest.take (runLength p rest), IsInner d :=
  fun _ hd => isInner_of hp (mem_take_runLength hd)

theorem isInner_of_isDecimal {d : Char} (hd : isDecimal d = true) : IsInner d :=
  isInner_of (by decide) hd

theorem isInner_digits : ∀ d ∈ rest.take (runLength isDigitPart rest), IsInner d :=
  isInner_of_run (by decide)

theorem isInner_prefixed {k : Nat} (h : prefixedLength rest = some k) :
    ∀ d ∈ rest.take k, IsInner d := by
  rw [prefixedLength.eq_def] at h
  split at h
  · cases h
  · next letter cs =>
    split at h
    · cases h
    · next base hbase =>
      dsimp only at h
      split at h
      · cases h
      · cases h
        have hletter : IsInner letter :=
          isInner_of (p := fun d => (baseOf? d).isSome) (by decide) (by simp [hbase])
        have hdigits : ∀ base ∈ [16, 2, 8], isBasePart base '\n' = false ∧
            isBasePart base halfMark = false := by decide
        have hbase : base ∈ [16, 2, 8] := by
          rw [baseOf?] at hbase
          split_ifs at hbase <;> cases hbase <;> decide
        rw [List.take_succ_cons]
        exact List.forall_mem_cons.2 ⟨hletter, isInner_of_run (hdigits base hbase)⟩

theorem isInner_numberFront (c : Char) (rest : List Char) :
    ∀ d ∈ rest.take (numberFront c rest).2, IsInner d := by
  have hinteger : ∀ d ∈ rest.take ((if c = '0' then prefixedLength rest else none).getD
      (runLength isDigitPart rest)), IsInner d := by
    cases hk : if c = '0' then prefixedLength rest else none with
    | none => exact isInner_digits
    | some k =>
      split at hk
      · exact isInner_prefixed hk
      · cases hk
  rw [numberFront]
  split
  · next d cs hdrop =>
    split
    · next hd =>
      dsimp only
      rw [Nat.add_assoc, List.take_add, hdrop, Nat.add_comm 2, List.take_succ_cons,
        List.take_succ_cons]
      refine List.forall_mem_append.2 ⟨isInner_digits, ?_⟩
      exact List.forall_mem_cons.2
        ⟨by decide, List.forall_mem_cons.2 ⟨isInner_of_isDecimal hd, isInner_digits⟩⟩
    · exact hinteger
  · exact hinteger

theorem markFront?_takes {m : Mark} (h : markFront? c rest = some (m, more)) :
    more ≤ rest.length ∧ c :: rest.take more = m.text.toList := by
  rw [markFront?.eq_def] at h
  split at h <;> first
    | (split at h <;> cases h <;> simp [Mark.text])
    | (cases h; simp [Mark.text])
    | cases h

/-- The characters of a mark stand in one line. -/
theorem isInner_markFront {m : Mark} (h : markFront? c rest = some (m, more)) :
    ∀ d ∈ c :: rest.take more, IsInner d := by
  have hmarks : m.text.toList.all (fun d => decide (IsInner d)) = true := by cases m <;> rfl
  rw [(markFront?_takes h).2]
  simpa using hmarks

theorem slashFront?_takes {piece : Piece} (h : slashFront? rest = some (piece, more)) :
    more = runLength (· != '\n') rest := by
  rw [slashFront?.eq_def] at h
  dsimp only at h
  split at h <;> cases h <;> rfl

/-- A piece that is no line break stands in one line. It has no mark for a half, unless it goes on
to the end of its line. -/
theorem front?_takes {piece : Piece} (h : front? c rest = some (piece, more)) :
    piece = .newline ∧ c = '\n' ∧ more = 0 ∨
      piece ≠ .newline ∧ '\n' ∉ c :: rest.take more ∧
        (halfMark ∉ c :: rest.take more ∨ ∀ d ∈ (rest.drop more).head?, d = '\n') := by
  have hinner : piece ≠ .newline → (∀ d ∈ c :: rest.take more, IsInner d) →
      piece = .newline ∧ c = '\n' ∧ more = 0 ∨
      piece ≠ .newline ∧ '\n' ∉ c :: rest.take more ∧
        (halfMark ∉ c :: rest.take more ∨ ∀ d ∈ (rest.drop more).head?, d = '\n') :=
    fun hpiece hall => .inr ⟨hpiece, fun hd => (hall _ hd).1 rfl, .inl fun hd => (hall _ hd).2 rfl⟩
  rw [front?] at h
  split at h
  · next hc =>
    have hpiece : piece ≠ .newline := by
      obtain rfl | rfl := slashFront?_eq h <;> simp
    obtain rfl := slashFront?_takes h
    refine .inr ⟨hpiece, ?_, .inr ?_⟩
    · rintro (_ | ⟨_, hd⟩)
      · cases hc
      · cases mem_take_runLength hd
    · rw [drop_runLength]
      intro d hd
      simpa using head_dropWhile rest d hd
  split at h
  · next hc =>
    cases h
    exact hinner (by simp) (List.forall_mem_cons.2
      ⟨isInner_of (p := isLineBlank) (by decide) hc, isInner_of_run (by decide)⟩)
  split at h
  · next hc =>
    cases h
    exact .inl ⟨rfl, hc, rfl⟩
  split at h
  · next hc =>
    have hnumber := Option.some.inj h
    have hpiece : piece ≠ .newline := by
      rintro rfl
      obtain hn | ⟨hn, -⟩ := numberFront_eq c rest <;>
        cases hn.symm.trans (congrArg Prod.fst hnumber)
    have hmore : (numberFront c rest).2 = more := congrArg Prod.snd hnumber
    exact hinner hpiece (List.forall_mem_cons.2
      ⟨isInner_of_isDecimal hc, hmore ▸ isInner_numberFront c rest⟩)
  split at h
  · next hc =>
    cases h
    exact hinner (by simp) (List.forall_mem_cons.2
      ⟨isInner_of (p := isWordStart) (by decide) hc, isInner_of_run (by decide)⟩)
  · obtain ⟨⟨m, k⟩, hm, heq⟩ := Option.map_eq_some_iff.1 h
    cases heq
    exact hinner (by simp) (isInner_markFront hm)

end Pieces

section Tokens

variable {text : List Char} {line column : Nat} {rest : List Char}

/-- The rest of a text is where the lexer takes it to be, and no half is cut in two there. -/
def Reaches (text : List Char) (line column : Nat) (rest : List Char) : Prop :=
  ∃ before, before ++ rest = text ∧ before.count '\n' + 1 = line ∧
    size (lastLine before) + 1 = column ∧
    (halfMark ∉ lastLine before ∨ ∀ d ∈ rest.head?, d = '\n')

theorem Reaches.standsAt (h : Reaches text line column rest) : StandsAt text line column rest := by
  obtain ⟨before, htext, hline, hcolumn, -⟩ := h
  exact ⟨before, htext, hline, hcolumn⟩

theorem reaches_start (text : List Char) : Reaches text 1 1 text :=
  ⟨[], rfl, rfl, rfl, .inl List.not_mem_nil⟩

theorem Reaches.newline (h : Reaches text line column ('\n' :: rest)) :
    Reaches text (line + 1) 1 rest := by
  obtain ⟨before, rfl, rfl, -, -⟩ := h
  refine ⟨before ++ ['\n'], by simp, by simp, ?_, ?_⟩
  · rw [lastLine_newline]
    rfl
  · rw [lastLine_newline]
    exact .inl List.not_mem_nil

theorem Reaches.piece {c : Char} {more : Nat} (h : Reaches text line column (c :: rest))
    (hline : '\n' ∉ c :: rest.take more)
    (hend : halfMark ∉ c :: rest.take more ∨ ∀ d ∈ (rest.drop more).head?, d = '\n') :
    Reaches text line (column + size (c :: rest.take more)) (rest.drop more) := by
  obtain ⟨before, rfl, rfl, rfl, hclean⟩ := h
  have hmark : halfMark ∉ lastLine before := by
    refine hclean.resolve_right fun hnewline => hline ?_
    rw [hnewline c rfl]
    exact List.mem_cons_self
  refine ⟨before ++ c :: rest.take more, by simp, ?_, ?_, ?_⟩
  · rw [List.count_append, List.count_eq_zero_of_not_mem hline, Nat.add_zero]
  · rw [lastLine_append hline, size_append hmark, Nat.add_right_comm]
  · rw [lastLine_append hline]
    exact hend.imp_left fun hm => List.not_mem_append hmark hm

/-- What follows the piece at the front is reached at the place that the lexer goes on from. -/
theorem Reaches.next {c : Char} {piece : Piece} {more : Nat}
    (h : Reaches text line column (c :: rest)) (hfront : front? c rest = some (piece, more)) :
    if piece = .newline then Reaches text (line + 1) 1 (rest.drop more)
    else Reaches text line (column + size (c :: rest.take more)) (rest.drop more) := by
  obtain ⟨rfl, rfl, rfl⟩ | ⟨hpiece, hline, hend⟩ := front?_takes hfront
  · exact h.newline
  · rw [if_neg hpiece]
    exact h.piece hline hend

/-- A token that is where it says in a text. -/
def Found (text : List Char) (t : Token) : Prop :=
  ∃ rest, StandsAt text t.line t.column rest ∧ Starts t.lexeme rest

/-- The tokens of a text are where they say, or what is rejected is. -/
def Located (text : List Char) : Except Fault (List Token) → Prop
  | .ok ts => ∀ t ∈ ts, Found text t
  | .error fault => ∃ rest, StandsAt text fault.line fault.column rest ∧ Rejected rest

theorem Located.cons {x : Except Fault (List Token)} {t : Token} (h : Located text x)
    (ht : Found text t) : Located text (x.map (t :: ·)) := by
  cases x with
  | error fault => exact h
  | ok ts => exact List.forall_mem_cons.2 ⟨ht, h⟩

theorem lexeme?_eq_error {piece : Piece} {written : List Char} {cause : Cause}
    (h : lexeme? piece written = .error cause) :
    piece = .integer ∧ ∃ s, cause = .badInteger s := by
  cases piece with
  | integer =>
    rw [lexeme?] at h
    split at h
    · cases h
    · cases h
      exact ⟨rfl, _, rfl⟩
  | _ => cases h

theorem located_tokensFrom (h : Reaches text line column rest) :
    Located text (tokensFrom line column rest) := by
  fun_induction tokensFrom line column rest with
  | case1 line column => exact List.forall_mem_singleton.2 ⟨[], h.standsAt, .inl ⟨rfl, rfl⟩⟩
  | case2 line column c rest hfront => exact ⟨_, h.standsAt, c, rest, rfl, .inl hfront⟩
  | case3 line column c rest piece more hfront cause hl =>
    obtain ⟨rfl, s, rfl⟩ := lexeme?_eq_error hl
    exact ⟨_, h.standsAt, c, rest, rfl, .inr ⟨more, s, hfront, hl⟩⟩
  | case4 line column c rest piece more hfront following hl ihLine ihColumn =>
    have hnext := h.next hfront
    dsimp only [following]
    split_ifs at hnext ⊢
    · exact ihLine hnext
    · exact ihColumn hnext
  | case5 line column c rest piece more hfront following l hl ihLine ihColumn =>
    have hnext := h.next hfront
    refine Located.cons ?_ ⟨_, h.standsAt, .inr ⟨c, rest, piece, more, rfl, hfront, hl⟩⟩
    dsimp only [following]
    split_ifs at hnext ⊢
    · exact ihLine hnext
    · exact ihColumn hnext

theorem located_tokens (s : String) : Located s.toList (tokens s) :=
  located_tokensFrom (reaches_start s.toList)

end Tokens

end Lexer

end RegisterMap
