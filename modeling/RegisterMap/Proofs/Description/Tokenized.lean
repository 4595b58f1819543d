import RegisterMap.Proofs.Description.Numerals

/-!
# Texts and their tokens

What the tokens of a text are, without a word on how they are found: the text is tokens with gaps
between them, and each token is the longest piece that starts where it does. Main statement: the
lexer yields these tokens, one behind the other, or it says which of the pieces is none.
-/

namespace RegisterMap

open Text Number

/-- Which of two tokens stands in front of the other. -/
def Token.Precedes (s t : Token) : Prop :=
  s.line < t.line ∨ s.line = t.line ∧ s.column < t.column

namespace Lexer

/-- The line of what stands behind a text. -/
def lineAfter (before : List Char) : Nat :=
  before.count '\n' + 1

/-- The column of what stands behind a text. -/
def columnAfter (before : List Char) : Nat :=
  size (lastLine before) + 1

/-- What a piece means that makes a token. -/
inductive Means : Piece → List Char → Lexeme → Prop where
  | doc (cs : List Char) :
      Means .doc ('/' :: '/' :: '/' :: cs) (.doc (String.ofList (stripChars cs)))
  | name (cs : List Char) : Means .name cs (.name (String.ofList cs))
  | number {cs : List Char} {n : Nat} (h : Denotes cs n) : Means .integer cs (.number n)
  | fraction (cs : List Char) : Means .fraction cs (.fraction (String.ofList cs))
  | mark (m : Mark) : Means (.mark m) m.text.toList (.mark m)

/-- What the tokens of a text are, or the fault that it has, where `before` is in front of it. -/
inductive Lexes : List Char → List Char → Except Fault (List Token) → Prop where
  | ending {before gap : List Char} (hgap : Ending gap) :
      Lexes before gap
        (.ok [⟨.endOfInput, lineAfter (before ++ gap), columnAfter (before ++ gap)⟩])
  | unexpected {before gap rest : List Char} {point : Point} {others : List Point}
      (hgap : Gap gap) (hpoint : points rest = point :: others)
      (hnone : ∀ p written, Spells p written → ¬written <+: rest) :
      Lexes before (gap ++ rest)
        (.error ⟨.unexpected point, lineAfter (before ++ gap), columnAfter (before ++ gap)⟩)
  | badInteger {before gap written rest : List Char} (hgap : Gap gap)
      (hlongest : Longest .integer written (written ++ rest)) (hnone : ∀ n, ¬Denotes written n) :
      Lexes before (gap ++ (written ++ rest))
        (.error ⟨.badInteger (String.ofList written), lineAfter (before ++ gap),
          columnAfter (before ++ gap)⟩)
  | token {before gap written rest : List Char} {p : Piece} {l : Lexeme}
      {following : Except Fault (List Token)} (hgap : Gap gap)
      (hlongest : Longest p written (written ++ rest)) (hmeans : Means p written l)
      (others : Lexes (before ++ gap ++ written) rest following) :
      Lexes before (gap ++ (written ++ rest))
        (following.map (⟨l, lineAfter (before ++ gap), columnAfter (before ++ gap)⟩ :: ·))

section Meanings

variable {p : Piece} {written : List Char} {l : Lexeme} {cause : Cause}

theorem lexeme?_eq_some_iff (h : Spells p written) :
    lexeme? p written = .ok (some l) ↔ Means p written l := by
  cases p with
  | doc =>
    cases h with
    | doc =>
      constructor
      · rintro ⟨⟩
        exact .doc _
      · rintro ⟨⟩
        rfl
  | integer =>
    have hread := fun v => readLoose_eq_ok_iff (v := v) h
    rw [lexeme?]
    split
    · next value hvalue =>
      obtain ⟨n, rfl, hn⟩ := (hread value).1 hvalue
      constructor
      · rintro ⟨⟩
        exact .number hn
      · rintro (_ | _ | ⟨hm⟩)
        cases hvalue.symm.trans ((hread _).2 ⟨_, rfl, hm⟩)
        rfl
    · next fault hfault =>
      constructor
      · rintro ⟨⟩
      · rintro (_ | _ | ⟨hm⟩)
        cases hfault.symm.trans ((hread _).2 ⟨_, rfl, hm⟩)
  | mark m =>
    cases h
    constructor
    · rintro ⟨⟩
      exact .mark m
    · rintro ⟨⟩
      rfl
  | name =>
    constructor
    · rintro ⟨⟩
      exact .name _
    · rintro ⟨⟩
      rfl
  | fraction =>
    constructor
    · rintro ⟨⟩
      exact .fraction _
    · rintro ⟨⟩
      rfl
  | _ => constructor <;> rintro ⟨⟩

theorem lexeme?_eq_none_iff :
    lexeme? p written = .ok none ↔ p = .comment ∨ p = .blank ∨ p = .newline := by
  cases p with
  | integer =>
    rw [lexeme?]
    split <;> simp
  | _ => simp [lexeme?]

theorem lexeme?_eq_error_iff (h : Spells p written) :
    lexeme? p written = .error cause ↔
      p = .integer ∧ cause = .badInteger (String.ofList written) ∧ ∀ n, ¬Denotes written n := by
  cases p with
  | integer =>
    have hread := fun v => readLoose_eq_ok_iff (v := v) h
    rw [lexeme?]
    split
    · next value hvalue =>
      obtain ⟨n, -, hn⟩ := (hread value).1 hvalue
      constructor
      · rintro ⟨⟩
      · exact fun hnone => absurd hn (hnone.2.2 n)
    · next fault hfault =>
      constructor
      · rintro ⟨⟩
        refine ⟨rfl, rfl, fun n hn => ?_⟩
        cases hfault.symm.trans ((hread n).2 ⟨n, rfl, hn⟩)
      · rintro ⟨-, rfl, -⟩
        rfl
  | _ => simp [lexeme?]

end Meanings

section Gaps

variable {gap behind written rest : List Char} {c : Char} {p : Piece}

theorem Gap.append (h : Gap gap) (hbehind : Gap behind) : Gap (gap ++ behind) := by
  induction h with
  | none => exact hbehind
  | blank hc _ ih => exact .blank hc ih
  | newline _ ih => exact .newline ih
  | comment htext _ ih =>
    rw [List.append_assoc, List.cons_append]
    exact .comment htext ih

theorem gap_of_blanks (h : ∀ d ∈ gap, isLineBlank d = true) : Gap gap := by
  induction gap with
  | nil => exact .none
  | cons c gap ih =>
    obtain ⟨hc, hgap⟩ := List.forall_mem_cons.1 h
    exact .blank hc (ih hgap)

theorem Gap.ending (h : Gap gap) : Ending gap :=
  ⟨gap, [], (List.append_nil gap).symm, h, .inl rfl⟩

theorem Ending.newline (h : Ending gap) : Gap (gap ++ ['\n']) := by
  obtain ⟨front, last, rfl, hfront, rfl | hlast⟩ := h
  · rw [List.append_nil]
    exact hfront.append (.newline .none)
  · rw [List.append_assoc]
    exact hfront.append (.comment hlast .none)

/-- What stands in front of the rest of a text is a gap, up to the end of a line if it ends in a
comment. -/
def Skipped (gap rest : List Char) : Prop :=
  Gap gap ∨ Ending gap ∧ ∀ d ∈ rest.head?, d = '\n'

theorem Skipped.ending (h : Skipped gap rest) : Ending gap :=
  h.elim Gap.ending And.left

theorem Skipped.isGap (h : Skipped gap (c :: rest)) (hc : c ≠ '\n') : Gap gap :=
  h.resolve_right fun h => hc (h.2 c rfl)

/-- A comment goes on to the end of its line. -/
theorem Longest.comment_ends (h : Longest .comment written (written ++ rest)) :
    ∀ d ∈ rest.head?, d = '\n' := by
  intro d hd
  obtain ⟨others, rfl⟩ := List.head?_eq_some_iff.1 hd
  by_contra hne
  cases h.spells with
  | comment hwritten =>
    obtain ⟨cs, rfl, hline, -⟩ := hwritten
    have hlonger : '\n' ∉ cs ++ [d] := by simp [hline, Ne.symm hne]
    have hle := h.longest _ _ (spells_behindSlashes hlonger) ⟨others, by simp⟩
    simp at hle

theorem Skipped.next (h : Skipped gap (written ++ rest))
    (hlongest : Longest p written (written ++ rest))
    (hp : p = .comment ∨ p = .blank ∨ p = .newline) : Skipped (gap ++ written) rest := by
  obtain rfl | rfl | rfl := hp
  · have hends := hlongest.comment_ends
    cases hlongest.spells with
    | comment hwritten =>
      obtain ⟨cs, rfl, -⟩ := id hwritten
      exact .inr ⟨⟨gap, _, rfl, h.isGap (by decide), .inr hwritten⟩, hends⟩
  · cases hlongest.spells with
    | blank hblanks =>
      have hne : ∀ {d}, isLineBlank d = true → d ≠ '\n' := by
        rintro d hd rfl
        cases hd
      exact .inl ((h.isGap (hne (hblanks _ List.mem_cons_self))).append (gap_of_blanks hblanks))
  · cases hlongest.spells with
    | newline => exact .inl h.ending.newline

end Gaps

section Texts

variable {line column : Nat} {before gap written rest : List Char} {c : Char}

theorem Reaches.place (h : Reaches (before ++ rest) line column rest) :
    line = lineAfter before ∧ column = columnAfter before := by
  obtain ⟨front, hfront, rfl, rfl, -⟩ := h
  obtain rfl := List.append_cancel_right hfront
  exact ⟨rfl, rfl⟩

theorem Skipped.nil (rest : List Char) : Skipped [] rest :=
  .inl .none

theorem cons_eq_take_drop (c : Char) (rest : List Char) (more : Nat) :
    c :: rest = c :: rest.take more ++ rest.drop more := by
  rw [List.cons_append, List.take_append_drop]

theorem points_cons_eq (c : Char) (rest : List Char) :
    ∃ others, points (c :: rest) = (points (c :: rest)).headD (.char c) :: others := by
  by_cases hc : c = halfMark
  · subst hc
    cases rest with
    | nil => exact ⟨[], rfl⟩
    | cons d rest =>
      rw [points_mark]
      exact ⟨_, rfl⟩
  · rw [points_cons hc]
    exact ⟨_, rfl⟩

theorem lexes_tokensFrom (hgap : Skipped gap rest)
    (h : Reaches (before ++ gap ++ rest) line column rest) :
    Lexes before (gap ++ rest) (tokensFrom line column rest) := by
  -- the gap in front grows by what is skipped, until a token closes it
  fun_induction tokensFrom line column rest generalizing before gap with
  | case1 line column =>
    obtain ⟨rfl, rfl⟩ := h.place
    rw [List.append_nil]
    exact .ending hgap.ending
  | case2 line column c rest hfront =>
    obtain ⟨rfl, rfl⟩ := h.place
    obtain ⟨others, hpoint⟩ := points_cons_eq c rest
    have hc : c ≠ '\n' := by
      rintro rfl
      cases hfront
    exact .unexpected (hgap.isGap hc) hpoint (front?_eq_none_iff.1 hfront)
  | case3 line column c rest piece more hfront cause hl =>
    obtain ⟨rfl, rfl⟩ := h.place
    obtain ⟨-, hlongest⟩ := front?_eq_some_iff.1 hfront
    obtain ⟨rfl, rfl, hnone⟩ := (lexeme?_eq_error_iff hlongest.spells).1 hl
    have hc : c ≠ '\n' := by
      rintro rfl
      cases hfront
    rw [cons_eq_take_drop c rest more] at hlongest ⊢
    exact .badInteger (hgap.isGap hc) hlongest hnone
  | case4 line column c rest piece more hfront following =>
    rename_i hl ihLine ihColumn
    have hnext := h.next hfront
    obtain ⟨-, hlongest⟩ := front?_eq_some_iff.1 hfront
    rw [cons_eq_take_drop c rest more] at hgap hlongest hnext ⊢
    have hskipped := hgap.next hlongest (lexeme?_eq_none_iff.1 hl)
    rw [List.append_assoc before, ← List.append_assoc gap, ← List.append_assoc before] at hnext
    rw [← List.append_assoc]
    dsimp only [following]
    split_ifs at hnext ⊢
    · exact ihLine hskipped hnext
    · exact ihColumn hskipped hnext
  | case5 line column c rest piece more hfront following =>
    rename_i l hl ihLine ihColumn
    have hnext := h.next hfront
    obtain ⟨rfl, rfl⟩ := h.place
    obtain ⟨-, hlongest⟩ := front?_eq_some_iff.1 hfront
    have hmeans := (lexeme?_eq_some_iff hlongest.spells).1 hl
    have hc : c ≠ '\n' := by
      rintro rfl
      cases hfront
      cases hl
    have hclosed := hgap.isGap hc
    rw [cons_eq_take_drop c rest more] at hlongest hnext ⊢
    rw [← List.append_assoc (before ++ gap)] at hnext
    refine .token hclosed hlongest hmeans ?_
    dsimp only [following]
    split_ifs at hnext ⊢
    · exact ihLine (.nil _) (by rwa [List.append_nil])
    · exact ihColumn (.nil _) (by rwa [List.append_nil])

end Texts

section Order

variable {line column : Nat} {rest : List Char} {ts : List Token}

theorem size_pos (c : Char) (cs : List Char) : 0 < size (c :: cs) := by
  obtain ⟨others, hpoints⟩ := points_cons_eq c cs
  rw [size, hpoints]
  exact Nat.succ_pos _

/-- No token is in front of the place that the lexer starts from, and each is in front of those
behind it. -/
theorem ordered_tokensFrom (h : tokensFrom line column rest = .ok ts) :
    (∀ t ∈ ts, line < t.line ∨ line = t.line ∧ column ≤ t.column) ∧
      ts.Pairwise Token.Precedes := by
  fun_induction tokensFrom line column rest generalizing ts with
  | case1 line column =>
    cases h
    simp
  | case4 line column c rest piece more hfront following =>
    rename_i hl ihLine ihColumn
    dsimp only [following] at h
    split at h
    · obtain ⟨hbehind, hordered⟩ := ihLine h
      exact ⟨fun t ht => by have := hbehind t ht; omega, hordered⟩
    · obtain ⟨hbehind, hordered⟩ := ihColumn h
      exact ⟨fun t ht => by have := hbehind t ht; omega, hordered⟩
  | case5 line column c rest piece more hfront following =>
    rename_i l hl ihLine ihColumn
    obtain ⟨us, hus, rfl⟩ := map_eq_ok.1 h
    have hsize := size_pos c (rest.take more)
    have hbehind : (∀ t ∈ us, line < t.line ∨ line = t.line ∧ column < t.column) ∧
        us.Pairwise Token.Precedes := by
      dsimp only [following] at hus
      split at hus
      · obtain ⟨hbehind, hordered⟩ := ihLine hus
        exact ⟨fun t ht => by have := hbehind t ht; omega, hordered⟩
      · obtain ⟨hbehind, hordered⟩ := ihColumn hus
        exact ⟨fun t ht => by have := hbehind t ht; omega, hordered⟩
    refine ⟨List.forall_mem_cons.2 ⟨.inr ⟨rfl, Nat.le_refl column⟩, fun t ht => ?_⟩,
      List.pairwise_cons.2 ⟨hbehind.1, hbehind.2⟩⟩
    exact (hbehind.1 t ht).imp_right fun h => ⟨h.1, Nat.le_of_lt h.2⟩
  | _ => cases h

/-- The last token is the end of input, behind the whole text, and no other one is. -/
theorem Lexes.ended {before : List Char} {r : Except Fault (List Token)} (h : Lexes before rest r)
    (hr : r = .ok ts) : ∃ inner, (∀ t ∈ inner, t.lexeme ≠ .endOfInput) ∧
      ts = inner ++ [⟨.endOfInput, lineAfter (before ++ rest), columnAfter (before ++ rest)⟩] := by
  induction h generalizing ts with
  | ending hgap =>
    cases hr
    exact ⟨[], nofun, rfl⟩
  | unexpected => cases hr
  | badInteger => cases hr
  | @token before gap written rest p l following hgap hlongest hmeans others ih =>
    obtain ⟨us, hus, rfl⟩ := map_eq_ok.1 hr
    obtain ⟨inner, hinner, rfl⟩ := ih hus
    have hl : l ≠ .endOfInput := by
      rintro rfl
      cases hmeans
    have hassoc : before ++ (gap ++ (written ++ rest)) = before ++ gap ++ written ++ rest := by simp
    rw [hassoc]
    exact ⟨⟨l, lineAfter (before ++ gap), columnAfter (before ++ gap)⟩ :: inner,
      List.forall_mem_cons.2 ⟨hl, hinner⟩, rfl⟩

end Order

theorem lexes_tokens (s : String) : Lexes [] s.toList (tokens s) := by
  have hstart : Reaches ([] ++ [] ++ s.toList) 1 1 s.toList := reaches_start s.toList
  exact lexes_tokensFrom (.nil _) hstart

/-- What is said of the tokens of a text. -/
def Tokenized (text : List Char) : Except Fault (List Token) → Prop
  | .ok ts => Lexes [] text (.ok ts) ∧ ts.Pairwise Token.Precedes ∧
      ∃ inner, (∀ t ∈ inner, t.lexeme ≠ .endOfInput) ∧
        ts = inner ++ [⟨.endOfInput, lineAfter text, columnAfter text⟩]
  | .error fault => Lexes [] text (.error fault)

/-- The tokens of a text are the longest pieces, one behind the other with gaps between them, up to
the only end of input, which is at the end of the text. A text that is rejected has at the place of
the fault, behind its tokens so far and a gap, no piece or a literal that denotes no number. -/
theorem tokenized_tokens (s : String) : Tokenized s.toList (tokens s) := by
  have hlexes := lexes_tokens s
  cases h : tokens s with
  | error fault =>
    rw [h] at hlexes
    exact hlexes
  | ok ts =>
    rw [h] at hlexes
    exact ⟨hlexes, (ordered_tokensFrom h).2, hlexes.ended rfl⟩

end Lexer

end RegisterMap
