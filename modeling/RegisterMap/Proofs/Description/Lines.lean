import RegisterMap.Proofs.Description.Pieces

/-!
# Texts line by line

No piece goes on behind a line break, and none depends on what stands there. Main statement: the
tokens of two texts with a line break between them are the tokens of the one and then those of the
other, further down.
-/

namespace RegisterMap

open Text

/-- The token as many lines further down. -/
def Token.below (lines : Nat) (t : Token) : Token :=
  { t with line := t.line + lines }

namespace Lexer

/-- The fault as many lines further down. -/
def Fault.below (lines : Nat) (f : Fault) : Fault :=
  { f with line := f.line + lines }

section Breaks

variable {c : Char} {rest written : List Char} {more : Nat} {p : Piece}

/-- A line break stands alone. -/
theorem Spells.newline_not_mem (h : Spells p written) : written = ['\n'] ∨ '\n' ∉ written := by
  have hdigits : ∀ {cs}, IsDigits cs → '\n' ∉ cs := by
    rintro _ ⟨c, more, rfl, hc, hmore⟩ hmem
    obtain rfl | hmem := List.mem_cons.1 hmem
    · cases hc
    · cases hmore _ hmem
  cases h with
  | newline => exact .inl rfl
  | doc hline => exact .inr (by simpa using hline)
  | comment h =>
    obtain ⟨more, rfl, hline, -⟩ := h
    exact .inr (by simpa using hline)
  | blank h =>
    refine .inr fun hmem => ?_
    cases h _ hmem
  | fraction hwhole hpart =>
    refine .inr fun hmem => ?_
    obtain hmem | hmem := List.mem_append.1 hmem
    · exact hdigits hwhole hmem
    · exact hdigits hpart ((List.mem_cons.1 hmem).resolve_left (by decide))
  | decimal h => exact .inr (hdigits h)
  | @prefixed base letter cs hbase hne h =>
    refine .inr fun hmem => ?_
    have hletter : letter ≠ '\n' := by
      rintro rfl
      cases hbase
    have hcs := (List.mem_cons.1 hmem).resolve_left (by decide)
    obtain h' | h' := Bool.or_eq_true_iff.1 (h _ ((List.mem_cons.1 hcs).resolve_left hletter.symm))
    · cases h'
    · cases h'
  | name hc hcs =>
    refine .inr fun hmem => ?_
    obtain rfl | hmem := List.mem_cons.1 hmem
    · cases hc
    · cases hcs _ hmem
  | mark m => exact .inr (by cases m <;> decide)

/-- What starts a text is no longer for a line break behind the text. -/
theorem prefix_of_line {other cs tail : List Char} (h : other <+: cs ++ '\n' :: tail)
    (hline : '\n' ∉ other) : other <+: cs := by
  obtain hfront | ⟨more, rfl⟩ :=
    List.prefix_or_prefix_of_prefix h (List.prefix_append cs ('\n' :: tail))
  · exact hfront
  · cases more with
    | nil => exact ⟨[], by simp⟩
    | cons d more =>
      obtain ⟨rfl, -⟩ := List.cons_prefix_cons.1 ((List.prefix_append_right_inj cs).1 h)
      exact absurd (by simp) hline

theorem Longest.append_line (h : Longest p written rest) (tail : List Char) :
    Longest p written (rest ++ '\n' :: tail) := by
  refine ⟨h.spells, h.front.trans (List.prefix_append _ _), fun q other hother hfront => ?_⟩
  obtain rfl | hline := hother.newline_not_mem
  · exact List.length_pos_iff.2 h.spells.ne_nil
  · exact h.longest q other hother (prefix_of_line hfront hline)

theorem front?_append_line (h : front? c rest = some (p, more)) (tail : List Char) :
    front? c (rest ++ '\n' :: tail) = some (p, more) := by
  obtain ⟨hmore, hlongest⟩ := front?_eq_some_iff.1 h
  refine front?_eq_some_iff.2 ⟨?_, ?_⟩
  · rw [List.length_append]
    exact Nat.le_add_right_of_le hmore
  · rw [List.take_append_of_le_length hmore]
    exact hlongest.append_line tail

end Breaks

section Lines

variable {line column : Nat} {cs behind : List Char} {c : Char} {rest : List Char} {more : Nat}
  {p : Piece} {ts : List Token}

/-- The line breaks of a text, counted behind its first piece. -/
theorem line_add_count (h : front? c rest = some (p, more)) (line : Nat) :
    line + (c :: rest).count '\n' =
      (if p = .newline then line + 1 else line) + (rest.drop more).count '\n' := by
  obtain ⟨rfl, rfl, rfl⟩ | ⟨hp, hline, -⟩ := front?_takes h
  · rw [if_pos rfl, List.count_cons_self, List.drop_zero]
    omega
  · have hsplit : c :: rest = c :: rest.take more ++ rest.drop more := by simp
    rw [if_neg hp, hsplit, List.count_append, List.count_eq_zero_of_not_mem hline, Nat.zero_add]

theorem map_append_cons (x : Except Fault (List Token)) (inner : List Token) (t : Token) :
    (x.map (inner ++ ·)).map (t :: ·) = x.map (t :: inner ++ ·) := by
  cases x <;> rfl

/-- What is behind a line break is read from the start of its line, whatever is in front. -/
theorem tokensFrom_append_line (h : tokensFrom line column cs = .ok ts) (behind : List Char) :
    ∃ inner last, ts = inner ++ [last] ∧ last.lexeme = .endOfInput ∧
      tokensFrom line column (cs ++ '\n' :: behind) =
        (tokensFrom (line + cs.count '\n' + 1) 1 behind).map (inner ++ ·) := by
  fun_induction tokensFrom line column cs generalizing ts with
  | case1 line column =>
    cases h
    refine ⟨[], _, rfl, rfl, ?_⟩
    rw [List.nil_append, tokensFrom_newline, List.count_nil, Nat.add_zero]
    cases tokensFrom (line + 1) 1 behind <;> rfl
  | case4 line column c rest piece more hfront following =>
    rename_i hl ihLine ihColumn
    have hmore := (front?_eq_some_iff.1 hfront).1
    have hcount := line_add_count hfront line
    rw [List.cons_append, tokensFrom]
    simp only [front?_append_line hfront, List.take_append_of_le_length hmore,
      List.drop_append_of_le_length hmore, hl, hcount]
    dsimp only [following] at h
    split_ifs at h ⊢
    · exact ihLine h
    · exact ihColumn h
  | case5 line column c rest piece more hfront following =>
    rename_i l hl ihLine ihColumn
    have hmore := (front?_eq_some_iff.1 hfront).1
    have hcount := line_add_count hfront line
    obtain ⟨us, hus, rfl⟩ := map_eq_ok.1 h
    rw [List.cons_append, tokensFrom]
    simp only [front?_append_line hfront, List.take_append_of_le_length hmore,
      List.drop_append_of_le_length hmore, hl, hcount]
    dsimp only [following] at hus
    split_ifs at hus ⊢
    · obtain ⟨inner, last, rfl, hlast, heq⟩ := ihLine hus
      exact ⟨⟨l, line, column⟩ :: inner, last, rfl, hlast, by
        rw [heq, map_append_cons]⟩
    · obtain ⟨inner, last, rfl, hlast, heq⟩ := ihColumn hus
      exact ⟨⟨l, line, column⟩ :: inner, last, rfl, hlast, by
        rw [heq, map_append_cons]⟩
  | _ => cases h

/-- A text is read alike on whichever line it starts. -/
theorem tokensFrom_below (line column lines : Nat) (cs : List Char) :
    tokensFrom (line + lines) column cs =
      ((tokensFrom line column cs).map (·.map (·.below lines))).mapError (·.below lines) := by
  fun_induction tokensFrom line column cs with
  | case1 line column => rw [tokensFrom]; rfl
  | case2 line column c rest hfront =>
    rw [tokensFrom]
    simp only [hfront]
    rfl
  | case3 line column c rest piece more hfront cause hl =>
    rw [tokensFrom]
    simp only [hfront, hl]
    rfl
  | case4 line column c rest piece more hfront following =>
    rename_i hl ihLine ihColumn
    rw [tokensFrom]
    simp only [hfront, hl]
    dsimp only [following]
    split_ifs
    · rw [Nat.add_right_comm]
      exact ihLine
    · exact ihColumn
  | case5 line column c rest piece more hfront following =>
    rename_i l hl ihLine ihColumn
    rw [tokensFrom]
    simp only [hfront, hl]
    dsimp only [following]
    split_ifs
    · rw [Nat.add_right_comm, ihLine]
      cases tokensFrom (line + 1) 1 (rest.drop more) <;> rfl
    · rw [ihColumn]
      cases tokensFrom line (column + size (c :: rest.take more)) (rest.drop more) <;> rfl

end Lines

/-- The tokens of a text, a line break and another text are those of the one without its end of
input, and behind them those of the other, further down by the lines of the one. A fault of the
other shows at the same column. -/
theorem tokens_append_line {a : String} {ts : List Token} (h : tokens a = .ok ts) (b : String) :
    ∃ inner last, ts = inner ++ [last] ∧ last.lexeme = .endOfInput ∧
      tokens (a ++ "\n" ++ b) =
        match tokens b with
        | .ok us => .ok (inner ++ us.map (·.below (a.toList.count '\n' + 1)))
        | .error fault => .error (fault.below (a.toList.count '\n' + 1)) := by
  obtain ⟨inner, last, hts, hlast, heq⟩ := tokensFrom_append_line h b.toList
  refine ⟨inner, last, hts, hlast, ?_⟩
  have htext : (a ++ "\n" ++ b).toList = a.toList ++ '\n' :: b.toList := by simp
  rw [tokens, htext, heq, Nat.add_assoc, tokensFrom_below, tokens]
  cases tokensFrom 1 1 b.toList <;> rfl

/-- A comment in front of a line break leaves the text behind it as it is. -/
theorem tokens_append_line_comment :
    tokens "x // 1" = .ok [⟨.name "x", 1, 1⟩, ⟨.endOfInput, 1, 7⟩] ∧
      ∃ inner last, [⟨.name "x", 1, 1⟩, ⟨.endOfInput, 1, 7⟩] = inner ++ [last] ∧
        last.lexeme = .endOfInput ∧
        tokens ("x // 1" ++ "\n" ++ "y") =
          match tokens "y" with
          | .ok us => .ok (inner ++ us.map (·.below ("x // 1".toList.count '\n' + 1)))
          | .error fault => .error (fault.below ("x // 1".toList.count '\n' + 1)) := by
  have h : tokens "x // 1" = .ok [⟨.name "x", 1, 1⟩, ⟨.endOfInput, 1, 7⟩] := by decide +kernel
  exact ⟨h, tokens_append_line h "y"⟩

end Lexer

end RegisterMap
