import RegisterMap.Proofs.Description.Reading
import RegisterMap.Proofs.Text.Strip

/-!
# The tokens of a text

The names among the tokens of a text are words of plain letters, digits and underscores, its numbers
are not negative, its documentation has no blanks at the ends, and the tokens end in their only end
of input. What a description says is made of such names, numbers and lines.
-/

namespace RegisterMap

open Text

namespace Lexer

/-- A word as the lexer cuts it. -/
def IsWord (s : String) : Prop :=
  ∃ c cs, s.toList = c :: cs ∧ isWordStart c = true ∧ ∀ d ∈ cs, isWordPart d = true

theorem isWord_iff {s : String} :
    IsWord s ↔ (s.toList.head?.any isWordStart && s.toList.tail.all isWordPart) = true := by
  unfold IsWord
  cases s.toList with
  | nil => exact ⟨fun ⟨_, _, h, _⟩ => (nomatch h), nofun⟩
  | cons c cs => simp

instance : DecidablePred IsWord :=
  fun _ => decidable_of_iff _ isWord_iff.symm

/-- What is known of a token of a text. -/
def Lexed : Lexeme → Prop
  | .name s => IsWord s
  | .number n => 0 ≤ n
  | .doc line => strip line = line
  | _ => True

section Numbers

open Number

theorem decimalValue?_lt {c : Char} {v : Nat} (h : decimalValue? c = some v)
    (hc : ¬c.val < 0x80) : v < 10 := by
  rw [decimalValue?, if_neg hc] at h
  obtain ⟨first, hfirst, rfl⟩ := Option.map_eq_some_iff.1 h
  have hrange := List.find?_some hfirst
  simp only [Bool.and_eq_true, decide_eq_true_eq] at hrange
  omega

theorem eq_minus_of_plainChar {c : Char} (h : plainChar c = '-') : c = '-' := by
  have hdigits : ∀ v < 10, Char.ofNat (48 + v) ≠ '-' := by decide
  rw [plainChar] at h
  split at h
  · exact h
  · next hc =>
    split at h
    · cases h
    · split at h
      · next v hv => exact absurd h (hdigits v (decimalValue?_lt hv hc))
      · cases h

theorem splitSign_of_not_mem {cs : List Char} (h : '-' ∉ cs) : (splitSign cs).1 = false := by
  rw [splitSign.eq_def]
  split
  · exact absurd List.mem_cons_self h
  · rfl
  · rfl

/-- A literal without a minus is not negative. -/
theorem nonneg_of_readLoose {s : String} {n : Int} (h : readLoose s = .ok n)
    (hminus : '-' ∉ s.toList) : 0 ≤ n := by
  rw [readLoose, Number.read, String.toList_ofList, readChars] at h
  have hplain : '-' ∉ ((s.toList.filter (· != '_')).map plainChar).dropWhile isSpace := by
    intro hmem
    obtain ⟨c, hc, heq⟩ := List.mem_map.1 ((List.dropWhile_sublist _).subset hmem)
    rw [eq_minus_of_plainChar heq] at hc
    exact hminus (List.mem_filter.1 hc).1
  have hsign := splitSign_of_not_mem hplain
  dsimp only at h
  split at h
  · cases h
  · split at h
    · cases h
    · split at h
      · rw [hsign] at h
        cases h
        exact Int.natCast_nonneg _
      · cases h

end Numbers

section Pieces

variable {c : Char} {rest : List Char} {more : Nat}

theorem take_runLength (p : Char → Bool) (cs : List Char) :
    cs.take (runLength p cs) = cs.takeWhile p :=
  (List.prefix_iff_eq_take.1 (List.takeWhile_prefix p)).symm

theorem mem_take_runLength {p : Char → Bool} {cs : List Char} {d : Char}
    (h : d ∈ cs.take (runLength p cs)) : p d = true := by
  rw [take_runLength] at h
  exact List.all_eq_true.1 List.all_takeWhile d h

theorem slashFront?_eq {piece : Piece} (h : slashFront? rest = some (piece, more)) :
    piece = .doc ∨ piece = .comment := by
  rw [slashFront?.eq_def] at h
  dsimp only at h
  split at h <;> simp_all

theorem minus_not_mem_of_prefixed {k : Nat} (h : prefixedLength rest = some k) :
    '-' ∉ rest.take k := by
  rw [prefixedLength.eq_def] at h
  split at h
  · cases h
  · next d cs =>
    split at h
    · cases h
    · next base hbase =>
      dsimp only at h
      split at h
      · cases h
      · cases h
        rw [List.take_succ_cons]
        intro hmem
        obtain rfl | hmem := List.mem_cons.1 hmem
        · cases hbase
        · cases mem_take_runLength hmem

/-- No minus is a part of an integer. -/
theorem numberFront_eq (c : Char) (rest : List Char) :
    (numberFront c rest).1 = .fraction ∨ (numberFront c rest).1 = .integer ∧
      '-' ∉ rest.take (numberFront c rest).2 := by
  have hinteger : '-' ∉ rest.take
      ((if c = '0' then prefixedLength rest else none).getD (runLength isDigitPart rest)) := by
    cases hk : if c = '0' then prefixedLength rest else none with
    | none =>
      intro hmem
      cases mem_take_runLength hmem
    | some k =>
      split at hk
      · exact minus_not_mem_of_prefixed hk
      · cases hk
  rw [numberFront]
  split
  · split
    · exact .inl rfl
    · exact .inr ⟨rfl, hinteger⟩
  · exact .inr ⟨rfl, hinteger⟩

/-- A name starts with a letter or an underscore and goes on as far as it can. -/
theorem front?_eq_name (h : front? c rest = some (.name, more)) :
    isWordStart c = true ∧ more = runLength isWordPart rest := by
  rw [front?] at h
  split at h
  · obtain h | h := slashFront?_eq h <;> cases h
  split at h
  · cases h
  split at h
  · cases h
  split at h
  · have h' := congrArg Prod.fst (Option.some.inj h)
    obtain hn | ⟨hn, -⟩ := numberFront_eq c rest <;> cases hn.symm.trans h'
  split at h
  · next hc =>
    cases h
    exact ⟨hc, rfl⟩
  · obtain ⟨m, -, hm⟩ := Option.map_eq_some_iff.1 h
    cases hm

theorem front?_eq_integer (h : front? c rest = some (.integer, more)) :
    '-' ∉ c :: rest.take more := by
  rw [front?] at h
  split at h
  · obtain h | h := slashFront?_eq h <;> cases h
  split at h
  · cases h
  split at h
  · cases h
  split at h
  · next hc =>
    have h' := Option.some.inj h
    obtain hn | ⟨-, hn⟩ := numberFront_eq c rest
    · rw [h'] at hn
      cases hn
    · rw [h'] at hn
      refine fun hmem => (List.mem_cons.1 hmem).elim ?_ hn
      rintro rfl
      cases hc
  split at h
  · cases h
  · obtain ⟨m, -, hm⟩ := Option.map_eq_some_iff.1 h
    cases hm

theorem lexed_of_front? {piece : Piece} {l : Lexeme} (hfront : front? c rest = some (piece, more))
    (hl : lexeme? piece (c :: rest.take more) = .ok (some l)) : Lexed l ∧ l ≠ .endOfInput := by
  cases piece with
  | doc =>
    cases hl
    exact ⟨strip_stripped _, nofun⟩
  | integer =>
    rw [lexeme?] at hl
    split at hl
    · next value hvalue =>
      cases hl
      refine ⟨nonneg_of_readLoose hvalue ?_, nofun⟩
      rw [String.toList_ofList]
      exact front?_eq_integer hfront
    · cases hl
  | name =>
    cases hl
    obtain ⟨hc, rfl⟩ := front?_eq_name hfront
    exact ⟨⟨c, _, String.toList_ofList, hc, fun d => mem_take_runLength⟩, nofun⟩
  | fraction =>
    cases hl
    exact ⟨trivial, nofun⟩
  | mark m =>
    cases hl
    exact ⟨trivial, nofun⟩
  | _ => cases hl

end Pieces

/-- The tokens of a text end in their only end of input. -/
theorem lexed_of_tokensFrom {line column : Nat} {cs : List Char} {ts : List Token}
    (h : tokensFrom line column cs = .ok ts) :
    Grammar.Ended ts ∧ ∀ t ∈ ts, Lexed t.lexeme := by
  fun_induction tokensFrom line column cs generalizing ts with
  | case1 line column =>
    cases h
    exact ⟨⟨[], _, rfl, nofun, rfl⟩, by simp [Lexed]⟩
  | case4 line column c rest piece more hfront following =>
    rename_i hl ihLine ihColumn
    dsimp only [following] at h
    split at h
    · exact ihLine h
    · exact ihColumn h
  | case5 line column c rest piece more hfront following l =>
    rename_i hl ihLine ihColumn
    obtain ⟨us, hus, rfl⟩ := map_eq_ok.1 h
    have hrest : Grammar.Ended us ∧ ∀ t ∈ us, Lexed t.lexeme := by
      dsimp only [following] at hus
      split at hus
      · exact ihLine hus
      · exact ihColumn hus
    obtain ⟨⟨inner, last, rfl, hinner, hlast⟩, hus⟩ := hrest
    obtain ⟨hlexed, hne⟩ := lexed_of_front? hfront hl
    refine ⟨⟨⟨l, line, column⟩ :: inner, last, rfl, ?_, hlast⟩, ?_⟩
    · exact List.forall_mem_cons.2 ⟨hne, hinner⟩
    · exact List.forall_mem_cons.2 ⟨hlexed, hus⟩
  | _ => cases h

theorem lexed_of_tokens {s : String} {ts : List Token} (h : tokens s = .ok ts) :
    Grammar.Ended ts ∧ ∀ t ∈ ts, Lexed t.lexeme :=
  lexed_of_tokensFrom h

end Lexer

theorem Parser.tokens_eq_ok {s : String} {ts : List Token} :
    Parser.tokens s = .ok ts ↔ Lexer.tokens s = .ok ts := by
  rw [Parser.tokens]
  cases Lexer.tokens s with
  | error fault => exact ⟨nofun, nofun⟩
  | ok us => simp only [Except.ok.injEq]

end RegisterMap
