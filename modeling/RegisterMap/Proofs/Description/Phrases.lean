import RegisterMap.Description.Parser
import RegisterMap.Proofs.Description.Grammar

/-!
# Reading phrases

What the functions that read tokens, documentation, paths and lists make of the phrases of the
grammar. The grammar leaves open how far documentation and paths go; they are read as far as they
can.
-/

namespace RegisterMap.Parser

open Grammar Grammar.Phrase

/-! ## Tokens -/

section Tokens

variable {ts rest : List Token} {line : Nat} {what s : String}

theorem reads_one {α : Type} {stands : Token → α → Prop} {a : α} :
    (one stands).Reads ts a rest ↔
      peek ts ≠ .endOfInput ∧ stands (current ts) a ∧ ts.tail = rest := by
  constructor
  · rintro ⟨t, rfl, ht, ha⟩
    exact ⟨ht, ha, rfl⟩
  · rintro ⟨ht, ha, rfl⟩
    cases ts with
    | nil => exact absurd rfl ht
    | cons t ts => exact ⟨t, rfl, ht, ha⟩

theorem reads_token {l : Lexeme} (hl : l ≠ .endOfInput) :
    (one fun t line => t.lexeme = l ∧ t.line = line).Reads ts line rest ↔
      peek ts = l ∧ (current ts).line = line ∧ ts.tail = rest := by
  rw [reads_one, and_assoc]
  refine ⟨fun h => h.2, fun h => ⟨?_, h⟩⟩
  rw [h.1]
  exact hl

theorem reads_word : (word s).Reads ts line rest ↔
    peek ts = .name s ∧ (current ts).line = line ∧ ts.tail = rest :=
  reads_token (by simp)

theorem reads_mark {m : Mark} : (mark m).Reads ts line rest ↔
    peek ts = .mark m ∧ (current ts).line = line ∧ ts.tail = rest :=
  reads_token (by simp)

theorem reads_value {α : Type} {shape : α → Lexeme} (hshape : ∀ a, shape a ≠ .endOfInput) {a : α} :
    (one fun t a => t.lexeme = shape a).Reads ts a rest ↔ peek ts = shape a ∧ ts.tail = rest := by
  rw [reads_one]
  refine ⟨fun h => h.2, fun h => ⟨?_, h⟩⟩
  rw [h.1]
  exact hshape a

theorem reads_name : name.Reads ts s rest ↔ peek ts = .name s ∧ ts.tail = rest :=
  reads_value (by simp)

theorem reads_number {n : Int} : number.Reads ts n rest ↔ peek ts = .number n ∧ ts.tail = rest :=
  reads_value (by simp)

theorem reads_doc : doc.Reads ts s rest ↔ peek ts = .doc s ∧ ts.tail = rest :=
  reads_value (by simp)

theorem reads_policy {p : Policy} :
    Grammar.policy.Reads ts p rest ↔ peek ts = .name p.keyword ∧ ts.tail = rest :=
  reads_value (by simp)

theorem expect_eq_ok {l : Lexeme} : expect l what ts = .ok rest ↔ peek ts = l ∧ ts.tail = rest := by
  rw [expect]
  by_cases h : peek ts = l
  · rw [if_pos h, Except.ok.injEq]
    exact (and_iff_right h).symm
  · rw [if_neg h]
    exact ⟨nofun, fun h' => absurd h'.1 h⟩

theorem expectName_eq_ok :
    expectName what ts = .ok (s, rest) ↔ peek ts = .name s ∧ ts.tail = rest := by
  rw [expectName]
  cases hp : peek ts with
  | name word => simp
  | _ => exact ⟨nofun, fun h => nomatch h.1⟩

theorem ofKeyword?_eq_some {p : Policy} : Policy.ofKeyword? s = some p ↔ p.keyword = s := by
  refine ⟨fun h => ?_, fun h => h ▸ Policy.ofKeyword?_keyword p⟩
  simpa using List.find?_some h

theorem policy_eq_ok {p : Policy} :
    policy ts = .ok (p, rest) ↔ Grammar.policy.Reads ts p rest := by
  rw [reads_policy, policy]
  cases hp : peek ts with
  | name word =>
    rw [Lexeme.name.injEq, @eq_comm _ word, ← ofKeyword?_eq_some]
    cases hk : Policy.ofKeyword? word <;> simp [hk]
  | _ => exact ⟨nofun, fun h => nomatch h.1⟩

end Tokens

/-! ## Documentation and paths -/

section Runs

variable {ts rest : List Token} {what : String}

theorem reads_docs (ts : List Token) : Grammar.docs.Reads ts (docs ts).1 (docs ts).2 := by
  induction ts with
  | nil => exact .done []
  | cons t ts ih =>
    rw [docs]
    split
    · next line ht => exact .more (reads_doc.2 ⟨ht, rfl⟩) ih
    · exact .done (t :: ts)

/-- Documentation is read as far as it goes. -/
theorem docs_of_reads {lines : List String} (h : Grammar.docs.Reads ts lines rest)
    (hrest : ∀ line, peek rest ≠ .doc line) : docs ts = (lines, rest) := by
  induction h with
  | done ts =>
    cases ts with
    | nil => rfl
    | cons t ts =>
      rw [docs]
      split
      · next line ht => exact absurd ht (hrest line)
      · rfl
  | more first _ ih =>
    obtain ⟨t, rfl, -, ht⟩ := first
    rw [docs]
    simp only [ht, ih hrest]

/-- The segments of a path behind the first. -/
def segments : Phrase (List String) :=
  many (do let _ ← either (mark .pathSeparator) (mark .dot); name)

theorem isSeparator_iff {l : Lexeme} :
    isSeparator l = true ↔ l = .mark .pathSeparator ∨ l = .mark .dot := by
  simp [isSeparator]

theorem reads_segment {word : String} :
    (do let _ ← either (mark .pathSeparator) (mark .dot); name).Reads ts word rest ↔
      isSeparator (peek ts) = true ∧ peek ts.tail = .name word ∧ ts.tail.tail = rest := by
  simp only [reads_bind, reads_either, reads_mark, reads_name, isSeparator_iff]
  constructor
  · rintro ⟨line, between, ⟨hm, -, rfl⟩ | ⟨hm, -, rfl⟩, hn⟩
    · exact ⟨.inl hm, hn⟩
    · exact ⟨.inr hm, hn⟩
  · rintro ⟨hm | hm, hn⟩
    · exact ⟨_, ts.tail, .inl ⟨hm, rfl, rfl⟩, hn⟩
    · exact ⟨_, ts.tail, .inr ⟨hm, rfl, rfl⟩, hn⟩

theorem reads_of_pathTail {words : List String} (h : pathTail what ts = .ok (words, rest)) :
    segments.Reads ts words rest := by
  fun_induction pathTail what ts generalizing words rest with
  | case1 =>
    cases h
    exact .done []
  | case3 t hs n ts word hw ih =>
    obtain ⟨⟨words, rest⟩, hr, he⟩ := map_eq_ok.1 h
    cases he
    exact .more (reads_segment.2 ⟨hs, hw, rfl⟩) (ih hr)
  | case5 t ts hs =>
    cases h
    exact .done (t :: ts)
  | _ => cases h

/-- A path is read as far as it goes. -/
theorem pathTail_of_reads {words : List String} (h : segments.Reads ts words rest)
    (hrest : isSeparator (peek rest) = false) : pathTail what ts = .ok (words, rest) := by
  induction h with
  | done ts =>
    cases ts with
    | nil => rfl
    | cons t ts =>
      rw [pathTail.eq_def]
      exact if_neg (ne_true_of_eq_false hrest)
  | @more ts between rest word words first _ ih =>
    obtain ⟨hs, hw, rfl⟩ := reads_segment.1 first
    obtain _ | ⟨t, _ | ⟨n, ts⟩⟩ := ts
    · cases hs
    · cases hw
    · have hsep : isSeparator t.lexeme = true := hs
      have hname : n.lexeme = .name word := hw
      have htail : pathTail what ts = .ok (words, rest) := ih hrest
      rw [pathTail, if_pos hsep]
      simp only [hname, htail]
      rfl

theorem reads_of_path {p : Path} (h : path what ts = .ok (p, rest)) :
    Grammar.path.Reads ts p rest := by
  rw [path] at h
  split at h
  · next word hp =>
    obtain ⟨⟨words, rest⟩, hr, he⟩ := map_eq_ok.1 h
    cases he
    exact ⟨word, ts.tail, reads_name.2 ⟨hp, rfl⟩, words, rest, reads_of_pathTail hr, rfl, rfl⟩
  · cases h

theorem path_of_reads {p : Path} (h : Grammar.path.Reads ts p rest)
    (hrest : isSeparator (peek rest) = false) : path what ts = .ok (p, rest) := by
  obtain ⟨word, between, hw, words, _, hs, rfl, rfl⟩ := h
  obtain ⟨hp, rfl⟩ := reads_name.1 hw
  rw [path, hp]
  simp only [pathTail_of_reads hs hrest]
  rfl

end Runs

/-! ## Lists -/

/-- `readList` reads what `item` reads with commas between them, up to the lexeme `stop`. -/
def ReadsList {α : Type} (stop : Lexeme) (item : List Token → Except SourceFault (α × List Token))
    (readList : List Token → Except SourceFault (List α × List Token)) : Prop :=
  ∀ ts, readList ts =
    if peek ts = stop then .ok ([], ts)
    else do
      let (a, rest) ← item ts
      if peek rest = .mark .comma then
        (readList rest.tail).map fun (as, rest) => (a :: as, rest)
      else .ok ([a], rest)

namespace ReadsList

variable {α : Type} {stop : Lexeme} {item : List Token → Except SourceFault (α × List Token)}
  {readList : List Token → Except SourceFault (List α × List Token)} {p : Phrase α}
  {as : List α} {ts rest : List Token}

theorem reads (h : ReadsList stop item readList)
    (hitem : ∀ {ts a rest}, item ts = .ok (a, rest) → p.Reads ts a rest)
    (hread : readList ts = .ok (as, rest)) : (Grammar.list p).Reads ts as rest := by
  induction as generalizing ts with
  | nil =>
    rw [h ts] at hread
    split at hread
    · cases hread
      exact reads_list_nil.2 rfl
    · obtain ⟨⟨a, between⟩, -, hread⟩ := bind_eq_ok.1 hread
      dsimp only at hread
      split at hread
      · obtain ⟨_, -, he⟩ := map_eq_ok.1 hread
        cases he
      · cases hread
  | cons a as ih =>
    rw [h ts] at hread
    split at hread
    · cases hread
    · obtain ⟨⟨b, between⟩, hb, hread⟩ := bind_eq_ok.1 hread
      dsimp only at hread
      split at hread
      · next hcomma =>
        obtain ⟨⟨more, last⟩, hmore, he⟩ := map_eq_ok.1 hread
        cases he
        exact reads_list_cons.2
          ⟨between, hitem hb, .inr ⟨_, _, reads_mark.2 ⟨hcomma, rfl, rfl⟩, ih hmore⟩⟩
      · cases hread
        exact reads_list_cons.2 ⟨_, hitem hb, .inl ⟨rfl, rfl⟩⟩

theorem of_reads (h : ReadsList stop item readList) (hcomma : stop ≠ .mark .comma)
    (hitem : ∀ {ts a rest}, p.Reads ts a rest → peek rest = .mark .comma ∨ peek rest = stop →
      item ts = .ok (a, rest))
    (hstop : ∀ {ts a rest}, p.Reads ts a rest → peek ts ≠ stop)
    (hreads : (Grammar.list p).Reads ts as rest) (hrest : peek rest = stop) :
    readList ts = .ok (as, rest) := by
  induction as generalizing ts with
  | nil =>
    obtain rfl := reads_list_nil.1 hreads
    rw [h ts, if_pos hrest]
  | cons a as ih =>
    obtain ⟨between, ha, ⟨rfl, rfl⟩ | ⟨line, next, hnext, hmore⟩⟩ := reads_list_cons.1 hreads
    · rw [h ts, if_neg (hstop ha), hitem ha (.inr hrest)]
      exact if_neg fun hmark => hcomma (hrest.symm.trans hmark)
    · obtain ⟨hmark, -, rfl⟩ := reads_mark.1 hnext
      rw [h ts, if_neg (hstop ha), hitem ha (.inl hmark), ok_bind]
      dsimp only
      rw [if_pos hmark, ih hmore]
      rfl

end ReadsList

end RegisterMap.Parser
