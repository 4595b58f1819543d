import RegisterMap.Proofs.Description.Layout
import RegisterMap.Proofs.Description.Positions

/-!
# The pieces of a text

What each piece looks like, without a word on how it is found. Main statement: the lexer takes the
longest piece that starts at the front, and finds nothing only where none starts.
-/

namespace RegisterMap.Lexer

open Text

/-- A decimal digit of any script, and digits and underscores behind it. -/
def IsDigits (cs : List Char) : Prop :=
  ∃ c more, cs = c :: more ∧ isDecimal c = true ∧ ∀ d ∈ more, isDigitPart d = true

/-- What the pieces look like. -/
inductive Spells : Piece → List Char → Prop where
  | doc {cs : List Char} (hline : '\n' ∉ cs) (hslash : cs.head? ≠ some '/') :
      Spells .doc ('/' :: '/' :: '/' :: cs)
  | comment {cs : List Char} (h : IsComment cs) : Spells .comment cs
  | blank {c : Char} {cs : List Char} (h : ∀ d ∈ c :: cs, isLineBlank d = true) :
      Spells .blank (c :: cs)
  | newline : Spells .newline ['\n']
  | fraction {whole part : List Char} (hwhole : IsDigits whole) (hpart : IsDigits part) :
      Spells .fraction (whole ++ '.' :: part)
  | decimal {cs : List Char} (h : IsDigits cs) : Spells .integer cs
  | prefixed {base : Nat} {letter : Char} {cs : List Char} (hbase : baseOf? letter = some base)
      (hne : cs ≠ []) (h : ∀ d ∈ cs, isBasePart base d = true) :
      Spells .integer ('0' :: letter :: cs)
  | name {c : Char} {cs : List Char} (hc : isWordStart c = true)
      (hcs : ∀ d ∈ cs, isWordPart d = true) : Spells .name (c :: cs)
  | mark (m : Mark) : Spells (.mark m) m.text.toList

/-- `written` is the longest piece at the front of `text`, and it is the piece `p`. -/
structure Longest (p : Piece) (written text : List Char) : Prop where
  spells : Spells p written
  front : written <+: text
  longest : ∀ q other, Spells q other → other <+: text → other.length ≤ written.length

section Runs

variable {p : Char → Bool} {cs rest : List Char}

theorem runLength_le (p : Char → Bool) (cs : List Char) : runLength p cs ≤ cs.length :=
  (List.takeWhile_prefix p).length_le

theorem length_le_runLength (hcs : ∀ d ∈ cs, p d = true) (hfront : cs <+: rest) :
    cs.length ≤ runLength p rest := by
  obtain ⟨behind, rfl⟩ := hfront
  rw [runLength, List.takeWhile_append_of_pos hcs, List.length_append]
  omega

/-- A run ends at the first character that fails the test. -/
theorem runLength_eq {d : Char} (hcs : ∀ d ∈ cs, p d = true) (hd : p d = false) :
    runLength p (cs ++ d :: rest) = cs.length :=
  runLength_append hcs (by rintro _ ⟨⟩; exact hd)

end Runs

section Found

variable {c : Char} {rest : List Char} {more : Nat}

theorem isDigits_run (hc : isDecimal c = true) (rest : List Char) :
    IsDigits (c :: rest.take (runLength isDigitPart rest)) :=
  ⟨c, _, rfl, hc, fun _ => mem_take_runLength⟩

/-- What two slashes open: documentation when exactly one more follows, and a comment otherwise. -/
def behindSlashes (cs : List Char) : Piece :=
  if cs.head? = some '/' ∧ cs.tail.head? ≠ some '/' then .doc else .comment

theorem slashFront?_slash (cs : List Char) :
    slashFront? ('/' :: cs) = some (behindSlashes cs, runLength (· != '\n') cs + 1) := by
  have hrun : runLength (· != '\n') ('/' :: cs) = runLength (· != '\n') cs + 1 := by
    rw [runLength, List.takeWhile_cons_of_pos rfl, List.length_cons, runLength]
  obtain _ | ⟨d, _ | ⟨e, ds⟩⟩ := cs
  · rfl
  · by_cases hd : d = '/'
    · subst hd
      rfl
    · rw [slashFront?.eq_def, hrun]
      simp [behindSlashes, hd]
  · by_cases hd : d = '/' <;> by_cases he : e = '/' <;> rw [slashFront?.eq_def, hrun] <;>
      simp [behindSlashes, hd, he]

theorem slashFront?_eq_none {cs : List Char} (h : cs.head? ≠ some '/') : slashFront? cs = none := by
  rw [slashFront?.eq_def]
  split <;> simp_all

theorem head?_line (cs : List Char) :
    (cs.takeWhile (· != '\n')).head? = some '/' ↔ cs.head? = some '/' := by
  cases cs with
  | nil => rfl
  | cons d ds =>
    by_cases hd : d = '\n'
    · subst hd
      simp
    · simp [hd]

/-- A line shows what its slashes open. -/
theorem behindSlashes_line (cs : List Char) :
    behindSlashes (cs.takeWhile (· != '\n')) = behindSlashes cs := by
  cases cs with
  | nil => rfl
  | cons d ds =>
    by_cases hd : d = '/'
    · subst hd
      simp [behindSlashes, head?_line]
    · have hline := head?_line (d :: ds)
      simp only [behindSlashes, hline, List.head?_cons, Option.some.injEq, hd, false_and]

theorem spells_behindSlashes {cs : List Char} (hline : '\n' ∉ cs) :
    Spells (behindSlashes cs) ('/' :: '/' :: cs) := by
  rw [behindSlashes]
  split
  · next h =>
    obtain ⟨ds, rfl⟩ := List.head?_eq_some_iff.1 h.1
    exact .doc (fun hmem => hline (List.mem_cons_of_mem _ hmem)) h.2
  · next h => exact .comment ⟨cs, rfl, hline, fun hhead => by_contra fun htail => h ⟨hhead, htail⟩⟩

theorem spells_slashFront? {piece : Piece} (h : slashFront? rest = some (piece, more)) :
    more ≤ rest.length ∧ Spells piece ('/' :: rest.take more) := by
  by_cases hslash : rest.head? = some '/'
  · obtain ⟨cs, rfl⟩ := List.head?_eq_some_iff.1 hslash
    rw [slashFront?_slash] at h
    cases h
    refine ⟨Nat.succ_le_succ (runLength_le _ cs), ?_⟩
    rw [List.take_succ_cons, take_runLength, ← behindSlashes_line]
    refine spells_behindSlashes fun hmem => ?_
    cases List.mem_takeWhile_imp hmem
  · rw [slashFront?_eq_none hslash] at h
    cases h

theorem spells_prefixedLength {k : Nat} (h : prefixedLength rest = some k) :
    k ≤ rest.length ∧ Spells .integer ('0' :: rest.take k) := by
  rw [prefixedLength.eq_def] at h
  split at h
  · cases h
  · next letter cs =>
    split at h
    · cases h
    · next base hbase =>
      dsimp only at h
      split at h
      · cases h
      · next hdigits =>
        cases h
        refine ⟨Nat.succ_le_succ (runLength_le _ cs), ?_⟩
        rw [List.take_succ_cons]
        refine .prefixed hbase (fun hnil => hdigits ?_) fun _ => mem_take_runLength
        rw [take_runLength] at hnil
        rw [runLength, hnil, List.length_nil]

theorem spells_numberFront (hc : isDecimal c = true) (rest : List Char) :
    (numberFront c rest).2 ≤ rest.length ∧
      Spells (numberFront c rest).1 (c :: rest.take (numberFront c rest).2) := by
  have hinteger : ∀ k, (if c = '0' then prefixedLength rest else none).getD
      (runLength isDigitPart rest) = k → k ≤ rest.length ∧ Spells .integer (c :: rest.take k) := by
    rintro _ rfl
    cases hk : if c = '0' then prefixedLength rest else none with
    | none => exact ⟨runLength_le _ _, .decimal (isDigits_run hc rest)⟩
    | some k =>
      split at hk
      · next hzero => exact hzero ▸ spells_prefixedLength hk
      · cases hk
  rw [numberFront]
  split
  · next d cs hdrop =>
    split
    · next hd =>
      dsimp only
      have hlength := congrArg List.length hdrop
      rw [List.length_drop, List.length_cons, List.length_cons] at hlength
      have hpart := runLength_le isDigitPart cs
      refine ⟨by omega, ?_⟩
      rw [Nat.add_assoc, List.take_add, hdrop, Nat.add_comm 2, List.take_succ_cons,
        List.take_succ_cons]
      exact .fraction (isDigits_run hc rest) (isDigits_run hd cs)
    · exact hinteger _ rfl
  · exact hinteger _ rfl

/-- What the lexer finds at the front is a piece. -/
theorem spells_of_front? {piece : Piece} (h : front? c rest = some (piece, more)) :
    more ≤ rest.length ∧ Spells piece (c :: rest.take more) := by
  rw [front?] at h
  split at h
  · next hc => exact hc ▸ spells_slashFront? h
  split at h
  · next hc =>
    cases h
    exact ⟨runLength_le _ _, .blank (List.forall_mem_cons.2 ⟨hc, fun _ => mem_take_runLength⟩)⟩
  split at h
  · next hc =>
    cases h
    exact ⟨Nat.zero_le _, hc ▸ .newline⟩
  split at h
  · next hc =>
    have hnumber := spells_numberFront hc rest
    rw [Option.some.inj h] at hnumber
    exact hnumber
  split at h
  · next hc =>
    cases h
    exact ⟨runLength_le _ _, .name hc fun _ => mem_take_runLength⟩
  · obtain ⟨⟨m, k⟩, hm, heq⟩ := Option.map_eq_some_iff.1 h
    cases heq
    obtain ⟨hle, htext⟩ := markFront?_takes hm
    exact ⟨hle, htext ▸ .mark m⟩

end Found

section Spelled

variable {c : Char} {rest written : List Char} {q : Piece}

/-- What is found at the front of `c :: rest` is longer than `written`, or it is that piece. -/
def Outruns (q : Piece) (written : List Char) (c : Char) (rest : List Char) : Prop :=
  ∃ p more, front? c rest = some (p, more) ∧
    (written.length < more + 1 ∨ written.length = more + 1 ∧ p = q)

theorem outruns_of_le (more : Nat) (hfront : front? c rest = some (q, more))
    (hle : written.length ≤ more + 1) : Outruns q written c rest :=
  ⟨q, more, hfront, (Nat.lt_or_eq_of_le hle).imp_right fun h => ⟨h, rfl⟩⟩

theorem outruns_slashes {cs : List Char} (hline : '\n' ∉ cs)
    (hfront : '/' :: '/' :: cs <+: c :: rest) :
    Outruns (behindSlashes cs) ('/' :: '/' :: cs) c rest := by
  obtain ⟨behind, hbehind⟩ := hfront
  obtain ⟨rfl, rfl⟩ := List.cons.inj hbehind
  have hall : ∀ d ∈ cs, (d != '\n') = true := fun d hd => bne_iff_ne.2 fun h => hline (h ▸ hd)
  have hrun : (cs ++ behind).takeWhile (· != '\n') = cs ++ behind.takeWhile (· != '\n') :=
    List.takeWhile_append_of_pos hall
  refine ⟨behindSlashes (cs ++ behind), runLength (· != '\n') (cs ++ behind) + 1,
    slashFront?_slash _, ?_⟩
  rw [runLength, hrun, List.length_append]
  cases hmore : behind.takeWhile (· != '\n') with
  | nil =>
    rw [← behindSlashes_line, hrun, hmore, List.append_nil]
    exact .inr ⟨rfl, rfl⟩
  | cons d ds => exact .inl (by simp)

theorem isDigitPart_of_isDecimal (h : isDecimal c = true) : isDigitPart c = true := by
  rw [isDigitPart, h, Bool.true_or]

theorem runLength_of_prefixedLength {k : Nat} (h : prefixedLength rest = some k) :
    runLength isDigitPart rest = 0 := by
  cases rest with
  | nil => rfl
  | cons letter cs =>
    rw [prefixedLength.eq_def] at h
    dsimp only at h
    split at h
    · cases h
    · next base hbase =>
      rw [runLength, List.takeWhile_cons_of_neg (by simp [isDigitPart_of_baseOf? hbase]),
        List.length_nil]

/-- A number goes on at least as far as its first digits do. -/
theorem le_numberFront (c : Char) (rest : List Char) :
    (numberFront c rest).1 = .integer ∧ runLength isDigitPart rest ≤ (numberFront c rest).2 ∨
      runLength isDigitPart rest < (numberFront c rest).2 := by
  have hinteger : runLength isDigitPart rest ≤
      (if c = '0' then prefixedLength rest else none).getD (runLength isDigitPart rest) := by
    cases hk : if c = '0' then prefixedLength rest else none with
    | none => exact Nat.le_refl _
    | some k =>
      split at hk
      · rw [runLength_of_prefixedLength hk]
        exact Nat.zero_le _
      · cases hk
  rw [numberFront]
  split
  · split
    · exact .inr (by dsimp only; omega)
    · exact .inl ⟨rfl, hinteger⟩
  · exact .inl ⟨rfl, hinteger⟩

theorem outruns_digits (h : IsDigits written) (hfront : written <+: c :: rest) :
    Outruns .integer written c rest := by
  obtain ⟨d, ds, rfl, hd, hds⟩ := h
  obtain ⟨rfl, hbehind⟩ := List.cons_prefix_cons.1 hfront
  have hle := length_le_runLength hds hbehind
  refine ⟨_, _, front?_of_isDecimal hd rest, ?_⟩
  rw [List.length_cons]
  obtain ⟨hinteger, hmore⟩ | hmore := le_numberFront d rest
  · exact (Nat.lt_or_eq_of_le (Nat.succ_le_succ (hle.trans hmore))).imp_right
      fun heq => ⟨heq, hinteger⟩
  · exact .inl (Nat.succ_lt_succ (hle.trans_lt hmore))

theorem outruns_fraction {whole part : List Char} (hwhole : IsDigits whole) (hpart : IsDigits part)
    (hfront : whole ++ '.' :: part <+: c :: rest) :
    Outruns .fraction (whole ++ '.' :: part) c rest := by
  obtain ⟨d, ds, rfl, hd, hds⟩ := hwhole
  obtain ⟨e, es, rfl, he, hes⟩ := hpart
  obtain ⟨behind, hbehind⟩ := hfront
  obtain ⟨rfl, htail⟩ := List.cons.inj hbehind
  obtain rfl : rest = ds ++ '.' :: e :: (es ++ behind) := htail.symm.trans (by simp)
  have hrun : runLength isDigitPart (ds ++ '.' :: e :: (es ++ behind)) = ds.length :=
    runLength_eq hds (by decide)
  have hle : es.length ≤ runLength isDigitPart (es ++ behind) :=
    length_le_runLength hes (List.prefix_append es behind)
  refine outruns_of_le (ds.length + 2 + runLength isDigitPart (es ++ behind)) ?_ ?_
  · rw [front?_of_isDecimal hd, numberFront, hrun, List.drop_left]
    simp only [if_pos he]
  · simp only [List.length_append, List.length_cons]
    omega

theorem outruns_prefixed {base : Nat} {letter : Char} {cs : List Char}
    (hbase : baseOf? letter = some base) (hne : cs ≠ [])
    (hcs : ∀ d ∈ cs, isBasePart base d = true) (hfront : '0' :: letter :: cs <+: c :: rest) :
    Outruns .integer ('0' :: letter :: cs) c rest := by
  obtain ⟨behind, hbehind⟩ := hfront
  obtain ⟨rfl, rfl⟩ := List.cons.inj hbehind
  have hle : cs.length ≤ runLength (isBasePart base) (cs ++ behind) :=
    length_le_runLength hcs (List.prefix_append cs behind)
  have hpos : 0 < cs.length := List.length_pos_iff.2 hne
  refine outruns_of_le (runLength (isBasePart base) (cs ++ behind) + 1) ?_ ?_
  · show front? '0' (letter :: (cs ++ behind)) = _
    rw [front?_of_isDecimal (by decide), numberFront_of_baseOf? hbase (by omega)]
  · simp only [List.length_cons]
    omega

theorem front?_dots (rest : List Char) :
    ∃ m more, front? '.' ('.' :: rest) = some (.mark m, more) ∧ 1 ≤ more := by
  by_cases h : rest.head? = some '='
  · obtain ⟨ds, rfl⟩ := List.head?_eq_some_iff.1 h
    exact ⟨.inclusiveRange, 2, rfl, by decide⟩
  · exact ⟨.openRange, 1, front?_openRange h, le_refl 1⟩

/-- A mark that what follows makes a longer one of is outrun by that one. -/
theorem outruns_longer_mark {m : Mark} {behind : List Char} (h : ¬Stops (.mark m) behind)
    (hbehind : m.text.toList ++ behind = c :: rest) :
    Outruns (.mark m) m.text.toList c rest := by
  cases m with
  | dot =>
    obtain ⟨ds, rfl⟩ := List.head?_eq_some_iff.1 (not_not.1 h)
    obtain ⟨rfl, rfl⟩ := List.cons.inj hbehind
    obtain ⟨m, more, hfront, hmore⟩ := front?_dots ds
    exact ⟨_, _, hfront, .inl (Nat.succ_lt_succ hmore)⟩
  | openRange =>
    obtain ⟨ds, rfl⟩ := List.head?_eq_some_iff.1 (not_not.1 h)
    obtain ⟨rfl, rfl⟩ := List.cons.inj hbehind
    exact ⟨.mark .inclusiveRange, 2, rfl, .inl (by decide)⟩
  | colon =>
    obtain ⟨ds, rfl⟩ := List.head?_eq_some_iff.1 (not_not.1 h)
    obtain ⟨rfl, rfl⟩ := List.cons.inj hbehind
    exact ⟨.mark .pathSeparator, 1, rfl, .inl (by decide)⟩
  | _ => exact absurd trivial h

theorem outruns_mark {m : Mark} (hfront : m.text.toList <+: c :: rest) :
    Outruns (.mark m) m.text.toList c rest := by
  obtain ⟨behind, hbehind⟩ := hfront
  by_cases hstops : Stops (.mark m) behind
  · obtain ⟨d, ds, hm, hd⟩ := front?_mark hstops
    rw [hm] at hbehind ⊢
    obtain ⟨rfl, rfl⟩ := List.cons.inj hbehind
    exact outruns_of_le _ hd (le_refl _)
  · exact outruns_longer_mark hstops hbehind

/-- What is found at the front is at least as long as any piece that starts there. -/
theorem outruns_of_spells (h : Spells q written) (hfront : written <+: c :: rest) :
    Outruns q written c rest := by
  cases h with
  | @doc cs hline hslash =>
    have hdoc : behindSlashes ('/' :: cs) = .doc := if_pos ⟨rfl, hslash⟩
    have hline' : '\n' ∉ '/' :: cs := by simpa using hline
    exact hdoc ▸ outruns_slashes hline' hfront
  | comment h =>
    obtain ⟨cs, rfl, hline, hslash⟩ := h
    have hcomment : behindSlashes cs = .comment := if_neg fun h => h.2 (hslash h.1)
    exact hcomment ▸ outruns_slashes hline hfront
  | blank h =>
    obtain ⟨hc, hcs⟩ := List.forall_mem_cons.1 h
    obtain ⟨rfl, hbehind⟩ := List.cons_prefix_cons.1 hfront
    exact outruns_of_le _ (front?_blank hc rest)
      (Nat.succ_le_succ (length_le_runLength hcs hbehind))
  | newline =>
    obtain ⟨rfl, -⟩ := List.cons_prefix_cons.1 hfront
    exact outruns_of_le 0 rfl (le_refl 1)
  | fraction hwhole hpart => exact outruns_fraction hwhole hpart hfront
  | decimal h => exact outruns_digits h hfront
  | prefixed hbase hne h => exact outruns_prefixed hbase hne h hfront
  | name hc hcs =>
    obtain ⟨rfl, hbehind⟩ := List.cons_prefix_cons.1 hfront
    exact outruns_of_le _ (front?_of_isWordStart hc rest)
      (Nat.succ_le_succ (length_le_runLength hcs hbehind))
  | mark m => exact outruns_mark hfront

end Spelled

section Pieces

variable {c : Char} {rest written : List Char} {more : Nat} {piece : Piece}

theorem Spells.ne_nil (h : Spells piece written) : written ≠ [] := by
  cases h with
  | comment h =>
    obtain ⟨cs, rfl, -⟩ := h
    nofun
  | fraction hwhole hpart => exact List.append_ne_nil_of_right_ne_nil _ (List.cons_ne_nil _ _)
  | decimal h =>
    obtain ⟨c, cs, rfl, -⟩ := h
    nofun
  | mark m => cases m <;> nofun
  | _ => nofun

theorem length_front (hmore : more ≤ rest.length) : (c :: rest.take more).length = more + 1 := by
  rw [List.length_cons, List.length_take_of_le hmore]

/-- The lexer finds the longest piece at the front. -/
theorem front?_eq_some_iff : front? c rest = some (piece, more) ↔
    more ≤ rest.length ∧ Longest piece (c :: rest.take more) (c :: rest) := by
  constructor
  · intro h
    obtain ⟨hmore, hspells⟩ := spells_of_front? h
    refine ⟨hmore, hspells, List.take_prefix (more + 1) (c :: rest), ?_⟩
    intro q other hother hfront
    obtain ⟨p, k, hk, hlength⟩ := outruns_of_spells hother hfront
    obtain ⟨rfl, rfl⟩ := Prod.mk.inj (Option.some.inj (hk.symm.trans h))
    rw [length_front hmore]
    exact hlength.elim Nat.le_of_lt fun h => Nat.le_of_eq h.1
  · rintro ⟨hmore, hspells, hfront, hlongest⟩
    obtain ⟨p, k, hk, hlength⟩ := outruns_of_spells hspells hfront
    obtain ⟨hkmore, hfound⟩ := spells_of_front? hk
    -- what is found is a piece too, so it is no longer than the longest
    have hle := hlongest p _ hfound (List.take_prefix (k + 1) (c :: rest))
    rw [length_front hkmore] at hle
    obtain hlt | ⟨heq, rfl⟩ := hlength
    · exact absurd hle (Nat.not_le.2 hlt)
    · rw [length_front hmore] at heq
      rw [hk, Nat.succ.inj heq]

/-- The lexer finds nothing only where no piece starts. -/
theorem front?_eq_none_iff : front? c rest = none ↔
    ∀ q other, Spells q other → ¬other <+: c :: rest := by
  constructor
  · intro h q other hother hfront
    obtain ⟨p, k, hk, -⟩ := outruns_of_spells hother hfront
    cases h.symm.trans hk
  · intro h
    by_contra hfound
    obtain ⟨⟨p, k⟩, hk⟩ := Option.ne_none_iff_exists'.1 hfound
    exact h p _ (spells_of_front? hk).2 (List.take_prefix (k + 1) (c :: rest))

end Pieces

end RegisterMap.Lexer
