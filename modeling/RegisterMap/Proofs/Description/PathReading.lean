import Mathlib.Data.List.Chain
import RegisterMap.Description.Path

/-!
# Paths read back

A path is shown with `::` between its segments. Segments are not checked for anything but that there
are some and none is empty, so that one of them may end with a colon, which then runs into the
separator behind it. The text of a path is read as the path exactly where this does not happen, and
there different paths have different texts.
-/

namespace RegisterMap

open Text

namespace Text

/-- Cutting a list at a character is what core's function does. -/
theorem splitOnChar_eq_splitOn (sep : Char) (cs : List Char) :
    splitOnChar sep cs = cs.splitOn sep := by
  induction cs with
  | nil => rfl
  | cons c cs ih =>
    rw [splitOnChar, List.splitOn_cons_eq_if_modifyHead, ih]
    by_cases hc : c = sep
    · rw [if_pos hc, if_pos (beq_iff_eq.2 hc)]
    · rw [if_neg hc, if_neg (mt beq_iff_eq.1 hc)]
      cases h : cs.splitOn sep with
      | nil => exact absurd h (List.splitOn_ne_nil sep cs)
      | cons part parts => rfl

theorem not_mem_of_mem_splitOn {sep : Char} {cs part : List Char} (h : part ∈ cs.splitOn sep) :
    sep ∉ part := by
  induction cs generalizing part with
  | nil =>
    rw [List.splitOn_nil, List.mem_singleton] at h
    exact h ▸ List.not_mem_nil
  | cons c cs ih =>
    rw [List.splitOn_cons_eq_if_modifyHead] at h
    split at h
    · rcases List.mem_cons.1 h with rfl | h
      · exact List.not_mem_nil
      · exact ih h
    · next hc =>
      cases hparts : cs.splitOn sep with
      | nil => exact absurd hparts (List.splitOn_ne_nil sep cs)
      | cons first parts =>
        rw [hparts] at ih h
        rcases List.mem_cons.1 h with rfl | h
        · have hfirst := ih List.mem_cons_self
          exact mt List.mem_cons.1 (not_or.2 ⟨fun hsep => hc (beq_iff_eq.2 hsep.symm), hfirst⟩)
        · exact ih (List.mem_cons_of_mem _ h)

theorem mem_intercalate {sep : List Char} {parts : List (List Char)} {c : Char}
    (h : c ∈ sep.intercalate parts) : c ∈ sep ∨ ∃ part ∈ parts, c ∈ part := by
  induction parts with
  | nil => cases h
  | cons part parts ih =>
    cases parts with
    | nil =>
      rw [List.intercalate_singleton] at h
      exact .inr ⟨part, List.mem_cons_self, h⟩
    | cons next parts =>
      rw [List.intercalate_cons_cons, List.mem_append, List.mem_append] at h
      rcases h with (h | h) | h
      · exact .inr ⟨part, List.mem_cons_self, h⟩
      · exact .inl h
      · obtain h | ⟨other, hother, h⟩ := ih h
        · exact .inl h
        · exact .inr ⟨other, List.mem_cons_of_mem _ hother, h⟩

theorem isInfix_of_mem_intercalate {sep : List Char} {parts : List (List Char)} {part : List Char}
    (h : part ∈ parts) : part <:+: sep.intercalate parts := by
  induction parts with
  | nil => cases h
  | cons first parts ih =>
    cases parts with
    | nil =>
      rw [List.intercalate_singleton]
      exact List.mem_singleton.1 h ▸ List.infix_rfl
    | cons next parts =>
      rw [List.intercalate_cons_cons, List.append_assoc]
      rcases List.mem_cons.1 h with rfl | h
      · exact (List.prefix_append _ _).isInfix
      · exact (ih h).trans ((List.suffix_append _ _).trans (List.suffix_append _ _)).isInfix

/-- What is kept of a list and is not the last that is kept was not the last before. -/
theorem mem_dropLast_of_filter {α : Type} {keep : α → Bool} {xs : List α} {x : α}
    (h : x ∈ (xs.filter keep).dropLast) : x ∈ xs.dropLast := by
  rcases List.eq_nil_or_concat xs with rfl | ⟨front, last, rfl⟩
  · exact h
  · rw [List.concat_eq_append] at h ⊢
    rw [List.dropLast_concat]
    rw [List.filter_append, List.filter_singleton] at h
    cases hlast : keep last <;> rw [hlast] at h
    · rw [Bool.cond_false, List.append_nil] at h
      exact List.mem_of_mem_filter (List.dropLast_subset _ h)
    · rw [Bool.cond_true, List.dropLast_concat] at h
      exact List.mem_of_mem_filter h

end Text

namespace Path

/-- No segment but the last ends with a colon. -/
def IsSettled (p : Path) : Prop :=
  ∀ s ∈ p.segments.dropLast, s.toList.getLast? ≠ some ':'

instance (p : Path) : Decidable p.IsSettled :=
  inferInstanceAs (Decidable (∀ s ∈ p.segments.dropLast, s.toList.getLast? ≠ some ':'))

/-! ### Separators written as dots -/

/-- No two colons stand side by side. -/
def IsSparse (cs : List Char) : Prop :=
  cs.IsChain fun a b => ¬(a = ':' ∧ b = ':')

/-- No colon stands in front of a dot. -/
def IsClear (cs : List Char) : Prop :=
  cs.IsChain fun a b => ¬(a = ':' ∧ b = '.')

theorem isSparse_of_not_mem {cs : List Char} (h : ':' ∉ cs) : IsSparse cs := by
  induction cs with
  | nil => exact .nil
  | cons c cs ih =>
    obtain ⟨hc, hcs⟩ := not_or.1 (mt List.mem_cons.2 h)
    exact List.isChain_cons.2 ⟨fun _ _ hpair => hc hpair.1.symm, ih hcs⟩

theorem head_dotted {cs : List Char} (h : cs.head? ≠ some ':') :
    (dotted cs).head? = cs.head? := by
  fun_cases dotted cs with
  | case1 cs => exact absurd rfl h
  | case2 c cs _ => rfl
  | case3 => rfl

/-- After every two colons have become a dot, no two are left side by side. -/
theorem isSparse_dotted (cs : List Char) : IsSparse (dotted cs) := by
  unfold IsSparse
  fun_induction dotted cs with
  | case1 cs ih => exact List.isChain_cons.2 ⟨fun _ _ h => absurd h.1 (by decide), ih⟩
  | case2 c cs hc ih =>
    refine List.isChain_cons.2 ⟨?_, ih⟩
    rintro d hd ⟨rfl, rfl⟩
    have hhead : cs.head? ≠ some ':' := by
      intro h
      obtain ⟨rest, rfl⟩ := List.head?_eq_some_iff.1 h
      exact hc rest rfl rfl
    rw [head_dotted hhead] at hd
    exact hhead hd
  | case3 => exact .nil

/-- Every dot that two colons have become is the first thing that the colons there are read as. -/
theorem isClear_dotted {cs : List Char} (h : '.' ∉ cs) : IsClear (dotted cs) := by
  unfold IsClear
  fun_induction dotted cs with
  | case1 cs ih =>
    have hcs : '.' ∉ cs := fun hmem => h (by simp [hmem])
    exact List.isChain_cons.2 ⟨fun _ _ h => absurd h.1 (by decide), ih hcs⟩
  | case2 c cs hc ih =>
    obtain ⟨-, hcs⟩ := not_or.1 (mt List.mem_cons.2 h)
    refine List.isChain_cons.2 ⟨?_, ih hcs⟩
    rintro d hd ⟨rfl, rfl⟩
    have hhead : cs.head? ≠ some ':' := by
      intro h
      obtain ⟨rest, rfl⟩ := List.head?_eq_some_iff.1 h
      exact hc rest rfl rfl
    rw [head_dotted hhead] at hd
    exact hcs (List.mem_of_mem_head? hd)
  | case3 => exact .nil

/-- Colons that stand alone stay, and so does a colon at the end unless another one follows. -/
theorem dotted_append_of_isSparse {cs : List Char} (h : IsSparse cs) (hend : cs.getLast? ≠ some ':')
    (rest : List Char) : dotted (cs ++ rest) = cs ++ dotted rest := by
  induction cs with
  | nil => rfl
  | cons c cs ih =>
    obtain ⟨hc, hcs⟩ := List.isChain_cons.1 h
    cases cs with
    | nil =>
      have hne : c ≠ ':' := fun hc => hend (hc ▸ rfl)
      exact dotted.eq_2 c _ fun _ hc' _ => hne hc'
    | cons d cs =>
      have hne : ∀ more, c = ':' → d :: cs ++ rest = ':' :: more → False := by
        rintro more rfl hd
        exact hc d rfl ⟨rfl, (List.cons.inj hd).1⟩
      rw [List.cons_append, dotted.eq_2 c _ hne, ih hcs (by rwa [List.getLast?_cons_cons] at hend)]
      rfl

theorem dotted_eq_self {cs : List Char} (h : IsSparse cs) : dotted cs = cs := by
  induction cs with
  | nil => rfl
  | cons c cs ih =>
    obtain ⟨hc, hcs⟩ := List.isChain_cons.1 h
    have hne : ∀ more, c = ':' → cs = ':' :: more → False := by
      rintro more rfl rfl
      exact hc ':' rfl ⟨rfl, rfl⟩
    rw [dotted.eq_2 c _ hne, ih hcs]

/-- Where no part but the last ends with a colon, the separators between the parts become dots and
nothing else does. -/
theorem dotted_intercalate {parts : List (List Char)} (hsparse : ∀ part ∈ parts, IsSparse part)
    (hend : ∀ part ∈ parts.dropLast, part.getLast? ≠ some ':') :
    dotted ("::".toList.intercalate parts) = ['.'].intercalate parts := by
  induction parts with
  | nil => rfl
  | cons part parts ih =>
    obtain ⟨hpart, hparts⟩ := List.forall_mem_cons.1 hsparse
    cases parts with
    | nil =>
      rw [List.intercalate_singleton, List.intercalate_singleton]
      exact dotted_eq_self hpart
    | cons next parts =>
      obtain ⟨hlast, hrest⟩ := List.forall_mem_cons.1 hend
      have hseparator : ∀ cs, dotted ("::".toList ++ cs) = '.' :: dotted cs := fun _ => rfl
      rw [List.intercalate_cons_cons, List.intercalate_cons_cons, List.append_assoc,
        dotted_append_of_isSparse hpart hlast, hseparator, ih hparts hrest, List.append_assoc]
      rfl

/-! ### The segments of a text -/

/-- A part that another one follows does not end with a colon where no colon stands in front of a
dot. -/
theorem getLast?_ne_of_isClear {parts : List (List Char)}
    (h : IsClear (['.'].intercalate parts)) :
    ∀ part ∈ parts.dropLast, part.getLast? ≠ some ':' := by
  induction parts with
  | nil => nofun
  | cons part parts ih =>
    cases parts with
    | nil => nofun
    | cons next parts =>
      rw [IsClear, List.intercalate_cons_cons, List.append_assoc] at h
      refine List.forall_mem_cons.2 ⟨fun hlast => ?_, ih h.right_of_append.tail⟩
      exact (List.isChain_append.1 h).2.2 ':' hlast '.' rfl ⟨rfl, rfl⟩

/-- What every segment of a path that was read is like. -/
structure IsSegment (s : String) : Prop where
  ne_nil : s.toList ≠ []
  noDot : '.' ∉ s.toList
  sparse : IsSparse s.toList

variable {t : String} {p : Path}

/-- A text is read as the path of its parts. -/
theorem ofText?_eq_some_iff : ofText? t = some p ↔
    p.segments.map String.toList = ((dotted t.toList).splitOn '.').filter (!·.isEmpty) := by
  have hlist : ∀ parts : List (List Char), (parts.map String.ofList).map String.toList = parts := by
    intro parts
    rw [List.map_map]
    exact List.map_id'' (fun part => String.toList_ofList) _
  have hstring : (p.segments.map String.toList).map String.ofList = p.segments := by
    rw [List.map_map]
    exact List.map_id'' (fun s => String.ofList_toList) _
  simp only [ofText?, splitOnChar_eq_splitOn]
  split
  · next hnil =>
    rw [hnil, List.map_eq_nil_iff]
    exact ⟨nofun, fun h => absurd h p.ne_nil⟩
  · rw [Option.some.injEq, Path.ext_iff]
    dsimp only
    constructor
    · rintro h
      rw [← h, hlist]
    · intro h
      rw [← h, hstring]

theorem mem_splitOn_of_read (h : ofText? t = some p) {s : String} (hs : s ∈ p.segments) :
    s.toList ∈ (dotted t.toList).splitOn '.' ∧ s.toList ≠ [] := by
  have hmem : s.toList ∈ ((dotted t.toList).splitOn '.').filter (!·.isEmpty) := by
    rw [← ofText?_eq_some_iff.1 h]
    exact List.mem_map_of_mem hs
  obtain ⟨hpart, hne⟩ := List.mem_filter.1 hmem
  exact ⟨hpart, by simpa using hne⟩

theorem isInfix_of_read (h : ofText? t = some p) {s : String} (hs : s ∈ p.segments) :
    s.toList <:+: dotted t.toList := by
  have hwithin := @isInfix_of_mem_intercalate ['.'] _ _ (mem_splitOn_of_read h hs).1
  rwa [List.intercalate_splitOn] at hwithin

theorem isSegment_of_read (h : ofText? t = some p) : ∀ s ∈ p.segments, IsSegment s := by
  intro s hs
  obtain ⟨hpart, hne⟩ := mem_splitOn_of_read h hs
  have hsparse := List.IsChain.infix (isSparse_dotted _) (isInfix_of_read h hs)
  exact ⟨hne, not_mem_of_mem_splitOn hpart, hsparse⟩

/-- Paths that are written without dots are settled. -/
theorem isSettled_of_read (h : ofText? t = some p) (ht : '.' ∉ t.toList) : p.IsSettled := by
  intro s hs
  have hclear : IsClear (['.'].intercalate ((dotted t.toList).splitOn '.')) := by
    rw [List.intercalate_splitOn]
    exact isClear_dotted ht
  have hmem : s.toList ∈ (((dotted t.toList).splitOn '.').filter (!·.isEmpty)).dropLast := by
    rw [← ofText?_eq_some_iff.1 h, ← List.map_dropLast]
    exact List.mem_map_of_mem hs
  exact getLast?_ne_of_isClear hclear s.toList (mem_dropLast_of_filter hmem)

/-! ### The text of a path -/

theorem noDot_text (h : ∀ s ∈ p.segments, '.' ∉ s.toList) : '.' ∉ p.text.toList := by
  rw [text, String.toList_intercalate]
  intro hmem
  obtain hmem | ⟨part, hpart, hmem⟩ := mem_intercalate hmem
  · exact absurd hmem (by decide)
  · obtain ⟨s, hs, rfl⟩ := List.mem_map.1 hpart
    exact h s hs hmem

/-- The text of a settled path is read as the path. -/
theorem ofText?_text_of_isSettled (hseg : ∀ s ∈ p.segments, IsSegment s) (hp : p.IsSettled) :
    ofText? p.text = some p := by
  have hparts : (dotted p.text.toList).splitOn '.' = p.segments.map String.toList := by
    have hsparse : ∀ part ∈ p.segments.map String.toList, IsSparse part :=
      List.forall_mem_map.2 fun s hs => (hseg s hs).sparse
    have hend : ∀ part ∈ (p.segments.map String.toList).dropLast, part.getLast? ≠ some ':' := by
      rw [← List.map_dropLast]
      exact List.forall_mem_map.2 hp
    have hdot : ∀ part ∈ p.segments.map String.toList, '.' ∉ part :=
      List.forall_mem_map.2 fun s hs => (hseg s hs).noDot
    rw [text, String.toList_intercalate, dotted_intercalate hsparse hend,
      List.splitOn_intercalate '.' hdot (mt List.map_eq_nil_iff.1 p.ne_nil)]
  have hkeep : (p.segments.map String.toList).filter (!·.isEmpty) =
      p.segments.map String.toList := by
    refine List.filter_eq_self.2 (List.forall_mem_map.2 fun s hs => ?_)
    simpa using (hseg s hs).ne_nil
  rw [ofText?_eq_some_iff, hparts, hkeep]

/-- The text of a path that was read has no dots, so that what it is read as is settled. -/
theorem isSettled_of_text_read {q : Path} (h : ofText? t = some p) (hq : ofText? p.text = some q) :
    q.IsSettled :=
  isSettled_of_read hq (noDot_text fun s hs => (isSegment_of_read h s hs).noDot)

/-- Paths that are written without colons are settled. -/
theorem isSettled_of_noColon (h : ofText? t = some p) (ht : ':' ∉ t.toList) : p.IsSettled := by
  intro s hs hlast
  have hwithin := isInfix_of_read h (List.dropLast_subset _ hs)
  rw [dotted_eq_self (isSparse_of_not_mem ht)] at hwithin
  exact ht (hwithin.subset (List.mem_of_getLast? hlast))

/-- The text of a path is read as the path exactly where the path is settled, as it is when it was
written with separators of one kind; what the text of any path is read as is settled. Settled paths
are told apart by their texts. -/
theorem text_read_iff_isSettled (h : ofText? t = some p) :
    (ofText? p.text = some p ↔ p.IsSettled) ∧
    ('.' ∉ t.toList ∨ ':' ∉ t.toList → p.IsSettled) ∧
    (∀ q, ofText? p.text = some q → ofText? q.text = some q) ∧
    ∀ u q, ofText? u = some q → p.IsSettled → q.IsSettled → (p = q ↔ p.text = q.text) := by
  have hback : ∀ {u q}, ofText? u = some q → q.IsSettled → ofText? q.text = some q :=
    fun hu hq => ofText?_text_of_isSettled (isSegment_of_read hu) hq
  refine ⟨⟨isSettled_of_text_read h, hback h⟩, ?_, ?_, ?_⟩
  · rintro (ht | ht)
    · exact isSettled_of_read h ht
    · exact isSettled_of_noColon h ht
  · exact fun q hq => hback hq (isSettled_of_text_read h hq)
  · refine fun u q hu hp hq => ⟨fun heq => heq ▸ rfl, fun htext => ?_⟩
    have hread := hback h hp
    rw [htext, hback hu hq] at hread
    exact (Option.some.inj hread).symm

/-- A colon in front of a dot goes over to the next segment when the path is read back. -/
theorem text_read_colon : ofText? "a:.b" = some (.inModules ["a:"] "b") ∧
    ofText? (text (.inModules ["a:"] "b")) = some (.inModules ["a"] ":b") ∧
    ofText? (text (.inModules ["a:"] "b")) ≠ some (.inModules ["a:"] "b") := by
  have hread : ofText? "a:.b" = some (.inModules ["a:"] "b") := by decide
  have hsettled : ¬IsSettled (.inModules ["a:"] "b") := by decide
  exact ⟨hread, by decide, fun h => hsettled ((text_read_iff_isSettled hread).1.1 h)⟩

end Path

end RegisterMap
