import Mathlib.Data.List.Basic
import RegisterMap.Accessor.Page

/-!
# Documentation stays between its quotes

`literal?` reads a text that stands behind three quotes: a backslash takes the next character
with it, and the first three quotes in a row that no backslash takes end the literal. Escaped
documentation is read as a whole, whatever the text is and whatever follows the closing quotes, and
`unescape` gives back what was documented.
-/

namespace RegisterMap.Page

/-- What stands in a literal behind its opening quotes, and what stands behind its closing ones. -/
def literal? : List Char → Option (List Char × List Char)
  | '\\' :: c :: cs => (literal? cs).map (Prod.map ('\\' :: c :: ·) id)
  | '"' :: '"' :: '"' :: cs => some ([], cs)
  | c :: cs => (literal? cs).map (Prod.map (c :: ·) id)
  | [] => none

/-- Characters with a backslash less in front of each backslash and quote that has one. -/
def unescape : List Char → List Char
  | '\\' :: '\\' :: cs => '\\' :: unescape cs
  | '\\' :: '"' :: cs => '"' :: unescape cs
  | c :: cs => c :: unescape cs
  | [] => []

/-- The two replacements in one pass. -/
def escaped : List Char → List Char
  | '"' :: '"' :: '"' :: cs => '\\' :: '"' :: '\\' :: '"' :: '\\' :: '"' :: escaped cs
  | c :: cs => if c = '\\' then '\\' :: '\\' :: escaped cs else c :: escaped cs
  | [] => []

/-- `text` is inside the literal when `rest` is behind it: reading passes over `text`. -/
def Inside (text rest : List Char) : Prop :=
  literal? (text ++ rest) = (literal? rest).map (Prod.map (text ++ ·) id)

theorem literal?_cons {c : Char} {cs : List Char} (hc : c ≠ '\\')
    (h : c = '"' → ¬['"', '"'] <+: cs) :
    literal? (c :: cs) = (literal? cs).map (Prod.map (c :: ·) id) :=
  literal?.eq_3 c cs (fun _ _ heq _ => hc heq) fun u heq hu => h heq ⟨u, hu.symm⟩

theorem escapeQuotes_cons {c : Char} {cs : List Char} (h : c = '"' → ¬['"', '"'] <+: cs) :
    escapeQuotes (c :: cs) = c :: escapeQuotes cs :=
  escapeQuotes.eq_2 c cs fun u heq hu => h heq ⟨u, hu.symm⟩

theorem escapeBackslashes_cons {c : Char} (cs : List Char) (hc : c ≠ '\\') :
    escapeBackslashes (c :: cs) = c :: escapeBackslashes cs :=
  if_neg hc

theorem escaped_cons {c : Char} {cs : List Char} (hc : c ≠ '\\')
    (h : c = '"' → ¬['"', '"'] <+: cs) : escaped (c :: cs) = c :: escaped cs :=
  (escaped.eq_2 c cs fun u heq hu => h heq ⟨u, hu.symm⟩).trans (if_neg hc)

theorem escaped_backslash (cs : List Char) : escaped ('\\' :: cs) = '\\' :: '\\' :: escaped cs :=
  rfl

/-- What does not start with a quote does not start with one when escaped. -/
theorem head_escaped {d : Char} (ds : List Char) (hd : d ≠ '"') :
    ∃ x xs, escaped (d :: ds) = x :: xs ∧ x ≠ '"' := by
  by_cases hs : d = '\\'
  · subst hs
    exact ⟨'\\', '\\' :: escaped ds, rfl, by decide⟩
  · exact ⟨d, escaped ds, escaped_cons hs fun h => absurd h hd, hd⟩

theorem not_prefix_escapeBackslashes {cs : List Char} (h : ¬['"', '"'] <+: cs) :
    ¬['"', '"'] <+: escapeBackslashes cs := by
  have hhead : ∀ {d : Char} {ds u : List Char},
      '"' :: u = escapeBackslashes (d :: ds) → d = '"' ∧ u = escapeBackslashes ds := by
    intro d ds u heq
    by_cases hd : d = '\\'
    · rw [escapeBackslashes, if_pos hd] at heq
      cases heq
    · rw [escapeBackslashes_cons ds hd] at heq
      cases heq
      exact ⟨rfl, rfl⟩
  rintro ⟨t, ht⟩
  match cs with
  | [] => cases ht
  | [d] => exact absurd (hhead ht).2 (by simp [escapeBackslashes])
  | d :: e :: es =>
    obtain ⟨hd, ht'⟩ := hhead ht
    obtain ⟨he, -⟩ := hhead ht'
    exact h ⟨es, by rw [hd, he]; rfl⟩

theorem escapeQuotes_escapeBackslashes (cs : List Char) :
    escapeQuotes (escapeBackslashes cs) = escaped cs := by
  induction cs using escaped.induct with
  | case1 cs ih => simp [escapeBackslashes, escapeQuotes, escaped, ih]
  | case2 cs hq ih =>
    have hslash : '\\' ≠ '"' := by decide
    rw [escapeBackslashes, if_pos rfl, escapeQuotes_cons fun h => absurd h hslash,
      escapeQuotes_cons fun h => absurd h hslash, ih]
    rfl
  | case3 c cs hq hc ih =>
    have hquotes : c = '"' → ¬['"', '"'] <+: cs := by
      rintro rfl ⟨t, rfl⟩
      exact hq t rfl rfl
    rw [escapeBackslashes_cons cs hc, escaped_cons hc hquotes,
      escapeQuotes_cons fun h => not_prefix_escapeBackslashes (hquotes h), ih]
  | case4 => rfl

theorem unescape_cons {c : Char} (cs : List Char) (hc : c ≠ '\\') :
    unescape (c :: cs) = c :: unescape cs :=
  unescape.eq_3 c cs (fun _ heq _ => hc heq) fun _ heq _ => hc heq

theorem unescape_escaped (cs rest : List Char) :
    unescape (escaped cs ++ rest) = cs ++ unescape rest := by
  induction cs using escaped.induct with
  | case1 cs ih => simp [escaped, unescape, ih]
  | case2 cs hq ih => simp [escaped, unescape, ih]
  | case3 c cs hq hc ih =>
    rw [escaped.eq_2 c cs hq, if_neg hc, List.cons_append, unescape_cons _ hc, ih]
    rfl
  | case4 => rfl

namespace Inside

theorem nil (rest : List Char) : Inside [] rest := by
  have hid : Prod.map (([] : List Char) ++ ·) (id : List Char → List Char) = id := rfl
  rw [Inside, hid, Option.map_id]
  rfl

theorem cons {c : Char} {text rest : List Char} (hc : c ≠ '\\')
    (h : c = '"' → ¬['"', '"'] <+: text ++ rest) (ht : Inside text rest) :
    Inside (c :: text) rest := by
  rw [Inside, List.cons_append, literal?_cons hc h, ht, Option.map_map]
  rfl

/-- A backslash takes the next character with it. -/
theorem pair {text rest : List Char} (c : Char) (ht : Inside text rest) :
    Inside ('\\' :: c :: text) rest := by
  rw [Inside, List.cons_append, List.cons_append, literal?, ht, Option.map_map]
  rfl

theorem append {text more rest : List Char} (ht : Inside text (more ++ rest))
    (hm : Inside more rest) : Inside (text ++ more) rest := by
  rw [Inside, List.append_assoc, ht, hm, Option.map_map]
  simp only [List.append_assoc]
  rfl

/-- What has neither quotes nor backslashes ends nothing and takes nothing. -/
theorem plain {text : List Char} (h : ∀ c ∈ text, c ≠ '\\' ∧ c ≠ '"') (rest : List Char) :
    Inside text rest := by
  induction text with
  | nil => exact nil rest
  | cons c cs ih =>
    obtain ⟨hslash, hquote⟩ := h c List.mem_cons_self
    exact cons hslash (fun hc => absurd hc hquote) (ih fun d hd => h d (List.mem_cons_of_mem c hd))

/-- No two quotes come after a quote that the replacements leave alone. -/
theorem not_prefix_escaped {cs rest : List Char} (hcs : ¬['"', '"'] <+: cs)
    (h : ('"' :: cs).getLast? = some '"' → rest.head? ≠ some '"') :
    ¬['"', '"'] <+: escaped cs ++ rest := by
  have hother : ∀ {d : Char} (ds u : List Char), d ≠ '"' →
      '"' :: u ≠ escaped (d :: ds) ++ rest := by
    intro d ds u hd heq
    obtain ⟨x, xs, hx, hne⟩ := head_escaped ds hd
    rw [hx, List.cons_append] at heq
    exact hne (List.cons.inj heq).1.symm
  rintro ⟨t, ht⟩
  match cs with
  | [] =>
    have hrest : '"' :: '"' :: t = rest := ht
    exact h rfl (by rw [← hrest]; rfl)
  | d :: e :: es =>
    by_cases hd : d = '"'
    · subst hd
      have he : e ≠ '"' := by
        rintro rfl
        exact hcs ⟨es, rfl⟩
      have hes : ¬['"', '"'] <+: e :: es := fun ⟨_, hu⟩ => he (List.cons.inj hu).1.symm
      rw [escaped_cons (by decide) fun _ => hes] at ht
      exact hother es t he (List.cons.inj ht).2
    · exact hother (e :: es) _ hd ht
  | [d] =>
    by_cases hd : d = '"'
    · subst hd
      have hrest : '"' :: t = rest := (List.cons.inj ht).2
      exact h rfl (by rw [← hrest]; rfl)
    · exact hother [] _ hd ht

/-- Escaped text is inside, unless a quote at its end meets one behind it. -/
theorem escaped {cs rest : List Char} (h : cs.getLast? = some '"' → rest.head? ≠ some '"') :
    Inside (Page.escaped cs) rest := by
  induction cs using Page.escaped.induct with
  | case1 cs ih =>
    refine pair _ (pair _ (pair _ (ih fun hlast => h ?_)))
    rw [List.getLast?_cons_cons, List.getLast?_cons_cons, List.getLast?_cons, hlast]
    rfl
  | case2 cs hq ih =>
    rw [escaped_backslash]
    exact pair _ (ih fun hlast => h (by rw [List.getLast?_cons, hlast]; rfl))
  | case3 c cs hq hc ih =>
    have hquotes : c = '"' → ¬['"', '"'] <+: cs := by
      rintro rfl ⟨t, rfl⟩
      exact hq t rfl rfl
    rw [escaped_cons hc hquotes]
    refine cons hc ?_ (ih fun hlast => h (by rw [List.getLast?_cons, hlast]; rfl))
    rintro rfl
    exact not_prefix_escaped (hquotes rfl) h
  | case4 => exact nil rest

end Inside

/-- A line as it stands on the page at a depth. -/
def indented (depth : Nat) (s : String) : String :=
  if s = "" then "" else margin depth ++ s

/-- What comes between the last of some lines of documentation and the closing quotes. They follow a
single line at once, unless it ends in a quote. -/
def ending (depth : Nat) : List String → String
  | [s] => if s.toList.getLast? = some '"' then "\n" ++ margin depth else ""
  | _ => "\n" ++ margin depth

/-- A text that stands for another one inside a literal, whatever follows it but a quote. -/
structure Stands (text s : String) : Prop where
  inside : ∀ rest, rest.head? ≠ some '"' → Inside text.toList rest
  unescaped : ∀ rest, unescape (text.toList ++ rest) = s.toList ++ unescape rest

theorem toList_escapeDocs (s : String) : (escapeDocs s).toList = escaped s.toList := by
  rw [escapeDocs, String.toList_ofList, escapeQuotes_escapeBackslashes]

theorem getLast?_escaped (cs : List Char) : (escaped cs).getLast? = cs.getLast? := by
  induction cs using escaped.induct with
  | case1 cs ih => simp only [escaped, List.getLast?_cons, ih, Option.getD_some]
  | case2 cs hq ih => simp only [escaped_backslash, List.getLast?_cons, ih, Option.getD_some]
  | case3 c cs hq hc ih =>
    rw [escaped.eq_2 c cs hq, if_neg hc]
    simp only [List.getLast?_cons, ih]
  | case4 => rfl

theorem escapeDocs_eq_empty {s : String} : escapeDocs s = "" ↔ s = "" := by
  have hempty : ∀ t : String, t = "" ↔ t.toList.getLast? = none := by
    intro t
    rw [List.getLast?_eq_none_iff, String.toList_eq_nil_iff]
  rw [hempty, hempty s, toList_escapeDocs, getLast?_escaped]

theorem margin_plain (depth : Nat) : ∀ c ∈ (margin depth).toList, c ≠ '\\' ∧ c ≠ '"' := by
  intro c hc
  rw [margin, String.toList_ofList] at hc
  rw [List.eq_of_mem_replicate hc]
  decide

theorem unescape_plain {text : List Char} (h : ∀ c ∈ text, c ≠ '\\' ∧ c ≠ '"')
    (rest : List Char) : unescape (text ++ rest) = text ++ unescape rest := by
  induction text with
  | nil => rfl
  | cons c cs ih =>
    rw [List.cons_append, unescape_cons _ (h c List.mem_cons_self).1,
      ih fun d hd => h d (List.mem_cons_of_mem c hd)]
    rfl

namespace Stands

theorem plain {s : String} (h : ∀ c ∈ s.toList, c ≠ '\\' ∧ c ≠ '"') : Stands s s :=
  ⟨fun rest _ => Inside.plain h rest, unescape_plain h⟩

theorem docs (s : String) : Stands (escapeDocs s) s where
  inside rest hrest := by
    rw [toList_escapeDocs]
    exact Inside.escaped fun _ => hrest
  unescaped rest := by
    rw [toList_escapeDocs, unescape_escaped]

/-- Two texts of which the second starts with no quote. -/
theorem append {t s u v : String} (ht : Stands t s) (hu : Stands u v)
    (hhead : u.toList.head? ≠ some '"') (hne : u ≠ "") : Stands (t ++ u) (s ++ v) where
  inside rest hrest := by
    rw [String.toList_append]
    refine (ht.inside (u.toList ++ rest) ?_).append (hu.inside rest hrest)
    rwa [List.head?_append_of_ne_nil _ (mt String.toList_eq_nil_iff.1 hne)]
  unescaped rest := by
    rw [String.toList_append, String.toList_append, List.append_assoc, ht.unescaped, hu.unescaped,
      List.append_assoc]

theorem behind_plain {m u v : String} (hm : ∀ c ∈ m.toList, c ≠ '\\' ∧ c ≠ '"')
    (hu : Stands u v) : Stands (m ++ u) (m ++ v) where
  inside rest hrest := by
    rw [String.toList_append]
    exact (Inside.plain hm _).append (hu.inside rest hrest)
  unescaped rest := by
    rw [String.toList_append, String.toList_append, List.append_assoc, unescape_plain hm,
      hu.unescaped, List.append_assoc]

theorem newline {t s u v : String} (ht : Stands t s) (hu : Stands u v) :
    Stands (t ++ "\n" ++ u) (s ++ "\n" ++ v) := by
  have hbreak : Stands ("\n" ++ u) ("\n" ++ v) := hu.behind_plain (by simp)
  have hlist : ("\n" ++ u).toList = '\n' :: u.toList := String.toList_append
  rw [String.append_assoc, String.append_assoc]
  refine ht.append hbreak (by rw [hlist]; simp) fun hempty => ?_
  rw [hempty] at hlist
  cases hlist

theorem indented (depth : Nat) (s : String) :
    Stands (Page.indented depth (escapeDocs s)) (Page.indented depth s) := by
  by_cases hs : s = ""
  · rw [Page.indented, Page.indented, if_pos hs, if_pos (escapeDocs_eq_empty.2 hs)]
    exact plain (by simp)
  · rw [Page.indented, Page.indented, if_neg hs, if_neg (mt escapeDocs_eq_empty.1 hs)]
    exact (docs s).behind_plain (margin_plain depth)

theorem lines {t s : String} (ht : Stands t s) (depth : Nat) (more : List String) :
    Stands ("\n".intercalate (t :: more.map fun u => Page.indented depth (escapeDocs u)))
      ("\n".intercalate (s :: more.map (Page.indented depth))) := by
  induction more generalizing t s with
  | nil => simpa using ht
  | cons u more ih =>
    rw [List.map_cons, List.map_cons, String.intercalate_cons_cons, String.intercalate_cons_cons]
    exact ht.newline (ih (indented depth u))

end Stands

theorem line_eq (s : String) (p : Page) :
    p.line s = { p with lines := p.lines ++ [indented p.depth s] } :=
  rfl

theorem foldl_line (more : List String) (p : Page) :
    more.foldl (fun p s => p.line s) p =
      { p with lines := p.lines ++ more.map (indented p.depth) } := by
  induction more generalizing p with
  | nil => simp
  | cons s more ih =>
    rw [List.foldl_cons, ih, line_eq]
    simp

theorem indented_of_ne_empty (depth : Nat) {s : String} (hs : s ≠ "") :
    indented depth s = margin depth ++ s :=
  if_neg hs

theorem intercalate_append_cons (a s : String) (l : List String) :
    "\n".intercalate ((a ++ s) :: l) = a ++ "\n".intercalate (s :: l) := by
  cases l with
  | nil => simp
  | cons t l => simp [String.append_assoc]

theorem intercalate_concat (s t : String) (l : List String) :
    "\n".intercalate (s :: (l ++ [t])) = "\n".intercalate (s :: l) ++ "\n" ++ t := by
  induction l generalizing s with
  | nil => simp
  | cons u l ih =>
    rw [List.cons_append, String.intercalate_cons_cons, ih, String.intercalate_cons_cons]
    simp only [String.append_assoc]

/-- The escaped lines as they stand between the quotes. -/
def docsBody (depth : Nat) (first : String) (more : List String) : String :=
  "\n".intercalate (escapeDocs first :: more.map fun s => indented depth (escapeDocs s))

theorem tripleQuote_append_ne_empty (s : String) : tripleQuote ++ s ≠ "" := by
  intro h
  have hlist := congrArg String.toList h
  rw [String.toList_append] at hlist
  cases hlist

theorem line_tripleQuote (s : String) (p : Page) :
    p.line (tripleQuote ++ s) =
      { p with lines := p.lines ++ [margin p.depth ++ tripleQuote ++ s] } := by
  rw [line_eq, indented_of_ne_empty _ (tripleQuote_append_ne_empty s), String.append_assoc]

theorem exists_added (p : Page) (first : String) (more : List String) :
    ∃ added, p.docs (first :: more) = { p with lines := p.lines ++ added } ∧
      "\n".intercalate added = margin p.depth ++ tripleQuote ++
        (docsBody p.depth first more ++ ending p.depth (first :: more)) ++ tripleQuote := by
  have hclose : ∀ q : Page, q.line tripleQuote =
      { q with lines := q.lines ++ [margin q.depth ++ tripleQuote] } := fun q => by
    simpa using line_tripleQuote "" q
  have hquote : (escapeDocs first).toList.getLast? = first.toList.getLast? := by
    rw [toList_escapeDocs, getLast?_escaped]
  cases more with
  | nil =>
    rw [docs, List.map_cons, List.map_nil]
    simp only [hquote, docsBody, ending, List.map_nil, String.intercalate_singleton]
    by_cases hlast : first.toList.getLast? = some '"'
    · rw [if_pos hlast, if_pos hlast]
      refine ⟨[margin p.depth ++ tripleQuote ++ escapeDocs first, margin p.depth ++ tripleQuote],
        ?_, ?_⟩
      · rw [hclose, line_tripleQuote]
        simp
      · simp [String.append_assoc]
    · rw [if_neg hlast, if_neg hlast]
      refine ⟨[margin p.depth ++ tripleQuote ++ (escapeDocs first ++ tripleQuote)], ?_, ?_⟩
      · rw [String.append_assoc, line_tripleQuote]
      · simp [String.append_assoc]
  | cons s more =>
    refine ⟨(margin p.depth ++ tripleQuote ++ escapeDocs first) ::
      ((s :: more).map (fun s => indented p.depth (escapeDocs s)) ++
        [margin p.depth ++ tripleQuote]), ?_, ?_⟩
    · rw [docs, List.map_cons, List.map_cons]
      simp only
      rw [hclose, foldl_line, line_tripleQuote]
      simp
    · rw [intercalate_concat, intercalate_append_cons, docsBody, ending]
      · simp only [String.append_assoc]
      · simp

theorem ending_cases (depth : Nat) (first : String) (more : List String) :
    ending depth (first :: more) = "\n" ++ margin depth ∨
      ending depth (first :: more) = "" ∧ more = [] ∧ first.toList.getLast? ≠ some '"' := by
  cases more with
  | cons s more => exact .inl rfl
  | nil =>
    rw [ending]
    by_cases hlast : first.toList.getLast? = some '"'
    · exact .inl (if_pos hlast)
    · exact .inr ⟨if_neg hlast, rfl, hlast⟩

theorem ending_plain (depth : Nat) (first : String) (more : List String) :
    ∀ c ∈ (ending depth (first :: more)).toList, c ≠ '\\' ∧ c ≠ '"' := by
  intro c hc
  obtain h | ⟨h, -⟩ := ending_cases depth first more
  · rw [h, String.toList_append, List.mem_append] at hc
    obtain hc | hc := hc
    · obtain rfl : c = '\n' := List.mem_singleton.1 hc
      decide
    · exact margin_plain depth c hc
  · rw [h] at hc
    cases hc

/-- What stands between the quotes is inside, also when a quote comes behind it. -/
theorem inside_content (depth : Nat) (first : String) (more : List String) (rest : List Char) :
    Inside (docsBody depth first more ++ ending depth (first :: more)).toList rest := by
  rw [String.toList_append]
  have hend := Inside.plain (ending_plain depth first more) rest
  obtain h | ⟨h, rfl, hlast⟩ := ending_cases depth first more
  · refine (((Stands.docs first).lines depth more).inside _ ?_).append hend
    rw [h, String.toList_append]
    simp
  · refine Inside.append ?_ hend
    rw [docsBody, List.map_nil, String.intercalate_singleton, toList_escapeDocs]
    exact Inside.escaped fun hquote => absurd hquote hlast

/-- Documentation of one line or more is written between three quotes on each side. Whatever comes
behind it, the literal that the first three open ends with the last three, and undoing the escapes
of what stands between gives the lines that were documented: joined, with those behind the first
indented unless they are empty, and with a line break before closing quotes on a line of their
own. -/
theorem docs_closed (p : Page) (first : String) (more : List String) :
    ∃ added content, p.docs (first :: more) = { p with lines := p.lines ++ added } ∧
      "\n".intercalate added = margin p.depth ++ tripleQuote ++ content ++ tripleQuote ∧
      (∀ rest, literal? (content.toList ++ tripleQuote.toList ++ rest) =
        some (content.toList, rest)) ∧
      String.ofList (unescape content.toList) =
        "\n".intercalate (first :: more.map (indented p.depth)) ++
          ending p.depth (first :: more) := by
  obtain ⟨added, hdocs, htext⟩ := exists_added p first more
  have hbody : Stands (docsBody p.depth first more)
      ("\n".intercalate (first :: more.map (indented p.depth))) :=
    (Stands.docs first).lines p.depth more
  refine ⟨added, _, hdocs, htext, fun rest => ?_, ?_⟩
  · rw [List.append_assoc, inside_content]
    have hclose : literal? (tripleQuote.toList ++ rest) = some ([], rest) := rfl
    rw [hclose, Option.map_some, Prod.map_apply, List.append_nil]
    rfl
  · have hend := unescape_plain (ending_plain p.depth first more) []
    rw [unescape, List.append_nil] at hend
    rw [String.toList_append, hbody.unescaped, hend, String.ofList_append, String.ofList_toList,
      String.ofList_toList]

example : (blank.docs ["a\"\"\"\\", "", "b\""]).lines =
    ["\"\"\"a\\\"\\\"\\\"\\\\", "", "b\"", "\"\"\""] := by
  decide

end RegisterMap.Page
