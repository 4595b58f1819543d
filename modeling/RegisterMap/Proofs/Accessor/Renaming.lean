import Mathlib.Data.List.Forall2
import RegisterMap.Accessor.Text
import RegisterMap.Proofs.Accessor.Docstring
import RegisterMap.Proofs.Text.Renaming

/-!
# Code with another class name

Accessor code for another class name is written as the same text with the other name in it. What is
written side by side on two pages keeps the pages the same but for names.
-/

namespace RegisterMap

/-- Code with another class name. -/
def AccessorCode.renamed (c : AccessorCode) (n : String) : AccessorCode :=
  { c with className := n }

namespace Writing

mutual

/-- Things to write that are the same but for names, `n` in the one and `n'` in the other. -/
inductive Renamed (n n' : String) : Writing → Writing → Prop where
  | same (x : Writing) : Renamed n n' x x
  | line {s t : String} (h : Text.Renamed n n' s t) : Renamed n n' (.line s) (.line t)
  /-- Documentation with names in the first of several lines. -/
  | docs {s t : String} (h : Text.Renamed n n' (Page.escapeDocs s) (Page.escapeDocs t))
    (more : String) (rest : List String) :
    Renamed n n' (.docs (s :: more :: rest)) (.docs (t :: more :: rest))
  | block {s t : String} (h : Text.Renamed n n' s t) {xs ys : List Writing}
    (hbody : AllRenamed n n' xs ys) : Renamed n n' (.block s xs) (.block t ys)

/-- Lists of things to write that are the same but for names. -/
inductive AllRenamed (n n' : String) : List Writing → List Writing → Prop where
  | nil : AllRenamed n n' [] []
  | cons {x y : Writing} (h : Renamed n n' x y) {xs ys : List Writing}
    (hs : AllRenamed n n' xs ys) : AllRenamed n n' (x :: xs) (y :: ys)

end

namespace AllRenamed

variable {n n' : String}

theorem refl (xs : List Writing) : AllRenamed n n' xs xs := by
  induction xs with
  | nil => exact .nil
  | cons x xs ih => exact .cons (.same x) ih

theorem append {xs ys xs' ys' : List Writing} (h : AllRenamed n n' xs ys)
    (h' : AllRenamed n n' xs' ys') : AllRenamed n n' (xs ++ xs') (ys ++ ys') := by
  cases h with
  | nil => exact h'
  | cons hx hs => exact .cons hx (append hs h')

end AllRenamed

end Writing

namespace Page

/-- Pages that are the same but for names. -/
structure Renamed (n n' : String) (p q : Page) : Prop where
  depth : p.depth = q.depth
  lines : List.Forall₂ (Text.Renamed n n') p.lines q.lines

namespace Renamed

variable {n n' : String} {p q : Page}

theorem line (h : Renamed n n' p q) {s t : String} (hs : Text.Renamed n n' s t) :
    Renamed n n' (p.line s) (q.line t) where
  depth := h.depth
  lines := by
    refine List.rel_append h.lines (.cons ?_ .nil)
    rw [← h.depth]
    by_cases hempty : s = ""
    · rw [if_pos hempty, if_pos (hs.eq_empty_iff.1 hempty)]
      exact .refl _
    · rw [if_neg hempty, if_neg (mt hs.eq_empty_iff.2 hempty)]
      exact (Text.Renamed.refl _).append hs

theorem indent (h : Renamed n n' p q) : Renamed n n' p.indent q.indent where
  depth := congrArg (· + 1) h.depth
  lines := h.lines

theorem outdent (h : Renamed n n' p q) : Renamed n n' p.outdent q.outdent where
  depth := congrArg (· - 1) h.depth
  lines := h.lines

theorem foldl_line (h : Renamed n n' p q) (lines : List String) :
    Renamed n n' (lines.foldl (fun p s => p.line s) p) (lines.foldl (fun p s => p.line s) q) := by
  induction lines generalizing p q with
  | nil => exact h
  | cons s lines ih => exact ih (h.line (.refl s))

theorem docs (h : Renamed n n' p q) (lines : List String) :
    Renamed n n' (p.docs lines) (q.docs lines) := by
  unfold Page.docs
  split
  · exact h
  · split
    · exact (h.line (.refl _)).line (.refl _)
    · exact h.line (.refl _)
  · exact ((h.line (.refl _)).foldl_line _).line (.refl _)

theorem titled (h : Renamed n n' p q) {s t : String}
    (hs : Text.Renamed n n' (escapeDocs s) (escapeDocs t)) (more : String) (rest : List String) :
    Renamed n n' (p.docs (s :: more :: rest)) (q.docs (t :: more :: rest)) :=
  ((h.line ((Text.Renamed.refl _).append hs)).foldl_line _).line (.refl _)

theorem settle (h : Renamed n n' p q) : Renamed n n' p.settle q.settle where
  depth := h.depth
  lines := by
    have hdrop : ∀ {ss ts : List String}, List.Forall₂ (Text.Renamed n n') ss ts →
        List.Forall₂ (Text.Renamed n n') (ss.dropWhile (· == "")) (ts.dropWhile (· == "")) := by
      intro ss ts hss
      induction hss with
      | nil => exact .nil
      | @cons s t ss ts hs hss ih =>
        rw [List.dropWhile_cons, List.dropWhile_cons]
        simp only [beq_iff_eq]
        by_cases hempty : s = ""
        · rw [if_pos hempty, if_pos (hs.eq_empty_iff.1 hempty)]
          exact ih
        · rw [if_neg hempty, if_neg (mt hs.eq_empty_iff.2 hempty)]
          exact .cons hs hss
    exact List.forall₂_reverse_iff.2 (hdrop (List.forall₂_reverse_iff.2 h.lines))

theorem text (h : Renamed n n' p q) : Text.Renamed n n' p.text q.text :=
  (Text.Renamed.intercalate _ h.settle.lines).append (.refl _)

mutual

theorem write_same {p q : Page} (h : Renamed n n' p q) (x : Writing) :
    Renamed n n' (p.write x).1 (q.write x).1 := by
  cases x with
  | line s => exact h.line (.refl s)
  | indent => exact h.indent
  | outdent => exact h.outdent
  | docs lines => exact h.docs lines
  | block header body => exact (writeAll_same (h.line (.refl header)).indent body).outdent
  | look => exact h.settle

theorem writeAll_same {p q : Page} (h : Renamed n n' p q) (xs : List Writing) :
    Renamed n n' (p.writeAll xs).1 (q.writeAll xs).1 := by
  cases xs with
  | nil => exact h
  | cons x xs => exact writeAll_same (write_same h x) xs

end

mutual

/-- Things that are the same but for names keep pages the same but for names. -/
theorem write {p q : Page} (h : Renamed n n' p q) {x y : Writing}
    (hx : Writing.Renamed n n' x y) : Renamed n n' (p.write x).1 (q.write y).1 := by
  cases hx with
  | same => exact h.write_same x
  | line hs => exact h.line hs
  | docs hs more rest => exact h.titled hs more rest
  | block hs hbody => exact (writeAll (h.line hs).indent hbody).outdent

theorem writeAll {p q : Page} (h : Renamed n n' p q) {xs ys : List Writing}
    (hxs : Writing.AllRenamed n n' xs ys) :
    Renamed n n' (p.writeAll xs).1 (q.writeAll ys).1 := by
  cases hxs with
  | nil => exact h
  | cons hx hxs => exact writeAll (write h hx) hxs

end

end Renamed

theorem escapeDocs_of_plain {s : String} (h : ∀ c ∈ s.toList, c ≠ '\\' ∧ c ≠ '"') :
    escapeDocs s = s := by
  have hescaped : ∀ cs : List Char, (∀ c ∈ cs, c ≠ '\\' ∧ c ≠ '"') → escaped cs = cs := by
    intro cs hcs
    induction cs with
    | nil => rfl
    | cons c cs ih =>
      obtain ⟨⟨hslash, hquote⟩, hcs⟩ := List.forall_mem_cons.1 hcs
      rw [escaped_cons hslash fun he => absurd he hquote, ih hcs]
  rw [← String.toList_inj, toList_escapeDocs, hescaped _ h]

end Page

namespace AccessorCode

variable {n n' : String}

theorem renamed_inQuotes : Text.Renamed n n' (inQuotes n) (inQuotes n') :=
  (Text.Renamed.behind (c := '"') rfl (by decide)).append (.refl _)

/-- The first line of a module, which needs no escapes. -/
theorem renamed_title (hn : Text.isIdentifier n = true) (hn' : Text.isIdentifier n' = true) :
    Text.Renamed n n' (Page.escapeDocs ("Register accessors for ``" ++ n ++ "``."))
      (Page.escapeDocs ("Register accessors for ``" ++ n' ++ "``.")) := by
  have hplain : ∀ {t : String}, (t.toList.all fun d => d != '\\' && d != '"') = true →
      ∀ d ∈ t.toList, d ≠ '\\' ∧ d ≠ '"' := fun h d hd => by
    simpa using List.all_eq_true.1 h d hd
  have hescaped : ∀ {m : String}, Text.isIdentifier m = true →
      Page.escapeDocs ("Register accessors for ``" ++ m ++ "``.") =
        "Register accessors for ``" ++ m ++ "``." := by
    intro m hm
    refine Page.escapeDocs_of_plain fun d hd => ?_
    rw [String.toList_append, String.toList_append, List.append_assoc] at hd
    rcases List.mem_append.1 hd with hd | hd
    · exact hplain rfl d hd
    rcases List.mem_append.1 hd with hd | hd
    · constructor
      · rintro rfl
        exact Text.not_mem_of_isIdentifier (by decide) (by decide) hm hd
      · rintro rfl
        exact Text.not_mem_of_isIdentifier (by decide) (by decide) hm hd
    · exact hplain rfl d hd
  rw [hescaped hn, hescaped hn']
  exact (Text.Renamed.behind (c := '`') rfl (by decide)).append (.refl _)

variable (c : AccessorCode) (hn : Text.isIdentifier c.className = true)
  (hn' : Text.isIdentifier n' = true)

include hn hn' in
theorem renamed_preamble :
    Writing.AllRenamed c.className n' (preamble c) (preamble (c.renamed n')) := by
  have hexport : Text.Renamed c.className n' ("__all__ = [" ++ inQuotes c.className ++ "]")
      ("__all__ = [" ++ inQuotes n' ++ "]") :=
    ((Text.Renamed.refl _).append renamed_inQuotes).append (.refl _)
  refine .cons (.docs (renamed_title hn hn') _ _) ?_
  exact .append (.refl [_, _, _, _, _, _]) (.cons (.line hexport) .nil)

theorem renamed_construction :
    Writing.AllRenamed c.className n' (construction c) (construction (c.renamed n')) := by
  have hmessage : Text.Renamed c.className n'
      ("f\"" ++ ("0x\x7bbase_address:08X\x7d is not a device port of " ++ c.className) ++ "\",")
      ("f\"" ++ ("0x\x7bbase_address:08X\x7d is not a device port of " ++ n') ++ "\",") :=
    ((Text.Renamed.refl _).append (.behind (c := ' ') rfl (by decide))).append (.refl _)
  have hguard : Writing.AllRenamed c.className n'
      (if c.ports.isEmpty then [] else guard "base_address in self.PORTS"
        ("0x\x7bbase_address:08X\x7d is not a device port of " ++ c.className))
      (if c.ports.isEmpty then [] else guard "base_address in self.PORTS"
        ("0x\x7bbase_address:08X\x7d is not a device port of " ++ n')) := by
    split
    · exact .nil
    · exact .append (.refl [_, _, _]) (.cons (.line hmessage) (.refl _))
  have hnew : Text.Renamed c.className n'
      ("def new(cls, base_address: int, memory: Memory) -> " ++ inQuotes c.className ++ ":")
      ("def new(cls, base_address: int, memory: Memory) -> " ++ inQuotes n' ++ ":") :=
    ((Text.Renamed.refl _).append renamed_inQuotes).append (.refl _)
  refine .append (.refl [_, _]) (.cons (.block (.refl _) (.append hguard (.refl _))) ?_)
  exact .append (.refl [_, _]) (.cons (.block hnew (.refl _)) .nil)

theorem renamed_classLines :
    Writing.Renamed c.className n' (classLines c) (classLines (c.renamed n')) := by
  refine .block ((Text.Renamed.behind (c := ' ') rfl (by decide)).append (.refl _)) ?_
  exact .append (.append (.refl _) (renamed_construction c)) (.refl _)

include hn hn' in
/-- Code for another class name is the same text with the other name in it. -/
theorem renamed_text : Text.Renamed c.className n' c.text (c.renamed n').text := by
  refine Page.Renamed.text (Page.Renamed.writeAll ⟨rfl, .nil⟩ ?_)
  refine .append (renamed_preamble c hn hn') ?_
  exact .cons (.same _) (.cons (.same _) (.cons (renamed_classLines c) .nil))

end AccessorCode

end RegisterMap
