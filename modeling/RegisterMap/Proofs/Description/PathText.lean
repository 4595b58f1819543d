import RegisterMap.Description.JsonForm
import RegisterMap.Proofs.Description.PathReading
import RegisterMap.Proofs.Description.Written
import RegisterMap.Proofs.Text.Ascii
import RegisterMap.Proofs.Text.Strip

/-!
# Words and paths as text

The characters of a word are plain letters, digits and underscores, so that a word is an identifier
and has neither blanks nor marks. The text of a path of words is read as the path.
-/

namespace RegisterMap

open Text

namespace Lexer

section Characters

variable {c : Char}

theorem isWordPart_of_isWordStart (h : isWordStart c = true) : isWordPart c = true := by
  simp only [isWordStart, isWordPart, Char.isAlphanum, Bool.or_eq_true] at h ⊢
  exact h.imp_left .inl

theorem lt_of_isWordPart (h : isWordPart c = true) : c.toNat < 0x80 := by
  obtain h | h := Bool.or_eq_true_iff.1 h
  · exact lt_of_isAlphanum h
  · rw [eq_of_beq h]
    decide

theorem lt_of_isWordStart (h : isWordStart c = true) : c.toNat < 0x80 :=
  lt_of_isWordPart (isWordPart_of_isWordStart h)

theorem isNamePart_of_isWordPart (h : isWordPart c = true) : isNamePart c = true :=
  of_forall_lt (fun c => isWordPart c = true → isNamePart c = true) (by decide)
    (lt_of_isWordPart h) h

theorem isBlank_of_isWordPart (h : isWordPart c = true) : isBlank c = false :=
  of_forall_lt (fun c => isWordPart c = true → isBlank c = false) (by decide)
    (lt_of_isWordPart h) h

/-- A word starts like a name and not like a number, and with a letter if not with the
underscore. -/
theorem start_of_isWordStart (h : isWordStart c = true) :
    isNameStart c = true ∧ Text.isDigit c = false ∧ (isLetter c = true ↔ c ≠ '_') :=
  of_forall_lt
    (fun c => isWordStart c = true → isNameStart c = true ∧ Text.isDigit c = false ∧
      (isLetter c = true ↔ c ≠ '_'))
    (by decide) (lt_of_isWordStart h) h

end Characters

namespace IsWord

variable {s : String}

theorem ne_empty (h : IsWord s) : s.toList ≠ [] := by
  obtain ⟨c, cs, hs, -⟩ := h
  rw [hs]
  exact nofun

theorem isWordPart (h : IsWord s) : ∀ c ∈ s.toList, Lexer.isWordPart c = true := by
  obtain ⟨c, cs, hs, hc, hcs⟩ := h
  rw [hs]
  exact List.forall_mem_cons.2 ⟨isWordPart_of_isWordStart hc, hcs⟩

theorem isIdentifier (h : IsWord s) : isIdentifier s = true := by
  obtain ⟨c, cs, hs, hc, hcs⟩ := h
  rw [Text.isIdentifier, hs]
  simp only [(start_of_isWordStart hc).1, Bool.true_and, List.all_eq_true]
  exact fun d hd => isNamePart_of_isWordPart (hcs d hd)

theorem not_mem (h : IsWord s) {c : Char} (hc : Lexer.isWordPart c = false) : c ∉ s.toList := by
  intro hmem
  cases hc.symm.trans (h.isWordPart c hmem)

end IsWord

end Lexer

namespace Path

open Lexer

theorem Written.exists_segments {p : Path} (h : p.Written) :
    ∃ first more, p.segments = first :: more ∧ IsWord first ∧ ∀ s ∈ more, IsWord s := by
  obtain ⟨first, more, hp⟩ := List.exists_cons_of_ne_nil p.ne_nil
  exact ⟨first, more, hp, List.forall_mem_cons.1 fun s hs => h s (hp ▸ hs)⟩

variable {p : Path}

theorem Written.isSegment (h : p.Written) : ∀ s ∈ p.segments, IsSegment s := fun s hs =>
  ⟨(h s hs).ne_empty, (h s hs).not_mem (by decide),
    isSparse_of_not_mem ((h s hs).not_mem (by decide))⟩

theorem Written.isSettled (h : p.Written) : p.IsSettled := fun s hs hlast =>
  (h s (List.dropLast_subset _ hs)).not_mem (by decide) (List.mem_of_getLast? hlast)

/-- The text of a path is read as the path. -/
theorem ofText?_text (h : p.Written) : ofText? p.text = some p :=
  ofText?_text_of_isSettled h.isSegment h.isSettled

theorem text_injective {q : Path} (hp : p.Written) (hq : q.Written) (h : p.text = q.text) :
    p = q := by
  have hread := ofText?_text hp
  rw [h, ofText?_text hq] at hread
  exact (Option.some.inj hread).symm

theorem isBlank_of_mem_text (h : p.Written) : ∀ c ∈ p.text.toList, isBlank c = false := by
  obtain ⟨first, more, hp, hfirst, hmore⟩ := h.exists_segments
  have hword : ∀ {s}, IsWord s → ∀ c ∈ s.toList, isBlank c = false := fun hs c hc =>
    isBlank_of_isWordPart (hs.isWordPart c hc)
  rw [text, hp]
  clear hp
  induction more generalizing first with
  | nil => simpa using hword hfirst
  | cons s more ih =>
    obtain ⟨hs, hmore⟩ := List.forall_mem_cons.1 hmore
    have hcolon : isBlank ':' = false := by decide
    have hseparator : ∀ c ∈ "::".toList, isBlank c = false := by simpa using hcolon
    rw [String.intercalate_cons_cons, String.toList_append, String.toList_append]
    refine List.forall_mem_append.2 ⟨List.forall_mem_append.2 ⟨hword hfirst, hseparator⟩, ?_⟩
    exact ih s hs hmore

theorem strip_text (h : p.Written) : Text.strip p.text = p.text := by
  have hblank := isBlank_of_mem_text h
  rw [strip, stripChars_of_ends (fun c hc => hblank c (List.mem_of_head? hc))
    (fun c hc => hblank c (List.mem_of_getLast? hc)), String.ofList_toList]

theorem exists_start (h : p.Written) :
    ∃ c cs, p.text.toList = c :: cs ∧ isWordStart c = true := by
  obtain ⟨first, more, hp, ⟨c, cs, hcs, hc, -⟩, -⟩ := h.exists_segments
  cases more with
  | nil => exact ⟨c, cs, by rw [text, hp, String.intercalate_singleton, hcs], hc⟩
  | cons s more =>
    have htext : p.text.toList =
        c :: (cs ++ "::".toList ++ ("::".intercalate (s :: more)).toList) := by
      rw [text, hp, String.intercalate_cons_cons, String.toList_append, String.toList_append, hcs]
      rfl
    exact ⟨c, _, htext, hc⟩

end Path

namespace JsonForm

variable {p : Path}

theorem path_text (h : p.Written) (place : String) :
    path place (some (.text p.text)) = .ok p := by
  obtain ⟨c, cs, hcs, hc⟩ := Path.exists_start h
  have hdigit : Text.isDigit c ≠ true := by simp [(Lexer.start_of_isWordStart hc).2.1]
  refine bind_eq_ok.2 ⟨p.text, rfl, ?_⟩
  simp only [Path.strip_text h, hcs, if_neg hdigit, Path.ofText?_text h]

/-- The text of a path is taken for a path unless it starts with the underscore. -/
theorem startsLikePath_text (h : p.Written) :
    startsLikePath p.text = true ↔ p.text.toList.head? ≠ some '_' := by
  obtain ⟨c, cs, hcs, hc⟩ := Path.exists_start h
  simp only [startsLikePath, Path.strip_text h, hcs, (Lexer.start_of_isWordStart hc).2.2,
    List.head?_cons, ne_eq, Option.some.injEq]

end JsonForm

end RegisterMap
