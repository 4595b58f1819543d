import Mathlib.Data.List.Basic
import RegisterMap.Text.Blank

/-!
# Texts without blanks at their ends

A stripped text has a blank at neither end, and a text that has none is left as it is.
-/

namespace RegisterMap.Text

theorem dropWhile_of_head {p : Char → Bool} {cs : List Char}
    (h : ∀ c ∈ cs.head?, p c = false) : cs.dropWhile p = cs := by
  cases cs with
  | nil => rfl
  | cons c cs => exact List.dropWhile_cons_of_neg (by simp [h c rfl])

theorem head_dropWhile {p : Char → Bool} (cs : List Char) :
    ∀ c ∈ (cs.dropWhile p).head?, p c = false := by
  intro c hc
  have hnot := List.head?_dropWhile_not p cs
  rw [hc] at hnot
  simpa using hnot

theorem stripChars_of_ends {cs : List Char} (hhead : ∀ c ∈ cs.head?, isBlank c = false)
    (hlast : ∀ c ∈ cs.getLast?, isBlank c = false) : stripChars cs = cs := by
  rw [stripChars, dropWhile_of_head hhead, dropWhile_of_head, List.reverse_reverse]
  rwa [List.head?_reverse]

theorem getLast_stripChars (cs : List Char) :
    ∀ c ∈ (stripChars cs).getLast?, isBlank c = false := by
  rw [stripChars, List.getLast?_reverse]
  exact head_dropWhile _

theorem head_stripChars (cs : List Char) : ∀ c ∈ (stripChars cs).head?, isBlank c = false := by
  intro c hc
  refine head_dropWhile cs c ?_
  obtain ⟨tail, htail⟩ := List.dropWhile_suffix isBlank (l := (cs.dropWhile isBlank).reverse)
  have hfront : cs.dropWhile isBlank = stripChars cs ++ tail.reverse := by
    rw [stripChars, ← List.reverse_append, htail, List.reverse_reverse]
  rw [hfront, List.head?_append, Option.mem_def.1 hc]
  rfl

theorem strip_stripped (cs : List Char) :
    strip (String.ofList (stripChars cs)) = String.ofList (stripChars cs) := by
  rw [strip, String.toList_ofList, stripChars_of_ends (head_stripChars _) (getLast_stripChars _)]

end RegisterMap.Text
