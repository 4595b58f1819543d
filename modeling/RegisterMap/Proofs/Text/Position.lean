import Mathlib.Data.List.DropRight
import RegisterMap.Text.Point

/-!
# Positions in a text

Where the rest of a text starts: its line and column, both from one. A line is as long as it has
code points.
-/

namespace RegisterMap.Text

/-- The characters behind the last line break. -/
def lastLine (cs : List Char) : List Char :=
  cs.rtakeWhile (· != '\n')

/-- `rest` stands in `text` at a line and column: as many line breaks and, behind the last of them,
as many code points are in front of it. -/
def StandsAt (text : List Char) (line column : Nat) (rest : List Char) : Prop :=
  ∃ before, before ++ rest = text ∧ before.count '\n' + 1 = line ∧
    size (lastLine before) + 1 = column

theorem lastLine_append {cs : List Char} (h : '\n' ∉ cs) (before : List Char) :
    lastLine (before ++ cs) = lastLine before ++ cs := by
  have hall : ∀ d ∈ cs.reverse, (d != '\n') = true := by
    intro d hd
    simp only [bne_iff_ne]
    rintro rfl
    exact h (List.mem_reverse.1 hd)
  rw [lastLine, lastLine, List.rtakeWhile, List.rtakeWhile, List.reverse_append,
    List.takeWhile_append_of_pos hall, List.reverse_append, List.reverse_reverse]

theorem lastLine_newline (before : List Char) : lastLine (before ++ ['\n']) = [] :=
  List.rtakeWhile_concat_neg _ _ _ (by decide)

theorem points_cons {c : Char} (hc : c ≠ halfMark) (cs : List Char) :
    points (c :: cs) = .char c :: points cs := by
  rw [points.eq_def]
  exact if_neg hc

theorem points_mark (c : Char) (cs : List Char) :
    points (halfMark :: c :: cs) = behindMark c :: points cs := by
  rw [points.eq_def]
  exact if_pos rfl

/-- A text without marks is read apart from what is behind it. -/
theorem points_append {cs : List Char} (h : halfMark ∉ cs) (rest : List Char) :
    points (cs ++ rest) = points cs ++ points rest := by
  induction cs with
  | nil => rfl
  | cons c cs ih =>
    have hc : c ≠ halfMark := fun hc => h (hc ▸ List.mem_cons_self)
    rw [List.cons_append, points_cons hc, points_cons hc,
      ih fun hm => h (List.mem_cons_of_mem c hm), List.cons_append]

theorem size_append {cs : List Char} (h : halfMark ∉ cs) (rest : List Char) :
    size (cs ++ rest) = size cs + size rest := by
  rw [size, points_append h, List.length_append, size, size]

end RegisterMap.Text
