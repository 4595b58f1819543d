import RegisterMap.Text.Case
import RegisterMap.Text.Lines

/-!
# Paths

Names of constants inside modules. A path is written with `::` or `.` between its segments and
shown with `::`.
-/

namespace RegisterMap

/-- The segments of a path, outermost module first. There is one at least. -/
@[ext]
structure Path where
  segments : List String
  ne_nil : segments ≠ []
  deriving DecidableEq, Repr

namespace Path

/-- The path of a name inside modules, outermost first. -/
def inModules (modules : List String) (name : String) : Path :=
  ⟨modules ++ [name], List.append_ne_nil_of_right_ne_nil _ (List.cons_ne_nil _ _)⟩

/-- A list with each `::` written as one dot. -/
def dotted : List Char → List Char
  | ':' :: ':' :: cs => '.' :: dotted cs
  | c :: cs => c :: dotted cs
  | [] => []

/-- The path that a text writes; empty segments are dropped, and some segment must remain. -/
def ofText? (s : String) : Option Path :=
  let parts := (Text.splitOnChar '.' (dotted s.toList)).filter fun part => !part.isEmpty
  if h : parts = [] then none
  else some ⟨parts.map String.ofList, fun hparts => h (List.map_eq_nil_iff.1 hparts)⟩

def last (p : Path) : String :=
  p.segments.getLast p.ne_nil

/-- The name of the register that a path stands for. -/
def registerName (p : Path) : String :=
  Text.lower p.last

def text (p : Path) : String :=
  "::".intercalate p.segments

end Path

end RegisterMap
