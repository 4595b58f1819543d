import RegisterMap.Description.Basic
import RegisterMap.Number.Format

/-!
# Constant tables

Constants by path, in the order in which their paths were first added. A bare name stands for the
constant of that name in whichever module holds it, as long as only one does.
-/

namespace RegisterMap

/-- Paths with their values, each path once. -/
structure ConstantTable where
  entries : List (Path × Int)
  deriving DecidableEq, Repr

namespace ConstantTable

def empty : ConstantTable :=
  ⟨[]⟩

/-- The value added last for exactly this path. -/
def get? (t : ConstantTable) (p : Path) : Option Int :=
  t.entries.lookup p

/-- Entries with a value for a path, in its old place when the path is known. -/
def put (p : Path) (value : Int) : List (Path × Int) → List (Path × Int)
  | [] => [(p, value)]
  | e :: es => if e.1 = p then (p, value) :: es else e :: put p value es

/-- The table with a value for a path. -/
def add (t : ConstantTable) (p : Path) (value : Int) : ConstantTable :=
  ⟨put p value t.entries⟩

/-- The value that a new one for the path would replace. -/
def replaced? (t : ConstantTable) (p : Path) (value : Int) : Option Int :=
  (t.get? p).filter (· != value)

/-- The values of the paths that end in a name. -/
def valuesNamed (t : ConstantTable) (name : String) : List Int :=
  (t.entries.filter (·.1.last == name)).map (·.2)

/-- The value of a path, or of a bare name that a single path ends in. -/
def resolve (t : ConstantTable) (p : Path) : Option Int :=
  match t.get? p with
  | some value => some value
  | none =>
    if 1 < p.segments.length then none
    else
      match t.valuesNamed p.last with
      | [value] => some value
      | _ => none

def size (t : ConstantTable) : Nat :=
  t.entries.length

theorem lookup_put_self (p : Path) (value : Int) (es : List (Path × Int)) :
    (put p value es).lookup p = some value := by
  induction es with
  | nil => simp [put]
  | cons e es ih =>
    by_cases h : e.1 = p
    · simp [put, h]
    · have hb : (p == e.1) = false := by simpa using Ne.symm h
      obtain ⟨q, w⟩ := e
      simp only at h hb
      simp [put, h, List.lookup_cons, hb, ih]

/-- A path has the value added last for it. -/
theorem get?_add_self (t : ConstantTable) (p : Path) (value : Int) :
    (t.add p value).get? p = some value :=
  lookup_put_self p value t.entries

end ConstantTable

end RegisterMap
