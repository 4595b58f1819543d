import RegisterMap.Text.Lines

/-!
# File paths

Paths of files, without the parts that say nothing: empty ones and single dots.
-/

namespace RegisterMap.Files

/-- A path: the slashes that it starts with, none, one or two, and its parts. -/
structure FilePath where
  root : Nat
  parts : List String
  deriving DecidableEq, Repr

namespace FilePath

/-- The number of slashes that root a path; three and more count as one. -/
def rootOf (cs : List Char) : Nat :=
  match (cs.takeWhile (· == '/')).length with
  | 0 => 0
  | 2 => 2
  | _ => 1

def ofText (s : String) : FilePath :=
  let parts := (Text.splitOnChar '/' s.toList).map String.ofList
  ⟨rootOf s.toList, parts.filter fun p => p != "" && p != "."⟩

def text (p : FilePath) : String :=
  if p.root = 0 ∧ p.parts = [] then "."
  else String.ofList (List.replicate p.root '/') ++ "/".intercalate p.parts

def name (p : FilePath) : String :=
  p.parts.getLastD ""

/-- The end of a name from its last dot on, unless the dot stands first or last. -/
def suffixOf (name : List Char) : List Char :=
  let tail := (name.reverse.takeWhile (· != '.')).reverse
  if tail.isEmpty || name.length ≤ tail.length + 1 then [] else '.' :: tail

/-- The end of the name from its last dot on. -/
def suffix (p : FilePath) : String :=
  String.ofList (suffixOf p.name.toList)

/-- The path of the directory that holds the file. -/
def parent (p : FilePath) : FilePath :=
  { p with parts := p.parts.dropLast }

end FilePath

end RegisterMap.Files
