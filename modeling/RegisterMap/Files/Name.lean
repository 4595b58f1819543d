import RegisterMap.Text.Utf8

/-!
# File names

Files are named by bytes. A text writes a name as UTF-8, and each byte that belongs to no character
as one of the halves from `U+DC80` on.
-/

namespace RegisterMap.Files

open Text (Point)

/-- The name of a file or directory, or the text of a path, in bytes. -/
abbrev Name := List UInt8

namespace Name

/-- The place among the halves of the one that would stand for the byte zero. -/
def escapeBase : Nat := 0x400

/-- The half that stands for a byte. -/
def escape (b : UInt8) : Point :=
  .half ⟨(escapeBase + b.toNat) % 0x800, Nat.mod_lt _ (by decide)⟩

/-- The byte that a half stands for. -/
def escaped? : Point → Option UInt8
  | .char _ => none
  | .half place =>
    if escapeBase + 0x80 ≤ place ∧ place < escapeBase + 0x100 then
      some (UInt8.ofNat (place - escapeBase))
    else none

/-- Whether a code point cannot stand in a name. -/
def isForeign (p : Point) : Bool :=
  p.isHalf && (escaped? p).isNone

/-- The first code points of a text that cannot stand in a name. -/
def fault? (s : String) : Option Text.Utf8.EncodeFault :=
  Text.Utf8.firstFault isForeign 0 (Text.pointsOf s)

/-- The bytes of a code point in a name. -/
def pointBytes (p : Point) : List UInt8 :=
  match escaped? p with
  | some b => [b]
  | none => Text.Utf8.pointBytes p

def ofText (s : String) : Name :=
  (Text.pointsOf s).flatMap pointBytes

/-- The code points of a name. -/
def points : List UInt8 → List Point
  | [] => []
  | a :: rest =>
    match Text.Utf8.front a rest with
    | .fault _ _ => escape a :: points rest
    | .char c more => .char c :: points (rest.drop more)
termination_by bytes => bytes.length
decreasing_by all_goals (simp only [List.length_drop, List.length_cons]; omega)

def text (name : Name) : String :=
  String.ofList (Text.ofPoints (points name))

/-- The parts of a path joined by slashes. -/
def join (names : List Name) : Name :=
  [0x2F].intercalate names

end Name

end RegisterMap.Files
