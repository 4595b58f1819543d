import RegisterMap.Description.Path
import RegisterMap.Log
import RegisterMap.Number.Format
import RegisterMap.Step

/-!
# Notices

What is said about a description while it is turned into accessors, without stopping.
-/

namespace RegisterMap

/-- Something worth saying. -/
inductive Notice where
  | input (path : String)
  | parsed (source : String) (ports fields constants : Nat)
  | constantsRead (count : Nat) (path : String)
  | redefined (path : Path) (old new : Int)
  | portTwice (value : Int)
  | noPorts (source : String)
  | alreadyBound (field register : String) (first path : Path)
  | overlap (earlier later register : String)
  | analyzed (source : String) (fields registers : Nat)
  | generated (className : String) (lines accessors : Nat)
  | written (path : String)
  | loaded (code : String)
  | built (className : String) (base : Int) (registers : Nat) (backing : String)
  | configured (validate : Bool) (wordBits : Int)
  deriving DecidableEq, Repr

namespace Notice

def severity : Notice → Log.Severity
  | parsed .. => .debug
  | loaded _ => .debug
  | configured .. => .debug
  | redefined .. => .warning
  | portTwice _ => .warning
  | alreadyBound .. => .warning
  | overlap .. => .warning
  | _ => .info

/-- The topic a notice belongs to. -/
def topic : Notice → String
  | input _ => "regforge.app"
  | written _ => "regforge.app"
  | built .. => "regforge.app"
  | parsed .. => "regforge.dsl.parser"
  | constantsRead .. => "regforge.pipeline"
  | generated .. => "regforge.codegen.generator"
  | loaded _ => "regforge.codegen.loader"
  | configured .. => "regforge.config"
  | _ => "regforge.analysis.analyzer"

/-- The text of a truth value. -/
def truthText (b : Bool) : String :=
  if b then "True" else "False"

def text : Notice → String
  | input path => "Input: " ++ path
  | parsed source ports fields constants =>
    "parsed " ++ source ++ ": " ++ toString ports ++ " ports, " ++ toString fields ++ " fields, "
      ++ toString constants ++ " constants"
  | constantsRead count path => "loaded " ++ toString count ++ " constants from " ++ path
  | redefined path old new =>
    "constant " ++ path.text ++ " redefined: " ++ Number.prefixedHex 0 old ++ " -> "
      ++ Number.prefixedHex 0 new
  | portTwice value => "device port " ++ Number.prefixedHex 0 value ++ " listed twice"
  | noPorts source => source ++ ": no device ports declared, base address checks disabled"
  | alreadyBound field register first path =>
    "field " ++ field ++ ": register " ++ register ++ " already bound to " ++ first.text
      ++ ", ignoring " ++ path.text
  | overlap earlier later register =>
    "fields " ++ earlier ++ " and " ++ later ++ " overlap in register " ++ register
  | analyzed source fields registers =>
    source ++ ": " ++ toString fields ++ " fields over " ++ toString registers ++ " registers"
  | generated className lines accessors =>
    "generated " ++ className ++ ": " ++ toString lines ++ " lines, " ++ toString accessors
      ++ " accessors"
  | written path => "Wrote " ++ path
  | loaded code => "loaded generated module " ++ code
  | built className base registers backing =>
    className ++ " at " ++ Number.prefixedHex 8 base ++ " (" ++ toString registers
      ++ " registers, backend=" ++ backing ++ ")"
  | configured validate wordBits =>
    "settings: Settings(validate=" ++ truthText validate ++ ", word_bits=" ++ toString wordBits
      ++ ")"

def record (n : Notice) : Log.Record :=
  Log.record n.severity n.topic n.text

end Notice

/-- A step that may say something. -/
abbrev Noting (ε α : Type) := Step (List Notice) ε α

def note {ε : Type} (n : Notice) : Noting ε Unit :=
  Step.change (· ++ [n])

end RegisterMap
