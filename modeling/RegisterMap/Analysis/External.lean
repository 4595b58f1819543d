import RegisterMap.Analysis.ConstantTable
import RegisterMap.Analysis.Notice
import RegisterMap.Failure
import RegisterMap.Json.Value
import RegisterMap.Number.Double

/-!
# External constants

Constants that are given beside a description, as items of a file or as a mapping from path texts
to values, and how constants enter a table.
-/

namespace RegisterMap

/-- Constants from outside a description. -/
inductive External where
  | items (constants : List Constant)
  | mapping (members : List (String × Json))
  deriving Repr

namespace External

def none : External :=
  .items []

/-- The integer that a value stands for: fractions are cut off, truth values count as zero and
one, and texts are read in decimal. -/
def integer : Json → Except Failure Int
  | .int n => .ok n
  | .bool b => .ok (if b then 1 else 0)
  | .real "NaN" => .error (.notFinite true)
  | .real "Infinity" => .error (.notFinite false)
  | .real "-Infinity" => .error (.notFinite false)
  | .real written =>
    match (Number.Decimal.ofLiteral written.toList).toInt? with
    | some n => .ok n
    | Option.none => .error (.notFinite false)
  | .text s => (Number.read .plain s).mapError (.badLiteral .plain s)
  | .null => .error (.notNumeric "NoneType")
  | .list _ => .error (.notNumeric "list")
  | .object _ => .error (.notNumeric "dict")

end External

/-- A table that is being filled, and what was said while it was. -/
structure Filling where
  table : ConstantTable
  notices : List Notice
  deriving Repr

namespace Filling

/-- Adds a value and tells when it replaces another one. -/
def add {ε : Type} (p : Path) (value : Int) : Step Filling ε Unit :=
  Step.change fun s =>
    let said := match s.table.replaced? p value with
      | some old => [Notice.redefined p old value]
      | none => []
    ⟨s.table.add p value, s.notices ++ said⟩

def addConstants {ε : Type} (constants : List Constant) : Step Filling ε Unit :=
  constants.forM fun c => add c.path c.value

/-- Adds a member of a mapping. -/
def addMember (member : String × Json) : Step Filling Failure Unit :=
  match Path.ofText? member.1 with
  | none => Step.fail (.emptyPath member.1)
  | some p => do
    let value ← Step.ofOutcome (External.integer member.2)
    add p value

def addExternal : External → Step Filling Failure Unit
  | .items constants => addConstants constants
  | .mapping members => members.forM addMember

end Filling

/-- The table that a step fills. -/
def ConstantTable.filledBy {ε : Type} (x : Step Filling ε Unit) : Noting ε ConstantTable :=
  fun ns =>
    match x.run ⟨ConstantTable.empty, ns⟩ with
    | (.ok _, s) => (.ok s.table, s.notices)
    | (.error e, s) => (.error e, s.notices)

end RegisterMap
