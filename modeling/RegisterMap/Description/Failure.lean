import RegisterMap.Description.JsonForm
import RegisterMap.Failure

/-!
# Failures of descriptions

The faults of descriptions as failures of a run. A message that would show a number too long to be
written gives way to the complaint about that number.
-/

namespace RegisterMap

/-- A diagnostic whose text shows some numbers. -/
def Failure.showing (numbers : List Int) (d : Diagnostic) : Failure :=
  if numbers.all Number.isShort then .diagnostic d else .longNumber

/-- The source of diagnostics without one of their own. -/
def plainSource : String := "<dsl>"

/-- The failure of a fault in a text of a given name. -/
def SourceFault.failure (source : String) (f : SourceFault) : Failure :=
  match f.cause with
  | .tooDeep => .tooDeep
  | cause => .showing cause.numbers (f.diagnostic source)

theorem SourceFault.failure_of_shallow {f : SourceFault} (h : f.cause ≠ .tooDeep)
    (source : String) : f.failure source = .showing f.cause.numbers (f.diagnostic source) := by
  obtain ⟨cause, line, column⟩ := f
  cases cause with
  | tooDeep => exact absurd rfl h
  | _ => rfl

/-- The failure of a fault in the file called `source`. -/
def JsonFormFault.failure (source : String) : JsonFormFault → Failure
  | cause c => .showing c.numbers (.parse c.message 0 0 plainSource)
  | bits place f => f.failure place
  | json f =>
    match f.reason with
    | .longNumber digits => .badLiteral .plain "" (.tooLong digits)
    | .tooDeep => .tooDeep
    | reason => .diagnostic (.parse ("invalid JSON: " ++ reason.message) f.line f.column source)

end RegisterMap
