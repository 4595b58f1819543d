import RegisterMap.Description.BitSpec
import RegisterMap.Description.Lexer
import RegisterMap.Description.Policy
import RegisterMap.Diagnostic

/-!
# Faults of a description's text

Why a text is no description, and the place where that shows.
-/

namespace RegisterMap

/-- Why a text is no description. -/
inductive SourceCause where
  | unexpectedCharacter (p : Text.Point)
  | badInteger (written : String)
  /-- Something else stands where `what` has to. -/
  | expected (what : String) (found : Lexeme)
  | notANumber (constant : String) (found : Lexeme)
  | unknownAttribute (found : Lexeme)
  | secondAttribute
  | emptyRange (field : String) (bit : BitSpec) (start stop : Int)
  | badBound (found : Lexeme)
  | openInclusiveRange
  | unknownPolicy (found : Lexeme)
  | constantRequired (what : String) (found : Lexeme)
  | afterBit (found : Lexeme)
  /-- More modules are open at once than calls can be nested. -/
  | tooDeep
  deriving DecidableEq, Repr

namespace SourceCause

def message : SourceCause → String
  | unexpectedCharacter p => "unexpected character " ++ Text.quoted (String.ofList p.kept)
  | badInteger written => "invalid integer literal " ++ Text.quoted written
  | expected what found => "expected " ++ what ++ ", found " ++ found.shown
  | notANumber constant found =>
    "constant " ++ constant ++ " must be a non-negative integer literal, found " ++ found.shown
  | unknownAttribute found => "unknown attribute " ++ found.shown ++ ", expected 'bit'"
  | secondAttribute => "a field takes exactly one #[bit(...)] attribute"
  | emptyRange field bit start stop =>
    "field " ++ field ++ ": bit range " ++ bit.text ++ " resolves to " ++ toString start ++ "..="
      ++ toString stop ++ ", which is inverted or empty"
  | badBound found => "bit range bounds must be integer literals, found " ++ found.shown
  | openInclusiveRange => "an inclusive range '..=' needs an end bound"
  | unknownPolicy found =>
    "unknown access policy " ++ found.shown ++ ", expected one of " ++ Policy.keywords
  | constantRequired what found =>
    "constant required to name the " ++ what ++ ", found " ++ found.shown
  | afterBit found => "unexpected " ++ found.shown ++ " after the bit specification"
  | tooDeep => ""

/-- The numbers that the wording shows. -/
def numbers : SourceCause → List Int
  | expected _ found => found.numbers
  | notANumber _ found => found.numbers
  | unknownAttribute found => found.numbers
  | emptyRange _ bit start stop => bit.numbers ++ [start, stop]
  | badBound found => found.numbers
  | unknownPolicy found => found.numbers
  | constantRequired _ found => found.numbers
  | afterBit found => found.numbers
  | _ => []

end SourceCause

/-- A cause and the line and column, from one, where it shows. -/
structure SourceFault where
  cause : SourceCause
  line : Nat
  column : Nat
  deriving DecidableEq, Repr

namespace SourceFault

/-- The diagnostic of a fault in a text of a given name. -/
def diagnostic (f : SourceFault) (source : String) : Diagnostic :=
  .parse f.cause.message f.line f.column source

/-- A fault met while cutting a text into tokens. -/
def ofLexer (f : Lexer.Fault) : SourceFault :=
  match f.cause with
  | .unexpected p => ⟨.unexpectedCharacter p, f.line, f.column⟩
  | .badInteger written => ⟨.badInteger written, f.line, f.column⟩

end SourceFault

end RegisterMap
