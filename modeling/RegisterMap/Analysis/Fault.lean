import RegisterMap.Description.BitSpec
import RegisterMap.Description.Path
import RegisterMap.Description.Policy
import RegisterMap.Description.Failure

/-!
# Faults of analysis

Why a description that can be read describes no device.
-/

namespace RegisterMap

inductive AnalysisFault where
  | badWidth (bits : Int)
  | noFields (source : String)
  | unusableName (field : String)
  | declaredTwice (field : String) (line : Nat)
  | sharedPrefix (field capitals other : String) (line : Nat)
  | bitOutside (field : String) (bit : Int) (wordBits : Nat)
  | emptyRange (field : String) (bit : BitSpec)
  | rangeOutside (field : String) (start stop : Int) (wordBits : Nat)
  | rangeOfSingles (field : String) (policy : Policy) (bit : BitSpec)
  | rangeTooWide (field : String) (start stop : Int)
  | unknownPort (path : Path)
  | unusableRegister (field register : String)
  | reservedRegister (field register : String)
  | maskTwice (field constant : String)
  | unknownRegister (field : String) (path : Path)
  | attributeTaken (field : Option String) (register : String)
  deriving DecidableEq, Repr

namespace AnalysisFault

def message : AnalysisFault → String
  | badWidth bits => "unsupported register width " ++ toString bits
  | noFields source => source ++ " declares no fields"
  | unusableName _ => "name is not usable as an identifier"
  | declaredTwice _ line => "declared twice (first on line " ++ toString line ++ ")"
  | sharedPrefix _ capitals other line =>
    "constant prefix " ++ capitals ++ " is already used by field " ++ other ++ " (line "
      ++ toString line ++ ")"
  | bitOutside _ bit wordBits =>
    "bit " ++ toString bit ++ " is outside a " ++ toString wordBits ++ "-bit register"
  | emptyRange _ bit => "bit range " ++ bit.text ++ " is inverted or empty"
  | rangeOutside _ start stop wordBits =>
    "bit range " ++ toString start ++ "..=" ++ toString stop ++ " does not fit a "
      ++ toString wordBits ++ "-bit register"
  | rangeOfSingles _ policy bit =>
    policy.keyword ++ " is only defined for single bits, not the range " ++ bit.text
  | rangeTooWide _ start stop =>
    "bit range " ++ toString start ++ "..=" ++ toString stop ++ " needs "
      ++ toString (stop - start + 1) ++ " bits; at most 64 are supported"
  | unknownPort path => "device port " ++ path.text ++ " does not name a known constant"
  | unusableRegister _ register =>
    "register name " ++ register ++ " is not usable as an identifier"
  | reservedRegister _ register => "register name " ++ register ++ " is a reserved word"
  | maskTwice _ constant => "constant " ++ constant ++ " would be defined twice"
  | unknownRegister _ path =>
    "backing register " ++ path.text ++ " does not name a known constant"
  | attributeTaken _ register =>
    "register attribute '" ++ register ++ "' collides with a generated method"

def field : AnalysisFault → Option String
  | badWidth _ => none
  | noFields _ => none
  | unknownPort _ => none
  | unusableName f => some f
  | declaredTwice f _ => some f
  | sharedPrefix f _ _ _ => some f
  | bitOutside f _ _ => some f
  | emptyRange f _ => some f
  | rangeOutside f _ _ _ => some f
  | rangeOfSingles f _ _ => some f
  | rangeTooWide f _ _ => some f
  | unusableRegister f _ => some f
  | reservedRegister f _ => some f
  | maskTwice f _ => some f
  | unknownRegister f _ => some f
  | attributeTaken f _ => f

def kind : AnalysisFault → ErrorKind
  | badWidth _ => .notSupported
  | rangeOfSingles .. => .notSupported
  | rangeTooWide .. => .notSupported
  | unusableName _ => .badParameter
  | unusableRegister .. => .badParameter
  | _ => .invalid

/-- The numbers that the wording shows. -/
def numbers : AnalysisFault → List Int
  | badWidth bits => [bits]
  | bitOutside _ bit _ => [bit]
  | emptyRange _ bit => bit.numbers
  | rangeOutside _ start stop _ => [start, stop]
  | rangeOfSingles _ _ bit => bit.numbers
  | rangeTooWide _ start stop => [start, stop]
  | _ => []

def diagnostic (f : AnalysisFault) : Diagnostic :=
  .analysis f.message f.field f.kind

/-- A fault as a failure of a run. -/
def failure (f : AnalysisFault) : Failure :=
  .showing f.numbers f.diagnostic

end AnalysisFault

end RegisterMap
