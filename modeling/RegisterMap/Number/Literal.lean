import RegisterMap.Number.Format
import RegisterMap.Text.Blank
import RegisterMap.Text.Digit
import RegisterMap.Text.Quoted

/-!
# Integer literals

The integers written in a text: decimal digits of any script, an optional sign, single underscores
between digits, white space around, and, where the notation takes prefixes, `0x`, `0o` and `0b`.
With prefixes, a decimal literal other than zero does not start with a zero.
-/

namespace RegisterMap.Number

open RegisterMap.Text

/-- How a literal may be written. -/
inductive Notation where
  /-- Decimal digits alone. -/
  | plain
  /-- Decimal digits, or digits of the base that a prefix names. -/
  | prefixed
  deriving DecidableEq, Repr

/-- Why a text is no literal. -/
inductive LiteralFault where
  | malformed
  /-- A decimal literal of `digits` digits, which is too many. -/
  | tooLong (digits : Nat)
  deriving DecidableEq, Repr

/-- The value of a digit or letter in bases up to 36. -/
def digitValue? (c : Char) : Option Nat :=
  if '0' ≤ c ∧ c ≤ '9' then some (c.toNat - 48)
  else if 'a' ≤ c ∧ c ≤ 'z' then some (c.toNat - 87)
  else if 'A' ≤ c ∧ c ≤ 'Z' then some (c.toNat - 55)
  else none

def isDigitOf (base : Nat) (c : Char) : Bool :=
  match digitValue? c with
  | some v => v < base
  | none => false

/-- The value of digits in a base, after `n`. -/
def digitsValue (base n : Nat) (digits : List Char) : Nat :=
  digits.foldl (fun n c => n * base + (digitValue? c).getD 0) n

/-- A character as literals see it: white space and digits of all scripts are the plain ones. -/
def plainChar (c : Char) : Char :=
  if c.val < 0x80 then c
  else if isBlank c then ' '
  else
    match decimalValue? c with
    | some v => Char.ofNat (48 + v)
    | none => '?'

/-- White space that may stand around a literal. -/
def isSpace (c : Char) : Bool :=
  c == ' ' || (9 ≤ c.toNat && c.toNat ≤ 13)

/-- The sign in front of a literal and what follows it. -/
def splitSign : List Char → Bool × List Char
  | '-' :: cs => (true, cs)
  | '+' :: cs => (false, cs)
  | cs => (false, cs)

/-- One underscore may stand between a prefix and the digits. -/
def skipUnderscore : List Char → List Char
  | '_' :: cs => cs
  | cs => cs

/-- The base of a literal with prefixes, and what follows the prefix. -/
def splitPrefix : List Char → Nat × List Char
  | '0' :: c :: cs =>
    if c = 'x' ∨ c = 'X' then (16, skipUnderscore cs)
    else if c = 'o' ∨ c = 'O' then (8, skipUnderscore cs)
    else if c = 'b' ∨ c = 'B' then (2, skipUnderscore cs)
    else (10, '0' :: c :: cs)
  | cs => (10, cs)

/-- Underscores stand one at a time and between digits. -/
def underscoresFit : List Char → Bool
  | [] => true
  | ['_'] => false
  | '_' :: '_' :: _ => false
  | _ :: cs => underscoresFit cs

/-- The digits at the front of a list, without underscores, and what follows them. -/
def splitDigits (base : Nat) (cs : List Char) : Except LiteralFault (List Char × List Char) :=
  let run := cs.takeWhile fun c => isDigitOf base c || c == '_'
  let digits := run.filter (· != '_')
  if run.head? = some '_' ∨ underscoresFit run = false then .error .malformed
  else if base = 10 ∧ digitLimit < digits.length then .error (.tooLong digits.length)
  else if digits.isEmpty then .error .malformed
  else .ok (digits, cs.dropWhile fun c => isDigitOf base c || c == '_')

def readChars (rule : Notation) (cs : List Char) : Except LiteralFault Int :=
  let (negative, body) := splitSign (cs.dropWhile isSpace)
  let (base, body) :=
    match rule with
    | .plain => (10, body)
    | .prefixed => splitPrefix body
  match splitDigits base body with
  | .error fault => .error fault
  | .ok (digits, rest) =>
    let value := digitsValue base 0 digits
    if rule = .prefixed ∧ base = 10 ∧ digits.head? = some '0' ∧ value ≠ 0 then .error .malformed
    else if rest.dropWhile isSpace = [] then .ok (if negative then -value else value)
    else .error .malformed

def read (rule : Notation) (s : String) : Except LiteralFault Int :=
  readChars rule (s.toList.map plainChar)

/-- The integer that a text writes when underscores may stand anywhere. -/
def readLoose (s : String) : Except LiteralFault Int :=
  read .prefixed (String.ofList (s.toList.filter (· != '_')))

namespace LiteralFault

/-- What is wrong with the text `s` read in the notation `rule`. -/
def message (rule : Notation) (s : String) : LiteralFault → String
  | .malformed =>
    let base := match rule with
      | .plain => "10"
      | .prefixed => "0"
    let shown := String.ofList ((quotedChars s.toList).take 200)
    "invalid literal for int() with base " ++ base ++ ": " ++ shown
  | .tooLong digits =>
    "Exceeds the limit (" ++ toString digitLimit
      ++ " digits) for integer string conversion: value has "
      ++ toString digits ++ " digits; use sys.set_int_max_str_digits() to increase the limit"

end LiteralFault

/-- What is said of a number too long to be written in decimal. -/
def longNumberMessage : String :=
  "Exceeds the limit (" ++ toString digitLimit
    ++ " digits) for integer string conversion; "
    ++ "use sys.set_int_max_str_digits() to increase the limit"

end RegisterMap.Number
