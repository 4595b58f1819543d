import RegisterMap.Json.Value
import RegisterMap.Machine
import RegisterMap.Number.Literal
import RegisterMap.Text.Point

/-!
# Reading JSON

A reader for JSON texts that says where and why a text is none. It takes `NaN`, `Infinity` and
`-Infinity` for numbers, keeps halves that stand alone, and lets the last of several members of one
name win.
-/

namespace RegisterMap.Json

open RegisterMap.Text

/-- Why a text is not JSON. -/
inductive Reason where
  | byteOrderMark
  | extraData
  | expectedValue
  | expectedName
  | expectedColon
  | expectedComma
  | controlCharacter
  | unterminated
  | badEscape
  | badUnicodeEscape
  /-- An integer of `digits` digits, which is too many. -/
  | longNumber (digits : Nat)
  /-- More brackets are open at once than calls can be nested. -/
  | tooDeep
  deriving DecidableEq, Repr

def Reason.message : Reason → String
  | .byteOrderMark => "Unexpected UTF-8 BOM (decode using utf-8-sig)"
  | .extraData => "Extra data"
  | .expectedValue => "Expecting value"
  | .expectedName => "Expecting property name enclosed in double quotes"
  | .expectedColon => "Expecting ':' delimiter"
  | .expectedComma => "Expecting ',' delimiter"
  | .controlCharacter => "Invalid control character at"
  | .unterminated => "Unterminated string starting at"
  | .badEscape => "Invalid \\escape"
  | .badUnicodeEscape => "Invalid \\uXXXX escape"
  | .longNumber digits => Number.LiteralFault.message .plain "" (.tooLong digits)
  | .tooDeep => ""

/-- A fault at the place where `left` characters are still to come. -/
structure Stop where
  reason : Reason
  left : Nat
  deriving DecidableEq, Repr

/-- White space between the parts of a text. -/
def isGap (c : Char) : Bool :=
  c == ' ' || c == '\t' || c == '\n' || c == '\r'

/-- A list without the white space in front. -/
def skipGap (cs : List Char) : List Char :=
  cs.dropWhile isGap

def hexQuad? : List Char → Option Nat
  | [a, b, c, d] =>
    if [a, b, c, d].all (Number.isDigitOf 16) then some (Number.digitsValue 16 0 [a, b, c, d])
    else none
  | _ => none

/-- The character of a one-letter escape. -/
def simpleEscape? : Char → Option Char
  | '"' => some '"'
  | '\\' => some '\\'
  | '/' => some '/'
  | 'b' => some '\x08'
  | 'f' => some '\x0c'
  | 'n' => some '\n'
  | 'r' => some '\r'
  | 't' => some '\t'
  | _ => none

/-- The second unit of a pair, when `cs` goes on with an escape that has one more character after
it: nothing when no escape follows, a fault when it is no proper one. -/
def secondUnit (cs : List Char) : Except Stop (Option Nat) :=
  match cs with
  | '\\' :: 'u' :: rest =>
    if size (rest.take 10) ≤ 4 then .ok none
    else
      match hexQuad? (rest.take 4) with
      | some n => .ok (some n)
      | none => .error ⟨.badUnicodeEscape, rest.length + 1⟩
  | _ => .ok none

/-- The code point after `\u`, of one unit or of a pair of them, and the number of characters that
write it; `cs` starts behind the `u`. -/
def unicodeEscape (cs : List Char) : Except Stop (Point × Nat) :=
  if size (cs.take 10) ≤ 4 then .error ⟨.badUnicodeEscape, cs.length + 1⟩
  else
    match hexQuad? (cs.take 4) with
    | none => .error ⟨.badUnicodeEscape, cs.length + 1⟩
    | some high =>
      if 0xD800 ≤ high ∧ high < 0xDC00 then
        match secondUnit (cs.drop 4) with
        | .error stop => .error stop
        | .ok (some low) =>
          if 0xDC00 ≤ low ∧ low < 0xE000 then
            .ok (.ofNumber (0x10000 + (high - 0xD800) * 0x400 + (low - 0xDC00)), 10)
          else .ok (.ofNumber high, 4)
        | .ok none => .ok (.ofNumber high, 4)
      else .ok (.ofNumber high, 4)

/-- The characters up to the closing quote, and what follows it. The text goes on with `opened` from
the opening quote on. -/
def stringChars (opened : List Char) : List Char → Except Stop (List Char × List Char)
  | [] => .error ⟨.unterminated, opened.length⟩
  | '"' :: rest => .ok ([], rest)
  | '\\' :: rest =>
    match rest with
    | [] => .error ⟨.unterminated, opened.length⟩
    | 'u' :: rest =>
      match unicodeEscape rest with
      | .error stop => .error stop
      | .ok (p, taken) =>
        (stringChars opened (rest.drop taken)).map fun (cs, left) => (p.kept ++ cs, left)
    | e :: rest =>
      match simpleEscape? e with
      | none => .error ⟨.badEscape, rest.length + 2⟩
      | some c => (stringChars opened rest).map fun (cs, left) => (c :: cs, left)
  | c :: rest =>
    if c.val < 0x20 then .error ⟨.controlCharacter, rest.length + 1⟩
    else (stringChars opened rest).map fun (cs, left) => (c :: cs, left)
termination_by cs => cs.length
decreasing_by all_goals (simp only [List.length_drop, List.length_cons]; omega)

/-- The digits at the front of a list. -/
def digitsFront (cs : List Char) : List Char :=
  cs.takeWhile Char.isDigit

/-- The fraction at the front of a list. -/
def fraction : List Char → List Char
  | '.' :: cs => if (digitsFront cs).isEmpty then [] else '.' :: digitsFront cs
  | _ => []

/-- The sign at the front of an exponent. -/
def exponentSign : List Char → List Char
  | '+' :: _ => ['+']
  | '-' :: _ => ['-']
  | _ => []

/-- The exponent at the front of a list. -/
def exponent : List Char → List Char
  | [] => []
  | c :: cs =>
    if c = 'e' ∨ c = 'E' then
      let sign := exponentSign cs
      let digits := digitsFront (cs.drop sign.length)
      if digits.isEmpty then [] else c :: (sign ++ digits)
    else []

/-- The whole part of a number: one zero, or digits that do not start with one. -/
def wholePart : List Char → List Char
  | '0' :: _ => ['0']
  | cs => digitsFront cs

/-- The number at the front of a list, and what follows it. -/
def number (cs : List Char) : Except Stop (Json × List Char) :=
  let sign := if cs.head? = some '-' then ['-'] else []
  let body := cs.drop sign.length
  let whole := wholePart body
  if whole.isEmpty then .error ⟨.expectedValue, cs.length⟩
  else
    let tail := body.drop whole.length
    let frac := fraction tail
    let exp := exponent (tail.drop frac.length)
    let left := (tail.drop frac.length).drop exp.length
    if frac.isEmpty && exp.isEmpty then
      if Number.digitLimit < whole.length then .error ⟨.longNumber whole.length, cs.length⟩
      else
        let n : Int := Number.digitsValue 10 0 whole
        .ok (.int (if sign.isEmpty then n else -n), left)
    else .ok (.real (String.ofList (sign ++ whole ++ frac ++ exp)), left)

def namedValues : List (String × Json) :=
  [("null", .null), ("true", .bool true), ("false", .bool false), ("NaN", .real "NaN"),
   ("Infinity", .real "Infinity"), ("-Infinity", .real "-Infinity")]

/-- The named value at the front of a list, and what follows it. -/
def named? (cs : List Char) : Option (Json × List Char) :=
  namedValues.findSome? fun (name, value) =>
    if name.toList.isPrefixOf cs then some (value, cs.drop name.length) else none

variable [Machine]

mutual

/-- The value at the front of a list, inside `depth` open brackets, and what follows it, in at most
`fuel` steps. -/
def value (fuel depth : Nat) (cs : List Char) : Except Stop (Json × List Char) :=
  match fuel with
  | 0 => .error ⟨.expectedValue, cs.length⟩
  | fuel + 1 =>
    match cs with
    | '"' :: rest =>
      (stringChars cs rest).map fun (s, left) => (.text (String.ofList s), left)
    | '\x7b' :: rest =>
      if depth < Machine.brackets then
        match skipGap rest with
        | '\x7d' :: left => .ok (.object [], left)
        | inner => (members fuel (depth + 1) [] inner).map fun (ms, left) => (.object ms, left)
      else .error ⟨.tooDeep, cs.length⟩
    | '[' :: rest =>
      if depth < Machine.brackets then
        match skipGap rest with
        | ']' :: left => .ok (.list [], left)
        | inner => (items fuel (depth + 1) inner).map fun (vs, left) => (.list vs, left)
      else .error ⟨.tooDeep, cs.length⟩
    | _ =>
      match named? cs with
      | some found => .ok found
      | none => number cs

/-- The members up to the closing brace, after those already `known`, and what follows it. -/
def members (fuel depth : Nat) (known : List (String × Json)) (cs : List Char) :
    Except Stop (List (String × Json) × List Char) :=
  match fuel with
  | 0 => .error ⟨.expectedValue, cs.length⟩
  | fuel + 1 =>
    match cs with
    | '"' :: rest =>
      match stringChars cs rest with
      | .error stop => .error stop
      | .ok (name, left) =>
        match skipGap left with
        | ':' :: left =>
          match value fuel depth (skipGap left) with
          | .error stop => .error stop
          | .ok (v, left) =>
            let known := put (String.ofList name) v known
            match skipGap left with
            | '\x7d' :: left => .ok (known, left)
            | ',' :: left => members fuel depth known (skipGap left)
            | left => .error ⟨.expectedComma, left.length⟩
        | left => .error ⟨.expectedColon, left.length⟩
    | _ => .error ⟨.expectedName, cs.length⟩

/-- The items up to the closing bracket, and what follows it. -/
def items (fuel depth : Nat) (cs : List Char) : Except Stop (List Json × List Char) :=
  match fuel with
  | 0 => .error ⟨.expectedValue, cs.length⟩
  | fuel + 1 =>
    match value fuel depth cs with
    | .error stop => .error stop
    | .ok (v, left) =>
      match skipGap left with
      | ']' :: left => .ok ([v], left)
      | ',' :: left => (items fuel depth (skipGap left)).map fun (vs, left) => (v :: vs, left)
      | left => .error ⟨.expectedComma, left.length⟩

end

/-- A fault in a text: the reason and the line and column, from one, where it shows. -/
structure Fault where
  reason : Reason
  line : Nat
  column : Nat
  deriving DecidableEq, Repr

/-- The fault in `cs` at the place where `left` characters are still to come. -/
def Stop.inText (stop : Stop) (cs : List Char) : Fault :=
  let before := cs.take (cs.length - stop.left)
  ⟨stop.reason, before.count '\n' + 1, size (before.reverse.takeWhile (· != '\n')).reverse + 1⟩

/-- The value that a list of characters writes. -/
def readChars (cs : List Char) : Except Stop Json :=
  if cs.head? = some '\ufeff' then .error ⟨.byteOrderMark, cs.length⟩
  else
    match value (2 * cs.length + 2) 0 (skipGap cs) with
    | .error stop => .error stop
    | .ok (v, left) =>
      match skipGap left with
      | [] => .ok v
      | left => .error ⟨.extraData, left.length⟩

def read (s : String) : Except Fault Json :=
  match readChars s.toList with
  | .error stop => .error (stop.inText s.toList)
  | .ok v => .ok v

end RegisterMap.Json
