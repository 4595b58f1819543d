import RegisterMap.Description.Token
import RegisterMap.Number.Literal

/-!
# Tokens of a text

A text is cut at the front into one piece after the other: tokens, blanks, comments and line
breaks. The longer of two marks wins, a number with a point wins over an integer, and three
slashes open a line of documentation unless a fourth follows.
-/

namespace RegisterMap.Lexer

open RegisterMap.Text

/-- What may stand at the front of a text. -/
inductive Piece where
  | doc
  | comment
  | blank
  | newline
  | fraction
  | integer
  | name
  | mark (m : Mark)
  deriving DecidableEq, Repr

def isLineBlank (c : Char) : Bool :=
  c == ' ' || c == '\t' || c == '\r'

/-- A decimal digit or an underscore. -/
def isDigitPart (c : Char) : Bool :=
  isDecimal c || c == '_'

def isWordStart (c : Char) : Bool :=
  c.isAlpha || c == '_'

/-- A character that may go on with a name. -/
def isWordPart (c : Char) : Bool :=
  c.isAlphanum || c == '_'

/-- A digit or an underscore of a literal in a base. -/
def isBasePart (base : Nat) (c : Char) : Bool :=
  Number.isDigitOf base c || c == '_'

/-- The length of the longest front of a list whose characters all pass a test. -/
def runLength (p : Char → Bool) (cs : List Char) : Nat :=
  (cs.takeWhile p).length

/-- The base that the letter after a zero stands for. -/
def baseOf? (c : Char) : Option Nat :=
  if c = 'x' ∨ c = 'X' then some 16
  else if c = 'b' ∨ c = 'B' then some 2
  else if c = 'o' ∨ c = 'O' then some 8
  else none

/-- The length of a literal with a prefix, beyond its zero. -/
def prefixedLength (rest : List Char) : Option Nat :=
  match rest with
  | [] => none
  | c :: cs =>
    match baseOf? c with
    | none => none
    | some base =>
      let digits := runLength (isBasePart base) cs
      if digits = 0 then none else some (digits + 1)

/-- The number that starts with the digit `c`, and its length beyond that digit. -/
def numberFront (c : Char) (rest : List Char) : Piece × Nat :=
  let whole := runLength isDigitPart rest
  let integer := (Piece.integer, (if c = '0' then prefixedLength rest else none).getD whole)
  match rest.drop whole with
  | '.' :: d :: cs =>
    if isDecimal d then (.fraction, whole + 2 + runLength isDigitPart cs) else integer
  | _ => integer

/-- The mark that starts with `c`, and its length beyond `c`. -/
def markFront? (c : Char) (rest : List Char) : Option (Mark × Nat) :=
  match c with
  | '.' =>
    match rest with
    | '.' :: '=' :: _ => some (.inclusiveRange, 2)
    | '.' :: _ => some (.openRange, 1)
    | _ => some (.dot, 0)
  | ':' =>
    match rest with
    | ':' :: _ => some (.pathSeparator, 1)
    | _ => some (.colon, 0)
  | '#' => some (.hash, 0)
  | '[' => some (.leftBracket, 0)
  | ']' => some (.rightBracket, 0)
  | '(' => some (.leftParen, 0)
  | ')' => some (.rightParen, 0)
  | '\x7b' => some (.leftBrace, 0)
  | '\x7d' => some (.rightBrace, 0)
  | ',' => some (.comma, 0)
  | ';' => some (.semicolon, 0)
  | '=' => some (.equals, 0)
  | '-' => some (.minus, 0)
  | _ => none

/-- The comment or documentation after a slash, and its length beyond that slash. -/
def slashFront? (rest : List Char) : Option (Piece × Nat) :=
  let length := runLength (· != '\n') rest
  match rest with
  | '/' :: '/' :: '/' :: _ => some (.comment, length)
  | '/' :: '/' :: _ => some (.doc, length)
  | '/' :: _ => some (.comment, length)
  | _ => none

/-- The piece at the front of `c :: rest`, and its length beyond `c`. -/
def front? (c : Char) (rest : List Char) : Option (Piece × Nat) :=
  if c = '/' then slashFront? rest
  else if isLineBlank c then some (.blank, runLength isLineBlank rest)
  else if c = '\n' then some (.newline, 0)
  else if isDecimal c then some (numberFront c rest)
  else if isWordStart c then some (.name, runLength isWordPart rest)
  else (markFront? c rest).map fun (m, more) => (.mark m, more)

/-- Why a text has no tokens. -/
inductive Cause where
  | unexpected (p : Point)
  | badInteger (written : String)
  deriving DecidableEq, Repr

/-- A cause and the line and column where it shows. -/
structure Fault where
  cause : Cause
  line : Nat
  column : Nat
  deriving DecidableEq, Repr

/-- The token of a piece, if it makes one. -/
def lexeme? (piece : Piece) (written : List Char) : Except Cause (Option Lexeme) :=
  match piece with
  | .doc => .ok (some (.doc (String.ofList (stripChars (written.drop 3)))))
  | .comment => .ok none
  | .blank => .ok none
  | .newline => .ok none
  | .fraction => .ok (some (.fraction (String.ofList written)))
  | .integer =>
    match Number.readLoose (String.ofList written) with
    | .ok value => .ok (some (.number value))
    | .error _ => .error (.badInteger (String.ofList written))
  | .name => .ok (some (.name (String.ofList written)))
  | .mark m => .ok (some (.mark m))

/-- The tokens of a text that starts at a line and column, with the end of input after them. -/
def tokensFrom (line column : Nat) : List Char → Except Fault (List Token)
  | [] => .ok [⟨.endOfInput, line, column⟩]
  | c :: rest =>
    match front? c rest with
    | none => .error ⟨.unexpected ((points (c :: rest)).headD (.char c)), line, column⟩
    | some (piece, more) =>
      match lexeme? piece (c :: rest.take more) with
      | .error cause => .error ⟨cause, line, column⟩
      | .ok found =>
        let following :=
          if piece = .newline then tokensFrom (line + 1) 1 (rest.drop more)
          else tokensFrom line (column + size (c :: rest.take more)) (rest.drop more)
        match found with
        | none => following
        | some lexeme => following.map (⟨lexeme, line, column⟩ :: ·)
termination_by cs => cs.length
decreasing_by all_goals (simp only [List.length_drop, List.length_cons]; omega)

def tokens (s : String) : Except Fault (List Token) :=
  tokensFrom 1 1 s.toList

end RegisterMap.Lexer
