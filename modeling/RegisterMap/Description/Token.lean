/-!
# Tokens

The words and marks of a description, each with the line and column, from one, where it starts.
-/

namespace RegisterMap

/-- A mark of one or more characters. -/
inductive Mark where
  | hash
  | leftBracket
  | rightBracket
  | leftParen
  | rightParen
  | leftBrace
  | rightBrace
  | comma
  | semicolon
  | equals
  | pathSeparator
  | colon
  | inclusiveRange
  | openRange
  | dot
  | minus
  deriving DecidableEq, Repr

namespace Mark

def text : Mark → String
  | hash => "#"
  | leftBracket => "["
  | rightBracket => "]"
  | leftParen => "("
  | rightParen => ")"
  | leftBrace => "\x7b"
  | rightBrace => "\x7d"
  | comma => ","
  | semicolon => ";"
  | equals => "="
  | pathSeparator => "::"
  | colon => ":"
  | inclusiveRange => "..="
  | openRange => ".."
  | dot => "."
  | minus => "-"

end Mark

inductive Lexeme where
  /-- A line of documentation. -/
  | doc (line : String)
  | name (word : String)
  | number (value : Int)
  /-- A number with a point, as it is written. -/
  | fraction (written : String)
  | mark (m : Mark)
  | endOfInput
  deriving DecidableEq, Repr

/-- A token and the place where it starts. -/
structure Token where
  lexeme : Lexeme
  line : Nat
  column : Nat
  deriving DecidableEq, Repr

namespace Lexeme

/-- A token's text as messages show it. -/
def shown : Lexeme → String
  | doc line => "'" ++ line ++ "'"
  | name word => "'" ++ word ++ "'"
  | number value => "'" ++ toString value ++ "'"
  | fraction written => "'" ++ written ++ "'"
  | mark m => "'" ++ m.text ++ "'"
  | endOfInput => "end of input"

/-- The numbers that the shown text holds. -/
def numbers : Lexeme → List Int
  | number value => [value]
  | _ => []

end Lexeme

namespace Token

/-- The token that a list without tokens is taken to start with. -/
def absent : Token :=
  ⟨.endOfInput, 1, 1⟩

/-- The token at a place counted from the front, the last one when there are fewer, or, for a
negative place, counted from the end. -/
def atPlace? (ts : List Token) (place : Int) : Option Token :=
  let last : Int := ts.length - 1
  let place := if last < place then last else place
  if place < 0 then if place < -ts.length then none else ts[(place + ts.length).toNat]?
  else ts[place.toNat]?

end Token

end RegisterMap
