/-!
# Words of a command

A command line is cut into words at blanks. Quotes keep blanks together, a backslash outside single
quotes takes the next character as it is, and inside double quotes it does so only in front of a
double quote or another backslash.
-/

namespace RegisterMap.Shell

/-- Why a line has no words. -/
inductive WordFault where
  | openQuote
  | openEscape
  deriving DecidableEq, Repr

def WordFault.message : WordFault → String
  | openQuote => "No closing quotation"
  | openEscape => "No escaped character"

/-- Where the reader of words stands. -/
inductive WordPlace where
  /-- Between words. -/
  | outside
  /-- In a word, outside quotes. -/
  | inside
  | quoted (quote : Char)
  /-- Behind a backslash, in quotes or not. -/
  | escaped (quote : Option Char)
  deriving DecidableEq, Repr

def isWordBlank (c : Char) : Bool :=
  c == ' ' || c == '\t' || c == '\r' || c == '\n'

def isQuote (c : Char) : Bool :=
  c == '\'' || c == '"'

/-- The words from a place on; `word` is the open word, reversed, which ends at a blank and at the
end of the line. -/
def wordsFrom (place : WordPlace) (word : List Char) :
    List Char → Except WordFault (List (List Char))
  | [] =>
    match place with
    | .outside => .ok []
    | .inside => .ok [word.reverse]
    | .quoted _ => .error .openQuote
    | .escaped _ => .error .openEscape
  | c :: cs =>
    match place with
    | .outside =>
      if isWordBlank c then wordsFrom .outside [] cs
      else if c = '\\' then wordsFrom (.escaped none) [] cs
      else if isQuote c then wordsFrom (.quoted c) [] cs
      else wordsFrom .inside [c] cs
    | .inside =>
      if isWordBlank c then (wordsFrom .outside [] cs).map (word.reverse :: ·)
      else if c = '\\' then wordsFrom (.escaped none) word cs
      else if isQuote c then wordsFrom (.quoted c) word cs
      else wordsFrom .inside (c :: word) cs
    | .quoted quote =>
      if c = quote then wordsFrom .inside word cs
      else if c = '\\' ∧ quote = '"' then wordsFrom (.escaped (some quote)) word cs
      else wordsFrom (.quoted quote) (c :: word) cs
    | .escaped none => wordsFrom .inside (c :: word) cs
    | .escaped (some quote) =>
      if c = '\\' ∨ c = quote then wordsFrom (.quoted quote) (c :: word) cs
      else wordsFrom (.quoted quote) (c :: '\\' :: word) cs

def words (line : String) : Except WordFault (List String) :=
  (wordsFrom .outside [] line.toList).map (·.map String.ofList)

end RegisterMap.Shell
