/-!
# Lines

Line breaks: the one written in three ways in text files, and the wider set at which a text is cut
into lines.
-/

namespace RegisterMap.Text

/-- A text with every line break, `\r\n`, `\r` or `\n`, written as `\n`. -/
def unifyBreaksChars : List Char → List Char
  | [] => []
  | '\r' :: '\n' :: cs => '\n' :: unifyBreaksChars cs
  | '\r' :: cs => '\n' :: unifyBreaksChars cs
  | c :: cs => c :: unifyBreaksChars cs

/-- A text with every line break, `\r\n`, `\r` or `\n`, written as `\n`. -/
def unifyBreaks (s : String) : String :=
  String.ofList (unifyBreaksChars s.toList)

def isLineBreak (c : Char) : Bool :=
  let n := c.toNat
  (0xA ≤ n && n ≤ 0xD) || (0x1C ≤ n && n ≤ 0x1E) || n == 0x85 || n == 0x2028 || n == 0x2029

/-- The lines of a text without their ends; `line` holds the open line, reversed. -/
def linesFrom (line : List Char) : List Char → List (List Char)
  | [] => if line.isEmpty then [] else [line.reverse]
  | '\r' :: '\n' :: cs => line.reverse :: linesFrom [] cs
  | c :: cs => if isLineBreak c then line.reverse :: linesFrom [] cs else linesFrom (c :: line) cs

/-- The lines of a text without their ends. A break at the end opens no further line. -/
def lines (s : String) : List String :=
  (linesFrom [] s.toList).map String.ofList

/-- The parts of a list between the places where `sep` stands. -/
def splitOnChar (sep : Char) : List Char → List (List Char)
  | [] => [[]]
  | c :: cs =>
    if c = sep then [] :: splitOnChar sep cs
    else
      match splitOnChar sep cs with
      | [] => [[c]]
      | part :: parts => (c :: part) :: parts

/-- The number of line feeds in a list. -/
def countBreaks (cs : List Char) : Nat :=
  cs.count '\n'

end RegisterMap.Text
