import RegisterMap.Number.Format

/-!
# Pages of code

Code is written on a page line by line, at a depth of indentation. Documentation stands between
triple quotes and is escaped so that no text in it can end it.
-/

namespace RegisterMap

/-- The lines written so far and the depth of the next one. -/
structure Page where
  lines : List String
  depth : Nat
  deriving DecidableEq, Repr

/-- Something to write. -/
inductive Writing where
  | line (s : String)
  | indent
  | outdent
  | docs (lines : List String)
  /-- A header with an indented body. -/
  | block (header : String) (body : List Writing)
  /-- Looks at the text so far. -/
  | look
  deriving Repr, Inhabited

namespace Page

def blank : Page :=
  ⟨[], 0⟩

def margin (depth : Nat) : String :=
  String.ofList (List.replicate (4 * depth) ' ')

/-- Writes a line; an empty one has no indentation. -/
def line (s : String) (p : Page) : Page :=
  { p with lines := p.lines ++ [if s = "" then "" else margin p.depth ++ s] }

/-- Goes one step to the right. -/
def indent (p : Page) : Page :=
  { p with depth := p.depth + 1 }

/-- Goes one step to the left, unless there is none. -/
def outdent (p : Page) : Page :=
  { p with depth := p.depth - 1 }

def escapeBackslashes : List Char → List Char
  | [] => []
  | c :: cs => if c = '\\' then '\\' :: '\\' :: escapeBackslashes cs else c :: escapeBackslashes cs

/-- Characters with a backslash in front of each of three quotes in a row. -/
def escapeQuotes : List Char → List Char
  | '"' :: '"' :: '"' :: cs => '\\' :: '"' :: '\\' :: '"' :: '\\' :: '"' :: escapeQuotes cs
  | c :: cs => c :: escapeQuotes cs
  | [] => []

/-- A line of documentation as it is written. -/
def escapeDocs (s : String) : String :=
  String.ofList (escapeQuotes (escapeBackslashes s.toList))

def tripleQuote : String := "\"\"\""

/-- Writes documentation: a single line that ends in no quote stands on one line with its quotes,
otherwise the closing quotes have a line of their own. -/
def docs (lines : List String) (p : Page) : Page :=
  match lines.map escapeDocs with
  | [] => p
  | [s] =>
    if s.toList.getLast? = some '"' then (p.line (tripleQuote ++ s)).line tripleQuote
    else p.line (tripleQuote ++ s ++ tripleQuote)
  | s :: rest => (rest.foldl (fun p s => p.line s) (p.line (tripleQuote ++ s))).line tripleQuote

/-- Lines without the empty ones at the end. -/
def dropBlankEnd (lines : List String) : List String :=
  (lines.reverse.dropWhile (· == "")).reverse

/-- Gives up the empty lines at the end. -/
def settle (p : Page) : Page :=
  { p with lines := dropBlankEnd p.lines }

/-- The text written so far, without the empty lines at the end. -/
def text (p : Page) : String :=
  "\n".intercalate p.settle.lines ++ "\n"

mutual

/-- Writes one thing after what is written; answers with the texts that were looked at. Looking
settles what is written. -/
def write (p : Page) : Writing → Page × List String
  | .line s => (p.line s, [])
  | .indent => (p.indent, [])
  | .outdent => (p.outdent, [])
  | .docs lines => (p.docs lines, [])
  | .block header body =>
    let (p, seen) := writeAll (p.line header).indent body
    (p.outdent, seen)
  | .look => (p.settle, [p.text])

/-- Writes things in order; answers with the texts that were looked at. -/
def writeAll (p : Page) : List Writing → Page × List String
  | [] => (p, [])
  | x :: xs =>
    let (p, seen) := p.write x
    let (p, more) := p.writeAll xs
    (p, seen ++ more)

end

def textOf (xs : List Writing) : String :=
  (blank.writeAll xs).1.text

end Page

end RegisterMap
