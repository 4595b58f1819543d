import RegisterMap.Shell.Command
import RegisterMap.Shell.Words
import RegisterMap.Text.Blank
import RegisterMap.Text.Lines

/-!
# Sessions

A session runs lines of commands against a device. Commands that fail for a reason their user can
mend are answered with a message, and the session goes on.
-/

namespace RegisterMap.Shell

open Memory (Space)

/-- The words that the session itself deals with. -/
inductive Control where
  | leave
  | endOfInput
  | help
  deriving DecidableEq, Repr

def Control.ofName? (s : String) : Option Control :=
  if s = "exit" ∨ s = "quit" then some .leave
  else if s = "EOF" then some .endOfInput
  else if s = "help" then some .help
  else none

variable [Machine]

/-- A session's memories and what it has printed. -/
structure Terminal where
  space : Space
  shown : String

abbrev Turn (α : Type) := Step Terminal Failure α

/-- Where the output stream has no bytes for a text. -/
def streamFault? (s : String) : Option Text.Utf8.EncodeFault :=
  Text.Utf8.firstFault Machine.refuses 0 (Text.pointsOf s)

/-- Prints a text, all of it or, when the output stream has no bytes for it, nothing. -/
def print (s : String) : Turn Unit :=
  match streamFault? s with
  | some f => Step.fail (.unencodable f)
  | none => Step.change fun t => { t with shown := t.shown ++ s }

def printLine (s : String) : Turn Unit :=
  print (s ++ "\n")

/-- A step on the memories of a session. -/
def onSpace {α : Type} (x : Step Space Failure α) : Turn α :=
  Step.onPart Terminal.space (fun space t => { t with space := space }) x

/-- Whether the user can mend what went wrong. -/
def isMendable : Category → Bool
  | .general => true
  | .parse => true
  | .analysis => true
  | .nullPointer => true
  | .contract => true
  | .value => true
  | .decoding => true
  | .encoding => true
  | .key => true
  | .assertion => true
  | _ => false

/-- The text of a failure as the session shows it; a missing key is shown in quotes. -/
def shownFailure (f : Failure) : String :=
  if f.category = .key then Text.quoted f.message else f.message

/-- The topic of messages about sessions. -/
def sessionTopic : String := "regforge.shell.shell"

/-- Prints the answer of a step, or the failure when the user can mend it, which is logged under the
word that the line starts with. -/
def printAnswer (word : String) (x : Step Space Failure String) : Turn Unit :=
  fun t =>
    match (onSpace x).run t with
    | (.ok answer, t) => if answer = "" then (.ok (), t) else (printLine answer).run t
    | (.error f, t) =>
      if isMendable f.category then
        let note := Log.record .debug sessionTopic (word ++ " failed")
        let turn : Turn Unit := do
          onSpace (Step.change (Space.say note))
          printLine ("error: " ++ shownFailure f)
        turn.run t
      else (.error f, t)

/-- The name of a command as it is written, with dashes for underscores. -/
def verbName (word : String) : String :=
  String.ofList (word.toList.map fun c => if c = '-' then '_' else c)

namespace Target

/-- The line that greets the user. -/
def intro (t : Target) : String :=
  Text.canonical t.device.kind.code.className ++ " at " ++ Number.prefixedHex 8 t.base
    ++ ". Type 'help' for commands."

/-- Runs a line that is no word of the session's own. -/
def runCommand (t : Target) (line : String) : Turn Unit :=
  match words line with
  | .error fault => printLine ("parse error: " ++ fault.message)
  | .ok [] => pure ()
  | .ok (word :: arguments) =>
    match Verb.ofName? (verbName word) with
    | none => printLine ("unknown command: " ++ word)
    | some verb => printAnswer word (t.command verb arguments)

end Target

def verbNames : List String :=
  Verb.all.map Verb.name

def helpLine : String :=
  "commands: " ++ ", ".intercalate (verbNames ++ ["exit"])

/-- A line as the session reads it: a question mark stands for `help`. -/
def expand (line : List Char) : List Char :=
  match line with
  | '?' :: rest => "help ".toList ++ rest
  | line => line

/-- The word that a line starts with: letters, digits and underscores. -/
def firstWord (line : List Char) : String :=
  String.ofList (line.takeWhile fun c => c.isAlphanum || c == '_')

namespace Target

/-- Runs a line; answers whether the session stops, or, for an empty line, certainly does not. -/
def runLine (t : Target) (line : String) : Turn (Option Bool) :=
  match expand (Text.stripChars line.toList) with
  | [] => pure (some false)
  | line =>
    match Control.ofName? (firstWord line) with
    | some .leave => pure (some true)
    | some .endOfInput => do
      printLine ""
      pure (some true)
    | some .help => do
      printLine helpLine
      pure none
    | none => do
      t.runCommand (String.ofList line)
      pure none

end Target

/-- The commands of a script: its parts between semicolons, without white space around them. -/
def scriptLines (script : String) : List String :=
  let parts := (Text.splitOnChar ';' script.toList).map Text.stripChars
  (parts.filter fun part => !part.isEmpty).map String.ofList

namespace Target

/-- Runs all commands of a script, whether or not one asks to stop. -/
def runScript (t : Target) (script : String) : Turn Unit :=
  (scriptLines script).forM fun line => do
    let _ ← t.runLine line
    pure ()

/-- Runs lines as they are typed, each behind a prompt, until one stops the session or they end. -/
def converse (t : Target) (prompt : String) : List String → Turn Unit
  | [] => do
    print prompt
    printLine ""
  | line :: lines => do
    print prompt
    let stops ← t.runLine line
    if stops = some true then pure () else t.converse prompt lines

end Target

def startsWith (s start : String) : Bool :=
  start.toList.isPrefixOf s.toList

/-- All words that can start a line, in alphabetical order. -/
def firstWords : List String :=
  ["exit", "fields", "get", "help", "log", "mem", "poke", "regs", "set"]

/-- The words that can start a line and start with a text. -/
def completeFirst (text : String) : List String :=
  firstWords.filter fun w => startsWith w text

namespace Target

/-- The field names that start with a text, on a line that takes one. -/
def completeField (t : Target) (text line : String) : Except Failure (List String) :=
  match Text.words line with
  | [] => .error .noWord
  | word :: _ =>
    if word = "get" ∨ word = "set" then
      .ok ((t.model.fields.map (·.name)).filter fun name => startsWith name text)
    else .ok []

end Target

end RegisterMap.Shell
