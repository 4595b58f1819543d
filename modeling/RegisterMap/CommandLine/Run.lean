import RegisterMap.CommandLine.Arguments
import RegisterMap.Compile
import RegisterMap.Files.Tree
import RegisterMap.Settings
import RegisterMap.Shell.Session

/-!
# Runs

What the commands do. A run reads and writes files, prints, and logs; what it did before it failed
stays done. Failures that the user can mend end a run with a message and a status of their own.
-/

namespace RegisterMap.CommandLine

open Files (FilePath Tree)
open Memory (Space)

variable [Machine]

/-- What a run finds and changes: the settings, the files, and its memories with what it printed and
logged. -/
structure World where
  settings : Settings
  files : Tree
  terminal : Shell.Terminal

abbrev Run (α : Type) := Step World Failure α

namespace World

def ofFiles (settings : Settings) (files : Tree) : World :=
  ⟨settings, files, ⟨Space.empty, ""⟩⟩

def out (w : World) : String :=
  w.terminal.shown

def records (w : World) : List Log.Record :=
  w.terminal.space.messages

end World

/-- A step of a session, in a run. -/
def onTerminal {α : Type} (x : Shell.Turn α) : Run α :=
  Step.onPart World.terminal (fun terminal w => { w with terminal := terminal }) x

/-- A step on the memories of a run. -/
def onSpace {α : Type} (x : Step Space Failure α) : Run α :=
  onTerminal (Shell.onSpace x)

def print (s : String) : Run Unit :=
  onTerminal (Shell.print s)

def say (n : Notice) : Run Unit :=
  onSpace (Step.change (Space.say n.record))

/-- Logs the notices of a step, and then has its outcome. -/
def noting {α : Type} (x : Noting Failure α) : Run α := do
  let (outcome, notices) := x.run []
  notices.forM say
  Step.ofOutcome outcome

def readFile (p : FilePath) : Run (List UInt8) := do
  let w ← Step.current
  Step.ofOutcome (w.files.read p)

/-- A step on the files of a run. -/
def onFiles {α : Type} (x : Step Tree Failure α) : Run α :=
  Step.onPart World.files (fun files w => { w with files := files }) x

/-- Writes a text to a file, whose directory is made if it is missing. The file is emptied first,
and stays empty when the text has no bytes. -/
def writeText (p : FilePath) (text : String) : Run Unit := do
  onFiles (Tree.openAnew p)
  let bytes ← Step.ofOutcome ((Text.Utf8.encode text).mapError .unencodable)
  onFiles (Tree.revise (·.write p bytes))

/-- Reads lists of constants from files, one after the other. What is no file cannot be read. -/
def readConstants : List (Option FilePath) → Run (List Constant)
  | [] => pure []
  | none :: _ => Step.fail .noMember
  | some p :: ps => do
    let content ← readFile p
    let constants ← noting (Compile.constantsOfFile p content)
    let more ← readConstants ps
    pure (constants ++ more)

/-- Compiles the description in a file, with the constants of other files. -/
def compileFile (input : FilePath) (constants : List (Option FilePath)) (o : Options) :
    Run (Model × AccessorCode) := do
  let content ← readFile input
  let d ← noting (Compile.descriptionOfFile input content o.wordBits)
  let external ← readConstants constants
  noting (Compile.compile d o (.items external))

namespace Request

def inputPath (r : Request) : FilePath :=
  FilePath.ofText (r.input.getD "")

/-- The paths of the files with constants. -/
def constantPaths (r : Request) : List (Option FilePath) :=
  r.constants.map fun written => written.map FilePath.ofText

/-- Fails when an option that is needed has no value. -/
def need (r : Request) (opt : Opt) : Except Failure Unit :=
  if r.lacks opt then .error .noMember else .ok ()

/-- The console that shows what a run logs. -/
def logConsole (r : Request) : Log.Console :=
  ⟨r.console.level, r.quiet⟩

def options (r : Request) : Except Failure Options := do
  if r.lacks .wordBits then .error (.badWordBits wordSizesText "[]")
  r.need .className
  Options.ofParts r.className r.wordBits r.inputPath.name

def hasScript (r : Request) : Bool :=
  Text.strip r.script != ""

/-- Whether the user is asked for commands: on demand, or when there are no others. -/
def converses (r : Request) : Bool :=
  r.interactive || !(r.hasScript || r.startup.isSome)

def code (r : Request) : Run AccessorCode := do
  Step.ofOutcome (r.need .logLevel)
  let o ← Step.ofOutcome r.options
  say (.input r.inputPath.text)
  let (_, c) ← compileFile r.inputPath r.constantPaths o
  pure c

/-- Writes the accessors to a file. -/
def save (output : FilePath) (c : AccessorCode) : Run Unit := do
  writeText output c.text
  say (.written output.text)

/-- Generates accessors, and prints them or writes them to a file. -/
def generate (r : Request) : Run Unit := do
  let c ← r.code
  Step.ofOutcome (r.need .output)
  match r.output with
  | none => print c.text
  | some output => save (FilePath.ofText output) c

/-- The base address: the one asked for, or else the first one of the device. -/
def baseFor (r : Request) (m : Model) : Except Failure Int :=
  match r.base, m.ports with
  | some base, _ => .ok base
  | none, port :: _ => .ok port
  | none, [] => .error (.noPorts r.inputPath.text)

/-- The name of the kind of memory behind the device. -/
def backing (r : Request) : String :=
  if r.lacks .backend then "[]" else if r.paged then "unicorn" else "buffer"

/-- Whether the memory behind the device has pages. -/
def isPaged (r : Request) : Bool :=
  r.paged && !r.lacks .backend

/-- Fails when the base address was given without a value. -/
def checkBase (r : Request) : Except Failure Unit :=
  if !r.lacks .base then .ok ()
  else if r.isPaged then .error (.badCall "unsupported operand type(s) for &: 'list' and 'int'")
  else .error (.badCall "can only concatenate list (not \"int\") to list")

/-- Makes a bus with one region for a device, and answers with its number. -/
def makeBus (r : Request) (base span : Int) : Step Space Memory.Fault Memory.Ref := do
  let bus ← Space.createBus Memory.Bus.usualRoom
  let backing ←
    if r.isPaged then do
      let pages ← Space.create (.paged .blank)
      Space.mapPages pages base span
      pure (some pages)
    else pure none
  let _ ← Space.map bus r.className base span backing
  pure bus

/-- The name of the code that a shell loads. -/
def codeName (r : Request) : String :=
  "regforge_shell_" ++ Text.lower r.className

/-- The device of a shell, over memory of its own. -/
def target (r : Request) : Run Shell.Target := do
  let o ← Step.ofOutcome r.options
  let (m, c) ← compileFile r.inputPath r.constantPaths o
  Step.ofOutcome r.checkBase
  let base ← Step.ofOutcome (r.baseFor m)
  let bus ← onSpace (Step.withFailure .memory (r.makeBus base m.span))
  let kind ← Step.ofOutcome (AccessorClass.load r.inputPath.text c)
  say (.loaded r.codeName)
  let w ← Step.current
  let device ← Step.ofOutcome do
    let found ← Binding.ofName kind r.className
    found.construct w.settings.validate base
  say (.built r.className base m.registers.length r.backing)
  pure ⟨m, device, base, bus, w.settings.validate⟩

def configure (changes : List Settings.Change) : Run Unit := do
  let w ← Step.current
  let settings ← Step.ofOutcome (w.settings.configure changes)
  Step.change fun w => { w with settings := settings }
  say (.configured settings.validate settings.wordBits)

/-- The commands of a startup file: its lines, without those that are empty or comments. -/
def startupScript (content : List UInt8) : String :=
  let lines := (Text.lines (Text.Utf8.decodeLenient content)).map Text.strip
  ";".intercalate <| lines.filter fun line =>
    match line.toList with
    | [] => false
    | c :: _ => c != '#'

/-- Starts a shell and runs the commands of the request. -/
def openShell (r : Request) : Run Shell.Target := do
  Step.ofOutcome (r.need .logLevel)
  let w ← Step.current
  configure [.validate (w.settings.validate && r.validate)]
  let t ← r.target
  Step.ofOutcome (r.need .startup)
  match r.startup with
  | none => pure ()
  | some startup => do
    let content ← readFile (FilePath.ofText startup)
    onTerminal (t.runScript (startupScript content))
  Step.ofOutcome (r.need .script)
  if r.hasScript then onTerminal (t.runScript r.script)
  pure t

end Request

/-- The text in front of each command that the user types. -/
def prompt : String := "regs> "

/-- Does what a command is asked to do, up to the conversation with the user; answers with the
device that it will be about, if there is to be one. -/
def start (command : Command) (r : Request) : Run (Option Shell.Target) :=
  match command with
  | .generate => do
    r.generate
    pure none
  | .shell => do
    let t ← r.openShell
    if r.converses then do
      print (t.intro ++ "\n")
      pure (some t)
    else pure none

/-- Does what a command is asked to do, with the lines that the user types. -/
def perform (command : Command) (r : Request) (typed : List String) : Run Unit := do
  match ← start command r with
  | none => pure ()
  | some t => onTerminal (t.converse prompt typed)

/-- The lines of what is typed; a break at the end opens no further line. -/
def typedLines (typed : String) : List String :=
  let lines := Text.splitOnChar '\n' typed.toList
  (if lines.getLast? = some [] then lines.dropLast else lines).map String.ofList

/-- Whether a run that fails in this way ends with a message to the user. -/
def isReported : Category → Bool
  | .general => true
  | .parse => true
  | .analysis => true
  | .nullPointer => true
  | .contract => true
  | .value => true
  | .decoding => true
  | .encoding => true
  | .assertion => true
  | .fileMissing => true
  | .fileExists => true
  | .fileIsDirectory => true
  | .fileUnderFile => true
  | .fileNameTooLong => true
  | _ => false

/-- How a run ends. -/
inductive Ending where
  | done
  /-- A failure that the user is told. -/
  | told (f : Failure)
  /-- A failure that nobody expected. -/
  | broken (f : Failure)
  deriving DecidableEq, Repr

namespace Ending

def ofOutcome : Except Failure Unit → Ending
  | .ok () => done
  | .error f => if isReported f.category then told f else broken f

/-- What the user is told at the end. -/
def errorLine : Ending → String
  | told f => "error: " ++ f.message ++ "\n"
  | _ => ""

end Ending

/-- What is left of a run: how it ended, what it printed and logged, and the files. -/
structure Report where
  ending : Ending
  out : String
  err : String
  files : Tree

def report (console : Log.Console) (outcome : Except Failure Unit) (w : World) : Report :=
  let ending := Ending.ofOutcome outcome
  ⟨ending, w.out, console.output w.records ++ ending.errorLine, w.files⟩

/-- Runs a command with the text that the user types. -/
def runRequest (settings : Settings) (files : Tree) (command : Command) (r : Request)
    (typed : String) : Report :=
  let (outcome, w) := (perform command r (typedLines typed)).run (World.ofFiles settings files)
  report r.logConsole outcome w

def runProgram (settings : Settings) (files : Tree) (arguments : List String) (typed : String) :
    Except Stop Report := do
  let (command, r) ← commandOf false arguments
  .ok (runRequest settings files command r typed)

/-- The exit status of arguments that lead to no run. -/
def Stop.status : Stop → Nat
  | .help => 0
  | .refused => 2

end RegisterMap.CommandLine
