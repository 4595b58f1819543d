import RegisterMap.CommandLine.Run

/-!
# The program

Takes the arguments, brings the files that they name into a tree, runs, shows what the run prints
and logs, and writes the files that it changed.
-/

namespace RegisterMap.CommandLine

open Files (Entry FilePath Name Tree)

/-- The number by which the system says that a directory stands where a file was wanted. -/
def directoryNumber : UInt32 := 21

def placeText (place : List Name) : String :=
  "/" ++ Text.shown (Name.text (Name.join place))

/-- The tree with what stands at a path of this machine. -/
def bring (t : Tree) (p : FilePath) : IO Tree := do
  let place := t.placeOf p
  try
    let content ← IO.FS.readBinFile (placeText place)
    pure (t.plant place (.file content.toList))
  catch
    | .inappropriateType _ number _ =>
      pure (if number = directoryNumber then t.plant place .directory else t)
    | .noFileOrDirectory .. => pure t
    | e => throw e

def Request.paths (r : Request) : List FilePath :=
  let others := (r.startup.toList ++ r.output.toList).map FilePath.ofText
  r.inputPath :: r.constantPaths.filterMap id ++ others

def keep (change : List Name × Entry) : IO Unit :=
  match change with
  | (place, .file content) => IO.FS.writeBinFile (placeText place) ⟨content.toArray⟩
  | (place, .directory) => IO.FS.createDirAll (placeText place)

/-- Shows what was printed and logged since an earlier world. -/
def showSince (console : Log.Console) (before w : World) : IO Unit := do
  IO.print (Text.shown (w.out.drop before.out.length).toString)
  (← IO.getStdout).flush
  IO.eprint (Text.shown (console.output (w.records.drop before.records.length)))

/-- Asks for commands until one stops the session or no more are typed. -/
partial def converse (console : Log.Console) (t : Shell.Target) (w : World) :
    IO (Except Failure Unit × World) := do
  IO.print prompt
  (← IO.getStdout).flush
  let line ← (← IO.getStdin).getLine
  if line.isEmpty then
    IO.println ""
    pure (.ok (), w)
  else
    let typed := (typedLines (Text.ofString line)).headD ""
    let (outcome, after) := (onTerminal (t.runLine typed)).run w
    showSince console w after
    match outcome with
    | .ok (some true) => pure (.ok (), after)
    | .ok _ => converse console t after
    | .error f => pure (.error f, after)

/-- Runs a command, and answers with the exit status. -/
def runCommand (settings : Settings) (here : List Name) (command : Command) (r : Request) :
    IO UInt32 := do
  let files ← r.paths.foldlM bring (Tree.empty here)
  let before := World.ofFiles settings files
  let (outcome, w) := (start command r).run before
  showSince r.logConsole before w
  (w.files.changesSince files).forM keep
  let (outcome, _) ← match outcome with
    | .ok (some t) => converse r.logConsole t w
    | .ok none => pure (.ok (), w)
    | .error f => pure (.error f, w)
  match Ending.ofOutcome outcome with
  | .done => pure 0
  | .told f => do
    IO.eprint (Text.shown (Ending.told f).errorLine)
    pure 1
  | .broken f => do
    IO.eprintln (Text.shown f.message)
    pure 1

/-- The name of the variable that switches checks on or off. -/
def validateVariable : String := "REGFORGE_VALIDATE"

/-- Runs the program with arguments, and answers with the exit status. -/
def runArguments (arguments : List String) : IO UInt32 := do
  match commandOf false (arguments.map Text.ofString) with
  | .error stop => do
    IO.eprintln "usage: regforge generate|shell [options] input"
    pure (UInt32.ofNat stop.status)
  | .ok (command, r) => do
    let path := FilePath.ofText (Text.ofString (← IO.currentDir).toString)
    let written ← IO.getEnv validateVariable
    let settings : Settings := { validate := Settings.switch (written.map Text.ofString) true }
    try runCommand settings (path.parts.map Name.ofText) command r
    catch e => do
      IO.eprintln ("error: " ++ toString e)
      pure 1

end RegisterMap.CommandLine

def main (arguments : List String) : IO UInt32 :=
  RegisterMap.CommandLine.runArguments arguments
