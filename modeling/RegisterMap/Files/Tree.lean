import RegisterMap.Failure
import RegisterMap.Files.Name
import RegisterMap.Files.Path
import RegisterMap.Step

/-!
# File trees

Files and directories by their places, which are the parts of their paths from the root on. A run
takes place in one of the directories; paths that do not start at the root start there.
-/

namespace RegisterMap.Files

/-- What stands at a place. -/
inductive Entry where
  | file (content : List UInt8)
  | directory
  deriving DecidableEq, Repr

/-- The directory of a run, and entries by place. That directory and those above it are always
there and have no entries. -/
structure Tree where
  here : List Name
  entries : List (List Name × Entry)
  deriving Repr

namespace Tree

/-- The tree with nothing but the directory of a run. -/
def empty (here : List Name) : Tree :=
  ⟨here, []⟩

def get? (t : Tree) (place : List Name) : Option Entry :=
  if place.isPrefixOf t.here then some .directory else t.entries.lookup place

/-- The tree with an entry at a place, instead of the one that was there. -/
def put (t : Tree) (place : List Name) (e : Entry) : Tree :=
  { t with entries := (t.entries.filter (·.1 != place)) ++ [(place, e)] }

/-- The place that a part of a path leads to from a directory. Two dots lead up, and nothing is
above the root. -/
def advance (place : List Name) (part : Name) : List Name :=
  if part = [0x2E, 0x2E] then place.dropLast else place ++ [part]

/-- The place where a path starts. -/
def start (t : Tree) (p : FilePath) : List Name :=
  if p.root = 0 then t.here else []

/-- The greatest number of bytes in a part of a path. -/
def partLimit : Nat := 255

/-- The greatest number of bytes in a path. -/
def pathLimit : Nat := 4095

/-- The place of a path that starts in a directory, whether or not anything is there. All parts but
the last have to lead through directories. -/
def walk (t : Tree) (place : List Name) : List Name → Except PathFault (List Name)
  | [] => .ok place
  | part :: parts =>
    match t.get? place with
    | none => .error .missing
    | some (.file _) => .error .underFile
    | some .directory =>
      if partLimit < part.length then .error .tooLong else t.walk (advance place part) parts

/-- The place of a path that is not too long. -/
def follow (t : Tree) (p : FilePath) : Except PathFault (List Name) :=
  if pathLimit < (Name.ofText p.text).length then .error .tooLong
  else t.walk (t.start p) (p.parts.map Name.ofText)

/-- The place of a path. No path has a null byte in it. -/
def locate (t : Tree) (p : FilePath) : Except Failure (List Name) :=
  match Name.fault? p.text with
  | some fault => .error (.unencodable fault)
  | none =>
    if (Name.ofText p.text).contains 0 then .error .nullByte
    else (t.follow p).mapError fun fault => .file fault p.text

def read (t : Tree) (p : FilePath) : Except Failure (List UInt8) := do
  let place ← t.locate p
  match t.get? place with
  | some (.file content) => .ok content
  | some .directory => .error (.file .directory p.text)
  | none => .error (.file .missing p.text)

/-- Checks that the directory of a place is there. -/
def checkDirectory (t : Tree) (p : FilePath) (place : List Name) : Except Failure Unit :=
  match t.get? place.dropLast with
  | some .directory => .ok ()
  | some (.file _) => .error (.file .underFile p.text)
  | none => .error (.file .missing p.text)

def write (t : Tree) (p : FilePath) (content : List UInt8) : Except Failure Tree := do
  let place ← t.locate p
  match t.get? place with
  | some .directory => .error (.file .directory p.text)
  | _ =>
    t.checkDirectory p place
    .ok (t.put place (.file content))

/-- The tree after a directory was made in another one; one that is there already is fine. -/
def makeOne (t : Tree) (p : FilePath) : Except Failure Tree := do
  let place ← t.locate p
  match t.get? place with
  | some .directory => .ok t
  | some (.file _) => .error (.file .existing p.text)
  | none =>
    t.checkDirectory p place
    .ok (t.put place .directory)

/-- A step that changes a tree, or fails and leaves it as it is. -/
def revise (f : Tree → Except Failure Tree) : Step Tree Failure Unit := do
  let t ← Step.current
  let t ← Step.ofOutcome (f t)
  Step.change fun _ => t

/-- Makes a directory, with those above it that are missing; `levels` of them at most. Those that
were made before a failure stay. -/
def makeUpTo : Nat → FilePath → Step Tree Failure Unit
  | 0, p => revise (·.makeOne p)
  | levels + 1, p => do
    let t ← Step.current
    match t.makeOne p with
    | .error (.file .missing text) =>
      if p.parts = [] then Step.fail (.file .missing text)
      else do
        makeUpTo levels p.parent
        revise (·.makeOne p)
    | outcome => revise fun _ => outcome

/-- Makes a directory, with those above it that are missing. -/
def makeDirectories (p : FilePath) : Step Tree Failure Unit :=
  makeUpTo p.parts.length p

/-- The tree after a directory was made, with those above it that were missing. -/
def makeDirectory (t : Tree) (p : FilePath) : Except Failure Tree :=
  let (outcome, after) := (makeDirectories p).run t
  outcome.map fun _ => after

/-- Opens a file that is to be written anew: its directory is made if it is missing, and the file
is emptied if it is there. -/
def openAnew (p : FilePath) : Step Tree Failure Unit := do
  makeDirectories p.parent
  revise (·.write p [])

/-- The tree with a file or directory at a place, and with all the directories that lead there. -/
def plant (t : Tree) (place : List Name) (e : Entry) : Tree :=
  let above := (List.range place.length).map place.take
  (above.foldl (fun t directory => t.put directory .directory) t).put place e

/-- The place that a path leads to when all directories on it are there. -/
def placeOf (t : Tree) (p : FilePath) : List Name :=
  (p.parts.map Name.ofText).foldl advance (t.start p)

/-- The entries of a tree that differ from those of an earlier one. -/
def changesSince (t earlier : Tree) : List (List Name × Entry) :=
  t.entries.filter fun e => earlier.get? e.1 != some e.2

end Tree

end RegisterMap.Files
