/-!
# Options of the command line

The options that the commands take, how they are written, and how an argument is recognised as one:
a long name may be cut short as long as it stays unambiguous, and a value may follow a long name
behind an equals sign and a short name at once.
-/

namespace RegisterMap.CommandLine

inductive Opt where
  | help
  | constants
  | className
  | wordBits
  | logLevel
  | quiet
  | output
  | base
  | backend
  | script
  | noValidate
  | startup
  | interactive
  deriving DecidableEq, Repr

/-- A way to write an option. -/
structure Spelling where
  written : String
  opt : Opt
  deriving DecidableEq, Repr

inductive Command where
  | generate
  | shell
  deriving DecidableEq, Repr

namespace Opt

def takesValue : Opt → Bool
  | help => false
  | quiet => false
  | noValidate => false
  | interactive => false
  | _ => true

end Opt

/-- The option that every command takes. -/
def helpSpellings : List Spelling :=
  [⟨"-h", .help⟩, ⟨"--help", .help⟩]

def commonSpellings : List Spelling :=
  helpSpellings ++
    [⟨"--constants", .constants⟩, ⟨"--class-name", .className⟩, ⟨"--word-bits", .wordBits⟩,
     ⟨"--log-level", .logLevel⟩, ⟨"--quiet", .quiet⟩]

namespace Command

def name : Command → String
  | generate => "generate"
  | shell => "shell"

def ofName? (s : String) : Option Command :=
  [generate, shell].find? (·.name == s)

def spellings : Command → List Spelling
  | generate => commonSpellings ++ [⟨"-o", .output⟩, ⟨"--output", .output⟩]
  | shell =>
    commonSpellings ++
      [⟨"--base", .base⟩, ⟨"--backend", .backend⟩, ⟨"--cmd", .script⟩,
       ⟨"--no-validate", .noValidate⟩, ⟨"--cfg", .startup⟩, ⟨"--interactive", .interactive⟩]

end Command

/-- What an argument is. -/
inductive Piece where
  /-- A value, or what looks like a negative number. -/
  | value (s : String)
  /-- The two dashes behind which all is values. -/
  | dashes
  /-- An option, with the value that is written in the same argument. -/
  | option (spelling : Spelling) (attached : Option String)
  | unknown (s : String)
  deriving DecidableEq, Repr

namespace Piece

/-- An argument cut at its first equals sign. -/
def splitEquals (cs : List Char) : Option (String × String) :=
  if cs.contains '=' then
    let value := String.ofList ((cs.dropWhile (· != '=')).drop 1)
    some (String.ofList (cs.takeWhile (· != '=')), value)
  else none

def inFull? (spellings : List Spelling) (s : String) : Option Spelling :=
  spellings.find? (·.written == s)

/-- The options whose long names start with an argument, or with what stands before its equals
sign. -/
def longMatches (spellings : List Spelling) (cs : List Char) : List Piece :=
  let (start, attached) := match splitEquals cs with
    | some (start, attached) => (start.toList, some attached)
    | none => (cs, none)
  (spellings.filter fun s => start.isPrefixOf s.written.toList).map (.option · attached)

/-- The options whose short name an argument starts with, and those whose name starts with the
argument. -/
def shortMatches (spellings : List Spelling) (cs : List Char) : List Piece :=
  spellings.filterMap fun s =>
    if s.written.toList = cs.take 2 then
      some (.option s (some (String.ofList (cs.drop 2))))
    else if cs.isPrefixOf s.written.toList then some (.option s none)
    else none

/-- The options that an argument of at least two characters may mean. -/
def candidates (spellings : List Spelling) (cs : List Char) : List Piece :=
  match cs with
  | '-' :: '-' :: _ => longMatches spellings cs
  | _ => shortMatches spellings cs

end Piece

end RegisterMap.CommandLine
