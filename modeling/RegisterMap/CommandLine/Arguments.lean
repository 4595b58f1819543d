import RegisterMap.CommandLine.Option
import RegisterMap.Failure
import RegisterMap.Log
import RegisterMap.Options
import RegisterMap.Text.Digit

/-!
# Arguments of the command line

Arguments are recognised one by one and then taken in order: an option takes its value from the
same argument or from the next one, and the first value that no option takes names the input.
-/

namespace RegisterMap.CommandLine

/-- Why arguments lead to no run. -/
inductive Stop where
  | help
  | refused
  deriving DecidableEq, Repr

/-- What a command is asked to do. Two dashes are no value: an option that has them for one is
`blank`, and stands for no file in the list of files with constants. -/
structure Request where
  input : Option String := none
  constants : List (Option String) := []
  className : String := Options.usualClass
  wordBits : Int := Options.usualBits
  console : Log.Severity := Log.Console.usualLevel
  quiet : Bool := false
  output : Option String := none
  base : Option Int := none
  paged : Bool := false
  script : String := ""
  validate : Bool := true
  startup : Option String := none
  interactive : Bool := false
  blank : List Opt := []
  deriving DecidableEq, Repr

/-- The fraction that may end a number: a point with digits behind it. -/
def isPointDigits : List Char → Bool
  | '.' :: ds => !ds.isEmpty && ds.all Text.isDecimal
  | _ => false

/-- Whether an argument is a negative number. One line break at the end does not count. -/
def isNegativeNumber (cs : List Char) : Bool :=
  let cs := if cs.getLast? = some '\n' then cs.dropLast else cs
  match cs with
  | '-' :: ds =>
    (!ds.isEmpty && ds.all Text.isDecimal) || isPointDigits (ds.dropWhile Text.isDecimal)
  | _ => false

namespace Piece

/-- What an argument is, among the options of a command. -/
def ofArgument (spellings : List Spelling) (s : String) : Except Stop Piece :=
  match s.toList with
  | '-' :: c :: cs =>
    match inFull? spellings s with
    | some spelling => .ok (Piece.option spelling none)
    | none =>
      let attached := (splitEquals ('-' :: c :: cs)).bind fun (name, written) =>
        (inFull? spellings name).map fun spelling => Piece.option spelling (some written)
      match attached with
      | some piece => .ok piece
      | none =>
        match candidates spellings ('-' :: c :: cs) with
        | [piece] => .ok piece
        | _ :: _ :: _ => .error .refused
        | [] =>
          if isNegativeNumber ('-' :: c :: cs) || s.toList.contains ' ' then .ok (Piece.value s)
          else .ok (.unknown s)
  | _ => .ok (.value s)

/-- What arguments are. Behind two dashes all are values. -/
def ofArguments (spellings : List Spelling) : List String → Except Stop (List Piece)
  | [] => .ok []
  | s :: ss =>
    if s = "--" then .ok (.dashes :: ss.map Piece.value)
    else do
      let piece ← ofArgument spellings s
      let pieces ← ofArguments spellings ss
      .ok (piece :: pieces)

end Piece

/-- The levels that may be asked for. -/
def levelChoices : List Log.Severity :=
  [.debug, .info, .warning, .error]

/-- A width that registers may have. -/
def wordBitsOf (value : String) : Except Stop Int :=
  match Number.read .plain value with
  | .ok n => if (wordSizes.map Int.ofNat).contains n then .ok n else .error .refused
  | .error _ => .error .refused

/-- A level that may be asked for. -/
def levelOf (value : String) : Except Stop Log.Severity :=
  match levelChoices.find? (·.name == value) with
  | some s => .ok s
  | none => .error .refused

/-- Whether a backend by name has pages. -/
def pagedOf (value : String) : Except Stop Bool :=
  if value = "buffer" then .ok false else if value = "unicorn" then .ok true else .error .refused

/-- An address in any of the usual bases. -/
def baseOf (value : String) : Except Stop Int :=
  match Number.read .prefixed value with
  | .ok n => .ok n
  | .error _ => .error .refused

namespace Request

/-- The request with an option that takes no value. -/
def withSwitch (r : Request) : Opt → Except Stop Request
  | .help => .error .help
  | .quiet => .ok { r with quiet := true }
  | .noValidate => .ok { r with validate := false }
  | .interactive => .ok { r with interactive := true }
  | _ => .error .refused

/-- The request with an option and its value. -/
def withProper (r : Request) (opt : Opt) (value : String) : Except Stop Request :=
  match opt with
  | .constants => .ok { r with constants := r.constants ++ [some value] }
  | .className => .ok { r with className := value }
  | .wordBits => (wordBitsOf value).map fun n => { r with wordBits := n }
  | .logLevel => (levelOf value).map fun s => { r with console := s }
  | .output => .ok { r with output := some value }
  | .base => (baseOf value).map fun n => { r with base := some n }
  | .backend => (pagedOf value).map fun paged => { r with paged := paged }
  | .script => .ok { r with script := value }
  | .startup => .ok { r with startup := some value }
  | _ => .error .refused

/-- The request with an option whose value is two dashes. -/
def withDashes (r : Request) : Opt → Request
  | .constants => { r with constants := r.constants ++ [none] }
  | opt => { r with blank := opt :: r.blank }

/-- The request with an option and what stands in the place of its value. A later value of an option
takes the place of an earlier one. -/
def withValue (r : Request) (opt : Opt) (value : String) : Except Stop Request :=
  if value = "--" then .ok (r.withDashes opt)
  else withProper { r with blank := r.blank.filter (· != opt) } opt value

/-- Whether an option has no value although it was given. -/
def lacks (r : Request) (opt : Opt) : Bool :=
  r.blank.contains opt

/-- How a run ends for which short options are written behind the one for help in an argument: in
help, when there are some, each is an option, and one that takes a value finds it in what follows
it in the argument or, when values `follow`, behind it. -/
def clusterStop (spellings : List Spelling) (follow : Bool) : List Char → Stop
  | [] => .refused
  | c :: cs =>
    match Piece.inFull? spellings (String.ofList ['-', c]) with
    | none => .refused
    | some s =>
      if s.opt.takesValue then if cs.isEmpty && !follow then .refused else .help
      else if cs.isEmpty then .help
      else clusterStop spellings follow cs

/-- The request after an option with a value in the same argument. -/
def withAttached (spellings : List Spelling) (follow : Bool) (r : Request) (s : Spelling)
    (attached : String) : Except Stop Request :=
  if s.opt.takesValue then r.withValue s.opt attached
  else if s.written.length = 2 then .error (clusterStop spellings follow attached.toList)
  else .error .refused

/-- Whether pieces start with a value. -/
def startsWithValue : List Piece → Bool
  | .value _ :: _ => true
  | _ => false

/-- The request after all pieces, and whether some of them found no use. -/
def withPieces (spellings : List Spelling) :
    Request → Bool → List Piece → Except Stop (Request × Bool)
  | r, unused, [] => .ok (r, unused)
  | r, _, .unknown _ :: ps => withPieces spellings r true ps
  | r, unused, .option s (some value) :: ps => do
    let r ← r.withAttached spellings (startsWithValue ps) s value
    withPieces spellings r unused ps
  | r, unused, .option s none :: ps =>
    if s.opt.takesValue then
      match ps with
      | .value v :: ps => do
        let r ← r.withValue s.opt v
        withPieces spellings r unused ps
      | _ => .error .refused
    else do
      let r ← r.withSwitch s.opt
      withPieces spellings r unused ps
  | r, unused, .value v :: ps =>
    if r.input.isNone then
      match ps with
      | .dashes :: ps => withPieces spellings { r with input := some v } unused ps
      | ps => withPieces spellings { r with input := some v } unused ps
    else withPieces spellings r true ps
  | r, unused, .dashes :: ps =>
    if r.input.isNone then
      match ps with
      | .value v :: ps => withPieces spellings { r with input := some v } unused ps
      | ps => withPieces spellings r true ps
    else withPieces spellings r true ps

end Request

/-- The request of a command's arguments, and whether some of them found no use. -/
def requestOf (command : Command) (arguments : List String) : Except Stop (Request × Bool) := do
  let pieces ← Piece.ofArguments command.spellings arguments
  let (r, unused) ← Request.withPieces command.spellings {} false pieces
  if r.input.isNone then .error .refused else .ok (r, unused)

/-- The command and its request, from all arguments. Options before the command are those of no
command, and the rest is the command's own. -/
def commandOf (unused : Bool) : List String → Except Stop (Command × Request)
  | [] => .error .refused
  | s :: ss => do
    let piece ← if s = "--" then .ok .dashes else Piece.ofArgument helpSpellings s
    match piece with
    | .value name =>
      match Command.ofName? name with
      | none => .error .refused
      | some command =>
        let (r, more) ← requestOf command ss
        if unused || more then .error .refused else .ok (command, r)
    | .dashes => .error .refused
    | .option s none => do
      let _ ← Request.withSwitch {} s.opt
      .error .refused
    | .option s (some value) => do
      let _ ← Request.withAttached helpSpellings false {} s value
      .error .refused
    | .unknown _ => commandOf true ss

end RegisterMap.CommandLine
