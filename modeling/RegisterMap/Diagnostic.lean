/-!
# Diagnostics

The library's own messages to its user: what kind of mistake was made, where it shows, and the
text that says so.
-/

namespace RegisterMap

/-- The kind of a mistake, with a short code for each. -/
inductive ErrorKind where
  | nullPointer
  | noDevice
  | badParameter
  | invalid
  | notSupported
  | badState
  | failed
  deriving DecidableEq, Repr

namespace ErrorKind

def code : ErrorKind → String
  | nullPointer => "NP"
  | noDevice => "ND"
  | badParameter => "BP"
  | invalid => "I"
  | notSupported => "NS"
  | badState => "BS"
  | failed => "F"

def all : List ErrorKind :=
  [nullPointer, noDevice, badParameter, invalid, notSupported, badState, failed]

def ofCode? (s : String) : Option ErrorKind :=
  all.find? fun k => k.code == s

end ErrorKind

/-- A message and what it is about. -/
inductive Diagnostic where
  | general (message : String) (kind : ErrorKind)
  /-- A description that cannot be read, at a line and column of its source when they are known. -/
  | parse (message : String) (line column : Int) (source : String)
  /-- A description that makes no sense, with the field that is to blame when one is. -/
  | analysis (message : String) (field : Option String) (kind : ErrorKind)
  | nullPointer (message : String) (kind : ErrorKind)
  | contract (message : String) (kind : ErrorKind)
  deriving DecidableEq, Repr

namespace Diagnostic

/-- The place a parse message starts with. -/
def place (line column : Int) (source : String) : String :=
  if line = 0 then source ++ ": "
  else source ++ ":" ++ toString line ++ ":" ++ toString column ++ ": "

def text : Diagnostic → String
  | general message _ => message
  | parse message line column source => place line column source ++ message
  | analysis message field _ =>
    match field with
    | none => message
    | some name => if name = "" then message else "field '" ++ name ++ "': " ++ message
  | nullPointer message _ => message
  | contract message _ => message

def kind : Diagnostic → ErrorKind
  | general _ kind => kind
  | parse .. => .badParameter
  | analysis _ _ kind => kind
  | nullPointer _ kind => kind
  | contract _ kind => kind

/-- Whether the mistake is one in a value. -/
def isValueMistake : Diagnostic → Bool
  | parse .. => true
  | analysis .. => true
  | _ => false

/-- Whether the mistake shows a fault of the calling code. -/
def isMisuse : Diagnostic → Bool
  | contract .. => true
  | _ => false

end Diagnostic

end RegisterMap
