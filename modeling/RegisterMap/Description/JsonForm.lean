import RegisterMap.Description.Parser
import RegisterMap.Json.Reader
import RegisterMap.Text.Identifier
import RegisterMap.Text.Letter

/-!
# Descriptions in JSON

The same descriptions as JSON objects:

    { "constants": { path: number, … }, "ports": [number or path, …],
      "fields": [{ "name": …, "bit": …, "access": …, "register": …, "doc": … }, …] }

A number may also be the text of a literal, a bit is an index or the text of a range, and the
documentation is a text or a list of lines.
-/

namespace RegisterMap

/-- Why a JSON value is no description. The place is the member that is to blame. -/
inductive JsonFormCause where
  | notText (place : String)
  | notNumber (place : String)
  | badNumber (place written : String)
  | negative (place : String)
  | registerRequired (place found : String)
  | emptyPath (place written : String)
  | fieldNotObject (index : Nat)
  | badFieldName (name : String)
  | emptyRange (name : String) (bit : BitSpec) (start stop : Int)
  | unknownPolicy (name access : String)
  | badDocs (name : String)
  | notObject
  | constantsNotObject
  | portsNotList
  | fieldsNotList
  deriving DecidableEq, Repr

namespace JsonFormCause

def message : JsonFormCause → String
  | notText place => "Expected string for " ++ place
  | notNumber place => "Expected unsigned integer for " ++ place
  | badNumber place written => "Invalid numeric literal for " ++ place ++ ": " ++ written
  | negative place => "Negative value not allowed for " ++ place
  | registerRequired place found =>
    "constant required to name the register for " ++ place ++ ", found " ++ Text.quoted found
  | emptyPath place written => place ++ ": empty path: " ++ Text.quoted written
  | fieldNotObject index => "fields[" ++ toString index ++ "] must be a dict"
  | badFieldName name => "field name is not an identifier: " ++ Text.quoted name
  | emptyRange name bit start stop => (SourceCause.emptyRange name bit start stop).message
  | unknownPolicy name access =>
    "Unknown access policy for " ++ name ++ ": " ++ access ++ " (expected one of "
      ++ Policy.keywords ++ ")"
  | badDocs name => name ++ ".doc must be a string or a list of strings"
  | notObject => "Top-level JSON must be a dict"
  | constantsNotObject => "\"constants\" must be a dict"
  | portsNotList => "\"ports\" must be an array"
  | fieldsNotList => "\"fields\" must be an array"

/-- The numbers that the wording shows. -/
def numbers : JsonFormCause → List Int
  | emptyRange name bit start stop => (SourceCause.emptyRange name bit start stop).numbers
  | _ => []

end JsonFormCause

/-- What is wrong with a description in JSON. -/
inductive JsonFormFault where
  | cause (c : JsonFormCause)
  /-- The text of a range, which is a source of its own. -/
  | bits (place : String) (f : SourceFault)
  | json (f : Json.Fault)
  deriving DecidableEq, Repr

namespace JsonForm

/-- A value that must be a text. -/
def text (place : String) : Option Json → Except JsonFormFault String
  | some (.text s) => .ok s
  | _ => .error (.cause (.notText place))

/-- A number that must not be negative. -/
def unsigned (place : String) (n : Int) : Except JsonFormFault Int :=
  if n < 0 then .error (.cause (.negative place)) else .ok n

/-- A value that must be a number that is not negative, or the text of one. -/
def number (place : String) : Json → Except JsonFormFault Int
  | .int n => unsigned place n
  | .text s =>
    match Number.readLoose (Text.strip s) with
    | .ok n => unsigned place n
    | .error _ => .error (.cause (.badNumber place s))
  | _ => .error (.cause (.notNumber place))

/-- A value that must be a bit index or the text of a bit specification. -/
def bit (place : String) : Option Json → Except JsonFormFault BitSpec
  | some (.int n) => (unsigned place n).map .single
  | value => do
    let s ← text place value
    (Parser.readBits s).mapError (.bits place)

/-- A value that must be the text of a path. -/
def path (place : String) (value : Option Json) : Except JsonFormFault Path := do
  let written ← text place value
  let s := Text.strip written
  match s.toList with
  | [] => .error (.cause (.registerRequired place written))
  | c :: _ =>
    if Text.isDigit c then .error (.cause (.registerRequired place written))
    else
      match Path.ofText? s with
      | some p => .ok p
      | none => .error (.cause (.emptyPath place s))

/-- A name that must be an identifier. -/
def fieldName (place : String) (value : Option Json) : Except JsonFormFault String := do
  let name ← text place value
  if Text.isIdentifier name then .ok name else .error (.cause (.badFieldName name))

/-- Fails when a range holds no two bits of a register of `wordBits` bits. -/
def checkRange (wordBits : Int) (name : String) (bit : BitSpec) : Except JsonFormFault Unit :=
  let (start, stop) := bit.resolve wordBits
  if bit.isSingle = false ∧ stop ≤ start then .error (.cause (.emptyRange name bit start stop))
  else .ok ()

/-- The word of an access policy. -/
def policy (name : String) (value : Option Json) : Except JsonFormFault Policy := do
  let access ← text (name ++ ".access") value
  match Policy.ofKeyword? access with
  | some p => .ok p
  | none => .error (.cause (.unknownPolicy name access))

/-- Lines of documentation, none when nothing is said. -/
def docs (name : String) (value : Option Json) : Except JsonFormFault (List String) :=
  match value with
  | none => .ok []
  | some (.text s) => .ok ((Text.lines s).map Text.strip)
  | some (.list items) => items.mapM fun v => (text (name ++ ".doc") (some v)).map Text.strip
  | some _ => .error (.cause (.badDocs name))

/-- The field with an index, of a register of `wordBits` bits. -/
def field (wordBits : Int) (index : Nat) : Json → Except JsonFormFault FieldDecl
  | .object members => do
    let name ← fieldName ("fields[" ++ toString index ++ "].name") (Json.get? "name" members)
    let bit ← bit (name ++ ".bit") (Json.get? "bit" members)
    checkRange wordBits name bit
    let policy ← policy name (Json.get? "access" members)
    let docs ← docs name (Json.get? "doc" members)
    let path ← path (name ++ ".register") (Json.get? "register" members)
    .ok ⟨name, bit, policy, path, docs, 0⟩
  | _ => .error (.cause (.fieldNotObject index))

def constant (member : String × Json) : Except JsonFormFault Constant := do
  let path ← path "constants key" (some (.text member.1))
  let value ← number ("constants." ++ member.1) member.2
  .ok ⟨path, value, [], 0⟩

/-- The constants, none when nothing is said. -/
def constants : Option Json → Except JsonFormFault (List Constant)
  | none => .ok []
  | some (.object members) => members.mapM constant
  | some _ => .error (.cause .constantsNotObject)

/-- Whether a text starts like a path and not like a number. -/
def startsLikePath (s : String) : Bool :=
  match (Text.strip s).toList with
  | [] => false
  | c :: _ => Text.isLetter c

def port (index : Nat) (value : Json) : Except JsonFormFault Port :=
  let place := "ports[" ++ toString index ++ "]"
  match value with
  | .text s =>
    if startsLikePath s then (path place (some value)).map .named
    else (number place value).map .address
  | _ => (number place value).map .address

/-- The addresses of the device, none when nothing is said. -/
def ports : Option Json → Except JsonFormFault (List Port)
  | none => .ok []
  | some (.list items) => items.zipIdx.mapM fun (v, i) => port i v
  | some _ => .error (.cause .portsNotList)

/-- The fields, which must be there. -/
def fields (wordBits : Int) : Option Json → Except JsonFormFault (List FieldDecl)
  | some (.list items) => items.zipIdx.mapM fun (v, i) => field wordBits i v
  | _ => .error (.cause .fieldsNotList)

def ofJson (source : String) (wordBits : Int) : Json → Except JsonFormFault Description
  | .object members => do
    let constants ← constants (Json.get? "constants" members)
    let ports ← ports (Json.get? "ports" members)
    let fields ← fields wordBits (Json.get? "fields" members)
    .ok ⟨ports, fields, constants, source⟩
  | _ => .error (.cause .notObject)

variable [Machine]

/-- The description that the text of a JSON value holds. -/
def read (s source : String) (wordBits : Int) : Except JsonFormFault Description := do
  let value ← (Json.read s).mapError .json
  ofJson source wordBits value

end JsonForm

end RegisterMap
