import RegisterMap.Accessor.Build
import RegisterMap.Accessor.Text
import RegisterMap.Description.JsonForm
import RegisterMap.Files.Path
import RegisterMap.Text.Case

/-!
# Compiling

From the text of a description to the text of its accessors, with the notices of each stage.
-/

namespace RegisterMap

/-- The text of a file's bytes, with every line break written as `\n`. -/
def textOfBytes (bytes : List UInt8) : Except Failure String :=
  match Text.Utf8.decode bytes with
  | .ok s => .ok (Text.unifyBreaks s)
  | .error fault => .error (.undecodable fault)

namespace Compile

variable [Machine]

/-- Reads a description in the language of descriptions. -/
def readText (text source : String) (wordBits : Int) : Noting Failure Description := do
  let d ← Step.ofOutcome <|
    (Parser.readDescription text source wordBits).mapError (SourceFault.failure source)
  note (.parsed source d.ports.length d.fields.length d.constants.length)
  pure d

def readJson (text source : String) (wordBits : Int) : Except Failure Description :=
  (JsonForm.read text source wordBits).mapError (JsonFormFault.failure source)

def readConstants (text source : String) : Except Failure (List Constant) :=
  (Parser.readConstants text).mapError (SourceFault.failure source)

/-- The suffix of files in JSON, in any case. -/
def jsonSuffix : String := ".json"

/-- Reads a description from a file's bytes, in the form that its name tells. -/
def descriptionOfFile (path : Files.FilePath) (content : List UInt8) (wordBits : Int) :
    Noting Failure Description :=
  if Text.lower path.suffix = jsonSuffix then
    Step.ofOutcome do
      let text ← textOfBytes content
      readJson text path.text wordBits
  else do
    let text ← Step.ofOutcome (textOfBytes content)
    readText text path.text wordBits

/-- Reads a list of constants from a file's bytes. -/
def constantsOfFile (path : Files.FilePath) (content : List UInt8) :
    Noting Failure (List Constant) := do
  let text ← Step.ofOutcome (textOfBytes content)
  let constants ← Step.ofOutcome (readConstants text path.text)
  note (.constantsRead constants.length path.text)
  pure constants

/-- The number of line breaks of a text. -/
def lineCount (text : String) : Nat :=
  Text.countBreaks text.toList

/-- The code of a model's accessors, for options of the model's width. -/
def code (m : Model) (o : Options) : Except Failure AccessorCode :=
  if (o.wordBits : Int) ≠ m.word.bits then .error (.widthMismatch o.wordBits m.word.bits)
  else
    match AccessorCode.checkMembers m with
    | .error fault => .error fault.failure
    | .ok () => .ok (AccessorCode.ofModel m o.className o.sourceName)

def generate (m : Model) (o : Options) : Noting Failure AccessorCode := do
  let c ← Step.ofOutcome (code m o)
  note (.generated o.className (lineCount c.text) (AccessorCode.accessorCount m))
  pure c

def compile (d : Description) (o : Options) (external : External) :
    Noting Failure (Model × AccessorCode) := do
  let m ← Analysis.analyze d o.wordBits external
  let c ← generate m o
  pure (m, c)

end Compile

end RegisterMap
