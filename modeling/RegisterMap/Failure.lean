import RegisterMap.Bits.Basic
import RegisterMap.Capability
import RegisterMap.Diagnostic
import RegisterMap.Log
import RegisterMap.Memory.Fault
import RegisterMap.Number.Literal
import RegisterMap.Text.Utf8

/-!
# Failures

All that can go wrong in a run, sorted into categories that say who is to blame and who deals with
it: the shell goes on after some of them, the command line reports some of them.
-/

namespace RegisterMap

inductive Category where
  | general
  | parse
  | analysis
  | nullPointer
  | contract
  | value
  | decoding
  | encoding
  | key
  | assertion
  | type
  | index
  | attribute
  | unimplemented
  | invalidCode
  | recursion
  | overflow
  | exhausted
  | zeroDivision
  | fileMissing
  | fileExists
  | fileIsDirectory
  | fileUnderFile
  | fileNameTooLong
  deriving DecidableEq, Repr

/-- How a handle can be duplicated. -/
inductive Duplication where
  | copy
  | pickle
  deriving DecidableEq, Repr

/-- What stands at a path instead of what is needed there. -/
inductive PathFault where
  | missing
  | existing
  | directory
  | underFile
  | tooLong
  deriving DecidableEq, Repr

namespace PathFault

/-- The number and wording of a fault. -/
def reason : PathFault → String
  | missing => "[Errno 2] No such file or directory"
  | existing => "[Errno 17] File exists"
  | directory => "[Errno 21] Is a directory"
  | underFile => "[Errno 20] Not a directory"
  | tooLong => "[Errno 36] File name too long"

def category : PathFault → Category
  | missing => .fileMissing
  | existing => .fileExists
  | directory => .fileIsDirectory
  | underFile => .fileUnderFile
  | tooLong => .fileNameTooLong

end PathFault

/-- What goes wrong in a run. -/
inductive Failure where
  | diagnostic (d : Diagnostic)
  | memory (f : Memory.Fault)
  | bits (f : Bits.Fault)
  | undecodable (f : Text.Utf8.DecodeFault)
  | unencodable (f : Text.Utf8.EncodeFault)
  | badLiteral (rule : Number.Notation) (text : String) (f : Number.LiteralFault)
  /-- A number too long to be written. -/
  | longNumber
  | notFinite (isNaN : Bool)
  /-- A value of another kind where a number has to stand. -/
  | notNumeric (found : String)
  | emptyPath (text : String)
  | badWordBits (allowed found : String)
  | badClassName (name : String)
  | widthMismatch (asked model : Int)
  | unknownSetting (name : String)
  | notALevel (part : Log.Part)
  | unknownName (name : String)
  /-- A register at the null address. -/
  | nullRegister (capability : Capability) (offset : Int)
  | notReadable (address : Int)
  | notWritable (address : Int)
  | owned (capability : Capability) (way : Duplication)
  | notAPort (address : Int) (className : String)
  | valueTooWide (field : String) (width value : Int)
  | asserted (message : String)
  | noMember
  | badCall (reason : String)
  /-- Code that cannot be loaded. -/
  | invalidCode
  | slotConflict (name : String)
  | endless
  /-- A text that is nested deeper than calls can be. -/
  | tooDeep
  | zeroStep
  | badPlaces (places : Int)
  | tooManyPlaces
  | noWord
  | file (fault : PathFault) (path : String)
  | nullByte
  /-- A null character in the name of a file with code. -/
  | nullCharacter
  | nullInCode
  /-- A value that has no hexadecimal text. -/
  | noHex (type : String)
  /-- A description without addresses where one has to be chosen. -/
  | noPorts (input : String)
  deriving DecidableEq, Repr

namespace Failure

/-- The category of a bit primitive's fault. -/
def bitsCategory : Bits.Fault → Category
  | .negativeShift => .value
  | .tooLong => .overflow
  | .exhausted => .exhausted
  | .longNumber => .value
  | _ => .assertion

/-- The category of a memory's fault. -/
def memoryCategory : Memory.Fault → Category
  | .noBytes => .value
  | .notAddressable => .overflow
  | .exhausted => .exhausted
  | .mask f => bitsCategory f
  | .negativeLength _ => .value
  | .negativeRoom => .value
  | .outside .. => .key
  | .longNumber => .value
  | .noRegion _ => .key
  | .overlap .. => .value
  | .unmapped .. => .key
  | .cannotMap .. => .value
  | .noStorage => .unimplemented
  | .zeroWord => .zeroDivision
  | .unsupported => .attribute
  | .endless => .recursion

def diagnosticCategory : Diagnostic → Category
  | .general .. => .general
  | .parse .. => .parse
  | .analysis .. => .analysis
  | .nullPointer .. => .nullPointer
  | .contract .. => .contract

/-- The failure as a diagnostic, if it is one. -/
def diagnostic? : Failure → Option Diagnostic
  | diagnostic d => some d
  | nullRegister capability offset =>
    some <| .nullPointer
      (capability.handleName ++ " register at offset " ++ Number.prefixedHex 0 offset
        ++ " resolves to a null address")
      .nullPointer
  | notReadable address =>
    some <| .contract
      ("Cannot read from write-only register at " ++ Number.prefixedHex 8 address) .badState
  | notWritable address =>
    some <| .contract
      ("Cannot write to read-only register at " ++ Number.prefixedHex 8 address) .badState
  | _ => none

def category : Failure → Category
  | diagnostic d => diagnosticCategory d
  | memory f => memoryCategory f
  | bits f => bitsCategory f
  | undecodable _ => .decoding
  | unencodable _ => .encoding
  | badLiteral .. => .value
  | longNumber => .value
  | notFinite isNaN => if isNaN then .value else .overflow
  | notNumeric _ => .type
  | emptyPath _ => .value
  | badWordBits .. => .value
  | badClassName _ => .value
  | widthMismatch .. => .value
  | unknownSetting _ => .type
  | notALevel .pattern => .value
  | notALevel .styles => .type
  | unknownName _ => .key
  | nullRegister .. => .nullPointer
  | notReadable _ => .contract
  | notWritable _ => .contract
  | owned .. => .type
  | notAPort .. => .assertion
  | valueTooWide .. => .assertion
  | asserted _ => .assertion
  | noMember => .attribute
  | badCall _ => .type
  | invalidCode => .invalidCode
  | slotConflict _ => .value
  | endless => .recursion
  | tooDeep => .recursion
  | zeroStep => .value
  | badPlaces _ => .value
  | tooManyPlaces => .value
  | noWord => .index
  | file fault _ => fault.category
  | nullByte => .value
  | nullCharacter => .value
  | nullInCode => .value
  | noHex _ => .value
  | noPorts _ => .value

def message : Failure → String
  | memory f => f.message
  | bits f => f.message
  | undecodable f => f.message
  | unencodable f => f.message
  | badLiteral rule text f => f.message rule text
  | longNumber => Number.longNumberMessage
  | notFinite true => "cannot convert float NaN to integer"
  | notFinite false => ""
  | notNumeric found =>
    "int() argument must be a string, a bytes-like object or a real number, not '" ++ found ++ "'"
  | emptyPath text => "empty path: " ++ Text.quoted text
  | badWordBits allowed found =>
    "word_bits must be one of " ++ allowed ++ ", got " ++ found
  | badClassName name => "class_name is not a valid identifier: " ++ Text.quoted name
  | widthMismatch asked model =>
    "options ask for " ++ toString asked ++ "-bit words, model has " ++ toString model
  | unknownSetting name =>
    "Settings.__init__() got an unexpected keyword argument '" ++ name ++ "'"
  | notALevel part => part.message
  | unknownName name => name
  | owned capability .copy =>
    capability.handleName ++ " handles are exclusively owned and cannot be copied"
  | owned capability .pickle => capability.handleName ++ " handles cannot be pickled"
  | notAPort address className =>
    Number.prefixedHex 8 address ++ " is not a device port of " ++ className
  | valueTooWide field width value =>
    field ++ " holds " ++ toString width ++ " bits, got " ++ Number.prefixedHex 0 value
  | asserted message => message
  | badCall reason => reason
  | slotConflict name => Text.quoted name ++ " in __slots__ conflicts with class variable"
  | zeroStep => "range() arg 3 must not be zero"
  | badPlaces places =>
    "Invalid format specifier '0" ++ toString places ++ "X' for object of type 'int'"
  | tooManyPlaces => "Too many decimal digits in format string"
  | noWord => "list index out of range"
  | file fault path => fault.reason ++ ": " ++ Text.quoted path
  | nullByte => "embedded null byte"
  | nullCharacter => "embedded null character"
  | nullInCode => "source code string cannot contain null bytes"
  | noHex type => "Unknown format code 'X' for object of type '" ++ type ++ "'"
  | noPorts input => input ++ " declares no device ports; pass --base"
  | noMember => ""
  | invalidCode => ""
  | endless => ""
  | tooDeep => ""
  | f =>
    match f.diagnostic? with
    | some d => d.text
    | none => ""

end Failure

end RegisterMap
