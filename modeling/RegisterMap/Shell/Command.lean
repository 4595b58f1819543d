import RegisterMap.Accessor.Device
import RegisterMap.Accessor.Name
import RegisterMap.Dump
import RegisterMap.Memory.Space

/-!
# Commands

What can be asked of a device in the shell: its fields and registers, the value of a field, and the
memory behind it. A command answers with a text.
-/

namespace RegisterMap.Shell

open Memory (Space)

/-- A device in a shell, with its model and the bus that it lives on. -/
structure Target where
  model : Model
  device : Device
  base : Int
  bus : Memory.Ref
  checks : Bool

/-- A command by name. -/
inductive Verb where
  | fields
  | get
  | log
  | mem
  | poke
  | regs
  | set
  deriving DecidableEq, Repr

namespace Verb

def all : List Verb :=
  [fields, get, log, mem, poke, regs, set]

def name : Verb → String
  | fields => "fields"
  | get => "get"
  | log => "log"
  | mem => "mem"
  | poke => "poke"
  | regs => "regs"
  | set => "set"

def ofName? (s : String) : Option Verb :=
  all.find? (·.name == s)

end Verb

/-- A text with blanks behind it, up to `width` places. -/
def column (width : Nat) (s : String) : String :=
  String.ofList (Dump.padRight width s.toList)

/-- A number of a command, in any of the usual bases. -/
def number (s : String) : Except Failure Int :=
  (Number.read .prefixed s).mapError (.badLiteral .prefixed s)

variable [Machine]

namespace Target

def store (t : Target) : Store Space :=
  ⟨Space.read t.bus, Space.write t.bus⟩

def load (t : Target) (address size : Int) : Step Space Failure Nat :=
  Step.withFailure .memory (Space.read t.bus address size)

def field (t : Target) (name : String) : Except Failure Field :=
  match t.model.field? name with
  | some f => .ok f
  | none => .error (.unknownName ("unknown field: " ++ name))

def fieldLine (f : Field) : String :=
  let bits :=
    if f.single then toString f.start else toString f.start ++ "..=" ++ toString f.stop
  column 24 f.name ++ " " ++ column 5 f.policy.keyword ++ " " ++ column 16 f.register ++ " " ++ bits

def fields (t : Target) : String :=
  if t.model.fields.isEmpty then "(no fields)"
  else "\n".intercalate (t.model.fields.map fieldLine)

/-- The line of a register, which is read if it can be. -/
def registerLine (t : Target) (r : Register) : Step Space Failure String := do
  let h ← Step.ofOutcome (t.device.handle r.name)
  let value ←
    if r.capability.readable then do
      let v ← t.device.readRegister t.store h
      pure (Number.prefixedHex 8 v)
    else pure "(write-only)"
  pure <|
    column 16 r.name ++ " +" ++ Number.prefixedHex 4 r.offset ++ " ["
      ++ Number.prefixedHex 8 h.address ++ "] " ++ r.capability.keyword ++ " = " ++ value

def registers (t : Target) : Step Space Failure String := do
  let lines ← t.model.registers.mapM t.registerLine
  pure ("\n".intercalate lines)

/-- The line of a field's value. -/
def valueLine (f : Field) : Answer → String
  | .truth b => f.name ++ " = " ++ (if b then "1" else "0")
  | .number n => f.name ++ " = " ++ Number.prefixedHex 0 n ++ " (" ++ toString n ++ ")"
  | .nothing => ""

def get (t : Target) : List String → Step Space Failure String
  | [name] => do
    let f ← Step.ofOutcome (t.field name)
    if f.policy.readable then
      let answer ← t.device.call t.checks t.store f.getterName []
      pure (valueLine f answer)
    else pure (f.name ++ " is write-only")
  | _ => pure "usage: get <field>"

/-- The argument that stands for a number in a call of a field's setter. -/
def setterArgument (f : Field) (value : Int) : Argument :=
  if f.single then .truth (value != 0) else .number value

def set (t : Target) : List String → Step Space Failure String
  | [] => pure "usage: set <field> [value]"
  | name :: values => do
    let f ← Step.ofOutcome (t.field name)
    if !f.policy.writable then pure (f.name ++ " is read-only")
    else
      let setter ← Step.ofOutcome (t.device.member f.setterName)
      if f.policy.selfClearing then
        let _ ← t.device.callMember t.checks t.store setter []
        pure (f.setterName ++ "()")
      else
        match values with
        | [written] =>
          let value ← Step.ofOutcome (number written)
          let _ ← t.device.callMember t.checks t.store setter [setterArgument f value]
          pure (f.name ++ " <- " ++ Number.prefixedHex 0 value)
        | _ => pure "usage: set <field> <value>"

/-- Stores a word at an offset. -/
def poke (t : Target) : List String → Step Space Failure String
  | [offset, written] => do
    let offset ← Step.ofOutcome (number offset)
    let value ← Step.ofOutcome (number written)
    let size := t.model.word.size
    Step.withFailure .memory (Space.write t.bus (t.base + offset) size value)
    pure <|
      "[" ++ Number.prefixedHex 8 (t.base + offset) ++ "] <- "
        ++ Number.prefixedHex (size * 2) value
  | _ => pure "usage: poke <offset> <value>"

/-- Loads `count` bytes one after the other. -/
def loadBytes (t : Target) (address : Int) : Nat → Step Space Failure (List UInt8)
  | 0 => pure []
  | count + 1 => do
    let b ← t.load address 1
    let bs ← t.loadBytes (address + 1) count
    pure (UInt8.ofNat b :: bs)

/-- Loads the words at the offsets from `offset` on that lie below `stop`, at most `count` of
them. -/
def loadWords (t : Target) (stop offset : Int) : Nat → Step Space Failure (List Int)
  | 0 => pure []
  | count + 1 =>
    if stop ≤ offset then pure []
    else do
      let w ← t.load (t.base + offset) t.model.word.size
      let ws ← t.loadWords stop (offset + t.model.word.size) count
      pure (Int.ofNat w :: ws)

/-- Shows memory, as bytes from an offset on or as all words of the registers. -/
def memory (t : Target) : List String → Step Space Failure String
  | "words" :: rest =>
    if 1 < rest.length then pure "usage: mem <offset> [len] | mem words"
    else do
      let ws ← t.loadWords t.model.span 0 t.model.span.toNat
      Step.ofOutcome (Dump.words t.base t.model.word.size ws)
  | [offset] => do
    let offset ← Step.ofOutcome (number offset)
    let data ← t.loadBytes (t.base + offset) 16
    Step.ofOutcome (Dump.bytes (t.base + offset) 16 data)
  | [offset, count] => do
    let offset ← Step.ofOutcome (number offset)
    let count ← Step.ofOutcome (number count)
    let data ← t.loadBytes (t.base + offset) count.toNat
    Step.ofOutcome (Dump.bytes (t.base + offset) 16 data)
  | _ => pure "usage: mem <offset> [len] | mem words"

def log (t : Target) : List String → Step Space Failure String
  | [switch] =>
    let word := Text.lower switch
    if word = "on" ∨ word = "off" then do
      let on := word == "on"
      Step.withFailure .memory (Space.changeBus t.bus fun b => { b with reporting := on })
      pure ("mmio log = " ++ word)
    else pure "usage: log on|off"
  | _ => pure "usage: log on|off"

def command (t : Target) (verb : Verb) (arguments : List String) : Step Space Failure String :=
  match verb with
  | .fields => pure t.fields
  | .get => t.get arguments
  | .log => t.log arguments
  | .mem => t.memory arguments
  | .poke => t.poke arguments
  | .regs => t.registers
  | .set => t.set arguments

end Target

end RegisterMap.Shell
