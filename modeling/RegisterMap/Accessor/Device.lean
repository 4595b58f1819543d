import RegisterMap.Accessor.Load
import RegisterMap.Handle

/-!
# Devices

A device of an accessor class has a handle for each register. A getter reads the register once; a
setter reads it at most once and then writes it once, and a setter of a range first makes sure that
the value fits.

The class is bound after its imports. When it has the name of one of them, its methods find the
class where they look for the import, and what they then do is the business of `hides`.
-/

namespace RegisterMap

structure Device where
  kind : AccessorClass
  base : Int
  handles : List (String × Handle)
  deriving Repr

/-- An argument of an accessor: a truth value, a number, with a fraction or without, or something
else of a named type. -/
inductive Argument where
  | truth (b : Bool)
  | number (n : Int)
  | fraction (isTrue : Bool)
  | other (type : String) (isTrue : Bool)
  deriving DecidableEq, Repr

namespace Argument

/-- What an argument counts as where a truth value is expected. -/
def isTrue : Argument → Bool
  | truth b => b
  | number n => n != 0
  | fraction b => b
  | other _ b => b

/-- What an argument counts as where a number is expected. -/
def number? : Argument → Except Failure Int
  | truth b => .ok (if b then 1 else 0)
  | number n => .ok n
  | fraction _ => .error (.noHex "float")
  | other type _ =>
    .error (.badCall ("'<=' not supported between instances of 'int' and '" ++ type ++ "'"))

end Argument

/-- What an accessor answers. -/
inductive Answer where
  | nothing
  | truth (b : Bool)
  | number (n : Nat)
  deriving DecidableEq, Repr

namespace AccessorClass

/-- The names that the code imports and uses. -/
def imported (k : AccessorClass) : List String :=
  k.code.types.map (·.capitalName) ++ k.code.primitives.map (·.name)
    ++ k.code.handles.map (·.handleName) ++ [AccessorCode.guardName]

/-- Whether the class takes the place of the import of this name. -/
def hides (k : AccessorClass) (name : String) : Bool :=
  Text.canonical k.code.className == name && k.imported.contains name

/-- Whether the class takes the place of the word type. -/
def hidesWord (k : AccessorClass) : Bool :=
  k.hides k.code.word.capitalName

/-- The complaint about a function of the class called with too many arguments. -/
def tooMany (k : AccessorClass) (function : String) (takes given : Nat) : Failure :=
  .badCall <|
    Text.canonical k.code.className ++ "." ++ function ++ "() takes " ++ toString takes
      ++ " positional argument" ++ (if takes = 1 then "" else "s") ++ " but " ++ toString given
      ++ " were given"

/-- The complaint about a call of something that is no function. -/
def notCallable (type : String) : Failure :=
  .badCall ("'" ++ type ++ "' object is not callable")

/-- Whether the class has a register called `name`, which then means more than a register. -/
def claims (k : AccessorClass) (name : String) : Bool :=
  k.slots.contains name

/-- Checks the base address against the addresses of the device. -/
def checkBase (checks : Bool) (k : AccessorClass) (base : Int) : Except Failure Unit :=
  if k.code.ports.isEmpty then .ok ()
  else if k.claims "__getattribute__" then .error .noMember
  else if k.hides AccessorCode.guardName then .error .endless
  else if checks && !(k.code.ports.map (·.value)).contains base then
    .error (.notAPort base k.code.className)
  else .ok ()

/-- The handle that the code makes for a slot. -/
def makeHandle (k : AccessorClass) (base : Int) (s : Slot) : Except Failure Handle :=
  if k.hides s.capability.handleName then .error (k.tooMany "new" 3 5)
  else Handle.ofOffset s.capability base s.offset.value k.code.word

/-- The handles with one more for a slot. Some names cannot be assigned to. -/
def assign (k : AccessorClass) (s : Slot) (h : Handle) (handles : List (String × Handle)) :
    Except Failure (List (String × Handle)) :=
  let name := memberName k.code.className s.register
  let known := k.slots.contains name || k.claims "__dict__"
  if k.claims "__setattr__" || !known || name == "__weakref__" then .error .noMember
  else if name == "__dict__" then
    .error <| .badCall <|
      "__dict__ must be set to a dictionary, not a '" ++ s.capability.handleName ++ "'"
  else .ok (bind handles name h)

/-- The handles with one more for each slot in order. -/
def fill (k : AccessorClass) (base : Int) (handles : List (String × Handle)) :
    List Slot → Except Failure (List (String × Handle))
  | [] => .ok handles
  | s :: slots => do
    let h ← k.makeHandle base s
    let handles ← k.assign s h handles
    k.fill base handles slots

def construct (checks : Bool) (k : AccessorClass) (base : Int) : Except Failure Device :=
  if k.claims "__new__" then .error (notCallable "member_descriptor")
  else do
    k.checkBase checks base
    let handles ← k.fill base [] k.code.slots
    .ok ⟨k, base, handles⟩

end AccessorClass

namespace Device

variable [Machine] {σ : Type}

/-- Why a name that finds nothing on a device fails: a register may have taken the name of the last
resort. -/
def missing (d : Device) : Failure :=
  match d.handles.lookup "__getattr__" with
  | some h => AccessorClass.notCallable h.capability.handleName
  | none => .noMember

/-- What a name finds on a device. -/
inductive Member where
  | handle (h : Handle)
  | method (m : Method)
  | constant (value : ConstantValue)
  deriving Repr

/-- What a name finds on a device, if that can be looked up at all: a register may have taken the
name of the lookup itself. -/
def member (d : Device) (name : String) : Except Failure Member :=
  match d.handles.lookup "__getattribute__" with
  | some h => .error (AccessorClass.notCallable h.capability.handleName)
  | none =>
    match d.handles.lookup name, d.kind.method? name, d.kind.constant? name with
    | some h, _, _ => .ok (.handle h)
    | none, some m, _ => .ok (.method m)
    | none, none, some value => .ok (.constant value)
    | none, none, none => .error d.missing

def handle (d : Device) (register : String) : Except Failure Handle := do
  match ← d.member register with
  | .handle h => .ok h
  | _ => .error .noMember

/-- The handle that a method of the class finds for a register. -/
def ownHandle (d : Device) (register : String) : Except Failure Handle :=
  match d.handles.lookup (AccessorClass.memberName d.kind.code.className register) with
  | some h => .ok h
  | none => .error d.missing

/-- The complaint about a register in the place of something that is no register. -/
def misplaced (problem : String) : Failure :=
  .badCall (problem ++ " 'int' and 'member_descriptor'")

/-- Fails as a read through a handle fails when the class takes the place of the word type. A
register called `size` then passes for a size as far as the memory. -/
def failRead (store : Store σ) (d : Device) (h : Handle) : Step σ Failure Int := do
  if d.kind.claims "size" then
    let s ← Step.current
    match ((store.read h.address 0).run s).1 with
    | .error fault => Step.fail (.memory fault)
    | .ok _ => Step.fail (misplaced "unsupported operand type(s) for +:")
  else Step.fail .noMember

/-- How a write through a handle fails when the class takes the place of the word type. -/
def writeFailure (d : Device) : Failure :=
  if d.kind.claims "size" && d.kind.claims "to_unsigned" then
    AccessorClass.notCallable "member_descriptor"
  else .noMember

def readRegister (store : Store σ) (d : Device) (h : Handle) : Step σ Failure Int :=
  if d.kind.hidesWord && h.capability.readable then d.failRead store h else h.read store

def writeRegister (store : Store σ) (d : Device) (h : Handle) (value : Int) :
    Step σ Failure Unit :=
  if d.kind.hidesWord && h.capability.writable then Step.fail d.writeFailure
  else h.write store value

/-- The preserved bits of a register. -/
def preserved (d : Device) (register : String) : Except Failure Int :=
  let name := AccessorClass.memberName d.kind.code.className (maskConstantOf register)
  match d.kind.constant? name with
  | some (.number n) => .ok n
  | _ => .error d.missing

/-- The bits that a word and a mask, neither of them negative, have in common. -/
def common (word mask : Int) : Int :=
  (word.toNat &&& mask.toNat : Nat)

/-- The word that a setter starts from. -/
def seedWord (store : Store σ) (d : Device) (register : String) : Seed → Step σ Failure Int
  | .zero => pure 0
  | .preserved => do
    let h ← Step.ofOutcome (d.ownHandle register)
    let value ← d.readRegister store h
    let mask ← Step.ofOutcome (d.preserved register)
    pure (common value mask)

/-- Fails when a primitive cannot be called because the class or its word type hides it; `given`
counts the arguments. -/
def checkPrimitive (d : Device) (p : Primitive) (given : Nat) : Except Failure Unit :=
  if d.kind.hides p.name then .error (d.kind.tooMany "__init__" 3 given)
  else if d.kind.hidesWord then
    .error <|
      if d.kind.claims "bits" then misplaced "'<' not supported between instances of" else .noMember
  else .ok ()

def checkFits (checks : Bool) (d : Device) (field : String) (width greatest : Nat) (value : Int) :
    Except Failure Unit :=
  let fits := decide (0 ≤ value ∧ value ≤ greatest)
  if d.kind.hides AccessorCode.guardName then
    (d.kind.construct checks (if fits then 1 else 0)).map fun _ => ()
  else if checks && !fits then .error (.valueTooWide field width value)
  else .ok ()

/-- Changes the word of a register and writes it back. -/
def update (store : Store σ) (d : Device) (register : String) (seed : Seed) (p : Primitive)
    (change : Int → Except Bits.Fault Int) : Step σ Failure Answer := do
  let word ← d.seedWord store register seed
  let h ← Step.ofOutcome (d.ownHandle register)
  Step.ofOutcome (d.checkPrimitive p 5)
  let word ← Step.ofOutcome ((change word).mapError .bits)
  d.writeRegister store h word
  pure .nothing

/-- Performs the action of a method on its register with an argument. -/
def perform (checks : Bool) (store : Store σ) (d : Device) (register : String)
    (argument : Argument) : Action → Step σ Failure Answer
  | .readBit bit => do
    let h ← Step.ofOutcome (d.ownHandle register)
    let word ← d.readRegister store h
    Step.ofOutcome (d.checkPrimitive .getBit 4)
    let b ← Step.ofOutcome ((Bits.getBit checks word bit d.kind.code.word).mapError .bits)
    pure (.truth b)
  | .readRange start stop => do
    let h ← Step.ofOutcome (d.ownHandle register)
    let word ← d.readRegister store h
    Step.ofOutcome (d.checkPrimitive .getRange 4)
    let n ← Step.ofOutcome <|
      (Bits.getBitRange checks word start stop d.kind.code.word).mapError .bits
    pure (.number n)
  | .raiseBit seed bit =>
    d.update store register seed .setBit fun word =>
      Bits.setBit checks word bit true d.kind.code.word
  | .writeBit seed bit =>
    d.update store register seed .setBit fun word =>
      Bits.setBit checks word bit argument.isTrue d.kind.code.word
  | .writeRange seed start stop field width greatest => do
    let value ← Step.ofOutcome argument.number?
    Step.ofOutcome (d.checkFits checks field width greatest value)
    d.update store register seed .setRange fun word =>
      Bits.setBitRange checks word start stop value d.kind.code.word

/-- The argument of a method, from those it is called with. -/
def argumentOf (d : Device) (m : Method) : List Argument → Except Failure Argument
  | [] =>
    match m.action.parameter with
    | none => .ok (.truth false)
    | some parameter =>
      .error <| .badCall <|
        Text.canonical d.kind.code.className ++ "." ++ Text.canonical m.name
          ++ "() missing 1 required positional argument: '" ++ parameter ++ "'"
  | [a] =>
    match m.action.parameter with
    | none => .error (d.kind.tooMany (Text.canonical m.name) 1 2)
    | some _ => .ok a
  | a :: b :: more =>
    let takes := if m.action.parameter.isSome then 2 else 1
    .error (d.kind.tooMany (Text.canonical m.name) takes ((a :: b :: more).length + 1))

/-- The type of a constant, as complaints name it. -/
def constantType : ConstantValue → String
  | .number _ => "int"
  | .ports _ => "tuple"
  | .offsets _ => "dict"

/-- The method that a member is. -/
def Member.method? : Member → Except Failure Method
  | .handle h => .error (AccessorClass.notCallable h.capability.handleName)
  | .method m => .ok m
  | .constant value => .error (AccessorClass.notCallable (constantType value))

def callMember (checks : Bool) (store : Store σ) (d : Device) (found : Member)
    (arguments : List Argument) : Step σ Failure Answer := do
  let m ← Step.ofOutcome found.method?
  let argument ← Step.ofOutcome (d.argumentOf m arguments)
  d.perform checks store m.register argument m.action

def call (checks : Bool) (store : Store σ) (d : Device) (name : String)
    (arguments : List Argument) : Step σ Failure Answer := do
  let found ← Step.ofOutcome (d.member name)
  d.callMember checks store found arguments

def read (store : Store σ) (d : Device) (register : String) : Step σ Failure Int := do
  let h ← Step.ofOutcome (d.handle register)
  d.readRegister store h

def write (store : Store σ) (d : Device) (register : String) (value : Int) :
    Step σ Failure Unit := do
  let h ← Step.ofOutcome (d.handle register)
  d.writeRegister store h value

/-- The text of the handle of a register. -/
def handleText (d : Device) (h : Handle) : String :=
  if d.kind.hidesWord then
    let name := Text.canonical d.kind.code.className
    h.capability.handleName ++ "(" ++ Number.prefixedHex 8 h.address ++ ", <class 'regforge_"
      ++ Text.lower d.kind.code.className ++ "." ++ name ++ "'>)"
  else h.text

end Device

/-- The device at a base address, of what has been found in loaded code. -/
def Binding.construct (checks : Bool) (base : Int) : Binding → Except Failure Device
  | .accessors k => k.construct checks base
  | _ => .error .noMember

end RegisterMap
