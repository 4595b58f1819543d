import RegisterMap.Accessor.Text
import RegisterMap.Analysis.ReservedWord
import RegisterMap.Failure
import RegisterMap.Text.Canonical

/-!
# Loading accessor code

Code becomes a class: its members by the names under which they are kept. A name that starts with
two underscores, and does not end with two, is private: it is kept with the name of the class in
front, so that only the class itself finds it. Later members replace earlier ones of their name.
-/

namespace RegisterMap

/-- A constant of a class. -/
inductive ConstantValue where
  | number (n : Int)
  | ports (values : List Int)
  | offsets (values : List (String × Int))
  deriving DecidableEq, Repr

structure AccessorClass where
  code : AccessorCode
  constants : List (String × ConstantValue)
  slots : List String
  methods : List (String × Method)
  deriving Repr

namespace AccessorClass

/-- Whether a name is private to its class. -/
def isPrivate (name : String) : Bool :=
  let cs := name.toList
  "__".toList.isPrefixOf cs && !"__".toList.isSuffixOf cs

/-- The name under which a class keeps a member. The underscores that the name of the class starts
with are left out, and a class named by underscores alone keeps private names as they are. -/
def keptName (className name : String) : String :=
  let owner := (Text.canonical className).toList.dropWhile (· == '_')
  if isPrivate name && !owner.isEmpty then
    String.ofList ('_' :: owner) ++ name
  else name

/-- The name under which a class keeps a member that its code names. -/
def memberName (className name : String) : String :=
  keptName className (Text.canonical name)

/-- Members by name, where a later one takes the place of an earlier one. -/
def bind {α : Type} (members : List (String × α)) (name : String) (value : α) : List (String × α) :=
  (members.filter (·.1 != name)) ++ [(name, value)]

/-- Members in order, each under the name it is kept with. -/
def bindAll {α : Type} (className : String) (members : List (String × α)) : List (String × α) :=
  members.foldl (fun known m => bind known (memberName className m.1) m.2) []

/-- The names of the constants for all addresses and all offsets. -/
def portsName : String := "PORTS"

/-- The name of the constant with the offsets of the registers. -/
def offsetsName : String := "REGISTER_OFFSETS"

def constantsOf (c : AccessorCode) : List (String × ConstantValue) :=
  bindAll c.className <|
    [(portsName, .ports (c.ports.map (·.value))),
     (offsetsName, .offsets (c.offsets.map fun o => (o.1, o.2.value)))]
      ++ (c.fieldConstants ++ c.maskConstants).map fun m => (m.1, .number m.2.value)

def methodsOf (c : AccessorCode) : List (String × Method) :=
  bindAll c.className (c.methods.map fun m => (m.name, m))

/-- A name that stands for a value in the language itself and cannot be bound. -/
def fixedName : String := "__debug__"

def isClassName (name : String) : Bool :=
  !isReserved name && Text.canonical name != fixedName

def literals (c : AccessorCode) : List Literal :=
  c.ports ++ c.offsets.map (·.2) ++ c.slots.map (·.offset)
    ++ (c.fieldConstants ++ c.maskConstants).map (·.2)

/-- Whether the text of code is a valid module. -/
def isValid (c : AccessorCode) : Bool :=
  isClassName c.className
    && c.slots.all (Text.canonical ·.register != fixedName)
    && (literals c).all Literal.isLoadable

def standardMembers : List String :=
  ["__module__", "__doc__", "__slots__", "__init__", "new"]

/-- Whether a text has a null character in it. -/
def hasNull (s : String) : Bool :=
  s.toList.contains '\x00'

/-- The class that code in a file defines. -/
def load (file : String) (c : AccessorCode) : Except Failure AccessorClass :=
  if hasNull file then .error .nullCharacter
  else
    match Text.Utf8.encode c.text with
    | .error fault => .error (.unencodable fault)
    | .ok _ =>
      if hasNull c.text then .error .nullInCode
      else if !isValid c then .error .invalidCode
      else
        let constants := constantsOf c
        let methods := methodsOf c
        let slots := c.slots.map fun s => keptName c.className s.register
        let taken := standardMembers ++ constants.map (·.1) ++ methods.map (·.1)
        match slots.find? taken.contains with
        | some name => .error (.slotConflict name)
        | none => .ok ⟨c, constants, slots, methods⟩

def constant? (k : AccessorClass) (name : String) : Option ConstantValue :=
  k.constants.lookup name

def method? (k : AccessorClass) (name : String) : Option Method :=
  k.methods.lookup name

/-- The names of the members that do not start with an underscore, in alphabetical order. -/
def members (k : AccessorClass) : List String :=
  let names := "new" :: (k.constants.map (·.1) ++ k.slots ++ k.methods.map (·.1))
  (names.filter fun name => name.toList.head? != some '_').mergeSort fun a b => !decide (b < a)

end AccessorClass

/-- What a name finds in loaded code: a class of devices, or one of the things that all loaded code
has, its kind and its names, which come before what the code binds. -/
inductive Binding where
  | accessors (k : AccessorClass)
  | kind
  | names
  deriving Repr

namespace Binding

/-- What a name finds in the code of a class. -/
def ofName (k : AccessorClass) (name : String) : Except Failure Binding :=
  if name = "__class__" then .ok kind
  else if name = "__dict__" then .ok names
  else if Text.canonical k.code.className = name then .ok (accessors k)
  else .error .noMember

/-- The names of the members that do not start with an underscore. -/
def members : Binding → Except Failure (List String)
  | accessors k => .ok k.members
  | kind => .ok []
  | names => .error (.badCall "vars() argument must have __dict__ attribute")

def constant (name : String) : Binding → Except Failure ConstantValue
  | accessors k =>
    match k.constant? name with
    | some value => .ok value
    | none => .error .noMember
  | _ => .error .noMember

end Binding

end RegisterMap
