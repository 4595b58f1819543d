import RegisterMap.Accessor.Code
import RegisterMap.Accessor.Name
import RegisterMap.Analysis.Analyze

/-!
# Building accessor code

The code of the accessors of a model. A setter of a register that can be read writes the other bits
back as it read them, save those at which writing a one has an effect; a setter of any other
register writes zeros there.
-/

namespace RegisterMap.AccessorCode

/-- A number in hexadecimal with the digits of a word. -/
def wordLiteral (word : Bits.IntType) (n : Nat) : Literal :=
  .hex (word.bits / 4) n

/-- The place of a field in words. -/
def location (f : Field) : String :=
  if f.single then "Bit " ++ toString f.start ++ " of ``" ++ f.register ++ "``"
  else
    "Bits " ++ toString f.start ++ "..=" ++ toString f.stop ++ " of ``" ++ f.register ++ "``"

def valueKind (f : Field) : String :=
  match f.valueType with
  | none => "bool"
  | some t => t.name ++ ", " ++ toString f.width ++ " bits"

/-- The documentation of an accessor: that of the field, or a summary, and then the place. -/
def fieldDocs (f : Field) (summary : String) : List String :=
  (if f.docs.isEmpty then [summary] else f.docs)
    ++ ["", location f ++ " (" ++ f.policy.keyword ++ ", " ++ valueKind f ++ ")."]

def getterSummary (f : Field) : String :=
  if f.single then
    match f.policy with
    | .writeOneClears => "Whether the " ++ f.name ++ " status bit is set."
    | .writeOneTriggers => "Whether " ++ f.name ++ " is still pending."
    | _ => "Read the " ++ f.name ++ " flag."
  else "Read " ++ f.name ++ "."

def getter (f : Field) : Method :=
  ⟨f.getterName, fieldDocs f (getterSummary f), f.register,
    if f.single then .readBit f.start else .readRange f.start f.stop⟩

def setterSummary (f : Field) : String :=
  match f.policy with
  | .writeOneClears => "Clear " ++ f.name ++ " by writing 1 to it."
  | .writeOneTriggers => "Trigger " ++ f.name ++ " by writing 1 to it."
  | _ => if f.single then "Set or clear " ++ f.name ++ "." else "Write " ++ f.name ++ "."

/-- What the words written to a register start from. -/
def seedOf (capability : Capability) : Seed :=
  if capability.readable then .preserved else .zero

/-- What a setter of a field does. -/
def setterAction (seed : Seed) (f : Field) : Action :=
  if f.policy.selfClearing then .raiseBit seed f.start
  else if f.single then .writeBit seed f.start
  else .writeRange seed f.start f.stop f.name f.width f.greatest

/-- The setter of a field of a register with a capability. -/
def setter (capability : Capability) (f : Field) : Method :=
  ⟨f.setterName, fieldDocs f (setterSummary f), f.register, setterAction (seedOf capability) f⟩

/-- The capability of the register of a field. -/
def capabilityFor (m : Model) (f : Field) : Capability :=
  match m.register? f.register with
  | some r => r.capability
  | none => .writeOnly

def methodsOf (m : Model) (f : Field) : List Method :=
  (if f.policy.readable then [getter f] else [])
    ++ (if f.policy.writable then [setter (capabilityFor m f) f] else [])

def constantsOf (word : Bits.IntType) (f : Field) : List (String × Literal) :=
  let name := f.constantPrefix
  if f.single then [(name ++ "_BIT", .decimal f.start)]
  else
    [(name ++ "_BIT_START", .decimal f.start), (name ++ "_BIT_END", .decimal f.stop),
     (name ++ "_MASK", wordLiteral word f.mask)]

/-- Integer types with one more, in ascending order of their widths. -/
def insertType (t : Bits.IntType) : List Bits.IntType → List Bits.IntType
  | [] => [t]
  | u :: us =>
    if t = u then u :: us else if t.bits < u.bits then t :: u :: us else u :: insertType t us

/-- The integer types of words and values. -/
def typesOf (m : Model) : List Bits.IntType :=
  (m.fields.filterMap (·.valueType)).foldl (fun ts t => insertType t ts) [m.word]

/-- Whether a primitive serves some accessor of a field. -/
def serves (p : Primitive) (f : Field) : Bool :=
  match p with
  | .getBit => f.single && f.policy.readable
  | .getRange => !f.single && f.policy.readable
  | .setBit => f.single && f.policy.writable
  | .setRange => !f.single && f.policy.writable

/-- The primitives that the accessors of a model need. -/
def primitivesOf (m : Model) : List Primitive :=
  Primitive.all.filter fun p => m.fields.any (serves p)

/-- The kinds of handles in the order of their names. -/
def handleOrder : List Capability :=
  [.readOnly, .readWrite, .writeOnly]

/-- The kinds of handles that the registers of a model need. -/
def handlesOf (m : Model) : List Capability :=
  handleOrder.filter fun c => m.registers.any (·.capability == c)

def ofModel (m : Model) (className sourceName : String) : AccessorCode :=
  { className := className
    sourceName := sourceName
    word := m.word
    types := typesOf m
    primitives := primitivesOf m
    handles := handlesOf m
    ports := m.ports.map (.hex 8)
    offsets := m.registers.map fun r => (r.name, .hex 4 r.offset)
    fieldConstants := m.fields.flatMap (constantsOf m.word)
    maskConstants := m.registers.map fun r => (r.maskConstant, wordLiteral m.word r.preserve)
    slots := m.registers.map fun r => ⟨r.name, r.capability, .hex 4 r.offset⟩
    methods := m.fields.flatMap (methodsOf m) }

/-- The names of all methods of a model. -/
def methodNames (m : Model) : List String :=
  "new" :: m.fields.flatMap (·.accessorNames)

/-- Checks that no register has the name of a method. -/
def checkMembers (m : Model) : Except AnalysisFault Unit :=
  match m.registers.find? fun r => (methodNames m).contains r.name with
  | some r => .error (.attributeTaken r.fields.head? r.name)
  | none => .ok ()

def accessorCount (m : Model) : Nat :=
  (m.fields.flatMap (·.accessorNames)).length

end RegisterMap.AccessorCode
