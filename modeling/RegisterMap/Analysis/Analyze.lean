import RegisterMap.Analysis.External
import RegisterMap.Analysis.Fault
import RegisterMap.Analysis.Model
import RegisterMap.Analysis.ReservedWord
import RegisterMap.Options

/-!
# Analysis

A description becomes a model: paths become numbers, fields get their bits and types, and the
fields of one register name are gathered into one register, which lies where the path of the first
of them says.
-/

namespace RegisterMap.Analysis

/-- A field as it is described and as it is resolved. -/
structure Placed where
  decl : FieldDecl
  field : Field
  deriving DecidableEq, Repr

/-- Checks a name against reserved words and against the fields before it. -/
def checkName (before : List FieldDecl) (d : FieldDecl) : Except AnalysisFault Unit :=
  if !Text.isIdentifier d.name || isReserved d.name then .error (.unusableName d.name)
  else
    match before.find? (·.name == d.name) with
    | some other => .error (.declaredTwice d.name other.line)
    | none =>
      let capitals := Text.upper d.name
      match before.find? (Text.upper ·.name == capitals) with
      | some other => .error (.sharedPrefix d.name capitals other.name other.line)
      | none => .ok ()

/-- The type of the values of a range; checks that the range fits a register of the word type. -/
def rangeType (word : Bits.IntType) (d : FieldDecl) (start stop : Int) :
    Except AnalysisFault Bits.IntType :=
  if stop ≤ start then .error (.emptyRange d.name d.bit)
  else if word.bits ≤ stop then .error (.rangeOutside d.name start stop word.bits)
  else if d.policy.selfClearing then .error (.rangeOfSingles d.name d.policy d.bit)
  else
    match Bits.widthFor (stop - start + 1) with
    | some t => .ok t
    | none => .error (.rangeTooWide d.name start stop)

variable [Machine]

/-- A field in a register of the word type. -/
def resolveField (word : Bits.IntType) (d : FieldDecl) : Except Failure Field := do
  let (start, stop) := d.bit.resolve word.bits
  let valueType ←
    if d.bit.isSingle then
      if word.bits ≤ start then
        .error (AnalysisFault.bitOutside d.name start word.bits).failure
      else .ok none
    else ((rangeType word d start stop).map some).mapError AnalysisFault.failure
  let mask ← (Bits.maskFor start stop).mapError .bits
  .ok
    { name := d.name, policy := d.policy, register := d.registerName, start := start.toNat,
      stop := stop.toNat, single := d.bit.isSingle, mask := mask, valueType := valueType,
      docs := d.docs }

def portValue (t : ConstantTable) : Port → Except AnalysisFault Int
  | .address value => .ok value
  | .named path =>
    match t.resolve path with
    | some value => .ok value
    | none => .error (.unknownPort path)

/-- The numbers of addresses after those already `known`; one that is listed again is passed
over. -/
def ports (t : ConstantTable) (known : List Int) : List Port → Noting Failure (List Int)
  | [] => pure known
  | p :: ps => do
    let value ← Step.ofOutcome ((portValue t p).mapError AnalysisFault.failure)
    if known.contains value then
      note (.portTwice value)
      ports t known ps
    else ports t (known ++ [value]) ps

/-- The path of the first field of a register. -/
def firstPath? (register : String) (placed : List Placed) : Option Path :=
  (placed.find? (·.field.register == register)).map (·.decl.path)

def fieldsOf (register : String) (placed : List Placed) : List Field :=
  (placed.filter (·.field.register == register)).map (·.field)

/-- Tells when a field names its register by another path than the first field of it did. -/
def noteBinding (before : List Placed) (p : Placed) : Noting Failure Unit :=
  match firstPath? p.field.register before with
  | some first =>
    if first = p.decl.path then pure ()
    else note (.alreadyBound p.decl.name p.field.register first p.decl.path)
  | none => pure ()

/-- Tells which earlier fields of the register share a bit with a field. -/
def noteOverlaps (f : Field) : List Field → Noting Failure Unit
  | [] => pure ()
  | other :: others => do
    if other.overlaps f then note (.overlap other.name f.name f.register)
    noteOverlaps f others

/-- Resolves a field after those already placed. -/
def place (word : Bits.IntType) (before : List Placed) (d : FieldDecl) :
    Noting Failure (List Placed) := do
  Step.ofOutcome ((checkName (before.map (·.decl)) d).mapError AnalysisFault.failure)
  let field ← Step.ofOutcome (resolveField word d)
  noteBinding before ⟨d, field⟩
  noteOverlaps field (fieldsOf field.register before)
  pure (before ++ [⟨d, field⟩])

/-- The names of the registers in the order of their first fields. -/
def registerNames : List Placed → List String
  | [] => []
  | p :: ps => p.field.register :: (registerNames ps).filter (· != p.field.register)

/-- The names of the constants that hold the bits of a range. -/
def rangeMaskConstants (placed : List Placed) : List String :=
  (placed.filter fun p => !p.field.single).map fun p => p.field.constantPrefix ++ "_MASK"

/-- The register of the name of some field, at the offset of its path. -/
def register (t : ConstantTable) (word : Bits.IntType) (placed : List Placed) (p : Placed) :
    Except AnalysisFault Register :=
  let name := p.field.register
  let fields := fieldsOf name placed
  let constant := maskConstantOf name
  if !Text.isIdentifier name then .error (.unusableRegister p.field.name name)
  else if isReserved name then .error (.reservedRegister p.field.name name)
  else if (rangeMaskConstants placed).contains constant then
    .error (.maskTwice p.field.name constant)
  else
    match t.resolve p.decl.path with
    | none => .error (.unknownRegister p.field.name p.decl.path)
    | some offset =>
      .ok ⟨name, p.decl.path, offset, capabilityOf fields, preserveMask word fields,
        fields.map (·.name)⟩

/-- The first field of each register. -/
def firsts (placed : List Placed) : List Placed :=
  (registerNames placed).filterMap fun name => placed.find? (·.field.register == name)

/-- The registers in the order of their first fields. -/
def registers (t : ConstantTable) (word : Bits.IntType) (placed : List Placed) :
    Except AnalysisFault (List Register) :=
  (firsts placed).mapM (register t word placed)

/-- The model of a description with registers of `wordBits` bits. Constants of the description come
after the external ones. -/
def analyze (d : Description) (wordBits : Int) (external : External) : Noting Failure Model := do
  if !(wordSizes.map Int.ofNat).contains wordBits then
    Step.fail (AnalysisFault.badWidth wordBits).failure
  else if d.fields.isEmpty then Step.fail (AnalysisFault.noFields d.source).failure
  else
    let word := Bits.unsigned wordBits.toNat
    let table ← ConstantTable.filledBy do
      Filling.addExternal external
      Filling.addConstants d.constants
    let ports ← ports table [] d.ports
    if ports.isEmpty then note (.noPorts d.source)
    let placed ← d.fields.foldlM (place word) []
    let registers ← Step.ofOutcome ((registers table word placed).mapError AnalysisFault.failure)
    note (.analyzed d.source placed.length registers.length)
    pure ⟨ports, registers, placed.map (·.field), word, d.source⟩

end RegisterMap.Analysis
