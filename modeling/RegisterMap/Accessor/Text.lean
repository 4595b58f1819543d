import RegisterMap.Accessor.Code
import RegisterMap.Accessor.Page
import RegisterMap.Analysis.Model

/-!
# The text of accessor code

Accessor code written out as a Python module.
-/

namespace RegisterMap

def Literal.text : Literal → String
  | decimal n => toString n
  | hex digits n => Number.prefixedHex digits n

namespace AccessorCode

/-- The name of the function that asserts a condition while checks are made. -/
def guardName : String := "debug_assert"

def memoryName : String := "Memory"

/-- The names of a list with commas between them. -/
def commas (names : List String) : String :=
  ", ".intercalate names

def inQuotes (s : String) : String :=
  "\"" ++ s ++ "\""

/-- A line that binds a name to a number. -/
def binding (c : String × Literal) : Writing :=
  .line (c.1 ++ " = " ++ c.2.text)

/-- The documentation of the module, its imports and the name it exports. -/
def preamble (c : AccessorCode) : List Writing :=
  [.docs
    ["Register accessors for ``" ++ c.className ++ "``.",
     "",
     "Generated by regforge from " ++ c.sourceName ++ ". Do not edit."],
   .line "",
   .line ("from regforge.runtime.bits import "
    ++ commas (c.types.map (·.capitalName) ++ c.primitives.map (·.name))),
   .line ("from regforge.runtime.checks import " ++ guardName),
   .line ("from regforge.runtime.handles import " ++ commas (c.handles.map (·.handleName))),
   .line ("from regforge.runtime.memory import " ++ memoryName),
   .line "",
   .line ("__all__ = [" ++ inQuotes c.className ++ "]")]

/-- The addresses, offsets and other constants of the class. -/
def constants (c : AccessorCode) : List Writing :=
  [.line ("PORTS = (" ++ " ".intercalate (c.ports.map (·.text ++ ",")) ++ ")"),
   .line "REGISTER_OFFSETS = \x7b",
   .indent]
  ++ c.offsets.map (fun (name, offset) => .line (inQuotes name ++ ": " ++ offset.text ++ ","))
  ++ [.outdent, .line "\x7d", .line ""]
  ++ c.fieldConstants.map binding
  ++ [.line ""]
  ++ c.maskConstants.map binding

/-- A check of a condition, with the text to show when it does not hold. -/
def guard (condition message : String) : List Writing :=
  [.line (guardName ++ "("), .indent, .line (condition ++ ","), .line ("f\"" ++ message ++ "\","),
   .outdent, .line ")"]

/-- The line that gets the handle of a register. -/
def slotLine (word : Bits.IntType) (s : Slot) : Writing :=
  .line ("self." ++ s.register ++ " = " ++ s.capability.handleName
    ++ ".new(memory, base_address, " ++ s.offset.text ++ ", " ++ word.capitalName ++ ")")

/-- The slots and the two ways to build a device. -/
def construction (c : AccessorCode) : List Writing :=
  [.line ("__slots__ = (" ++ commas (c.slots.map (inQuotes ·.register)) ++ ",)"),
   .line "",
   .block "def __init__(self, base_address: int, memory: Memory) -> None:"
    ((if c.ports.isEmpty then []
      else
        guard "base_address in self.PORTS"
          ("0x\x7bbase_address:08X\x7d is not a device port of " ++ c.className))
      ++ c.slots.map (slotLine c.word)),
   .line "",
   .line "@classmethod",
   .block ("def new(cls, base_address: int, memory: Memory) -> " ++ inQuotes c.className ++ ":")
    [.line "return cls(base_address, memory)"]]

/-- The line that gets the word to change. -/
def seedLine (register : String) : Seed → Writing
  | .preserved =>
    .line ("value = self." ++ register ++ ".read() & self." ++ maskConstantOf register)
  | .zero => .line "value = 0"

/-- The line that writes a changed word. -/
def writeLine (register change : String) : Writing :=
  .line ("self." ++ register ++ ".write(" ++ change ++ ")")

def rangeText (start stop : Nat) : String :=
  "(" ++ toString start ++ ", " ++ toString stop ++ ")"

def actionLines (word : Bits.IntType) (register : String) : Action → List Writing
  | .readBit bit =>
    [.line ("return get_bit(self." ++ register ++ ".read(), " ++ toString bit ++ ", "
      ++ word.capitalName ++ ")")]
  | .readRange start stop =>
    [.line ("return get_bit_range(self." ++ register ++ ".read(), " ++ rangeText start stop ++ ", "
      ++ word.capitalName ++ ")")]
  | .raiseBit seed bit =>
    [seedLine register seed,
     writeLine register
      ("set_bit(value, " ++ toString bit ++ ", True, " ++ word.capitalName ++ ")")]
  | .writeBit seed bit =>
    [seedLine register seed,
     writeLine register
      ("set_bit(value, " ++ toString bit ++ ", flag, " ++ word.capitalName ++ ")")]
  | .writeRange seed start stop field width greatest =>
    guard ("0 <= bits <= " ++ Number.prefixedHex 0 greatest)
      (field ++ " holds " ++ toString width ++ " bits, got 0x\x7bbits:X\x7d")
    ++ [seedLine register seed,
        writeLine register
          ("set_bit_range(value, " ++ rangeText start stop ++ ", bits, " ++ word.capitalName
            ++ ")")]

/-- The parameters and the result of a method. -/
def signature : Action → String
  | .readBit _ => "(self) -> bool:"
  | .readRange .. => "(self) -> int:"
  | .raiseBit .. => "(self) -> None:"
  | .writeBit .. => "(self, flag: bool) -> None:"
  | .writeRange .. => "(self, bits: int) -> None:"

/-- A method with an empty line in front. -/
def methodLines (word : Bits.IntType) (m : Method) : List Writing :=
  [.line "",
   .block ("def " ++ m.name ++ signature m.action)
    (.docs m.docs :: actionLines word m.register m.action)]

def classLines (c : AccessorCode) : Writing :=
  .block ("class " ++ c.className ++ ":")
    ([.docs
        ["Register block described by " ++ c.sourceName ++ ".",
         "",
         "Owns one handle per backing register. Setters do one read and one",
         "write and are not safe against concurrent access to the same register."],
      .line ""]
      ++ constants c
      ++ [.line ""]
      ++ construction c
      ++ c.methods.flatMap (methodLines c.word))

def lines (c : AccessorCode) : List Writing :=
  preamble c ++ [.line "", .line "", classLines c]

def text (c : AccessorCode) : String :=
  Page.textOf (lines c)

end AccessorCode

end RegisterMap
