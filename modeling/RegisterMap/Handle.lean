import RegisterMap.Failure
import RegisterMap.Step

/-!
# Register handles

A handle stands for one register of a memory: its address, its integer type and what may be done
with it. Every read and every write is one access to the memory.
-/

namespace RegisterMap

/-- A memory as its users see it: loads and stores of some bytes at an address. -/
structure Store (σ : Type) where
  read : (address size : Int) → Step σ Memory.Fault Nat
  write : (address size value : Int) → Step σ Memory.Fault Unit

structure Handle where
  capability : Capability
  address : Int
  offset : Int
  payload : Bits.IntType
  deriving DecidableEq, Repr

namespace Handle

/-- The handle of the register at an offset from a base; no register has the address zero. -/
def ofOffset (capability : Capability) (base offset : Int) (payload : Bits.IntType) :
    Except Failure Handle :=
  if base + offset = 0 then .error (.nullRegister capability offset)
  else .ok ⟨capability, base + offset, offset, payload⟩

variable [Machine]

/-- Reads the register as a number of its type. -/
def read {σ : Type} (store : Store σ) (h : Handle) : Step σ Failure Int :=
  if h.capability.readable then do
    let raw ← Step.withFailure .memory (store.read h.address h.payload.size)
    Step.ofOutcome ((Bits.wrap h.payload raw).mapError .bits)
  else Step.fail (.notReadable h.address)

/-- Writes the low bits of a value to the register. -/
def write {σ : Type} (store : Store σ) (h : Handle) (value : Int) : Step σ Failure Unit :=
  if h.capability.writable then do
    let raw ← Step.ofOutcome ((Bits.lowBits h.payload value).mapError .bits)
    Step.withFailure .memory (store.write h.address h.payload.size raw)
  else Step.fail (.notWritable h.address)

def text (h : Handle) : String :=
  h.capability.handleName ++ "(" ++ Number.prefixedHex 8 h.address ++ ", " ++ h.payload.capitalName
    ++ ")"

/-- Handles are not duplicated in any way. -/
def duplicate (h : Handle) (way : Duplication) : Failure :=
  .owned h.capability way

end Handle

end RegisterMap
