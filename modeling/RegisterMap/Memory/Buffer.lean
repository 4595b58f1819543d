import RegisterMap.Memory.Cells
import RegisterMap.Memory.Fault

/-!
# Buffers

A memory of a fixed number of bytes from a base address on. An access that leaves the buffer is
refused and changes nothing.
-/

namespace RegisterMap.Memory

variable [Machine]

/-- A memory of `size` bytes from `base` on, which the machine has room for. -/
structure Buffer where
  base : Int
  size : Nat
  cells : Cells
  size_lt : size < Machine.bytes

namespace Buffer

def ofSize (base size : Int) : Except Fault Buffer :=
  if size ≤ 0 then .error .noBytes
  else if addressLimit ≤ size then .error .notAddressable
  else if h : size.toNat < Machine.bytes then .ok ⟨base, size.toNat, Cells.blank, h⟩
  else .error .exhausted

/-- The address behind the last byte. -/
def stop (b : Buffer) : Int :=
  b.base + b.size

def span (b : Buffer) : Span :=
  ⟨b.base, b.stop⟩

def content (b : Buffer) : List UInt8 :=
  b.cells.bytes b.base b.size

/-- Whether an access starts in the buffer or behind it and does not pass its end. -/
def admits (b : Buffer) (address size : Int) : Bool :=
  b.base ≤ address && address + size ≤ b.stop

/-- The end of a load: one of a negative size that would end before the base ends as far before
the end of the buffer. -/
def loadStop (b : Buffer) (address size : Int) : Int :=
  if address + size < b.base then address + size + b.size else address + size

/-- What is said of an access that leaves the buffer, which writes its size in decimal. -/
def refusal (b : Buffer) (address size : Int) : Fault :=
  if Number.isShort size then .outside address size b.span else .longNumber

/-- The number in `size` bytes at `address`. -/
def read (b : Buffer) (address size : Int) : Except Fault Nat :=
  if b.admits address size then
    let stop := min (b.loadStop address size) b.stop
    .ok (b.cells.load address (stop - address).toNat)
  else .error (b.refusal address size)

/-- The buffer after the low `size` bytes of a value were stored at `address`. -/
def write (b : Buffer) (address size value : Int) : Except Fault Buffer :=
  if b.admits address size then do
    let mask ← (Bits.maskForSize size).mapError .mask
    .ok { b with cells := b.cells.store address size.toNat (Cells.masked mask value) }
  else .error (b.refusal address size)

/-- The word at a place counted in words. -/
def word (b : Buffer) (index wordSize : Int) : Except Fault Nat :=
  b.read (b.base + index * wordSize) wordSize

/-- The buffer after a word was stored at a place counted in words. -/
def setWord (b : Buffer) (index value wordSize : Int) : Except Fault Buffer :=
  b.write (b.base + index * wordSize) wordSize value

def words (b : Buffer) (wordSize : Int) : Except Fault (List Nat) :=
  if wordSize = 0 then .error .zeroWord
  else (List.range (Int.fdiv b.size wordSize).toNat).mapM fun (i : Nat) => b.word i wordSize

end Buffer

end RegisterMap.Memory
