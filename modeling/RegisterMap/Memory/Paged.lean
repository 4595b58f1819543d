import RegisterMap.Memory.Cells
import RegisterMap.Memory.Fault

/-!
# Paged memories

A memory in an emulator, which grows by mapping whole pages. An access needs all its bytes mapped,
in whatever order their pages were mapped.
-/

namespace RegisterMap.Memory

variable [Machine]

/-- A memory of the pages mapped so far. -/
structure Paged where
  state : Machine.engine.State

namespace Paged

def blank : Paged :=
  ⟨Machine.engine.blank⟩

/-- The byte at an address, if its page is mapped. -/
def byte? (m : Paged) (address : Int) : Option UInt8 :=
  Machine.engine.byte? m.state address

/-- The start of the page that holds an address. -/
def pageStart (address : Int) : Int :=
  address / pageSize * pageSize

/-- The pages that hold `size` bytes from `base` on. -/
def pagesOf (base size : Int) : Span :=
  ⟨pageStart base, pageStart (base + size + pageSize - 1)⟩

/-- The memory with the pages of `size` bytes from `base` on mapped too. -/
def map (m : Paged) (base size : Int) : Except Fault Paged :=
  let span := pagesOf base size
  match Machine.engine.map m.state span.base (span.stop - span.base) with
  | .ok state => .ok ⟨state⟩
  | .error reason => .error (.cannotMap span reason)

/-- The number in `size` bytes at `address`. -/
def read (m : Paged) (address size : Int) : Except Fault Nat :=
  if size < -addressLimit ∨ addressLimit ≤ size then .error .notAddressable
  else if size < 0 then .error (.negativeLength size)
  else if Machine.bytes ≤ size.toNat then .error .exhausted
  else
    match Machine.engine.load m.state address size.toNat with
    | some bytes => .ok (Cells.number bytes)
    | none => .error (.unmapped .load address size)

/-- The memory after the low `size` bytes of a value were stored at `address`. -/
def write (m : Paged) (address size value : Int) : Except Fault Paged := do
  let mask ← (Bits.maskForSize size).mapError .mask
  match Machine.engine.store m.state address
      (Cells.bytesOf (Cells.masked mask value) size.toNat) with
  | some state => .ok ⟨state⟩
  | none => .error (.unmapped .store address size)

end Paged

end RegisterMap.Memory
