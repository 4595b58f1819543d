import RegisterMap.Memory.Span

/-!
# Engines

An emulator has a memory of its own, which maps whole pages and keeps bytes in them. It is not made
here: an engine is whatever keeps the laws of such a memory, of which one simple engine is an
instance.
-/

namespace RegisterMap.Memory

/-- Why memory pages are not mapped. -/
inductive PageReason where
  | alreadyMapped
  | empty
  deriving DecidableEq, Repr

def PageReason.message : PageReason → String
  | .alreadyMapped => "Invalid memory mapping (UC_ERR_MAP)"
  | .empty => "Invalid argument (UC_ERR_ARG)"

/-- The number of bytes of a page. -/
def pageSize : Int := 0x1000

/-- Memories of bytes that are mapped in whole pages, zero at first. An access works when all its
bytes are mapped, and only then. -/
structure Engine where
  /-- A memory with what was mapped and stored so far. -/
  State : Type
  blank : State
  /-- The byte at an address, if it is mapped. -/
  byte? : State → Int → Option UInt8
  /-- The memory with `length` bytes from `start` on mapped too. -/
  map : State → (start length : Int) → Except PageReason State
  /-- The `count` bytes from an address on. -/
  load : State → Int → (count : Nat) → Option (List UInt8)
  /-- The memory after bytes were stored from an address on. -/
  store : State → Int → List UInt8 → Option State
  byte?_blank (a : Int) : byte? blank a = none
  /-- Whole pages that are free can be mapped, as far as 32 bits can address them. -/
  exists_map (m : State) {start length : Int} (hpos : 0 < length) (hstart : pageSize ∣ start)
    (hlength : pageSize ∣ length) (hbase : 0 ≤ start) (hstop : start + length ≤ 0x100000000)
    (hfree : ∀ a, start ≤ a → a < start + length → byte? m a = none) :
    ∃ n, map m start length = .ok n
  /-- What has been mapped is zero. -/
  byte?_map {m n : State} {start length : Int} (h : map m start length = .ok n) (a : Int) :
    byte? n a = if start ≤ a ∧ a < start + length then some 0 else byte? m a
  load_eq_some {m : State} {address : Int} {count : Nat} {bs : List UInt8} :
    load m address count = some bs ↔
      bs.length = count ∧ ∀ i : Nat, i < count → byte? m (address + i) = bs[i]?
  isSome_store {m : State} {address : Int} {bs : List UInt8} :
    (store m address bs).isSome = true ↔
      ∀ i : Nat, i < bs.length → (byte? m (address + i)).isSome = true
  /-- A store changes its bytes and no others. -/
  byte?_store {m n : State} {address : Int} {bs : List UInt8} (h : store m address bs = some n)
    (a : Int) :
    byte? n a = if address ≤ a ∧ a < address + bs.length then bs[(a - address).toNat]?
      else byte? m a

end RegisterMap.Memory
