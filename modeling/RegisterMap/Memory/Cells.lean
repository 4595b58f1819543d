/-!
# Cells

The content of a memory: one byte for each address, zero until something is stored. Numbers of
several bytes have the low byte first.
-/

namespace RegisterMap

abbrev Cells := Int → UInt8

namespace Cells

def blank : Cells :=
  fun _ => 0

/-- The bytes at `count` addresses from `address` on. -/
def bytes (cells : Cells) (address : Int) : Nat → List UInt8
  | 0 => []
  | count + 1 => cells address :: cells.bytes (address + 1) count

/-- The number that bytes write, low byte first. -/
def number : List UInt8 → Nat
  | [] => 0
  | b :: bs => b.toNat + 256 * number bs

/-- The number in `count` bytes from `address` on. -/
def load (cells : Cells) (address : Int) (count : Nat) : Nat :=
  number (cells.bytes address count)

/-- The byte of a number at a place counted from the low end. -/
def byteAt (value place : Nat) : UInt8 :=
  UInt8.ofNat (value >>> (8 * place))

/-- The low `count` bytes of a number, low byte first. -/
def bytesOf (value count : Nat) : List UInt8 :=
  (List.range count).map (byteAt value)

/-- The bits of an integer that a mask of ones lets through. -/
def masked (mask : Nat) (value : Int) : Nat :=
  (value % (mask + 1 : Nat)).toNat

/-- The cells after a number was stored in `count` bytes from `address` on. -/
def store (cells : Cells) (address : Int) (count value : Nat) : Cells :=
  fun a => if address ≤ a ∧ a < address + count then byteAt value (a - address).toNat else cells a

theorem length_bytes (cells : Cells) (address : Int) (count : Nat) :
    (cells.bytes address count).length = count := by
  induction count generalizing address with
  | zero => rfl
  | succ count ih => simp [bytes, ih]

theorem length_bytesOf (value count : Nat) : (bytesOf value count).length = count := by
  unfold bytesOf
  rw [List.length_map, List.length_range]

theorem getElem?_bytesOf {value count place : Nat} (h : place < count) :
    (bytesOf value count)[place]? = some (byteAt value place) := by
  unfold bytesOf
  rw [List.getElem?_map, List.getElem?_range h, Option.map_some]

/-- A store leaves the cells outside its bytes alone. -/
theorem store_outside {cells : Cells} {address : Int} {count value : Nat} {a : Int}
    (h : ¬(address ≤ a ∧ a < address + count)) : cells.store address count value a = cells a := by
  simp [store, h]

/-- Each byte of a store, by its place. -/
theorem store_inside {cells : Cells} {address : Int} {count value : Nat} {a : Int}
    (h : address ≤ a ∧ a < address + count) :
    cells.store address count value a = byteAt value (a - address).toNat := by
  simp [store, h]

/-- Loads see only the cells of their bytes. -/
theorem bytes_congr {cells others : Cells} {address : Int} {count : Nat}
    (h : ∀ a, address ≤ a → a < address + count → cells a = others a) :
    cells.bytes address count = others.bytes address count := by
  induction count generalizing address with
  | zero => rfl
  | succ count ih =>
    simp only [bytes, List.cons.injEq]
    exact ⟨h _ (by omega) (by omega), ih fun a _ _ => h a (by omega) (by omega)⟩

end Cells

end RegisterMap
