import Mathlib.Data.Nat.Bitwise
import Mathlib.Tactic.Common
import RegisterMap.Proofs.Accessor.Programs
import RegisterMap.Memory.Space

/-!
# Words in buffers

What a buffer holds of words that were stored in it. A word that is loaded from the place where it
was stored is the one that was stored there, and words that share no byte do not touch each other.
-/

namespace RegisterMap

namespace Cells

/-- The bits of a load are those of its cells. -/
theorem testBit_load (cells : Cells) (address : Int) {count i : Nat} (hi : i < 8 * count) :
    (cells.load address count).testBit i =
      (cells (address + (i / 8 : Nat))).toNat.testBit (i % 8) := by
  induction count generalizing address i with
  | zero => omega
  | succ count ih =>
    have hfirst : (cells address).toNat < 2 ^ 8 := UInt8.toNat_lt _
    have hload : cells.load address (count + 1) =
        2 ^ 8 * cells.load (address + 1) count + (cells address).toNat := by
      unfold load
      rw [bytes, number]
      omega
    rw [hload, Nat.testBit_two_pow_mul_add _ hfirst]
    by_cases h : i < 8
    · have hdiv : i / 8 = 0 := by omega
      have hmod : i % 8 = i := by omega
      rw [if_pos h, hdiv, hmod]
      simp
    · have hdiv : address + 1 + ((i - 8) / 8 : Nat) = address + (i / 8 : Nat) := by omega
      have hmod : (i - 8) % 8 = i % 8 := by omega
      rw [if_neg h, ih (address + 1) (by omega), hdiv, hmod]

theorem load_lt (cells : Cells) (address : Int) (count : Nat) :
    cells.load address count < 2 ^ (8 * count) := by
  induction count generalizing address with
  | zero => simp [load, bytes, number]
  | succ count ih =>
    have hfirst : (cells address).toNat < 2 ^ 8 := UInt8.toNat_lt _
    have hrest := ih (address + 1)
    have hpow : 2 ^ (8 * (count + 1)) = 256 * 2 ^ (8 * count) := by
      rw [Nat.mul_add, Nat.pow_add]
      omega
    unfold load at hrest ⊢
    rw [bytes, number, hpow]
    omega

theorem load_store (cells : Cells) (address : Int) (count value : Nat) :
    (cells.store address count value).load address count = value % 2 ^ (8 * count) := by
  apply Nat.eq_of_testBit_eq
  intro i
  by_cases hi : i < 8 * count
  · have hplace : address ≤ address + (i / 8 : Nat) ∧
        address + (i / 8 : Nat) < address + count := by omega
    have hoffset : (address + (i / 8 : Nat) - address).toNat = i / 8 := by omega
    have hbit : 8 * (i / 8) + i % 8 = i := by omega
    have hlow : i % 8 < 8 := by omega
    rw [testBit_load _ _ hi, store_inside hplace, hoffset, byteAt, UInt8.toNat_ofNat',
      Nat.testBit_mod_two_pow, decide_eq_true hlow, Nat.testBit_shiftRight, hbit,
      Nat.testBit_mod_two_pow, decide_eq_true hi]
  · have hpow : 2 ^ (8 * count) ≤ 2 ^ i := Nat.pow_le_pow_right (by decide) (by omega)
    rw [Nat.testBit_lt_two_pow ((load_lt _ _ _).trans_le hpow),
      Nat.testBit_lt_two_pow ((Nat.mod_lt _ (Nat.two_pow_pos _)).trans_le hpow)]

theorem load_store_of_apart (cells : Cells) {address other : Int} {count size : Nat}
    (h : other + size ≤ address ∨ address + count ≤ other) (value : Nat) :
    (cells.store address count value).load other size = cells.load other size := by
  unfold load
  rw [bytes_congr]
  intro a hlow hhigh
  apply store_outside
  omega

/-- The cells that are all ones in some bytes and blank elsewhere. -/
def ones (address : Int) (count : Nat) : Cells :=
  fun a => if address ≤ a ∧ a < address + count then 255 else 0

theorem testBit_load_ones (address : Int) {count i : Nat} (hi : i < 8 * count) :
    ((ones address count).load address count).testBit i = true := by
  have hplace : address ≤ address + (i / 8 : Nat) ∧
      address + (i / 8 : Nat) < address + count := by omega
  have hlow : i % 8 < 8 := by omega
  have hall : ∀ j < 8, (255 : UInt8).toNat.testBit j = true := by decide
  unfold ones
  rw [testBit_load _ _ hi, if_pos hplace]
  exact hall _ hlow

theorem testBit_load_ones_of_apart {address other : Int} {count size i : Nat}
    (h : other + size ≤ address ∨ address + count ≤ other) (hi : i < 8 * size) :
    ((ones address count).load other size).testBit i = false := by
  have hplace : ¬(address ≤ other + (i / 8 : Nat) ∧
      other + (i / 8 : Nat) < address + count) := by omega
  unfold ones
  rw [testBit_load _ _ hi, if_neg hplace]
  simp

/-- The low `count` bytes of an integer as a number. -/
def lowBytes (count : Nat) (value : Int) : Nat :=
  (value % (Nat.pow 256 count : Nat)).toNat

theorem lowBytes_natCast (count value : Nat) : lowBytes count value = value % 2 ^ (8 * count) := by
  have hpow : 256 ^ count = 2 ^ (8 * count) := by rw [Nat.pow_mul]
  rw [lowBytes, Nat.pow_eq, hpow, ← Int.natCast_emod, Int.toNat_natCast]

/-- The mask for some bytes lets the low bytes of an integer through. -/
theorem masked_eq_lowBytes [Machine] {size : Int} {mask : Nat}
    (h : Bits.maskForSize size = .ok mask) (value : Int) :
    masked mask value = lowBytes size.toNat value := by
  obtain ⟨-, hmask⟩ := Bits.maskForSize_eq_ok h
  rw [masked, hmask, lowBytes, Nat.pow_eq]

end Cells

namespace Memory

variable [Machine]

namespace Buffer

variable {b : Buffer} {address : Int} {count : Nat}

theorem admits_iff {size : Int} :
    b.admits address size = true ↔ b.base ≤ address ∧ address + size ≤ b.stop := by
  simp [admits]

/-- The buffer with a number stored in some of its bytes. -/
def stored (b : Buffer) (address : Int) (count value : Nat) : Buffer :=
  { b with cells := b.cells.store address count value }

theorem read_eq (h : b.admits address count = true) :
    b.read address count = .ok (b.cells.load address count) := by
  obtain ⟨hbase, hstop⟩ := admits_iff.1 h
  have hend : b.loadStop address count = address + count := by
    unfold loadStop
    rw [if_neg (by omega)]
  have hcount : (min (address + count) b.stop - address).toNat = count := by omega
  unfold read
  rw [if_pos h]
  simp only [hend, hcount]

theorem le_size_of_admits (h : b.admits address count = true) : count ≤ b.size := by
  obtain ⟨hbase, hstop⟩ := admits_iff.1 h
  unfold stop at hstop
  omega

theorem write_eq (h : b.admits address count = true) (value : Int) :
    b.write address count value = .ok (b.stored address count (Cells.lowBytes count value)) := by
  obtain ⟨mask, hmask⟩ :=
    Bits.exists_maskForSize ((le_size_of_admits h).trans_lt b.size_lt)
  have hlow := Cells.masked_eq_lowBytes hmask value
  unfold write
  rw [if_pos h, hmask, mapError_ok, ok_bind, hlow, Int.toNat_natCast]
  rfl

theorem read_eq_refusal {size : Int} (h : ¬b.admits address size = true) :
    b.read address size = .error (b.refusal address size) :=
  if_neg h

theorem write_eq_refusal {size : Int} (h : ¬b.admits address size = true) (value : Int) :
    b.write address size value = .error (b.refusal address size) :=
  if_neg h

end Buffer

namespace Space

/-- The memory with a number, as its users see it. -/
def store (ref : Ref) : Store Space :=
  ⟨read ref, write ref⟩

variable {ref : Ref} {s : Space} {b : Buffer}

theorem component_of_buffer (h : s.buffer? ref = some b) :
    s.components[ref]? = some (.buffer b) := by
  unfold buffer? at h
  split at h
  · next c hc =>
    cases h
    exact hc
  · cases h

theorem buffer?_put (h : s.buffer? ref = some b) (c : Buffer) :
    (s.put ref (.buffer c)).buffer? ref = some c := by
  have hlt : ref < s.components.length := by
    obtain ⟨hlt, -⟩ := List.getElem?_eq_some_iff.1 (component_of_buffer h)
    exact hlt
  have hset : (s.put ref (.buffer c)).components[ref]? = some (.buffer c) := by
    unfold put
    rw [List.getElem?_set_self hlt]
  unfold buffer?
  rw [hset]

variable {address : Int} {word : Bits.IntType}

theorem run_load (h : s.buffer? ref = some b) (ha : b.admits address word.size = true) :
    ((store ref).load address word).run s = (.ok (b.cells.load address word.size), s) := by
  have hread : (read ref address word.size).run s =
      (.ok (b.cells.load address word.size), s) := by
    unfold read depth
    rw [Step.run_bind, Step.run_current]
    simp only [readWithin]
    rw [Step.run_bind, Step.run_current]
    simp only [component_of_buffer h, Buffer.read_eq ha, Step.run_ofOutcome]
  unfold Store.load store
  rw [Step.run_withFailure, hread]
  rfl

theorem run_save (h : s.buffer? ref = some b) (ha : b.admits address word.size = true)
    (value : Nat) : ((store ref).save address word value).run s =
      (.ok (), s.put ref (.buffer (b.stored address word.size (value % 2 ^ (8 * word.size))))) := by
  have hwrite : (write ref address word.size value).run s =
      (.ok (), s.put ref (.buffer (b.stored address word.size
        (value % 2 ^ (8 * word.size))))) := by
    unfold write depth
    rw [Step.run_bind, Step.run_current]
    simp only [writeWithin]
    rw [Step.run_bind, Step.run_current]
    simp only [component_of_buffer h, Buffer.write_eq ha, Step.ofOutcome_ok, pure_bind,
      Cells.lowBytes_natCast, Step.run_change]
  unfold Store.save store
  rw [Step.run_withFailure, hwrite]
  rfl

end Space

end Memory

end RegisterMap
