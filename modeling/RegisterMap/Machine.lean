import RegisterMap.Memory.PageTable
import RegisterMap.Text.Point

/-!
# Machines

What a run takes from the machine that it runs on: how long numbers can be, how much can be stored,
how deep calls can nest, which code points the output stream has bytes for, and the memory of the
emulator. Nothing more is known of a machine than the laws that stand here.
-/

namespace RegisterMap

namespace Bits

/-- The number of bits that one place of a number holds. -/
def placeBits : Nat := 30

/-- The greatest number of places of a number. -/
def placeLimit : Nat := 2305843009213693945

end Bits

/-- The machine that a program runs on, as far as it can tell. -/
class Machine where
  /-- Numbers of this many bits or more are not to be had. -/
  bits : Nat
  /-- Memories of this many bytes or more are not to be had, and no text is padded to as many
  places. -/
  bytes : Nat
  /-- The greatest number of modules of a description that can be open at once. -/
  modules : Nat
  /-- The greatest number of brackets of a JSON text that can be open at once. -/
  brackets : Nat
  /-- Whether the output stream has no bytes for a code point. -/
  refuses : Text.Point → Bool
  /-- The memory of the emulator. -/
  engine : Memory.Engine
  /-- Numbers that are to be had do not have too many places. -/
  bits_le : bits + 2 * Bits.placeBits ≤ Bits.placeBits * Bits.placeLimit
  /-- What is stored in bytes can be read as a number, and moved inside of a word. -/
  bits_of_bytes : 8 * bytes + 64 ≤ bits
  /-- There is room for all that 32 bits can address. -/
  addresses_lt : 0x100000000 < bytes
  /-- Texts are printed in UTF-8, which has bytes for all but halves. -/
  isHalf_of_refuses : ∀ p, refuses p = true → p.isHalf = true

namespace Machine

theorem word_lt [Machine] : 64 < bits := by
  have hbytes := addresses_lt
  have hbits := bits_of_bytes
  omega

/-- The machine that the program runs on unless another is given. Its calls nest to the depth that
is usual, and its output stream takes every text. -/
instance (priority := low) usual : Machine where
  bits := 0x1000000000
  bytes := 0x180000000
  modules := 490
  brackets := 990
  refuses := fun _ => false
  engine := Memory.PageTable.engine
  bits_le := by decide
  bits_of_bytes := by decide
  addresses_lt := by decide
  isHalf_of_refuses := nofun

end Machine

end RegisterMap
