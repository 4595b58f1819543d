import RegisterMap.Bits.Basic
import RegisterMap.Memory.Engine

/-!
# Faults of memories

Why a memory is not built, a region not mapped or an access not made.
-/

namespace RegisterMap.Memory

/-- Whether an access loads or stores. -/
inductive Direction where
  | load
  | store
  deriving DecidableEq, Repr

/-- No memory has this many bytes or more. -/
def addressLimit : Int := 0x8000000000000000

/-- No machine has that much room. -/
theorem bytes_lt_addressLimit [Machine] : (Machine.bytes : Int) < addressLimit := by
  have hbits := Machine.bits_le
  have hbytes := Machine.bits_of_bytes
  unfold Bits.placeBits Bits.placeLimit at hbits
  unfold addressLimit
  omega

/-- What goes wrong with a memory. -/
inductive Fault where
  /-- A memory of no bytes. -/
  | noBytes
  /-- A memory of more bytes than can be addressed. -/
  | notAddressable
  /-- A memory of more bytes than there are. -/
  | exhausted
  /-- An access without a mask for its bytes. -/
  | mask (f : Bits.Fault)
  /-- An access of fewer than no bytes. -/
  | negativeLength (size : Int)
  /-- A history with room for fewer than no accesses. -/
  | negativeRoom
  | outside (address size : Int) (span : Span)
  /-- A size too long to be written. -/
  | longNumber
  | noRegion (address : Int)
  | overlap (name : String) (span : Span) (other : String)
  | unmapped (direction : Direction) (address size : Int)
  | cannotMap (span : Span) (reason : PageReason)
  /-- A memory without storage of its own. -/
  | noStorage
  /-- Words of no bytes. -/
  | zeroWord
  /-- A memory that cannot do this, or none at all. -/
  | unsupported
  /-- Regions that lead back to themselves. -/
  | endless
  deriving DecidableEq, Repr

namespace Fault

def message : Fault → String
  | noBytes => "size must be positive"
  | notAddressable => "cannot fit 'int' into an index-sized integer"
  | exhausted => ""
  | mask f => f.message
  | negativeLength size => "Array length must be >= 0, not " ++ toString size
  | negativeRoom => "maxlen must be non-negative"
  | outside address size span =>
    "access " ++ Number.prefixedHex 8 address ++ " size=" ++ toString size ++ " outside "
      ++ span.text
  | longNumber => Number.longNumberMessage
  | noRegion address => "no region for addr " ++ Number.prefixedHex 8 address
  | overlap name span other => "region " ++ name ++ " " ++ span.text ++ " overlaps " ++ other
  | unmapped direction address size =>
    let verb := match direction with
      | .load => "read"
      | .store => "write"
    "unmapped " ++ verb ++ " " ++ Number.prefixedHex 8 address ++ " size=" ++ toString size
  | cannotMap span reason => "cannot map " ++ span.text ++ ": " ++ reason.message
  | noStorage => ""
  | zeroWord => "integer division or modulo by zero"
  | unsupported => ""
  | endless => ""

end Fault

end RegisterMap.Memory
