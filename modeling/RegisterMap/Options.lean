import RegisterMap.Failure
import RegisterMap.Text.Identifier

/-!
# Options

What accessors are made for: the name of their class, the width of registers, and the name of the
source.
-/

namespace RegisterMap

/-- The widths that a register may have. -/
def wordSizes : List Nat :=
  [8, 16, 32, 64]

def wordSizesText : String :=
  "(" ++ ", ".intercalate (wordSizes.map toString) ++ ")"

/-- Options with a width that registers may have and a name that classes may have. -/
structure Options where
  className : String
  wordBits : Nat
  sourceName : String
  wordBits_mem : wordBits ∈ wordSizes
  isIdentifier_className : Text.isIdentifier className = true

namespace Options

/-- The class name unless another is asked for. -/
def usualClass : String := "Registers"

/-- The width unless another is asked for. -/
def usualBits : Int := 32

/-- Options from their parts; the width is looked at first. -/
def ofParts (className : String) (wordBits : Int) (sourceName : String) : Except Failure Options :=
  if hb : 0 ≤ wordBits ∧ wordBits.toNat ∈ wordSizes then
    if hc : Text.isIdentifier className = true then
      .ok ⟨className, wordBits.toNat, sourceName, hb.2, hc⟩
    else .error (.badClassName className)
  else .error (.badWordBits wordSizesText (toString wordBits))

def word (o : Options) : Bits.IntType :=
  Bits.unsigned o.wordBits

end Options

end RegisterMap
