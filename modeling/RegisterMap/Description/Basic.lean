import RegisterMap.Description.BitSpec
import RegisterMap.Description.Path
import RegisterMap.Description.Policy

/-!
# Descriptions

What a description of a device says: constants, the addresses the device may have, and the fields
of its registers.
-/

namespace RegisterMap

/-- An address of the device: a number, or the constant that holds it. -/
inductive Port where
  | address (value : Int)
  | named (path : Path)
  deriving DecidableEq, Repr

/-- A named number. Lines count from one; zero is no line. -/
structure Constant where
  path : Path
  value : Int
  docs : List String := []
  line : Nat := 0
  deriving DecidableEq, Repr

structure FieldDecl where
  name : String
  bit : BitSpec
  policy : Policy
  path : Path
  docs : List String := []
  line : Nat := 0
  deriving DecidableEq, Repr

namespace FieldDecl

/-- The register that holds the field. -/
def registerName (f : FieldDecl) : String :=
  f.path.registerName

end FieldDecl

structure Description where
  ports : List Port
  fields : List FieldDecl
  constants : List Constant
  source : String
  deriving DecidableEq, Repr

end RegisterMap
