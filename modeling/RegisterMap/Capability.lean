/-!
# Capabilities

What may be done with a whole register.
-/

namespace RegisterMap

/-- What a register takes. -/
inductive Capability where
  | readOnly
  | writeOnly
  | readWrite
  deriving DecidableEq, Repr

namespace Capability

def all : List Capability :=
  [readOnly, writeOnly, readWrite]

def readable : Capability → Bool
  | writeOnly => false
  | _ => true

def writable : Capability → Bool
  | readOnly => false
  | _ => true

/-- The short name shown to the user. -/
def keyword : Capability → String
  | readOnly => "RO"
  | writeOnly => "WO"
  | readWrite => "RW"

def ofKeyword? (s : String) : Option Capability :=
  all.find? (·.keyword == s)

/-- The name of the handles with this capability. -/
def handleName : Capability → String
  | readOnly => "ReadOnly"
  | writeOnly => "WriteOnly"
  | readWrite => "ReadWrite"

/-- The capability of a register by whether some field of it can be read and some be written. -/
def ofAccess (readable writable : Bool) : Capability :=
  if readable && writable then readWrite
  else if readable then readOnly
  else writeOnly

end Capability

end RegisterMap
