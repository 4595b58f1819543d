/-!
# Access policies

How a field may be used: which of reading and writing it takes, and whether writing a one to it
has an effect of its own.
-/

namespace RegisterMap

inductive Policy where
  | readWrite
  | readOnly
  | writeOnly
  /-- Writing a one clears the bit; it reads as a status. -/
  | writeOneClears
  /-- Writing a one triggers an action; the bit reads as pending. -/
  | writeOneTriggers
  deriving DecidableEq, Repr

namespace Policy

/-- All policies, in the order in which they are listed to the user. -/
def all : List Policy :=
  [readWrite, readOnly, writeOnly, writeOneClears, writeOneTriggers]

/-- The word a description uses for a policy. -/
def keyword : Policy → String
  | readWrite => "RW"
  | readOnly => "RO"
  | writeOnly => "WO"
  | writeOneClears => "RW1C"
  | writeOneTriggers => "RW1O"

def ofKeyword? (s : String) : Option Policy :=
  all.find? fun p => p.keyword == s

def readable (p : Policy) : Bool :=
  p != writeOnly

def writable (p : Policy) : Bool :=
  p != readOnly

/-- Whether writing a one has an effect of its own, so that the bit is never written back as
read. -/
def selfClearing (p : Policy) : Bool :=
  p == writeOneClears || p == writeOneTriggers

def keywords : String :=
  ", ".intercalate (all.map keyword)

theorem writable_of_not_readable {p : Policy} (h : p.readable = false) : p.writable = true := by
  cases p with
  | writeOnly => rfl
  | _ => cases h

theorem readable_of_selfClearing {p : Policy} (h : p.selfClearing = true) : p.readable = true := by
  cases p with
  | writeOnly => cases h
  | _ => rfl

theorem ofKeyword?_keyword (p : Policy) : ofKeyword? p.keyword = some p := by
  cases p <;> decide

end Policy

end RegisterMap
