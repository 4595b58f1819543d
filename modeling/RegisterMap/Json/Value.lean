/-!
# JSON values

The values of the data format. Integers are exact, other numbers keep their text, and the members
of an object stand in the order in which their names first occur.
-/

namespace RegisterMap

inductive Json where
  | null
  | bool (b : Bool)
  | int (n : Int)
  /-- A number with a fraction or an exponent, or a name of no finite number, as it is written. -/
  | real (written : String)
  | text (s : String)
  | list (items : List Json)
  | object (members : List (String × Json))
  deriving Repr, Inhabited

namespace Json

/-- The members with `name` bound to `value`: in its old place when the name is known. -/
def put (name : String) (value : Json) : List (String × Json) → List (String × Json)
  | [] => [(name, value)]
  | m :: ms => if m.1 = name then (name, value) :: ms else m :: put name value ms

def get? (name : String) (members : List (String × Json)) : Option Json :=
  members.lookup name

end Json

end RegisterMap
