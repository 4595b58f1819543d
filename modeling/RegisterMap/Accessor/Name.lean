import RegisterMap.Analysis.Field

/-!
# Names of accessors

A field has a getter if it can be read and a setter if it can be written. A field at which writing
a one has an effect of its own is named for that effect.
-/

namespace RegisterMap.Field

def getterName (f : Field) : String :=
  match f.policy with
  | .writeOneClears => "is_" ++ f.name ++ "_active"
  | .writeOneTriggers => "is_" ++ f.name ++ "_pending"
  | _ => "get_" ++ f.name

def setterName (f : Field) : String :=
  match f.policy with
  | .writeOneClears => "clear_" ++ f.name
  | .writeOneTriggers => "activate_" ++ f.name
  | _ => "set_" ++ f.name

def accessorNames (f : Field) : List String :=
  (if f.policy.readable then [f.getterName] else [])
    ++ (if f.policy.writable then [f.setterName] else [])

end RegisterMap.Field
