import RegisterMap.Json.Value
import RegisterMap.Text.Point
import RegisterMap.Text.Quoted

/-!
# Writing JSON

JSON values as texts, without white space. Halves that stand alone are written as escapes.
-/

namespace RegisterMap.Json

def writtenPoint : Text.Point → List Char
  | .half place => '\\' :: 'u' :: Text.lowHex 4 (Text.Point.half place).number
  | .char c =>
    if c = '"' ∨ c = '\\' then ['\\', c]
    else if c.val < 0x20 then '\\' :: 'u' :: Text.lowHex 4 c.toNat
    else [c]

def writtenText (s : String) : String :=
  "\"" ++ String.ofList ((Text.pointsOf s).flatMap writtenPoint) ++ "\""

mutual

def written : Json → String
  | .null => "null"
  | .bool b => if b then "true" else "false"
  | .int n => toString n
  | .real s => s
  | .text s => writtenText s
  | .list items => "[" ++ ",".intercalate (writtenItems items) ++ "]"
  | .object members => "\x7b" ++ ",".intercalate (writtenMembers members) ++ "\x7d"

def writtenItems : List Json → List String
  | [] => []
  | v :: vs => written v :: writtenItems vs

def writtenMembers : List (String × Json) → List String
  | [] => []
  | (name, v) :: ms => (writtenText name ++ ":" ++ written v) :: writtenMembers ms

end

end RegisterMap.Json
