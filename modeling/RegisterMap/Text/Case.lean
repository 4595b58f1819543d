import RegisterMap.Text.CaseTable

/-!
# Upper and lower case

The full case maps of texts. A character's image may be several characters, and a capital sigma
at the end of a word has a lower case of its own.
-/

namespace RegisterMap.Text

/-- The image of a code point under runs of a common distance and a list of longer images. -/
def caseImage (runs : List CaseRun) (sequences : List (Nat × List Nat)) (c : Char) : List Char :=
  match sequences.lookup c.toNat with
  | some image => image.map Char.ofNat
  | none =>
    match runs.find? (·.covers c.toNat) with
    | some run => [Char.ofNat (c.toNat + run.shift).toNat]
    | none => [c]

def upperChar (c : Char) : List Char :=
  if c.val < 0x80 then [c.toUpper] else caseImage upperRuns upperSequences c

/-- The lower case of a character away from the end of a word. -/
def lowerChar (c : Char) : List Char :=
  if c.val < 0x80 then [c.toLower] else caseImage lowerRuns lowerSequences c

def upper (s : String) : String :=
  String.ofList (s.toList.flatMap upperChar)

/-- A character passed over when looking for a word's end. -/
def isCaseIgnorable (c : Char) : Bool :=
  caseIgnorableRanges.has c.toNat

/-- Whether the first character that counts is one with case. -/
def meetsCased (cs : List Char) : Bool :=
  match cs.dropWhile isCaseIgnorable with
  | [] => false
  | c :: _ => casedRanges.has c.toNat

def capitalSigma : Char := '\u03a3'

/-- The lower case of a list whose text so far, reversed, is `before`. -/
def lowerFrom (before : List Char) : List Char → List Char
  | [] => []
  | c :: cs =>
    let image :=
      if c = capitalSigma then
        if meetsCased before && !meetsCased cs then ['\u03c2'] else ['\u03c3']
      else lowerChar c
    image ++ lowerFrom (c :: before) cs

def lower (s : String) : String :=
  String.ofList (lowerFrom [] s.toList)

end RegisterMap.Text
