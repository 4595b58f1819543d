import RegisterMap.Text.Ranges

/-!
# White space

The white space characters, texts without white space at the ends, and the words between runs of
white space.
-/

namespace RegisterMap.Text

/-- Code points of white space: separators, line breaks and the four information separators. -/
def blankRanges : Ranges :=
  [(0x9, 0xD), (0x1C, 0x20), (0x85, 0x85), (0xA0, 0xA0), (0x1680, 0x1680), (0x2000, 0x200A),
   (0x2028, 0x2029), (0x202F, 0x202F), (0x205F, 0x205F), (0x3000, 0x3000)]

/-- A white space character of any script. -/
def isBlank (c : Char) : Bool :=
  blankRanges.has c.toNat

/-- Every character that core takes for white space is white space here. -/
theorem isBlank_of_isWhitespace {c : Char} (h : c.isWhitespace = true) : isBlank c = true := by
  simp only [Char.isWhitespace, Bool.or_eq_true, decide_eq_true_eq] at h
  rcases h with ((rfl | rfl) | rfl) | rfl <;> decide

/-- A list without the blanks it starts with and ends with. -/
def stripChars (cs : List Char) : List Char :=
  ((cs.dropWhile isBlank).reverse.dropWhile isBlank).reverse

/-- A text without the white space at its ends. -/
def strip (s : String) : String :=
  String.ofList (stripChars s.toList)

/-- The runs without a blank; `word` holds the open run, reversed. -/
def wordsFrom (word : List Char) : List Char → List (List Char)
  | [] => if word.isEmpty then [] else [word.reverse]
  | c :: cs =>
    if !isBlank c then wordsFrom (c :: word) cs
    else if word.isEmpty then wordsFrom [] cs
    else word.reverse :: wordsFrom [] cs

/-- The words of a text: its longest runs without white space. -/
def words (s : String) : List String :=
  (wordsFrom [] s.toList).map String.ofList

end RegisterMap.Text
