import RegisterMap.Text.FoldTable
import RegisterMap.Text.MarkTable
import RegisterMap.Text.PairTable

/-!
# Canonical names

Names that differ only in form are one name. The canonical form of a name takes every character
apart into plain letters and marks, puts the marks in order, and puts letters and marks together
again where there is a character for both. It is made for the characters that names consist of.
-/

namespace RegisterMap.Text

/-! ## Syllables -/

/-- The first of the syllables that are made from a lead, a vowel and perhaps a tail. -/
def firstSyllable : Nat := 0xAC00

def firstLead : Nat := 0x1100

def firstVowel : Nat := 0x1161

/-- The code point before the first tail. -/
def noTail : Nat := 0x11A7

def leadCount : Nat := 19

def vowelCount : Nat := 21

/-- The number of tails, with the missing one. -/
def tailCount : Nat := 28

def isSyllable (n : Nat) : Bool :=
  firstSyllable ≤ n && n < firstSyllable + leadCount * vowelCount * tailCount

def syllableParts (n : Nat) : List Nat :=
  let place := n - firstSyllable
  let lead := firstLead + place / (vowelCount * tailCount)
  let vowel := firstVowel + place % (vowelCount * tailCount) / tailCount
  if place % tailCount = 0 then [lead, vowel] else [lead, vowel, noTail + place % tailCount]

/-- The syllable of a lead and a vowel, or of a syllable without a tail and a tail. -/
def joinSyllable? (a b : Nat) : Option Nat :=
  if firstLead ≤ a && a < firstLead + leadCount && firstVowel ≤ b
      && b < firstVowel + vowelCount then
    some (firstSyllable + ((a - firstLead) * vowelCount + (b - firstVowel)) * tailCount)
  else if isSyllable a && (a - firstSyllable) % tailCount == 0 && noTail < b
      && b < noTail + tailCount then
    some (a + (b - noTail))
  else none

/-! ## Taking apart -/

/-- The plain characters of a form. -/
def fold (n : Nat) : List Nat :=
  match foldSequences.lookup n with
  | some image => image
  | none =>
    match (foldRuns ++ ideographRuns ++ laterFoldRuns).find? (·.covers n) with
    | some run => [run.apply n]
    | none => [n]

/-- The greatest number of marks on a letter for which there is a character. -/
def deepest : Nat := 4

/-- The letters and marks of a character that has at most `depth` marks. -/
def parts : Nat → Nat → List Nat
  | 0, n => [n]
  | depth + 1, n =>
    if isSyllable n then syllableParts n
    else
      match pairs.find? (·.whole == n) with
      | some pair => parts depth pair.letter ++ [pair.mark]
      | none => fold n

/-! ## Order of marks -/

def markOrder (n : Nat) : Nat :=
  match markRuns.find? fun r => r.first ≤ n && n ≤ r.last with
  | some run => run.order
  | none => 0

/-- A reversed text with one more character; a mark goes behind those of a higher class. -/
def insertMark (n : Nat) : List Nat → List Nat
  | [] => [n]
  | m :: ms =>
    if 0 < markOrder n && markOrder n < markOrder m then m :: insertMark n ms else n :: m :: ms

def orderMarks (ns : List Nat) : List Nat :=
  (ns.foldl (fun done n => insertMark n done) []).reverse

/-! ## Putting together -/

/-- The character for a letter and a mark. -/
def join? (letter mark : Nat) : Option Nat :=
  match joinSyllable? letter mark with
  | some syllable => some syllable
  | none => (pairs.find? fun p => p.letter == letter && p.mark == mark).map (·.whole)

/-- Whether the marks between a letter and another mark, the last of them first, keep them apart. -/
def blocks (marks : List Nat) (n : Nat) : Bool :=
  match marks with
  | [] => false
  | m :: _ => markOrder n ≤ markOrder m

/-- The rest of a text put together, where a letter and, reversed, the marks that stayed behind it
are already taken. -/
def composeFrom (letter : Nat) (marks : List Nat) : List Nat → List Nat
  | [] => letter :: marks.reverse
  | n :: ns =>
    match if blocks marks n then none else join? letter n with
    | some whole => composeFrom whole marks ns
    | none =>
      if markOrder n = 0 then letter :: marks.reverse ++ composeFrom n [] ns
      else composeFrom letter (n :: marks) ns

/-- A text with letters and marks put together. Marks in front stay alone. -/
def compose : List Nat → List Nat
  | [] => []
  | n :: ns => if markOrder n = 0 then composeFrom n [] ns else n :: compose ns

/-- The canonical form of code points. -/
def canonicalPoints (ns : List Nat) : List Nat :=
  compose (orderMarks (ns.flatMap (parts deepest)))

/-- The canonical form of a name. Plain letters and digits are their own. -/
def canonical (s : String) : String :=
  if s.toList.all (·.toNat < 0x80) then s
  else String.ofList ((canonicalPoints (s.toList.map Char.toNat)).map Char.ofNat)

end RegisterMap.Text
