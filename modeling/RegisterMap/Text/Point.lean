/-!
# Code points

A text is a list of code points: characters, and halves of pairs of units that stand alone, such as
an escape like `\ud800` brings in. As a half is no character, a text keeps it behind a mark, and
the mark itself, the last character of all, twice. Main statement: what is kept is read back.
-/

namespace RegisterMap.Text

/-- A code point. A half is given by its place among all the halves. -/
inductive Point where
  | char (c : Char)
  | half (place : Fin 0x800)
  deriving DecidableEq, Repr

/-- The number of the first half. -/
def firstHalf : Nat := 0xD800

/-- The character behind which a half is kept. -/
def halfMark : Char :=
  Char.ofNat 0x10FFFF

/-- The number of the character that keeps the first half. -/
def keeperBase : Nat := 0xF0000

/-- The character that keeps a half, behind the mark. -/
def halfKeeper (place : Fin 0x800) : Char :=
  Char.ofNat (keeperBase + place)

namespace Point

def number : Point → Nat
  | char c => c.toNat
  | half place => firstHalf + place

def ofNumber (n : Nat) : Point :=
  if h : firstHalf ≤ n ∧ n < firstHalf + 0x800 then half ⟨n - firstHalf, by omega⟩
  else char (Char.ofNat n)

def isHalf : Point → Bool
  | char _ => false
  | half _ => true

/-- The characters that keep a code point in a text. -/
def kept : Point → List Char
  | char c => if c = halfMark then [halfMark, halfMark] else [c]
  | half place => [halfMark, halfKeeper place]

end Point

/-- The code point that a character keeps behind the mark. -/
def behindMark (c : Char) : Point :=
  if c = halfMark then .char halfMark else .half (Fin.ofNat 0x800 (c.toNat - keeperBase))

def points : List Char → List Point
  | [] => []
  | c :: cs =>
    if c = halfMark then
      match cs with
      | [] => [.char halfMark]
      | d :: ds => behindMark d :: points ds
    else .char c :: points cs

def ofPoints (ps : List Point) : List Char :=
  ps.flatMap Point.kept

/-- The number of code points in a text. -/
def size (cs : List Char) : Nat :=
  (points cs).length

/-- The text of characters, none of them a mark for a half. -/
def ofChars (cs : List Char) : String :=
  String.ofList (ofPoints (cs.map .char))

/-- The text with the characters of a string, none of them a mark for a half. -/
def ofString (s : String) : String :=
  ofChars s.toList

def pointsOf (s : String) : List Point :=
  points s.toList

/-- The character that shows a code point. A half has no picture. -/
def Point.shown : Point → Char
  | .char c => c
  | .half _ => '\ufffd'

/-- The characters that show a text. -/
def shown (s : String) : String :=
  String.ofList ((pointsOf s).map Point.shown)

theorem toNat_halfKeeper (place : Fin 0x800) : (halfKeeper place).toNat = keeperBase + place := by
  have h : (keeperBase + place.val).isValidChar := by
    have := place.isLt
    simp only [keeperBase, Nat.isValidChar]
    omega
  rw [halfKeeper, Char.ofNat, dif_pos h]
  rfl

theorem behindMark_halfKeeper (place : Fin 0x800) :
    behindMark (halfKeeper place) = .half place := by
  have hne : halfKeeper place ≠ halfMark := by
    intro h
    have hn := toNat_halfKeeper place
    have hm : halfMark.toNat = 0x10FFFF := by decide
    rw [h, hm] at hn
    have := place.isLt
    simp only [keeperBase] at hn
    omega
  rw [behindMark, if_neg hne, toNat_halfKeeper, Nat.add_sub_cancel_left]
  congr 1
  exact Fin.ext (Nat.mod_eq_of_lt place.isLt)

theorem points_kept_append (p : Point) (cs : List Char) :
    points (p.kept ++ cs) = p :: points cs := by
  cases p with
  | char c =>
    by_cases h : c = halfMark
    · simp [Point.kept, points, behindMark, h]
    · rw [Point.kept, if_neg h, List.singleton_append, points.eq_def]
      exact if_neg h
  | half place => simp [Point.kept, points, behindMark_halfKeeper]

/-- What is kept is read back. -/
theorem points_ofPoints (ps : List Point) : points (ofPoints ps) = ps := by
  induction ps with
  | nil => rfl
  | cons p ps ih =>
    rw [ofPoints, List.flatMap_cons, points_kept_append]
    exact congrArg _ ih

end RegisterMap.Text
