import RegisterMap.Failure

/-!
# Dumps

Memory content as text: bytes in rows with their addresses and characters, and words one a line.
-/

namespace RegisterMap.Dump

/-- The character that stands for a byte. -/
def shownByte (b : UInt8) : Char :=
  if 0x20 ≤ b && b < 0x7F then Char.ofNat b.toNat else '.'

def byteDigits (b : UInt8) : List Char :=
  Number.padZeros 2 (Number.hexDigits b.toNat)

/-- Bytes in hexadecimal with blanks between them. -/
def byteColumn : List UInt8 → List Char
  | [] => []
  | [b] => byteDigits b
  | b :: bs => byteDigits b ++ ' ' :: byteColumn bs

/-- A column with blanks behind it, up to `width` places. -/
def padRight (width : Nat) (cs : List Char) : List Char :=
  cs ++ List.replicate (width - cs.length) ' '

/-- The line of a row of bytes at an address, in a dump of `width` bytes a row. -/
def row (address : Int) (width : Nat) (bytes : List UInt8) : List Char :=
  Number.hexChars 8 address ++ "  ".toList ++ padRight (width * 3) (byteColumn bytes) ++ "  ".toList
    ++ bytes.map shownByte

/-- The lines of rows of `width + 1` bytes from an address on. -/
def rows (address : Int) (width : Nat) (bytes : List UInt8) : List (List Char) :=
  if bytes.isEmpty then []
  else
    row address (width + 1) (bytes.take (width + 1))
      :: rows (address + (width + 1)) width (bytes.drop (width + 1))
termination_by bytes.length
decreasing_by
  cases bytes with
  | nil => contradiction
  | cons b bs => simp only [List.length_drop, List.length_cons]; omega

def joinLines (lines : List (List Char)) : String :=
  "\n".intercalate (lines.map String.ofList)

/-- No text can be padded to this many places or more. -/
def placeLimit : Int := 0x8000000000000000

variable [Machine]

/-- Checks that a text can be padded to `places` places. -/
def checkPlaces (places : Int) : Except Failure Unit :=
  if !Number.isShort places then .error .longNumber
  else if placeLimit ≤ places then .error .tooManyPlaces
  else if (Machine.bytes : Int) ≤ places then .error (.memory .exhausted)
  else .ok ()

/-- The dump of bytes from a base address on; no width below zero makes a row. -/
def bytes (base width : Int) (data : List UInt8) : Except Failure String :=
  if width = 0 then .error .zeroStep
  else if width < 0 ∨ data = [] then .ok ""
  else do
    checkPlaces (width * 3)
    .ok (joinLines (rows base (width.toNat - 1) data))

/-- The line of a word at an offset from a base. -/
def wordLine (base offset : Int) (places : Nat) (word : Int) : List Char :=
  "+0x".toList ++ Number.hexChars 4 offset ++ " [0x".toList ++ Number.hexChars 8 (base + offset)
    ++ "] = 0x".toList ++ Number.hexChars places word

/-- The lines of words from an offset on, `step` bytes apart. -/
def wordLines (base step offset : Int) : List Int → List (List Char)
  | [] => []
  | w :: ws => wordLine base offset (step * 2).toNat w :: wordLines base step (offset + step) ws

/-- The table of words from a base address on, `step` bytes apart. -/
def words (base step : Int) (ws : List Int) : Except Failure String :=
  if ws = [] then .ok ""
  else do
    checkPlaces (step * 2)
    if step < 0 then .error (.badPlaces (step * 2))
    else .ok (joinLines (wordLines base step 0 ws))

end RegisterMap.Dump
