import RegisterMap.Number.Format
import RegisterMap.Text.Point
import RegisterMap.Text.Printable

/-!
# Quoted texts

A text in quotes for messages. Single quotes are taken unless the text holds one and no double
quote; what cannot be printed is written as an escape.
-/

namespace RegisterMap.Text

/-- The last `count` hexadecimal digits of `n`, in small letters. -/
def lowHex (count n : Nat) : List Char :=
  (Number.padZeros count (Number.hexDigits n)).map Char.toLower

/-- The escape of a code point by its number. -/
def numericEscape (n : Nat) : List Char :=
  if n < 0x100 then '\\' :: 'x' :: lowHex 2 n
  else if n < 0x10000 then '\\' :: 'u' :: lowHex 4 n
  else '\\' :: 'U' :: lowHex 8 n

/-- A code point inside quotes of the kind `quote`. -/
def quotedPoint (quote : Char) : Point → List Char
  | .half place => numericEscape (Point.half place).number
  | .char c =>
    if c = quote ∨ c = '\\' then ['\\', c]
    else if c = '\t' then ['\\', 't']
    else if c = '\n' then ['\\', 'n']
    else if c = '\r' then ['\\', 'r']
    else if isPrintable c then [c]
    else numericEscape c.toNat

/-- The quote that needs the fewest escapes, the single one when in doubt. -/
def quoteFor (cs : List Char) : Char :=
  if cs.contains '\'' && !cs.contains '"' then '"' else '\''

/-- A list of characters in quotes. -/
def quotedChars (cs : List Char) : List Char :=
  let quote := quoteFor cs
  quote :: ((points cs).flatMap (quotedPoint quote) ++ [quote])

def quoted (s : String) : String :=
  String.ofList (quotedChars s.toList)

end RegisterMap.Text
