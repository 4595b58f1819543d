import RegisterMap.Text.Quoted

/-!
# Bytes and texts

Texts are stored as UTF-8. Reading is strict, with the place and the reason of the first fault, or
lenient, with a replacement character for each faulty run. A half that stands alone has no bytes.
-/

namespace RegisterMap.Text.Utf8

inductive Reason where
  | invalidStart
  | invalidContinuation
  | unexpectedEnd
  deriving DecidableEq, Repr

def Reason.message : Reason → String
  | .invalidStart => "invalid start byte"
  | .invalidContinuation => "invalid continuation byte"
  | .unexpectedEnd => "unexpected end of data"

/-- What stands at the front of bytes: a character or a faulty run, and how many bytes it takes
beyond the first. -/
inductive Front where
  | char (c : Char) (more : Nat)
  | fault (reason : Reason) (more : Nat)

/-- A byte that goes on with a character. -/
def isTail (b : UInt8) : Bool :=
  0x80 ≤ b && b < 0xC0

/-- The six bits of a byte that goes on with a character. -/
def tailBits (b : UInt8) : Nat :=
  b.toNat % 64

/-- Whether `b` may stand second after the first byte `a` of a longer character. -/
def isSecond (a b : UInt8) : Bool :=
  isTail b && !(a == 0xE0 && b < 0xA0) && !(a == 0xED && 0xA0 ≤ b)
    && !(a == 0xF0 && b < 0x90) && !(a == 0xF4 && 0x90 ≤ b)

/-- The front of the bytes `a :: rest`. -/
def front (a : UInt8) (rest : List UInt8) : Front :=
  if a < 0x80 then .char (Char.ofNat a.toNat) 0
  else if a < 0xC2 || 0xF5 ≤ a then .fault .invalidStart 0
  else
    match rest with
    | [] => .fault .unexpectedEnd 0
    | b :: rest =>
      if !isSecond a b then .fault .invalidContinuation 0
      else if a < 0xE0 then .char (Char.ofNat ((a.toNat - 0xC0) * 64 + tailBits b)) 1
      else
        match rest with
        | [] => .fault .unexpectedEnd 1
        | c :: rest =>
          if !isTail c then .fault .invalidContinuation 1
          else if a < 0xF0 then
            .char (Char.ofNat (((a.toNat - 0xE0) * 64 + tailBits b) * 64 + tailBits c)) 2
          else
            match rest with
            | [] => .fault .unexpectedEnd 2
            | d :: _ =>
              if !isTail d then .fault .invalidContinuation 2
              else
                let high := ((a.toNat - 0xF0) * 64 + tailBits b) * 64 + tailBits c
                .char (Char.ofNat (high * 64 + tailBits d)) 3

/-- A faulty run of `count` bytes at `position`, the first of them `byte`. -/
structure DecodeFault where
  byte : UInt8
  position : Nat
  count : Nat
  reason : Reason
  deriving DecidableEq, Repr

/-- The characters of bytes that stand at `position`. -/
def decodeFrom (position : Nat) : List UInt8 → Except DecodeFault (List Char)
  | [] => .ok []
  | a :: rest =>
    match front a rest with
    | .fault reason more => .error ⟨a, position, more + 1, reason⟩
    | .char c more => (decodeFrom (position + more + 1) (rest.drop more)).map (c :: ·)
termination_by bytes => bytes.length
decreasing_by simp only [List.length_drop, List.length_cons]; omega

def decode (bytes : List UInt8) : Except DecodeFault String :=
  (decodeFrom 0 bytes).map ofChars

/-- The characters of bytes, with `U+FFFD` in place of each faulty run. -/
def decodeLenientChars : List UInt8 → List Char
  | [] => []
  | a :: rest =>
    match front a rest with
    | .fault _ more => '\ufffd' :: decodeLenientChars (rest.drop more)
    | .char c more => c :: decodeLenientChars (rest.drop more)
termination_by bytes => bytes.length
decreasing_by all_goals (simp only [List.length_drop, List.length_cons]; omega)

/-- The text of bytes, with `U+FFFD` in place of each faulty run. -/
def decodeLenient (bytes : List UInt8) : String :=
  ofChars (decodeLenientChars bytes)

/-- What is wrong with bytes that are no text. -/
def DecodeFault.message (f : DecodeFault) : String :=
  let place :=
    if f.count = 1 then
      "byte 0x" ++ String.ofList (lowHex 2 f.byte.toNat) ++ " in position " ++ toString f.position
    else
      "bytes in position " ++ toString f.position ++ "-" ++ toString (f.position + f.count - 1)
  "'utf-8' codec can't decode " ++ place ++ ": " ++ f.reason.message

/-- A run of `count` halves without bytes at `position`, the first of them with number `half`. -/
structure EncodeFault where
  half : Nat
  position : Nat
  count : Nat
  deriving DecidableEq, Repr

/-- The first fault in code points that stand at `position`. It reaches to the end of the halves
there. -/
def firstFault (isFault : Point → Bool) (position : Nat) : List Point → Option EncodeFault
  | [] => none
  | p :: ps =>
    if isFault p then some ⟨p.number, position, 1 + (ps.takeWhile Point.isHalf).length⟩
    else firstFault isFault (position + 1) ps

def pointBytes : Point → List UInt8
  | .char c => String.utf8EncodeChar c
  | .half _ => []

def encode (s : String) : Except EncodeFault (List UInt8) :=
  match firstFault Point.isHalf 0 (pointsOf s) with
  | some fault => .error fault
  | none => .ok ((pointsOf s).flatMap pointBytes)

/-- What is wrong with a text that has no bytes. -/
def EncodeFault.message (f : EncodeFault) : String :=
  let place :=
    if f.count = 1 then
      "character '\\u" ++ String.ofList (lowHex 4 f.half) ++ "' in position " ++ toString f.position
    else
      "characters in position " ++ toString f.position ++ "-" ++ toString (f.position + f.count - 1)
  "'utf-8' codec can't encode " ++ place ++ ": surrogates not allowed"

end RegisterMap.Text.Utf8
