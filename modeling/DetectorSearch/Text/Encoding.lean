import DetectorSearch.Text.Quoted
/-! # Text in bytes

A text that is JSON may be encoded in UTF-8, UTF-16 or UTF-32; its first bytes tell which. Bytes
that no text is encoded to are refused at the first of them. Half of a surrogate pair is let through
when bytes are read, but has no bytes of its own.

A character that may not stand in a part of an address is written as the bytes of its UTF-8 form,
each a percent sign and two hexadecimal digits. The percent sign itself is left as it is, so a text
that looks like a coded byte is read back as that byte.
-/

namespace DetectorSearch.Text

/-- Why bytes are no text: the encoding, the first bad byte, where the bad bytes begin and end, and
the reason. -/
structure DecodeFault where
  encoding : String
  byte : Nat
  first : Nat
  next : Nat
  reason : String
  deriving Repr

/-- The message of a fault. -/
def DecodeFault.message (fault : DecodeFault) : String :=
  let digits := Nat.toDigits 16 fault.byte
  let byte := String.ofList (if digits.length < 2 then '0' :: digits else digits)
  let what :=
    if fault.next = fault.first + 1 then
      "byte 0x" ++ byte ++ " in position " ++ toString fault.first
    else "bytes in position " ++ toString fault.first ++ "-" ++ toString (fault.next - 1)
  "'" ++ fault.encoding ++ "' codec can't decode " ++ what ++ ": " ++ fault.reason

namespace Utf8

/-- A following byte. -/
def isTail (byte : Nat) : Bool := 0x80 ≤ byte && byte ≤ 0xBF

/-- Count of bytes after a first byte; none if the byte cannot be the first one. -/
def tailCount? (byte : Nat) : Option Nat :=
  if byte < 0x80 then some 0
  else if 0xC2 ≤ byte ∧ byte ≤ 0xDF then some 1
  else if 0xE0 ≤ byte ∧ byte ≤ 0xEF then some 2
  else if 0xF0 ≤ byte ∧ byte ≤ 0xF4 then some 3
  else none

/-- Whether a second byte may follow a first one, half of a surrogate pair aside. -/
def secondFits (byte second : Nat) : Bool :=
  isTail second &&
    (if byte = 0xE0 then 0xA0 ≤ second
    else if byte = 0xED then second ≤ 0x9F
    else if byte = 0xF0 then 0x90 ≤ second
    else if byte = 0xF4 then second ≤ 0x8F
    else true)

/-- What a first byte contributes to the code. -/
def headBits (byte tails : Nat) : Nat :=
  match tails with
  | 0 => byte
  | 1 => byte % 0x20
  | 2 => byte % 0x10
  | _ => byte % 0x08

/-- How a character begins: it is complete, ends too early, or is broken after some bytes. -/
inductive Start where
  | character (code size : Nat)
  | badStart
  | broken (size : Nat)
  | unfinished
  deriving Repr

/-- Takes the remaining following bytes of a character. -/
def tails : Nat → Nat → Nat → List Nat → Start
  | 0, code, size, _ => .character code size
  | _ + 1, _, _, [] => .unfinished
  | count + 1, code, size, byte :: rest =>
      if isTail byte then tails count (code * 64 + byte % 64) (size + 1) rest else .broken size

/-- Whether bytes begin with the three that half of a surrogate pair would have. -/
def startsWithHalf : List Nat → Bool
  | 0xED :: second :: third :: _ => 0xA0 ≤ second && isTail second && isTail third
  | _ => false

/-- The character that bytes begin with. -/
def start : List Nat → Start
  | [] => .unfinished
  | byte :: rest =>
      match tailCount? byte with
      | none => .badStart
      | some 0 => .character byte 1
      | some (count + 1) =>
          match rest with
          | [] => .unfinished
          | second :: rest =>
              if secondFits byte second then
                tails count (headBits byte (count + 1) * 64 + second % 64) 2 rest
              else .broken 1

/-- Decodes bytes; `position` counts those before. The count of bytes bounds the steps. -/
def decodeFrom : Nat → Nat → List Nat → Except DecodeFault (List Char)
  | 0, _, _ => .ok []
  | _ + 1, _, [] => .ok []
  | fuel + 1, position, byte :: rest =>
      let fault := fun next reason => Except.error ⟨"utf-8", byte, position, next, reason⟩
      match start (byte :: rest) with
      | .character code size =>
          (decodeFrom fuel (position + size) ((byte :: rest).drop size)).map (charOfCode code :: ·)
      | .broken 1 =>
          if startsWithHalf (byte :: rest) then
            let code := (rest.take 2).foldl (fun code tail => code * 64 + tail % 64) 0xD
            (decodeFrom fuel (position + 3) (rest.drop 2)).map (charOfCode code :: ·)
          else fault (position + 1) "invalid continuation byte"
      | .badStart => fault (position + 1) "invalid start byte"
      | .broken size => fault (position + size) "invalid continuation byte"
      | .unfinished => fault (position + rest.length + 1) "unexpected end of data"

/-- Decodes bytes that have to be UTF-8. -/
def decode (bytes : List Nat) : Except DecodeFault (List Char) :=
  decodeFrom bytes.length 0 bytes

/-- The text that bytes are in UTF-8, if they are one without halves of surrogate pairs. -/
def text? (bytes : List Nat) : Option String :=
  match decode bytes with
  | .ok chars => if chars.any isHalf then none else some (String.ofList chars)
  | .error _ => none

/-- Decodes bytes, with a replacement character for each part that is no UTF-8. -/
def decodeLoosely : Nat → List Nat → List Char
  | 0, _ => []
  | _ + 1, [] => []
  | fuel + 1, bytes =>
      match start bytes with
      | .character code size => charOfCode code :: decodeLoosely fuel (bytes.drop size)
      | .badStart => '\uFFFD' :: decodeLoosely fuel (bytes.drop 1)
      | .broken size => '\uFFFD' :: decodeLoosely fuel (bytes.drop size)
      | .unfinished => ['\uFFFD']

end Utf8

/-- The message about characters of a text that an encoding has no bytes for: the first run of them, if
there is one. -/
def encodeFaultIn? (name reason : String) (isRefused : Char → Bool) (s : List Char) :
    Option String :=
  let first := (s.takeWhile fun c => !isRefused c).length
  match (s.drop first).takeWhile isRefused with
  | [] => none
  | c :: more =>
      let what :=
        if more.isEmpty then
          "character '" ++ String.ofList (numbered (codeOf c)) ++ "' in position " ++ toString first
        else
          "characters in position " ++ toString first ++ "-" ++ toString (first + more.length)
      some ("'" ++ name ++ "' codec can't encode " ++ what ++ ": " ++ reason)

/-- The message about halves of surrogate pairs, which have no bytes in UTF-8. -/
def encodeFault? (s : List Char) : Option String :=
  encodeFaultIn? "utf-8" "surrogates not allowed" isHalf s

/-- The message about characters outside ASCII. -/
def asciiFault? (s : List Char) : Option String :=
  encodeFaultIn? "ascii" "ordinal not in range(128)" (fun c => 0x80 ≤ c.toNat) s

/-- The number that bytes write, the most significant one first or last. -/
def wordOf (bigEndian : Bool) (bytes : List Nat) : Nat :=
  (if bigEndian then bytes else bytes.reverse).foldl (fun word byte => word * 256 + byte) 0

/-- The name of an encoding with its order of bytes. -/
def orderedName (name : String) (bigEndian : Bool) : String :=
  name ++ (if bigEndian then "-be" else "-le")

namespace Utf16

/-- Decodes pairs of bytes. -/
def decodeFrom (bigEndian : Bool) : Nat → Nat → List Nat → Except DecodeFault (List Char)
  | fuel + 1, position, a :: b :: rest =>
      let unit := wordOf bigEndian [a, b]
      let alone := fun _ : Unit =>
        (decodeFrom bigEndian fuel (position + 2) rest).map (charOfCode unit :: ·)
      match rest with
      | c :: d :: after =>
          let low := wordOf bigEndian [c, d]
          if 0xD800 ≤ unit ∧ unit ≤ 0xDBFF ∧ 0xDC00 ≤ low ∧ low ≤ 0xDFFF then
            let code := 0x10000 + (unit - 0xD800) * 0x400 + (low - 0xDC00)
            (decodeFrom bigEndian fuel (position + 4) after).map (Char.ofNat code :: ·)
          else alone ()
      | _ => alone ()
  | _, _, [] => .ok []
  | 0, _, _ => .ok []
  | _, position, byte :: _ =>
      .error ⟨orderedName "utf-16" bigEndian, byte, position, position + 1, "truncated data"⟩

end Utf16

namespace Utf32

/-- Decodes groups of four bytes. -/
def decodeFrom (bigEndian : Bool) : Nat → Nat → List Nat → Except DecodeFault (List Char)
  | fuel + 1, position, a :: b :: c :: d :: rest =>
      let code := wordOf bigEndian [a, b, c, d]
      if code < 0x110000 then
        (decodeFrom bigEndian fuel (position + 4) rest).map (charOfCode code :: ·)
      else
        .error ⟨orderedName "utf-32" bigEndian, a, position, position + 4,
          "code point not in range(0x110000)"⟩
  | _, _, [] => .ok []
  | 0, _, _ => .ok []
  | _, position, byte :: rest =>
      .error ⟨orderedName "utf-32" bigEndian, byte, position, position + rest.length + 1,
        "truncated data"⟩

end Utf32

/-- The encodings of a JSON text; a mark in front of the text counts bytes. -/
inductive Encoding where
  | utf8 (mark : Nat)
  | utf16 (bigEndian : Bool) (mark : Nat)
  | utf32 (bigEndian : Bool) (mark : Nat)
  deriving DecidableEq, Repr

/-- The encoding that the first bytes of a JSON text tell. -/
def Encoding.detect (bytes : List Nat) : Encoding :=
  match bytes with
  | 0 :: 0 :: 0xFE :: 0xFF :: _ => .utf32 true 4
  | 0xFF :: 0xFE :: 0 :: 0 :: _ => .utf32 false 4
  | 0xFE :: 0xFF :: _ => .utf16 true 2
  | 0xFF :: 0xFE :: _ => .utf16 false 2
  | 0xEF :: 0xBB :: 0xBF :: _ => .utf8 3
  | 0 :: 0 :: _ :: _ :: _ => .utf32 true 0
  | 0 :: _ :: _ :: _ :: _ => .utf16 true 0
  | _ :: 0 :: 0 :: 0 :: _ => .utf32 false 0
  | _ :: 0 :: _ :: _ :: _ => .utf16 false 0
  | [0, _] => .utf16 true 0
  | [_, 0] => .utf16 false 0
  | _ => .utf8 0

/-- Decodes the bytes of a JSON text. Positions count from the first byte, but in UTF-8 from the end
of the mark. -/
def decodeText (bytes : List Nat) : Except DecodeFault (List Char) :=
  match Encoding.detect bytes with
  | .utf8 mark => Utf8.decode (bytes.drop mark)
  | .utf16 bigEndian mark => Utf16.decodeFrom bigEndian bytes.length mark (bytes.drop mark)
  | .utf32 bigEndian mark => Utf32.decodeFrom bigEndian bytes.length mark (bytes.drop mark)

/-- A hexadecimal digit in capitals. -/
def hexCapital (digit : Nat) : Char :=
  Char.ofNat (if digit < 10 then 48 + digit else 55 + digit)

/-- The bytes of the UTF-8 form of a character. -/
def utf8Bytes (c : Char) : List Nat :=
  (String.utf8EncodeChar c).map UInt8.toNat

/-- A byte in percent coding. -/
def percentByte (byte : Nat) : List Char :=
  ['%', hexCapital (byte / 16), hexCapital (byte % 16)]

/-- A text with every character coded that is not safe. -/
def percentEncode (isSafe : Char → Bool) (s : List Char) : List Char :=
  s.flatMap fun c => if isSafe c then [c] else (utf8Bytes c).flatMap percentByte

/-- The bytes that a coded text stands for. -/
def percentBytes : List Char → List Nat
  | [] => []
  | '%' :: a :: b :: rest =>
      match hexDigit? a, hexDigit? b with
      | some high, some low => (high * 16 + low) :: percentBytes rest
      | _, _ => 0x25 :: percentBytes (a :: b :: rest)
  | c :: rest => utf8Bytes c ++ percentBytes rest

/-- The text that a coded text stands for; bytes that are no UTF-8 are replaced. -/
def percentDecode (s : List Char) : List Char :=
  let bytes := percentBytes s
  Utf8.decodeLoosely bytes.length bytes

example : percentEncode Char.isAlphanum ['a', ' ', 'é'] =
    ['a', '%', '2', '0', '%', 'C', '3', '%', 'A', '9'] := by decide

example : percentDecode ['%', 'C', '3', '%', 'A', '9', '%', 'x'] = ['é', '%', 'x'] := by decide

end DetectorSearch.Text
