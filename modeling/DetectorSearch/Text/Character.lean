/-! # Classes and numbers of characters

Two sets of blanks. `isWhite` holds the characters with the Unicode property White_Space; numbers
may be surrounded by them. `isBlank` holds the four information separators as well; they are cut
from the ends of a state or flag.

A decimal digit of Unicode 14 (general category Nd) stands in a block of ten consecutive characters
that begins with the zero of its script. `digitValue?` reads a digit by the block it stands in.

Escapes write a character by its number in hexadecimal digits, and some bytes stand for a number.
Half of a surrogate pair has a number but is no character. A text that holds one keeps it as the
private character `0x100000` further on, which is set aside for it, and `codeOf` gives the number
back. The private characters U+10D800 to U+10DFFF have therefore no representation of their own: where
texts are compared or ordered, a text that holds one of them is taken for the one with half of a pair
in its place.
-/

namespace DetectorSearch.Text

/-- The Unicode property White_Space. -/
def isWhite (c : Char) : Bool :=
  let code := c.toNat
  (9 ≤ code && code ≤ 13) || code == 0x20 || code == 0x85 || code == 0xA0 || code == 0x1680 ||
  (0x2000 ≤ code && code ≤ 0x200A) || code == 0x2028 || code == 0x2029 || code == 0x202F ||
  code == 0x205F || code == 0x3000

/-- White space and the four information separators. -/
def isBlank (c : Char) : Bool :=
  isWhite c || (0x1C ≤ c.toNat && c.toNat ≤ 0x1F)

/-- Cuts the characters of a class from both ends. -/
def trim (drop : Char → Bool) (s : List Char) : List Char :=
  ((s.dropWhile drop).reverse.dropWhile drop).reverse

/-- Cuts the blanks from both ends. -/
def strip (s : List Char) : List Char :=
  trim isBlank s

/-- The zeros of all scripts that write numbers with ten digits. -/
def scriptZeros : List Nat := [
    0x30, 0x660, 0x6F0, 0x7C0, 0x966, 0x9E6, 0xA66, 0xAE6, 0xB66, 0xBE6, 0xC66, 0xCE6, 0xD66,
    0xDE6, 0xE50, 0xED0, 0xF20, 0x1040, 0x1090, 0x17E0, 0x1810, 0x1946, 0x19D0, 0x1A80, 0x1A90,
    0x1B50, 0x1BB0, 0x1C40, 0x1C50, 0xA620, 0xA8D0, 0xA900, 0xA9D0, 0xA9F0, 0xAA50, 0xABF0,
    0xFF10, 0x104A0, 0x10D30, 0x11066, 0x110F0, 0x11136, 0x111D0, 0x112F0, 0x11450, 0x114D0,
    0x11650, 0x116C0, 0x11730, 0x118E0, 0x11950, 0x11C50, 0x11D50, 0x11DA0, 0x16A60, 0x16AC0,
    0x16B50, 0x1D7CE, 0x1D7D8, 0x1D7E2, 0x1D7EC, 0x1D7F6, 0x1E140, 0x1E2F0, 0x1E950, 0x1FBF0
  ]

/-- The value of a decimal digit of any script. -/
def digitValue? (c : Char) : Option Nat :=
  if c.toNat < 128 then
    if '0' ≤ c ∧ c ≤ '9' then some (c.toNat - '0'.toNat) else none
  else
    (scriptZeros.find? fun first => first ≤ c.toNat ∧ c.toNat < first + 10).map (c.toNat - ·)

/-- Whether a character is a decimal digit of any script. -/
def isDigit (c : Char) : Bool :=
  (digitValue? c).isSome

/-- The number that a list of digits writes in base ten. -/
def digitsValue (digits : List Nat) : Nat :=
  digits.foldl (fun number digit => 10 * number + digit) 0

/-- The value of a hexadecimal digit. -/
def hexDigit? (c : Char) : Option Nat :=
  if '0' ≤ c ∧ c ≤ '9' then some (c.toNat - '0'.toNat)
  else if 'a' ≤ c ∧ c ≤ 'f' then some (c.toNat - 'a'.toNat + 10)
  else if 'A' ≤ c ∧ c ≤ 'F' then some (c.toNat - 'A'.toNat + 10)
  else none

/-- The number that hexadecimal digits write. -/
def hexNumber? (digits : List Char) : Option Nat :=
  (digits.mapM hexDigit?).map (·.foldl (fun number digit => 16 * number + digit) 0)

/-- Whether a number is that of half of a surrogate pair. -/
def isHalfCode (code : Nat) : Bool :=
  0xD800 ≤ code && code ≤ 0xDFFF

/-- The character that a text keeps for a number. Those of halves share theirs with the private
characters U+10D800 to U+10DFFF, which have no other. -/
def charOfCode (code : Nat) : Char :=
  Char.ofNat (if isHalfCode code then code + 0x100000 else code)

/-- Whether a character stands for half of a surrogate pair. So do U+10D800 to U+10DFFF wherever they
come from. -/
def isHalf (c : Char) : Bool :=
  0x10D800 ≤ c.toNat && c.toNat ≤ 0x10DFFF

/-- The number of a character. -/
def codeOf (c : Char) : Nat :=
  if isHalf c then c.toNat - 0x100000 else c.toNat

/-- The numbers of the characters of a text, by which texts are ordered. -/
def codes (s : String) : List Nat :=
  s.toList.map codeOf

/-- Whether a text holds half of a surrogate pair. -/
def hasHalf (s : String) : Bool :=
  s.toList.any isHalf

theorem codeOf_charOfCode_half : codeOf (charOfCode 0xD800) = 0xD800 := by decide

end DetectorSearch.Text
