import DetectorSearch.Decimal.Integer
/-! # Reals in text

`decimalFloat` rounds a decimal to the nearest double. `readReal?` reads the general form of a real:
white space around it, a sign, decimal digits of every script with single underscores between them, a
point, an exponent, or one of the words for infinity and NaN in letters of any case.
-/

namespace DetectorSearch

/-- The double nearest to `digits * 10 ^ exponent`. Beyond a thousand places the answer is zero or
infinity whatever the digits are, so no larger power is ever computed. -/
def decimalFloat (digits : Nat) (exponent : Int) : Float :=
  if digits = 0 then 0.0
  else
    let magnitude := (Nat.log2 digits : Int) / 4 + exponent
    if magnitude > 1000 then 1.0 / 0.0
    else if magnitude + (Nat.log2 digits : Int) < -1000 then 0.0
    else if exponent < 0 then Float.ofScientific digits true exponent.natAbs
    else Float.ofScientific digits false exponent.natAbs

/-- A double with a sign. -/
def signedFloat (negative : Bool) (magnitude : Float) : Float :=
  if negative then -magnitude else magnitude

/-- A digit of ASCII. -/
def asciiDigit? (c : Char) : Option Nat :=
  if '0' ≤ c ∧ c ≤ '9' then some (c.toNat - '0'.toNat) else none

/-- Whether a character is a digit of ASCII. -/
def isAsciiDigit (c : Char) : Bool :=
  (asciiDigit? c).isSome

/-- The values of digits of ASCII, other characters left out. -/
def asciiDigits (s : List Char) : List Nat :=
  s.filterMap asciiDigit?

/-- The number that digits of ASCII write. -/
def asciiNumber (s : List Char) : Nat :=
  Text.digitsValue (asciiDigits s)

/-- The double of a decimal given by its whole digits, the digits after its point and its
exponent. -/
def decimalParts (whole fraction : List Char) (exponent : Int) : Float :=
  decimalFloat (asciiNumber (whole ++ fraction)) (exponent - fraction.length)

/-- Takes the underscores out of a number; each has to stand between two digits. -/
def joinDigits? : Bool → List Char → Option (List Char)
  | _, [] => some []
  | after, '_' :: rest =>
      match rest with
      | next :: _ =>
          if after && isAsciiDigit next then joinDigits? false rest else none
      | [] => none
  | _, c :: rest => (joinDigits? (isAsciiDigit c) rest).map (c :: ·)

/-- The exponent of a real; nothing at all counts as zero. -/
def readExponent? : List Char → Option Int
  | [] => some 0
  | c :: rest =>
      if c == 'e' || c == 'E' then
        let body := splitSign rest
        if body.2.isEmpty || !body.2.all isAsciiDigit then none
        else some (signed body.1 (asciiNumber body.2))
      else none

/-- An unsigned real in digits. -/
def readDecimal? (s : List Char) : Option Float :=
  let whole := s.takeWhile isAsciiDigit
  let rest := s.dropWhile isAsciiDigit
  let fraction := if rest.head? == some '.' then (rest.drop 1).takeWhile isAsciiDigit else []
  let rest := if rest.head? == some '.' then (rest.drop 1).dropWhile isAsciiDigit else rest
  if whole.isEmpty && fraction.isEmpty then none
  else (readExponent? rest).map (decimalParts whole fraction)

/-- Reads a real that is nothing but a sign, and digits or a word. -/
def readBareReal? (s : List Char) : Option Float :=
  let body := splitSign s
  let word := String.ofList (body.2.map Char.toLower)
  if word == "inf" || word == "infinity" then some (signedFloat body.1 (1.0 / 0.0))
  else if word == "nan" then some (0.0 / 0.0)
  else (readDecimal? body.2).map (signedFloat body.1)

/-- The digit of ASCII in place of a decimal digit of any script. -/
def asciiForm (c : Char) : Char :=
  match Text.digitValue? c with
  | some value => Char.ofNat ('0'.toNat + value)
  | none => c

/-- Reads a real by the general rule. -/
def readReal? (s : List Char) : Option Float :=
  (joinDigits? false ((Text.trim Text.isWhite s).map asciiForm)).bind readBareReal?

end DetectorSearch
