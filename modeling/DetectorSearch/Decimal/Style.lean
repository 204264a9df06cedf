import DetectorSearch.Decimal.Shortest
/-! # How reals are written

Two notations. `NumberStyle.plain` writes the fewest digits that read back: positional from
`0.0001` up to below `10 ^ 16`, where a point is always shown, else with an exponent of at least two
digits. `NumberStyle.general` writes at most six significant digits without trailing zeros:
positional from `0.0001` up to below `10 ^ 6`, and without a point when the number is whole.
-/

namespace DetectorSearch

/-- The choices of one way to write a real. -/
structure NumberStyle where
  /-- Numbers whose first digit has this power of ten or a higher one get an exponent. -/
  exponentFrom : Int
  /-- Whether a positional whole number ends in `.0`. -/
  showsPoint : Bool
  deriving Repr

namespace NumberStyle

/-- Digits with their trailing zeros taken off. -/
def trimZeros (digits : List Char) : List Char :=
  (digits.reverse.dropWhile (· == '0')).reverse

/-- The exponent with its sign and at least two digits. -/
def exponentText (exponent : Int) : List Char :=
  let digits := Nat.toDigits 10 exponent.natAbs
  let padded := if digits.length < 2 then '0' :: digits else digits
  'e' :: (if exponent < 0 then '-' else '+') :: padded

/-- A point and digits after it, nothing when there are none. -/
def fractionText (digits : List Char) : List Char :=
  if digits.isEmpty then [] else '.' :: digits

/-- Writes a positive decimal. -/
def write (style : NumberStyle) (decimal : Digits) : List Char :=
  let digits := trimZeros (Nat.toDigits 10 decimal.digits)
  let exponent := decimal.exponent
  if exponent < -4 ∨ exponent ≥ style.exponentFrom then
    digits.take 1 ++ fractionText (digits.drop 1) ++ exponentText exponent
  else if exponent < 0 then
    '0' :: '.' :: (List.replicate (-exponent - 1).toNat '0' ++ digits)
  else
    let width := exponent.toNat + 1
    let whole := digits.take width
    let whole := whole ++ List.replicate (width - whole.length) '0'
    let fraction := digits.drop width
    let fraction := if fraction.isEmpty ∧ style.showsPoint then ['0'] else fraction
    whole ++ fractionText fraction

/-- Writes any double with a choice of its digits. -/
def writeFloat (style : NumberStyle) (choose : DoubleFields → Digits) (x : Float) : String :=
  let fields := DoubleFields.ofFloat x
  if fields.exponent = 2047 then
    if fields.fraction ≠ 0 then "nan" else if fields.negative then "-inf" else "inf"
  else
    let sign := if fields.negative then ['-'] else []
    if fields.significand = 0 then
      String.ofList (sign ++ '0' :: (if style.showsPoint then ['.', '0'] else []))
    else
      String.ofList (sign ++ style.write (choose fields))

/-- The fewest digits that read back. -/
def plain : NumberStyle := ⟨16, true⟩

/-- At most six significant digits. -/
def general : NumberStyle := ⟨6, false⟩

end NumberStyle

/-- The text of a real with the fewest digits that read back. -/
def plainText (x : Float) : String :=
  NumberStyle.plain.writeFloat shortest x

/-- The text of a real with at most six significant digits. -/
def generalText (x : Float) : String :=
  NumberStyle.general.writeFloat (nearest · 6) x

example : NumberStyle.plain.write ⟨5, 1, 0⟩ = ['5', '.', '0'] := by decide

example : NumberStyle.plain.write ⟨15, 2, -5⟩ = ['1', '.', '5', 'e', '-', '0', '5'] := by decide

example : NumberStyle.general.write ⟨500000, 6, 0⟩ = ['5'] := by decide

example : plainText 0.1 = "0.1" := by decide +kernel

end DetectorSearch
