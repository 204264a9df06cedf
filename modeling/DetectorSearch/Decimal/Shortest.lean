import DetectorSearch.Decimal.Exact
/-! # The fewest digits that read back

A double stands for every real that rounds to it. `shortest` finds the decimal with the fewest
digits in that interval, the one nearest to the double if several are as short. The search runs
over the decimal grids of one, two, … seventeen digits in exact natural arithmetic: on each grid
only the two neighbours of the double can be inside.

`nearest` is the other way of choosing digits: the decimal of a given digit count that is nearest
to the double, a tie going to the even digit.
-/

namespace DetectorSearch

/-- The digits of a positive decimal `0.d₁d₂… * 10 ^ (exponent + 1)`, so that `exponent` is the
power of ten of the first digit. -/
structure Digits where
  digits : Nat
  count : Nat
  exponent : Int
  deriving Repr, DecidableEq

/-- A positive rational. -/
structure Ratio where
  num : Nat
  den : Nat
  deriving Repr

namespace Ratio

/-- The ratio times a power of ten. -/
def scale (r : Ratio) (power : Int) : Ratio :=
  if power ≥ 0 then ⟨r.num * tenTo power.toNat, r.den⟩ else ⟨r.num, r.den * tenTo (-power).toNat⟩

/-- The whole part. -/
def floor (r : Ratio) : Nat := r.num / r.den

end Ratio

/-- Count of decimal digits of a number, one for zero. -/
def digitCount (n : Nat) : Nat :=
  (Nat.toDigits 10 n).length

/-- The power of ten of the first digit of a positive ratio above `10 ^ (-400)`. -/
def leadingExponent (r : Ratio) : Int :=
  (digitCount (r.scale 400).floor : Int) - 401

/-- A positive double as four times its significand over a power of two, with the two ends of the
interval of reals that round to it on the same denominator. -/
structure Reach where
  lower : Nat
  value : Nat
  upper : Nat
  den : Nat
  closed : Bool
  deriving Repr

/-- The interval of a positive finite double. Below a power of two the doubles are twice as dense,
so that end is nearer; the ends themselves round to the double when its significand is even. -/
def Reach.ofFields (fields : DoubleFields) : Reach :=
  let m := fields.significand
  let below := if fields.fraction = 0 ∧ fields.exponent > 1 then 1 else 2
  let up := twoTo fields.shift
  ⟨(4 * m - below) * up, 4 * m * up, (4 * m + 2) * up, twoTo 1076, m % 2 = 0⟩

/-- Whether the decimal `digits * 10 ^ power` lies in the interval. -/
def Reach.holds (reach : Reach) (digits : Nat) (power : Int) : Bool :=
  let decimal := (Ratio.mk digits 1).scale power
  let point := decimal.num * reach.den
  let low := reach.lower * decimal.den
  let high := reach.upper * decimal.den
  if reach.closed then low ≤ point ∧ point ≤ high else low < point ∧ point < high

/-- The grid point with the given count of digits that is in the interval, if one is. -/
def Reach.onGrid? (reach : Reach) (first : Int) (count : Nat) : Option Digits :=
  let power := first - (count : Int) + 1
  let scaled := (Ratio.mk reach.value reach.den).scale (-power)
  let down := scaled.floor
  let isDown := reach.holds down power
  let isUp := reach.holds (down + 1) power
  let remainder := scaled.num - down * scaled.den
  let downNearer := 2 * remainder < scaled.den ∨ (2 * remainder = scaled.den ∧ down % 2 = 0)
  let chosen :=
    if isDown ∧ (downNearer ∨ ¬isUp) then some down
    else if isUp then some (down + 1)
    else none
  chosen.map fun digits =>
    if digits = tenTo count then ⟨tenTo (count - 1), count, first + 1⟩ else ⟨digits, count, first⟩

/-- The fewest digits that read back as the given positive finite double. -/
def shortest (fields : DoubleFields) : Digits :=
  let reach := Reach.ofFields fields
  let first := leadingExponent ⟨reach.value, reach.den⟩
  ((List.range 17).findSome? fun n => reach.onGrid? first (n + 1)).getD ⟨0, 1, 0⟩

/-- The decimal with `count` digits nearest to a positive finite double. -/
def nearest (fields : DoubleFields) (count : Nat) : Digits :=
  let ratio : Ratio := ⟨fields.significand * twoTo fields.shift, twoTo 1074⟩
  let first := leadingExponent ratio
  let scaled := ratio.scale ((count : Int) - 1 - first)
  let down := scaled.floor
  let remainder := scaled.num - down * scaled.den
  let up := 2 * remainder > scaled.den ∨ (2 * remainder = scaled.den ∧ down % 2 = 1)
  let digits := if up then down + 1 else down
  if digits = tenTo count then ⟨tenTo (count - 1), count, first + 1⟩ else ⟨digits, count, first⟩

end DetectorSearch
