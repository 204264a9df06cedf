import DetectorSearch.Decimal.Integer
/-! # The exact value of a double

A finite double is a whole multiple of `2 ^ (-1074)`, the smallest positive double. `Place` records
that multiple, or which of the two ends of the line a double stands at, or that it stands nowhere
(NaN). Numbers of every kind are compared by their places, so a comparison of an integer with a
double never rounds.
-/

namespace DetectorSearch

/-- Where a number stands on the line of numbers; finite ones in units of `2 ^ (-1074)`. -/
inductive Place where
  | nowhere
  | bottom
  | finite (units : Int)
  | top
  deriving DecidableEq, Repr, Inhabited

namespace Place

/-- Strictly before; a number that stands nowhere is before nothing and after nothing. -/
def lt : Place → Place → Bool
  | nowhere, _ => false
  | _, nowhere => false
  | bottom, bottom => false
  | bottom, _ => true
  | finite _, bottom => false
  | finite a, finite b => a < b
  | finite _, top => true
  | top, _ => false

/-- The same number; a number that stands nowhere equals none, itself included. -/
def same (a b : Place) : Bool :=
  a == b && a != nowhere

/-- Before or the same. -/
def le (a b : Place) : Bool :=
  lt a b || same a b

/-- An integer in units of `2 ^ (-1074)`. -/
def ofInt (number : Int) : Place :=
  finite (number * twoTo 1074)

end Place

/-- Sign, exponent field and fraction field of a double. -/
structure DoubleFields where
  negative : Bool
  exponent : Nat
  fraction : Nat
  deriving Repr

namespace DoubleFields

/-- Splits a double into its three fields. -/
def ofFloat (x : Float) : DoubleFields :=
  let bits := x.toBits.toNat
  ⟨bits / twoTo 63 = 1, bits / twoTo 52 % twoTo 11, bits % twoTo 52⟩

/-- The integer `m` of the magnitude `m * 2 ^ (shift - 1074)`. -/
def significand (fields : DoubleFields) : Nat :=
  if fields.exponent = 0 then fields.fraction else fields.fraction + twoTo 52

/-- The `shift` of the magnitude `m * 2 ^ (shift - 1074)`. -/
def shift (fields : DoubleFields) : Nat :=
  fields.exponent - 1

end DoubleFields

/-- The place of a double. -/
def Place.ofFloat (x : Float) : Place :=
  let fields := DoubleFields.ofFloat x
  if fields.exponent = 2047 then
    if fields.fraction ≠ 0 then nowhere
    else if fields.negative then bottom else top
  else
    let units : Int := fields.significand * twoTo fields.shift
    finite (if fields.negative then -units else units)

/-- Whether a double is a number other than the two infinities. -/
def Place.isFinite : Place → Bool
  | finite _ => true
  | _ => false

/-- A whole number as a double, unless it is beyond all of them. -/
def wholeFloat? (count : Int) : Option Float :=
  let real := Float.ofInt count
  if (Place.ofFloat real).isFinite then some real else none

/-- The whole part of a finite double, toward zero; nothing for the others. -/
def Place.truncated? : Place → Option Int
  | finite units => some (units.tdiv (twoTo 1074))
  | _ => none

/-- Whether a double is a whole number. -/
def Place.isWhole : Place → Bool
  | finite units => units % twoTo 1074 = 0
  | _ => false

namespace Place

theorem lt_irrefl (a : Place) : lt a a = false := by
  cases a <;> simp [lt]

theorem lt_trans {a b c : Place} (ab : lt a b = true) (bc : lt b c = true) : lt a c = true := by
  cases a <;> cases b <;> cases c <;> simp_all [lt]
  omega

theorem lt_or_same_or_lt {a b : Place} (left : a ≠ nowhere) (right : b ≠ nowhere) :
    lt a b = true ∨ same a b = true ∨ lt b a = true := by
  cases a <;> cases b <;> simp_all [lt, same]
  omega

theorem finite_le {a b : Int} : (finite a).le (finite b) = true ↔ a ≤ b := by
  simp only [le, lt, same, Bool.or_eq_true, decide_eq_true_eq, Bool.and_eq_true, beq_iff_eq,
    finite.injEq, bne_iff_ne]
  simp
  omega

theorem not_lt_of_le {a b : Place} (h : a.le b = true) : b.lt a = false := by
  cases a <;> cases b <;> simp_all [le, lt, same]
  omega

end Place

end DetectorSearch
