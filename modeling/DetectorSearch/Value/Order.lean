import DetectorSearch.Decimal.Exact
import DetectorSearch.Text.Character
import DetectorSearch.Value
/-! # Equality and order of values

Numbers, flags included, are equal or ordered as exact numbers: `1`, `1.0` and `true` are equal.
Texts are ordered by code point, lists by their first unequal items. Objects are equal when they
hold equal values under the same keys, in whatever order. Other values have no order: `relate?`
answers `none` for them.
-/

namespace DetectorSearch

namespace Value

/-- The place of a number or flag on the line of numbers. -/
def place? : Value → Option Place
  | bool flag => some (.ofInt (if flag then 1 else 0))
  | int number => some (.ofInt number)
  | real number => some (.ofFloat number)
  | _ => none

/-- Equality of values that are no containers. -/
def equalLeaf : Value → Value → Bool
  | null, null => true
  | text a, text b => a == b
  | octets a, octets b => a == b
  | a, b =>
      match a.place?, b.place? with
      | some x, some y => x.same y
      | _, _ => false

mutual

/-- Equality of values. -/
def equal : Value → Value → Bool
  | list xs, list ys => equalItems xs ys
  | object xs, object ys => xs.length == ys.length && equalFields xs ys
  | a, b => equalLeaf a b

/-- Equality of lists, item by item. -/
def equalItems : List Value → List Value → Bool
  | [], [] => true
  | x :: xs, y :: ys => equal x y && equalItems xs ys
  | _, _ => false

/-- Every field of the first object is an equal field of the second. -/
def equalFields : List (String × Value) → List (String × Value) → Bool
  | [], _ => true
  | (key, x) :: xs, ys =>
      (match Keyed.find? key ys with
      | some y => equal x y
      | none => false) && equalFields xs ys

end

end Value

/-- The four ways of asking for the order of two values. -/
inductive Relation where
  | less
  | lessOrEqual
  | greater
  | greaterOrEqual
  deriving DecidableEq, Repr

namespace Relation

/-- Whether two places stand in the relation. -/
def ofPlaces : Relation → Place → Place → Bool
  | less, a, b => a.lt b
  | lessOrEqual, a, b => a.le b
  | greater, a, b => b.lt a
  | greaterOrEqual, a, b => b.le a

/-- Whether two members of a type with a decidable order stand in the relation. -/
def ofOrder {α : Type} [LT α] [DecidableLT α] : Relation → α → α → Bool
  | less, a, b => decide (a < b)
  | lessOrEqual, a, b => !decide (b < a)
  | greater, a, b => decide (b < a)
  | greaterOrEqual, a, b => !decide (a < b)

end Relation

namespace Value

/-- Order of values that are no lists; `none` when they have none. -/
def relateLeaf? (relation : Relation) : Value → Value → Option Bool
  | text a, text b => some (relation.ofOrder (Text.codes a) (Text.codes b))
  | a, b =>
      match a.place?, b.place? with
      | some x, some y => some (relation.ofPlaces x y)
      | _, _ => none

mutual

/-- Whether two values stand in a relation of order; `none` when they have no order. -/
def relate? (relation : Relation) : Value → Value → Option Bool
  | list xs, list ys => relateItems? relation xs ys
  | a, b => relateLeaf? relation a b

/-- The order of the first unequal items decides, else the lengths do. -/
def relateItems? (relation : Relation) : List Value → List Value → Option Bool
  | x :: xs, y :: ys => if equal x y then relateItems? relation xs ys else relate? relation x y
  | xs, ys => some (relation.ofOrder xs.length ys.length)

end

end Value

end DetectorSearch
