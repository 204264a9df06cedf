import DetectorSearch.Decimal.Integer
import DetectorSearch.Decimal.Style
/-! # Spans and instants of time

A span is a number of seconds, whole or real, as it was given. Instants are doubles: the instant
after a span is the rounded sum. Instants are compared by their exact places.
-/

namespace DetectorSearch

/-- A span of time in seconds. -/
inductive Seconds where
  | whole (count : Int)
  | real (count : Float)
  deriving Inhabited

namespace Seconds

/-- The span as a double. -/
def toFloat : Seconds → Float
  | whole count => Float.ofInt count
  | real count => count

/-- The span as a double, unless it is a whole number beyond all of them. -/
def toFloat? : Seconds → Option Float
  | whole count => wholeFloat? count
  | real count => some count

/-- The span with at most six significant digits. -/
def text (span : Seconds) : String :=
  generalText span.toFloat

end Seconds

/-- An instant of time, in seconds since the clock started. -/
abbrev Instant := Float

namespace Instant

/-- The place of an instant on the line of numbers. -/
def place (instant : Instant) : Place :=
  Place.ofFloat instant

/-- Strictly earlier. -/
def before (a b : Instant) : Bool :=
  a.place.lt b.place

/-- The same instant. -/
def same (a b : Instant) : Bool :=
  a.place.same b.place

/-- The instant after a span. -/
def after (start : Instant) (span : Seconds) : Instant :=
  Float.add start span.toFloat

end Instant

/-- Whether a span is longer than nothing. -/
def Seconds.isPositive (span : Seconds) : Bool :=
  (Place.ofInt 0).lt (Place.ofFloat span.toFloat)

/-- Whether a span is nothing or less. One that is no number is neither that nor longer. -/
def Seconds.isNothing (span : Seconds) : Bool :=
  (Place.ofFloat span.toFloat).le (Place.ofInt 0)

end DetectorSearch
