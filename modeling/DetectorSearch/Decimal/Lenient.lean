import DetectorSearch.Decimal.Real
/-! # Numbers in lenient text

How the field of a record takes a number that is given as a text, as pydantic documents it for
models that are not strict. An integer may have zeros and underscores in front, which are cut off
before anything else is looked at, and places that are all zero. A real may have underscores almost
anywhere, but then no white space around it.
-/

namespace DetectorSearch.Lenient

/-- Why a text is no integer. -/
inductive IntegerFault where
  | unreadable
  | tooLong
  deriving DecidableEq, Repr

/-- What is left behind a zero when further zeros and underscores are cut off. A point keeps the
character in front of it, and so does the end. -/
def cutMoreZeros (last : Char) : List Char → Option (List Char)
  | [] => some [last]
  | c :: rest =>
      if c == '0' || c == '_' then cutMoreZeros c rest
      else if isAsciiDigit c || c == '-' then some (c :: rest)
      else if c == '.' then some (last :: c :: rest)
      else none

/-- What is left of a number when the zeros in front of it are cut off. It has to begin with a digit
or with a minus. -/
def cutZeros : List Char → Option (List Char)
  | [] => none
  | c :: rest =>
      if c == '0' then cutMoreZeros c rest
      else if isAsciiDigit c || c == '-' then some (c :: rest)
      else none

/-- Cuts off a point with nothing but zeros behind it, and at least one of them. -/
def cutZeroPlaces (s : List Char) : List Char :=
  match s.dropWhile (· != '.') with
  | '.' :: '0' :: places => if places.all (· == '0') then s.takeWhile (· != '.') else s
  | _ => s

/-- Whether two underscores stand side by side. -/
def hasDoubleUnderscore : List Char → Bool
  | '_' :: '_' :: _ => true
  | _ :: rest => hasDoubleUnderscore rest
  | [] => false

/-- The text without its underscores, if each of them stands between two other characters. -/
def joined? (s : List Char) : Option (List Char) :=
  if s.head? == some '_' || s.getLast? == some '_' || hasDoubleUnderscore s then none
  else some (s.filter (· != '_'))

/-- Reads an integer without zeros in front; a minus counts as one of its digits. -/
def plainInteger (s : List Char) : Except IntegerFault Int :=
  let negative := s.head? == some '-'
  let body := if negative then s.drop 1 else s
  let digits := body.takeWhile isAsciiDigit
  if digits.head? == some '0' && digits.length ≠ 1 then .error .unreadable
  else if digitLimit < digits.length + (if negative then 1 else 0) then .error .tooLong
  else if digits.isEmpty || digits.length ≠ body.length then .error .unreadable
  else .ok (signed negative (asciiNumber digits))

/-- Reads an integer without a plus in front of it. -/
def unsignedInteger (s : List Char) : Except IntegerFault Int :=
  let negative := s.head? == some '-'
  match cutZeros (if negative then s.drop 1 else s) with
  | none => .error .unreadable
  | some number =>
      let number := cutZeroPlaces number
      let digits := (joined? number).getD number
      plainInteger (if negative then '-' :: digits else digits)

/-- Reads an integer. -/
def integer (s : List Char) : Except IntegerFault Int :=
  match Text.trim Text.isWhite s with
  | '+' :: '-' :: _ => .error .unreadable
  | '+' :: rest => unsignedInteger rest
  | body => unsignedInteger body

/-- Reads a real: white space around a bare one, or underscores in it. -/
def real? (s : List Char) : Option Float :=
  (readBareReal? (Text.trim Text.isWhite s)).or ((joined? s).bind readBareReal?)

example : integer ['+', '0', '-', '1'] = .ok (-1) := by rfl

example : integer ['-', '0', '0', '_', '_', '1', '0', '.', '0'] = .ok (-10) := by rfl

example : integer ['-', '0', '-', '1'] = .error .unreadable := by rfl

example : integer ['3', '.'] = .error .unreadable := by rfl

end DetectorSearch.Lenient
