import DetectorSearch.Decimal.Real
import DetectorSearch.Yaml.Character
import DetectorSearch.Yaml.Fault
/-! # Dates of YAML

A date is one of the timestamps of YAML 1.1: a year, a month and a day; a time of the day with an
offset from universal time may follow. A date without a time is recognised in a plain scalar only
when month and day have two digits, which is how PyYAML has it. A date counts as the list of its
numbers.
-/

namespace DetectorSearch.Yaml

/-- A number of one digit up to the given count of digits, and what follows it. -/
def shortNumber? (least most : Nat) (s : List Char) : Option (Nat × List Char) :=
  let digits := (s.take most).takeWhile isAsciiDigit
  if digits.length < least then none else some (asciiNumber digits, s.drop digits.length)

/-- What follows a character. -/
def after? (c : Char) : List Char → Option (List Char)
  | first :: rest => if first == c then some rest else none
  | [] => none

/-- A date with its time, and the offset of that time in minutes. -/
structure Date where
  year : Nat
  month : Nat
  day : Nat
  time : Option (Nat × Nat × Nat)
  offset : Option Int
  deriving Repr

/-- The offset at the end of a time. -/
def readOffset? (s : List Char) : Option (Option Int) :=
  match s.dropWhile isSpace with
  | [] => if s.isEmpty then some none else none
  | ['Z'] => some (some 0)
  | sign :: rest =>
      if sign != '+' && sign != '-' then none
      else do
        let (hours, rest) ← shortNumber? 1 2 rest
        let minutes ←
          match rest with
          | [] => some 0
          | ':' :: rest => do
              let (minutes, rest) ← shortNumber? 2 2 rest
              if rest.isEmpty then some minutes else none
          | _ => none
        let total := (hours * 60 + minutes : Nat)
        return some (if sign == '-' then -(total : Int) else total)

/-- The time of the day behind a date, and its offset. -/
def readTime? (s : List Char) : Option ((Nat × Nat × Nat) × Option Int) := do
  let body := s.dropWhile isSpace
  let body := if body.length < s.length then body else
    match s with
    | 'T' :: rest | 't' :: rest => rest
    | _ => []
  let (hour, rest) ← shortNumber? 1 2 body
  let (minute, rest) ← shortNumber? 2 2 (← after? ':' rest)
  let (second, rest) ← shortNumber? 2 2 (← after? ':' rest)
  let rest := match rest with
    | '.' :: more => more.dropWhile isAsciiDigit
    | _ => rest
  return ((hour, minute, second), ← readOffset? rest)

/-- Reads a date in which month and day have at least so many digits. -/
def readDateWith? (least : Nat) (s : List Char) : Option Date := do
  let (year, rest) ← shortNumber? 4 4 s
  let (month, rest) ← shortNumber? least 2 (← after? '-' rest)
  let (day, rest) ← shortNumber? least 2 (← after? '-' rest)
  if rest.isEmpty then return ⟨year, month, day, none, none⟩
  else
    let (time, offset) ← readTime? rest
    return ⟨year, month, day, some time, offset⟩

/-- The date in a text. -/
def readDate? (s : List Char) : Option Date := readDateWith? 1 s

/-- Whether a plain scalar is a date. -/
def isDate (s : List Char) : Bool :=
  match readDate? s with
  | some date => date.time.isSome || (readDateWith? 2 s).isSome
  | none => false

namespace Date

/-- Whether a year has a 29th of February. -/
def isLeap (year : Nat) : Bool :=
  year % 4 == 0 && (year % 100 != 0 || year % 400 == 0)

/-- The days of a month. -/
def daysIn (year month : Nat) : Nat :=
  if month == 2 then (if isLeap year then 29 else 28)
  else if [4, 6, 9, 11].contains month then 30
  else 31

/-- Whether the calendar and the clock have the date. -/
def exists? (date : Date) : Bool :=
  1 ≤ date.year && 1 ≤ date.month && date.month ≤ 12 && 1 ≤ date.day &&
  date.day ≤ daysIn date.year date.month &&
  (match date.time with
    | some (hour, minute, second) => hour < 24 && minute < 60 && second < 60
    | none => true) &&
  (match date.offset with
    | some minutes => minutes.natAbs < 24 * 60
    | none => true)

/-- The numbers of a date. -/
def numbers (date : Date) : List Int :=
  let time :=
    match date.time with
    | some (hour, minute, second) => [(hour : Int), minute, second]
    | none => []
  [(date.year : Int), date.month, date.day] ++ time ++ date.offset.toList

end Date

/-- The date that a scalar tagged as one stands for. The end of a line may follow it. -/
def readDate (s : List Char) : Except Fault Date :=
  match readDate? (withoutLineEnd s) with
  | some date => if date.exists? then .ok date else .error .impossibleDate
  | none => .error .noDate

end DetectorSearch.Yaml
