import DetectorSearch.Decimal.Exact
import DetectorSearch.Decimal.Lenient
import DetectorSearch.Failure
import DetectorSearch.Schema.Complaint
import DetectorSearch.Text.Encoding
import DetectorSearch.Value
/-! # Reading records from data

A record is read field by field from an object. Fields that the record does not know are ignored,
and every wrong field is reported, in the order in which the record declares its fields. The readers
of single values follow what pydantic documents for models that are not strict: a flag may be spelled
as a word or a number, a number as a text. Complaints about a record end an operation as one failure.
-/

namespace DetectorSearch

/-- The result of reading data, or all complaints about it. -/
def Reading (α : Type) := Except Complaints α

namespace Reading

/-- Reading that finds nothing wrong. -/
def pure {α : Type} (value : α) : Reading α := .ok value

/-- The result with a function applied. -/
def map {α β : Type} (f : α → β) : Reading α → Reading β
  | .ok value => .ok (f value)
  | .error complaints => .error complaints

/-- Both results, or the complaints of both. -/
def seq {α β : Type} : Reading (α → β) → (Unit → Reading α) → Reading β
  | .ok f, second => map f (second ())
  | .error complaints, second =>
      match second () with
      | .ok _ => .error complaints
      | .error more => .error (complaints ++ more)

instance : Applicative Reading where
  pure := pure
  map := map
  seq := seq

end Reading

/-- A reader of single values. -/
abbrev Reader (α : Type) := Value → Reading α

/-- A complaint about the value itself. -/
def complain {α : Type} (complaint : Complaint) : Reading α :=
  .error [([], complaint)]

namespace Reader

/-- A text, or bytes that are one. -/
def text : Reader String
  | .text string => .ok string
  | .octets bytes =>
      match Text.Utf8.text? bytes with
      | some string => .ok string
      | none => complain .notUnicode
  | _ => complain .notText

/-- What a text or bytes stand for, if anything. A text has to be without halves of surrogate pairs;
bytes that are no text stand for nothing. -/
def spelled {α : Type} (read : String → Reading α) (unreadable other : Complaint) : Reader α
  | .text string => if Text.hasHalf string then complain .notUnicode else read string
  | .octets bytes =>
      match Text.Utf8.text? bytes with
      | some string => read string
      | none => complain unreadable
  | _ => complain other

/-- Words for a true flag. -/
def trueWords : List String := ["true", "t", "yes", "y", "on", "1"]

/-- Words for a false flag. -/
def falseWords : List String := ["false", "f", "no", "n", "off", "0"]

/-- A text in which the letters of ASCII are small. -/
def asciiLowered (string : String) : String :=
  String.ofList (string.toList.map Char.toLower)

/-- Whether an integer fits into 64 bits. -/
def fits64 (number : Int) : Bool :=
  -(twoTo 63 : Int) ≤ number ∧ number < twoTo 63

/-- The whole number that a real is, if it lies strictly between the ends of 64 bits. -/
def wholeReal? (number : Float) : Option Int :=
  let place := Place.ofFloat number
  if place.isWhole then
    place.truncated?.filter fun whole => fits64 whole && whole ≠ -(twoTo 63 : Int)
  else none

/-- Zero and one are flags. -/
def flagNumber (number : Int) : Reading Bool :=
  if number = 0 then .ok false
  else if number = 1 then .ok true
  else complain .unreadableFlag

/-- A word for a flag. -/
def flagText (string : String) : Reading Bool :=
  let word := asciiLowered string
  if trueWords.contains word then .ok true
  else if falseWords.contains word then .ok false
  else complain .unreadableFlag

/-- A flag, or a word or number for one. -/
def flag : Reader Bool
  | .bool flag => .ok flag
  | .int number =>
      if fits64 number then flagNumber number else complain .notFlag
  | .real number =>
      match wholeReal? number with
      | some whole => flagNumber whole
      | none => complain .notFlag
  | value => spelled flagText .unreadableFlag .notFlag value

/-- An integer in text. -/
def integerText (string : String) : Reading Int :=
  match Lenient.integer string.toList with
  | .ok number => .ok number
  | .error .unreadable => complain .unreadableInteger
  | .error .tooLong => complain .integerTooLong

/-- An integer, or a flag, a whole real or a text for one. -/
def integer : Reader Int
  | .int number => .ok number
  | .bool flag => .ok (if flag then 1 else 0)
  | .real number =>
      let place := Place.ofFloat number
      if !place.isFinite then complain .notFinite
      else if !place.isWhole then complain .fractionInInteger
      else
        match wholeReal? number with
        | some whole => .ok whole
        | none => complain .integerTooLong
  | value => spelled integerText .unreadableInteger .notInteger value

/-- A real in text. -/
def realText (string : String) : Reading Float :=
  match Lenient.real? string.toList with
  | some number => .ok number
  | none => complain .unreadableReal

/-- A real, or an integer in the range of reals, a flag or a text for one. -/
def real : Reader Float
  | .real number => .ok number
  | .int number =>
      let real := Float.ofInt number
      if (Place.ofFloat real).isFinite then .ok real else complain .notReal
  | .bool flag => .ok (if flag then 1.0 else 0.0)
  | value => spelled realText .unreadableReal .notReal value

/-- One of some words, in exactly this spelling. -/
def word (words : List String) : Reader String
  | .text string =>
      if Text.hasHalf string then complain .notUnicode
      else if words.contains string then .ok string
      else complain .notAmongWords
  | _ => complain .notAmongWords

/-- An object of any fields. -/
def object : Reader Fields
  | .object fields => .ok fields
  | _ => complain .notObject

/-- A record, read from an object. -/
def record {α : Type} (read : Fields → Reading α) : Reader α
  | .object fields => read fields
  | _ => complain .notRecord

/-- Null, or a value that the reader takes. -/
def optional {α : Type} (read : Reader α) : Reader (Option α)
  | .null => .ok none
  | value => (read value).map some

end Reader

namespace Fields

/-- The result of reading a field, its complaints under its key. -/
def under {α : Type} (key : String) : Reading α → Reading α
  | .ok value => .ok value
  | .error complaints => .error (complaints.map fun (path, complaint) => (key :: path, complaint))

/-- Reads a field that has to be there. -/
def required {α : Type} (key : String) (read : Reader α) (fields : Fields) : Reading α :=
  under key <|
    match fields.find? key with
    | some value => read value
    | none => complain .missing

/-- Reads a field that has a default. -/
def withDefault {α : Type} (key : String) (read : Reader α) (default : α) (fields : Fields) :
    Reading α :=
  under key <|
    match fields.find? key with
    | some value => read value
    | none => .ok default

/-- Reads a field that may be null or left out. -/
def optional {α : Type} (key : String) (read : Reader α) (fields : Fields) : Reading (Option α) :=
  withDefault key (Reader.optional read) none fields

end Fields

/-- The outcome of reading a record. -/
def Reading.outcome {α : Type} : Reading α → Outcome α
  | .ok value => .ok value
  | .error complaints => .error (.invalid complaints)

end DetectorSearch
