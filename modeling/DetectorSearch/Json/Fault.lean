import DetectorSearch.Decimal.Integer
/-! # Why a text is no JSON

A fault names what was expected and where. Its message gives the place as line, column and count of
characters in front of it.
-/

namespace DetectorSearch.Json

/-- What is wrong with a text that is no JSON. -/
inductive Issue where
  | value
  | propertyName
  | colon
  | comma
  | unterminated
  | controlCharacter
  | escape
  | unicodeEscape
  | extra
  deriving DecidableEq, Repr

/-- The issue in words. -/
def Issue.words : Issue → String
  | value => "Expecting value"
  | propertyName => "Expecting property name enclosed in double quotes"
  | colon => "Expecting ':' delimiter"
  | comma => "Expecting ',' delimiter"
  | unterminated => "Unterminated string starting at"
  | controlCharacter => "Invalid control character at"
  | escape => "Invalid \\escape"
  | unicodeEscape => "Invalid \\uXXXX escape"
  | extra => "Extra data"

/-- Why a text cannot be read. -/
inductive Fault where
  /-- The text breaks the grammar at a place. -/
  | malformed (issue : Issue) (line column position : Nat)
  /-- The text holds an integer with too many digits. -/
  | longInteger (digits : Nat)
  /-- A list, or an object, stands too deep inside others. -/
  | tooDeep (isObject : Bool)
  deriving DecidableEq, Repr

/-- The message of a fault. -/
def Fault.message : Fault → String
  | malformed issue line column position =>
      issue.words ++ ": line " ++ toString line ++ " column " ++ toString column ++
        " (char " ++ toString position ++ ")"
  | longInteger digits => longNumeralWords digits
  | tooDeep isObject =>
      "maximum recursion depth exceeded while decoding a JSON " ++
        (if isObject then "object" else "array") ++ " from a unicode string"

/-- A fault at the place in `whole` where `left` characters remain. -/
def Fault.at (issue : Issue) (whole : List Char) (left : Nat) : Fault :=
  let position := whole.length - left
  let before := whole.take position
  let line := before.count '\n' + 1
  let column := (before.reverse.takeWhile (· != '\n')).length + 1
  malformed issue line column position

end DetectorSearch.Json
