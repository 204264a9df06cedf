import DetectorSearch.Decimal.Exact
import DetectorSearch.Decimal.Integer
import DetectorSearch.Decimal.Style
import DetectorSearch.Failure
import DetectorSearch.Text.Quoted
import DetectorSearch.Value
/-! # Integers and texts that values stand for

Flags count as the integers zero and one, reals lose their places, texts are read by the general rule
for integers. So are bytes, which have no digits and no white space beyond ASCII.

`literal?` is the exact form of a value: texts in quotes, lists in brackets, objects in braces.
`display?` is the same except that a text stands for itself. Neither exists for a value with an
integer of more than 4300 digits.
-/

namespace DetectorSearch

/-- Why a value stands for no integer. -/
inductive IntegerFault where
  /-- The value is no number and no text. -/
  | wrongKind (kind : String)
  /-- The text spells no integer. -/
  | unreadable (shown : String)
  /-- The text spells an integer of too many digits. -/
  | tooLong (digits : Nat)
  /-- The real is no number. -/
  | undefined
  /-- The real is infinite. -/
  | infinite
  deriving DecidableEq, Repr

/-- The fault as a failure. A text that spells no integer is shown by its first 200 characters. -/
def IntegerFault.failure : IntegerFault → Failure
  | wrongKind kind => .misuse (.notNumber kind)
  | unreadable shown =>
      .fault .badValue ("invalid literal for int() with base 10: " ++
        String.ofList (shown.toList.take 200))
  | tooLong digits => .longNumeral digits
  | undefined => .fault .badValue "cannot convert float NaN to integer"
  | infinite => .endlessInteger

/-- The integer that a text spells. `shown` is the text in its literal form. -/
def spelledInteger (shown : String) (s : List Char) : Except IntegerFault Int :=
  match readInteger? s with
  | some number => .ok number
  | none =>
      match decimalDigits? s with
      | some digits => .error (.tooLong digits.length)
      | none => .error (.unreadable shown)

/-- Whether a byte is a character of ASCII, and not one of the four separators, which count as white
space in texts only. -/
def isNumeralByte (byte : Nat) : Bool :=
  byte < 0x80 && !(0x1C ≤ byte && byte ≤ 0x1F)

namespace Value

/-- The integer that a value stands for. -/
def toInteger : Value → Except IntegerFault Int
  | int number => .ok number
  | bool flag => .ok (if flag then 1 else 0)
  | real number =>
      match Place.ofFloat number with
      | .nowhere => .error .undefined
      | place =>
          match place.truncated? with
          | some whole => .ok whole
          | none => .error .infinite
  | text string => spelledInteger (Text.quoted string) string.toList
  | octets bytes =>
      let shown := Text.quotedOctets bytes
      if bytes.all isNumeralByte then spelledInteger shown (bytes.map Char.ofNat)
      else .error (.unreadable shown)
  | value => .error (.wrongKind value.kindName)

/-- Parts with a comma and a blank between them. -/
def commaSeparated (parts : List String) : String :=
  String.intercalate ", " parts

mutual

/-- The exact form of a value. -/
def literal? : Value → Option String
  | null => some "None"
  | bool flag => some (if flag then "True" else "False")
  | int number => integerText? number
  | real number => some (plainText number)
  | text string => some (Text.quoted string)
  | octets bytes => some (Text.quotedOctets bytes)
  | list items => (literalItems? items).map fun parts => "[" ++ commaSeparated parts ++ "]"
  | object fields =>
      (literalFields? fields).map fun parts => "\x7b" ++ commaSeparated parts ++ "\x7d"

/-- The exact forms of items. -/
def literalItems? : List Value → Option (List String)
  | [] => some []
  | item :: rest =>
      match literal? item, literalItems? rest with
      | some part, some parts => some (part :: parts)
      | _, _ => none

/-- The exact forms of fields. -/
def literalFields? : List (String × Value) → Option (List String)
  | [] => some []
  | (key, value) :: rest =>
      match literal? value, literalFields? rest with
      | some part, some parts => some ((Text.quoted key ++ ": " ++ part) :: parts)
      | _, _ => none

end

/-- The form of a value in a sentence. -/
def display? : Value → Option String
  | text string => some string
  | value => literal? value

end Value

end DetectorSearch
