import DetectorSearch.Decimal.Style
import DetectorSearch.Failure
import DetectorSearch.Text.Encoding
import DetectorSearch.Value
/-! # Writing JSON

The shortest form of a value: no blanks between its parts. In a text the quote, the backslash and the
controls are escaped, all other characters stand for themselves. JSON has no form for infinities and
NaN and none for bytes, and integers of more than 4300 digits are not written; the first such part of
a value decides. Half of a surrogate pair can be written, but not sent: it has no bytes.
-/

namespace DetectorSearch.Json

/-- A character inside quotes. -/
def writeChar (c : Char) : List Char :=
  match c with
  | '"' => ['\\', '"']
  | '\\' => ['\\', '\\']
  | '\x08' => ['\\', 'b']
  | '\x0c' => ['\\', 'f']
  | '\n' => ['\\', 'n']
  | '\r' => ['\\', 'r']
  | '\t' => ['\\', 't']
  | c => if c.toNat < 0x20 then '\\' :: 'u' :: Text.hex 4 c.toNat else [c]

/-- A text in quotes. -/
def writeText (string : String) : List Char :=
  '"' :: (string.toList.flatMap writeChar ++ ['"'])

/-- The failure of bytes, which have no JSON. -/
def octetsFailure : Failure :=
  .misuse (.notSerializable (Value.octets []).kindName)

/-- An integer in JSON. -/
def writeInteger (number : Int) : Outcome (List Char) :=
  (integerText? number).elim (.error .longInteger) fun text => .ok text.toList

/-- A real in JSON. -/
def writeReal (number : Float) : Outcome (List Char) :=
  if (Place.ofFloat number).isFinite then .ok (plainText number).toList
  else .error (.fault .badValue "Out of range float values are not JSON compliant")

/-- Two parts in a row, with something in front of them. The first part that cannot be written
decides. -/
def row (front : List Char) (first others : Outcome (List Char)) : Outcome (List Char) := do
  let first ← first
  let others ← others
  return front ++ (first ++ others)

mutual

/-- A value in JSON. -/
def write : Value → Outcome (List Char)
  | .null => .ok "null".toList
  | .bool flag => .ok (if flag then "true" else "false").toList
  | .int number => writeInteger number
  | .real number => writeReal number
  | .text string => .ok (writeText string)
  | .octets _ => .error octetsFailure
  | .list [] => .ok "[]".toList
  | .list (item :: rest) => row ['['] (write item) (writeItems rest)
  | .object [] => .ok ['\x7b', '\x7d']
  | .object ((key, value) :: rest) =>
      row ('\x7b' :: (writeText key ++ [':'])) (write value) (writeFields rest)

/-- Further items of a list, and its end. -/
def writeItems : List Value → Outcome (List Char)
  | [] => .ok [']']
  | item :: rest => row [','] (write item) (writeItems rest)

/-- Further fields of an object, and its end. -/
def writeFields : List (String × Value) → Outcome (List Char)
  | [] => .ok ['\x7d']
  | (key, value) :: rest =>
      row (',' :: (writeText key ++ [':'])) (write value) (writeFields rest)

end

/-- The JSON of a value as it is sent. -/
def encode (value : Value) : Outcome (List Char) := do
  let chars ← write value
  match Text.encodeFault? chars with
  | some message => throw (.fault .unwritable message)
  | none => return chars

example : (encode (.list [.bool true, .text "\n"])).toOption =
    some ['[', 't', 'r', 'u', 'e', ',', '"', '\\', 'n', '"', ']'] := by decide +kernel

end DetectorSearch.Json
