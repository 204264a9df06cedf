import DetectorSearch.Decimal.Real
import DetectorSearch.Json.Fault
import DetectorSearch.Text.Character
import DetectorSearch.Value
/-! # Reading JSON

`read` turns a text into a value. Besides the standard grammar it takes the words `NaN`, `Infinity`
and `-Infinity`. A number with a point or an exponent is a real, any other an integer. Of two fields
with one key the later value counts.

The reader works on the characters that are left, so a place in the text is the count of characters
left there. At most two steps are made before a character is taken, one into a list or an object and
one to its first part, so twice the length of the text bounds the steps.
-/

namespace DetectorSearch.Json

/-- What stops the reader: an issue with the characters left at its place, a long integer, or a list or
an object too deep inside others. -/
inductive Stop where
  | issue (what : Issue) (left : List Char)
  | longInteger (digits : Nat)
  | tooDeep (isObject : Bool)

/-- What a step of the reader gives: a result with the characters left, or a stop. -/
abbrev Step (α : Type) := Except Stop (α × List Char)

/-- The white space of JSON. -/
def isSpace (c : Char) : Bool :=
  c == ' ' || c == '\t' || c == '\n' || c == '\r'

/-- The characters left after white space. -/
def skipSpace (s : List Char) : List Char :=
  s.dropWhile isSpace

/-- The character of an escape of one letter. -/
def escaped? : Char → Option Char
  | '"' => some '"'
  | '\\' => some '\\'
  | '/' => some '/'
  | 'b' => some '\x08'
  | 'f' => some '\x0c'
  | 'n' => some '\n'
  | 'r' => some '\r'
  | 't' => some '\t'
  | _ => none

/-- The second half of a surrogate pair, when one follows and another character follows it. -/
def lowSurrogate? : List Char → Option (Nat × List Char)
  | '\\' :: 'u' :: a :: b :: c :: d :: next :: rest =>
      match Text.hexNumber? [a, b, c, d] with
      | some code =>
          if 0xDC00 ≤ code ∧ code ≤ 0xDFFF then some (code, next :: rest) else none
      | none => none
  | _ => none

/-- Whether a second escape follows that is no four hexadecimal digits. -/
def brokenSecondEscape (s : List Char) : Bool :=
  match s with
  | '\\' :: 'u' :: a :: b :: c :: d :: _ :: _ => (Text.hexNumber? [a, b, c, d]).isNone
  | _ => false

/-- The rest of a string after its opening quote. `start` is what was left at that quote, `done`
the characters so far, the last one first. -/
def readString (start : List Char) : Nat → List Char → List Char → Step (List Char)
  | 0, _, _ => .error (.issue .unterminated start)
  | _ + 1, _, [] => .error (.issue .unterminated start)
  | fuel + 1, done, c :: rest =>
      if c == '"' then .ok (done.reverse, rest)
      else if c == '\\' then
        match rest with
        | [] => .error (.issue .unterminated start)
        | 'u' :: a :: b :: d :: e :: next :: after =>
            match Text.hexNumber? [a, b, d, e] with
            | none => .error (.issue .unicodeEscape rest)
            | some code =>
                if 0xD800 ≤ code ∧ code ≤ 0xDBFF then
                  if brokenSecondEscape (next :: after) then
                    .error (.issue .unicodeEscape after)
                  else
                    match lowSurrogate? (next :: after) with
                    | some (low, after') =>
                        let joined := 0x10000 + (code - 0xD800) * 0x400 + (low - 0xDC00)
                        readString start fuel (Char.ofNat joined :: done) after'
                    | none => readString start fuel (Text.charOfCode code :: done) (next :: after)
                else readString start fuel (Text.charOfCode code :: done) (next :: after)
        | 'u' :: _ => .error (.issue .unicodeEscape rest)
        | letter :: after =>
            match escaped? letter with
            | some plain => readString start fuel (plain :: done) after
            | none => .error (.issue .escape (c :: rest))
      else if c.toNat < 0x20 then .error (.issue .controlCharacter (c :: rest))
      else readString start fuel (c :: done) rest

/-- The exponent of a number and what follows it; no digits, no exponent. -/
def splitExponent (s : List Char) : Option Int × List Char :=
  match s with
  | c :: rest =>
      if c == 'e' || c == 'E' then
        let body := splitSign rest
        let digits := body.2.takeWhile isAsciiDigit
        if digits.isEmpty then (none, s)
        else (some (signed body.1 (asciiNumber digits)), body.2.dropWhile isAsciiDigit)
      else (none, s)
  | [] => (none, s)

/-- The digits behind a point and what follows them; no digits, no point. -/
def splitFraction (s : List Char) : Option (List Char) × List Char :=
  match s with
  | '.' :: rest =>
      let digits := rest.takeWhile isAsciiDigit
      if digits.isEmpty then (none, s) else (some digits, rest.dropWhile isAsciiDigit)
  | _ => (none, s)

/-- The whole digits of a number: a zero stands alone. -/
def splitWhole : List Char → List Char × List Char
  | '0' :: rest => (['0'], rest)
  | s => (s.takeWhile isAsciiDigit, s.dropWhile isAsciiDigit)

/-- Reads a number that begins at `start`. -/
def readNumber (start : List Char) : Step Value :=
  let negative := start.head? == some '-'
  let (whole, rest) := splitWhole (if negative then start.drop 1 else start)
  if whole.isEmpty then .error (.issue .value start)
  else
    let (fraction, rest) := splitFraction rest
    let (exponent, rest) := splitExponent rest
    if fraction.isNone && exponent.isNone then
      if whole.length > digitLimit then .error (.longInteger whole.length)
      else .ok (.int (signed negative (asciiNumber whole)), rest)
    else
      let magnitude := decimalParts whole (fraction.getD []) (exponent.getD 0)
      .ok (.real (signedFloat negative magnitude), rest)

/-- The words that stand for values. -/
def keywords : List (List Char × Value) :=
  [("null".toList, .null), ("true".toList, .bool true), ("false".toList, .bool false),
   ("NaN".toList, .real (0.0 / 0.0)), ("Infinity".toList, .real (1.0 / 0.0)),
   ("-Infinity".toList, .real (-1.0 / 0.0))]

/-- The value of a word in front of the text, and what follows it. -/
def keyword? (s : List Char) : Option (Value × List Char) :=
  keywords.findSome? fun (word, value) =>
    if word.isPrefixOf s then some (value, s.drop word.length) else none

/-- How deep lists and objects may stand inside each other. -/
def depthLimit : Nat := 970

mutual

/-- Reads one value. `depth` is how deep it may be. -/
def readValue : Nat → Nat → List Char → Step Value
  | 0, _, s => .error (.issue .value s)
  | fuel + 1, depth, s =>
      match s with
      | '"' :: rest =>
          match readString s (fuel + 1) [] rest with
          | .ok (string, rest) => .ok (.text (String.ofList string), rest)
          | .error stop => .error stop
      | '[' :: rest =>
          match depth, skipSpace rest with
          | 0, _ => .error (.tooDeep false)
          | _, ']' :: rest => .ok (.list [], rest)
          | depth + 1, rest => readItems fuel depth [] rest
      | '\x7b' :: rest =>
          match depth, skipSpace rest with
          | 0, _ => .error (.tooDeep true)
          | _, '\x7d' :: rest => .ok (.object [], rest)
          | depth + 1, rest => readFields fuel depth [] rest
      | s =>
          match keyword? s with
          | some found => .ok found
          | none => readNumber s

/-- Reads the items of a list up to its bracket; `done` holds those before, the last one first. -/
def readItems : Nat → Nat → List Value → List Char → Step Value
  | 0, _, _, s => .error (.issue .value s)
  | fuel + 1, depth, done, s =>
      match readValue fuel depth s with
      | .error stop => .error stop
      | .ok (item, rest) =>
          match skipSpace rest with
          | ']' :: rest => .ok (.list (item :: done).reverse, rest)
          | ',' :: rest => readItems fuel depth (item :: done) (skipSpace rest)
          | rest => .error (.issue .comma rest)

/-- Reads the fields of an object up to its brace; `done` holds those before, the last one
first. -/
def readFields : Nat → Nat → List (String × Value) → List Char → Step Value
  | 0, _, _, s => .error (.issue .value s)
  | fuel + 1, depth, done, s =>
      match s with
      | '"' :: rest =>
          match readString s (fuel + 1) [] rest with
          | .error stop => .error stop
          | .ok (key, rest) =>
              match skipSpace rest with
              | ':' :: rest =>
                  match readValue fuel depth (skipSpace rest) with
                  | .error stop => .error stop
                  | .ok (value, rest) =>
                      let done := (String.ofList key, value) :: done
                      match skipSpace rest with
                      | '\x7d' :: rest => .ok (.object (Keyed.ofPairs done.reverse), rest)
                      | ',' :: rest => readFields fuel depth done (skipSpace rest)
                      | rest => .error (.issue .comma rest)
              | rest => .error (.issue .colon rest)
      | s => .error (.issue .propertyName s)

end

/-- A stop as a fault of the whole text. -/
def Stop.fault (whole : List Char) : Stop → Fault
  | .issue what left => Fault.at what whole left.length
  | .longInteger digits => .longInteger digits
  | .tooDeep isObject => .tooDeep isObject

/-- Reads a text that holds one value and white space. -/
def read (s : List Char) : Except Fault Value :=
  match readValue (2 * s.length + 1) depthLimit (skipSpace s) with
  | .error stop => .error (stop.fault s)
  | .ok (value, rest) =>
      let rest := skipSpace rest
      if rest.isEmpty then .ok value else .error (Fault.at .extra s rest.length)

example : read ['[', '1', ']'] = .ok (.list [.int 1]) := by rfl

example : read ['[', '[', '['] = .error (.malformed .value 1 4 3) := by rfl

example : read ['[', '1', ',', ']'] = .error (.malformed .value 1 4 3) := by rfl

end DetectorSearch.Json
