import DetectorSearch.Decimal.Exact
import DetectorSearch.Decimal.Real
import DetectorSearch.Text.Letter
import DetectorSearch.Yaml.Fault
/-! # Numbers of YAML

The integers and reals of YAML 1.1. An integer is written in base two, eight, ten or sixteen, or in
base sixty with colons between its digits; underscores may stand between digits anywhere. A zero in
front means base eight. A real has a point, or is one of the words for infinity and NaN; its
exponent has a sign, which PyYAML demands.

`isInteger` and `isReal` tell which plain scalars are numbers, `readInteger` and `readReal` read
the number of a scalar that is tagged as one.
-/

namespace DetectorSearch.Yaml

/-- Whether a text holds only characters of a class, and at least one. -/
def isRun (p : Char → Bool) (s : List Char) : Bool :=
  !s.isEmpty && s.all p

/-- Whether a character is a digit of ASCII or an underscore. -/
def isDigitPart (c : Char) : Bool :=
  isAsciiDigit c || c == '_'

/-- Whether a text is a colon and a digit below sixty, once or more often. -/
def isSixtieths : Nat → List Char → Bool
  | 0, _ => false
  | fuel + 1, ':' :: rest =>
      let digits := rest.takeWhile isAsciiDigit
      let rest := rest.dropWhile isAsciiDigit
      let fits :=
        match digits with
        | [_] => true
        | [tens, _] => tens < '6'
        | _ => false
      fits && (rest.isEmpty || isSixtieths fuel rest)
  | _, _ => false

/-- Whether a plain scalar is an integer. -/
def isInteger (s : List Char) : Bool :=
  match (splitSign s).2 with
  | ['0'] => true
  | '0' :: 'b' :: digits => isRun (fun c => c == '0' || c == '1' || c == '_') digits
  | '0' :: 'x' :: digits => isRun (fun c => (Text.hexDigit? c).isSome || c == '_') digits
  | '0' :: digits => isRun (fun c => ('0' ≤ c && c ≤ '7') || c == '_') digits
  | first :: rest =>
      let more := rest.dropWhile isDigitPart
      isAsciiDigit first && (more.isEmpty || isSixtieths more.length more)
  | [] => false

/-- Whether a text is the exponent of a real; nothing at all counts as one. -/
def isExponent : List Char → Bool
  | [] => true
  | mark :: sign :: digits =>
      (mark == 'e' || mark == 'E') && (sign == '+' || sign == '-') && isRun isAsciiDigit digits
  | _ => false

/-- Whether a text is a point, digits and an exponent. -/
def isFraction : List Char → Bool
  | '.' :: rest => isExponent (rest.dropWhile isDigitPart)
  | _ => false

/-- Whether a text is digits in base sixty, a point and digits. -/
def isSixtiethsFraction (s : List Char) : Bool :=
  match s.dropWhile (· != '.') with
  | '.' :: digits =>
      let whole := s.takeWhile (· != '.')
      isSixtieths whole.length whole && digits.all isDigitPart
  | _ => false

/-- Whether a plain scalar is a real. -/
def isReal (s : List Char) : Bool :=
  match s with
  | '.' :: first :: rest =>
      (isAsciiDigit first && isFraction ('.' :: rest)) ||
        [".inf", ".Inf", ".INF", ".nan", ".NaN", ".NAN"].contains (String.ofList s)
  | _ =>
      match (splitSign s).2 with
      | '.' :: word => ["inf", "Inf", "INF"].contains (String.ofList word)
      | first :: rest =>
          let more := rest.dropWhile isDigitPart
          isAsciiDigit first && (isFraction more || isSixtiethsFraction more)
      | [] => false

/-- A text without its underscores. -/
def withoutUnderscores (s : List Char) : List Char :=
  s.filter (· != '_')

/-- The parts of a text between its colons. -/
def splitColons (s : List Char) : List (List Char) :=
  s.splitOn ':'

/-- Reads an integer without the sign in front of it. -/
def readMagnitude? (s : List Char) : Option Int :=
  match s with
  | ['0'] => some 0
  | '0' :: 'b' :: digits => readIntegerIn? 2 digits
  | '0' :: 'x' :: digits => readIntegerIn? 16 digits
  | '0' :: _ => readIntegerIn? 8 s
  | _ =>
      if s.contains ':' then
        (splitColons s).foldlM (fun number part => (60 * number + ·) <$> readInteger? part) 0
      else readInteger? s

/-- Reads an integer. -/
def readInteger (s : List Char) : Except Fault Int :=
  let body := splitSign (withoutUnderscores s)
  if body.2.isEmpty then .error .emptyNumber
  else
    match readMagnitude? body.2 with
    | some magnitude => .ok (if body.1 then -magnitude else magnitude)
    | none => .error (.noNumber (String.ofList s))

/-- The real that digits in base sixty write, the last digit first. `base` is the weight of the next
one, which has to be less than infinity. -/
def sixtiethsValue (sum : Float) (base : Nat) : List Float → Except Fault Float
  | [] => .ok sum
  | digit :: rest =>
      match wholeFloat? base with
      | some weight => sixtiethsValue (sum + digit * weight) (60 * base) rest
      | none => .error .hugeNumber

/-- Reads a real without the sign in front of it. -/
def readRealMagnitude (s : List Char) : Except Fault Float :=
  let orFault := fun number? => (number?.map .ok).getD (.error (.noNumber (String.ofList s)))
  if s == ".inf".toList then .ok (1.0 / 0.0)
  else if s == ".nan".toList then .ok (0.0 / 0.0)
  else if s.contains ':' then
    match (splitColons s).mapM readReal? with
    | some digits => sixtiethsValue 0.0 1 digits.reverse
    | none => orFault none
  else orFault (readReal? s)

/-- Reads a real. -/
def readReal (s : List Char) : Except Fault Float :=
  let text := Text.lowerChars [] (withoutUnderscores s)
  let body := splitSign text
  if text.isEmpty then .error .emptyNumber
  else (readRealMagnitude body.2).map (signedFloat body.1)

example : readInteger ['0', '1', '7'] = .ok 15 := by rfl

example : readInteger ['-', '1', ':', '3', '0'] = .ok (-90) := by rfl

end DetectorSearch.Yaml
