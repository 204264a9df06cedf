import DetectorSearch.Text.Character
/-! # Integers in text

Writing an integer, and reading one in some base. The reader takes white space around the number, a
sign, decimal digits of every script and single underscores between digits. Texts of more than 4300
decimal digits are neither written nor read. Doubles are cut at powers of two, decimals at powers of
ten.
-/

namespace DetectorSearch

/-- A power of two. -/
def twoTo (exponent : Nat) : Nat := Nat.pow 2 exponent

/-- A power of ten. -/
def tenTo (exponent : Nat) : Nat := Nat.pow 10 exponent

theorem twoTo_succ (exponent : Nat) : twoTo (exponent + 1) = twoTo exponent * 2 := rfl

theorem tenTo_succ (exponent : Nat) : tenTo (exponent + 1) = tenTo exponent * 10 := rfl

theorem twoTo_pos (exponent : Nat) : 0 < twoTo exponent := by
  induction exponent with
  | zero => decide
  | succ exponent ih => rw [twoTo_succ]; omega

theorem tenTo_pos (exponent : Nat) : 0 < tenTo exponent := by
  induction exponent with
  | zero => decide
  | succ exponent ih => rw [tenTo_succ]; omega

/-- The most digits that an integer in text may have. -/
def digitLimit : Nat := 4300

theorem ten_le_limit : 10 ≤ tenTo digitLimit := by
  have hsucc : tenTo digitLimit = tenTo 4299 * 10 := tenTo_succ 4299
  have hpos := tenTo_pos 4299
  omega

/-- The words about an integer that has too many digits to be written. -/
def longIntegerWords : String :=
  "Exceeds the limit (4300 digits) for integer string conversion; " ++
    "use sys.set_int_max_str_digits() to increase the limit"

/-- The words about a text that has too many digits to be read as an integer. -/
def longNumeralWords (digits : Nat) : String :=
  "Exceeds the limit (4300 digits) for integer string conversion: value has " ++
    toString digits ++ " digits; use sys.set_int_max_str_digits() to increase the limit"

/-- The decimal form of an integer. -/
def integerChars (n : Int) : List Char :=
  if n < 0 then '-' :: Nat.toDigits 10 n.natAbs else Nat.toDigits 10 n.natAbs

/-- The decimal form of an integer. -/
def integerText (n : Int) : String :=
  String.ofList (integerChars n)

/-- The decimal form of an integer of at most 4300 digits. -/
def integerText? (n : Int) : Option String :=
  if n.natAbs < tenTo digitLimit then some (integerText n) else none

/-- Digits with single underscores between them, as their values; `after` says that a digit was
just read, so that an underscore may follow. -/
def digitGroups? (digit? : Char → Option Nat) : Bool → List Char → Option (List Nat)
  | after, [] => if after then some [] else none
  | after, c :: rest =>
      if c == '_' then
        if after then digitGroups? digit? false rest else none
      else
        match digit? c with
        | some value => (digitGroups? digit? true rest).map (value :: ·)
        | none => none

/-- The sign in front of a number, and what follows it. -/
def splitSign : List Char → Bool × List Char
  | '-' :: rest => (true, rest)
  | '+' :: rest => (false, rest)
  | s => (false, s)

/-- The value of a signed number. -/
def signed (negative : Bool) (magnitude : Nat) : Int :=
  if negative then -(magnitude : Int) else magnitude

/-- The letter behind a zero that tells in which base the digits are. -/
def baseLetter? (base : Nat) : Option Char :=
  if base = 2 then some 'b'
  else if base = 8 then some 'o'
  else if base = 16 then some 'x'
  else none

/-- The digits of a number without the mark of their base; an underscore may follow the mark. -/
def withoutBaseMark (base : Nat) (s : List Char) : List Char :=
  match s with
  | '0' :: letter :: rest =>
      if baseLetter? base == some letter.toLower then
        match rest with
        | '_' :: digits => digits
        | _ => rest
      else s
  | _ => s

/-- The value of a digit of a base: a decimal digit of any script, or a letter of ASCII. -/
def digitIn? (base : Nat) (c : Char) : Option Nat :=
  let letter := c.toLower
  let value? :=
    if 'a' ≤ letter ∧ letter ≤ 'z' then some (letter.toNat - 'a'.toNat + 10)
    else Text.digitValue? c
  value?.filter (· < base)

/-- The number that a list of digits of a base writes. -/
def digitsValueIn (base : Nat) (digits : List Nat) : Nat :=
  digits.foldl (fun number digit => base * number + digit) 0

/-- The digits of an integer in a base behind its sign, with the mark of the base in front of them. -/
def digitsIn? (base : Nat) (s : List Char) : Option (List Nat) :=
  digitGroups? (digitIn? base) false (withoutBaseMark base s)

/-- Reads an integer in digits of a base: white space around it, a sign, the mark of the base, digits.
In base ten there may be no more digits than the limit. -/
def readIntegerIn? (base : Nat) (s : List Char) : Option Int :=
  let body := splitSign (Text.trim Text.isWhite s)
  match digitsIn? base body.2 with
  | some digits =>
      if base = 10 ∧ digitLimit < digits.length then none
      else some (signed body.1 (digitsValueIn base digits))
  | none => none

/-- Reads an integer in base ten. -/
def readInteger? (s : List Char) : Option Int :=
  readIntegerIn? 10 s

/-- The digits of an integer in base ten, however many there are. -/
def decimalDigits? (s : List Char) : Option (List Nat) :=
  digitsIn? 10 (splitSign (Text.trim Text.isWhite s)).2

example : readIntegerIn? 16 ['0', 'x', '_', '1', 'f'] = some 31 := by rfl

example : readIntegerIn? 8 [' ', '-', '0', '_', '7'] = some (-7) := by rfl

end DetectorSearch
