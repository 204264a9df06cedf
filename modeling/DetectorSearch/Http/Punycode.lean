import DetectorSearch.Text.Character
/-! # Punycode

Punycode, the encoding of international domains, writes a label with characters outside ASCII in
ASCII: its ASCII characters first, then behind a dash a number for each other one. The numbers
tell, in rising order of the characters, how far each is from the one before it, counted over all
places where it could stand. A number is written in digits of base 36, the least one first, and
ends with a digit below a threshold that follows the numbers so far.
-/

namespace DetectorSearch.Http.Punycode

/-- The digit of a value below 36. -/
def digit (value : Nat) : Char :=
  Char.ofNat (if value < 26 then 0x61 + value else 0x30 + (value - 26))

/-- The value of a digit. -/
def digitValue? (c : Char) : Option Nat :=
  let letter := c.toLower
  if 'a' ≤ letter ∧ letter ≤ 'z' then some (letter.toNat - 0x61)
  else if '0' ≤ c ∧ c ≤ '9' then some (c.toNat - 0x30 + 26)
  else none

/-- The threshold at a place; places count by 36. -/
def threshold (bias place : Nat) : Nat :=
  if place ≤ bias then 1 else if bias + 26 ≤ place then 26 else place - bias

theorem threshold_pos (bias place : Nat) : 1 ≤ threshold bias place := by
  unfold threshold
  split
  · omega
  · split <;> omega

/-- Brings a number down below 456, with 36 for each division by 35. -/
def scaled (number : Nat) : Nat × Nat :=
  if 455 < number then
    let (rest, places) := scaled (number / 35)
    (rest, places + 36)
  else (number, 0)
termination_by number
decreasing_by exact Nat.div_lt_self (by omega) (by omega)

/-- The bias after a number; `count` characters are written by then. -/
def adapted (number count : Nat) (isFirst : Bool) : Nat :=
  let number := if isFirst then number / 700 else number / 2
  let (rest, places) := scaled (number + number / count)
  places + 36 * rest / (rest + 38)

/-- A number in digits, from a place on. -/
def writeNumber (bias place number : Nat) : List Char :=
  let least := threshold bias place
  if number < least then [digit number]
  else
    digit (least + (number - least) % (36 - least)) ::
      writeNumber bias (place + 36) ((number - least) / (36 - least))
termination_by number
decreasing_by
  have := threshold_pos bias place
  exact Nat.lt_of_le_of_lt (Nat.div_le_self _ _) (by omega)

/-- How far the writing of a label has come. -/
structure Progress where
  written : List Char
  /-- The places passed since the last character that was written. -/
  passed : Nat
  bias : Nat
  /-- The characters written. -/
  count : Nat

/-- Passes a character while those with the number `code` are written. `basic` counts those of
ASCII. -/
def pass (basic code : Nat) (progress : Progress) (c : Char) : Progress :=
  if c.toNat < code then { progress with passed := progress.passed + 1 }
  else if c.toNat = code then
    { written := progress.written ++ writeNumber progress.bias 36 progress.passed
      passed := 0
      bias := adapted progress.passed (progress.count + 1) (progress.count == basic)
      count := progress.count + 1 }
  else progress

/-- Writes the characters of a label by their numbers in rising order; `next` is the least number that
was not looked at yet. -/
def writeCodes (label : List Char) (basic : Nat) : Nat → List Nat → Progress → Progress
  | _, [], progress => progress
  | next, code :: codes, progress =>
      let skipped := (code - next) * (progress.count + 1)
      let progress := { progress with passed := progress.passed + skipped }
      let progress := label.foldl (pass basic code) progress
      writeCodes label basic (code + 1) codes { progress with passed := progress.passed + 1 }

/-- A label in ASCII. -/
def encode (label : List Char) : List Char :=
  let isBasic := fun c : Char => decide (c.toNat < 0x80)
  let basic := label.filter isBasic
  let codes := ((label.filter fun c => !isBasic c).map Char.toNat).mergeSort.eraseDups
  let progress := writeCodes label basic.length 0x80 codes ⟨[], 0, 72, basic.length⟩
  (if basic.isEmpty then [] else basic ++ ['-']) ++ progress.written

/-- Reads a number from a place on, and what follows it. -/
def readNumber? (bias : Nat) : Nat → Nat → Nat → List Char → Option (Nat × List Char)
  | _, _, _, [] => none
  | place, weight, number, c :: rest =>
      match digitValue? c with
      | none => none
      | some value =>
          let least := threshold bias place
          let number := number + value * weight
          if value < least then some (number, rest)
          else readNumber? bias (place + 36) (weight * (36 - least)) number rest

/-- Puts the characters that numbers stand for where they belong. The count of digits bounds the
steps. `index` is the place of the next one, `code` its number so far. -/
def insertCodes? (isFirst : Bool) : Nat → Nat → Nat → Nat → List Char → List Char →
    Option (List Char)
  | 0, _, _, _, label, _ => some label
  | _ + 1, _, _, _, label, [] => some label
  | fuel + 1, bias, code, index, label, digits =>
      match readNumber? bias 36 1 0 digits with
      | none => none
      | some (number, rest) =>
          let size := label.length + 1
          let code := code + (index + number) / size
          let place := (index + number) % size
          if 0x10FFFF < code then none
          else
            let label := label.take place ++ Text.charOfCode code :: label.drop place
            insertCodes? false fuel (adapted number size isFirst) code (place + 1) label rest

/-- The label that is written in ASCII. -/
def decode? (s : List Char) : Option (List Char) :=
  let digits := (s.reverse.takeWhile (· != '-')).reverse
  let basic := s.take (s.length - digits.length - 1)
  insertCodes? true digits.length 72 0x80 0 basic digits

example : decode? ['b', '-', 'e', 'h', 'a'] = some ['b', 'ü'] := by decide +kernel

end DetectorSearch.Http.Punycode
