import DetectorSearch.Http.LabelTable
import DetectorSearch.Http.Punycode
import DetectorSearch.Text.Composition
import DetectorSearch.Text.Quoted
/-! # Labels

A domain is made of labels. By the rules of IDNA 2008 a label is in composed form, has its dashes
and marks in their places and no other characters than those for labels, and its directions of
writing agree; a text that breaks one of these rules has a fault, which tells the first one that is
broken. A label that is not of ASCII is sent in Punycode behind a mark that tells so.
-/

namespace DetectorSearch.Http

/-- Why a text is no label. Places count from one. -/
inductive LabelFault where
  | empty
  | tooLong
  | notComposed
  /-- Dashes stand where the mark of a coded label has them. -/
  | innerDashes
  /-- A dash stands first or last. -/
  | outerDash
  | markFirst
  /-- A joiner stands where it joins nothing. -/
  | loose (label : List Char) (place : Nat) (joiner : Char)
  /-- A character that has its place does not stand there. -/
  | misplaced (label : List Char) (place : Nat) (c : Char)
  /-- A character is none of labels. -/
  | notAllowed (label : List Char) (place : Nat) (c : Char)
  /-- The first character of a label with leftward letters has no direction. -/
  | undirected (label : List Char)
  /-- A character goes against the direction of its label. -/
  | against (isLeftward : Bool) (place : Nat)
  | mixedDigits
  | openEnding
  /-- Nothing is coded. -/
  | nothingCoded
  /-- The code ends with a dash. -/
  | openCode
  | unreadableCode
  deriving DecidableEq, Repr

namespace LabelFault

/-- A character by its number, with four digits or more. -/
def number (c : Char) : String :=
  "U+" ++ String.ofList (((Nat.toDigits 16 (Text.codeOf c)).map Char.toUpper).leftpad 4 '0')

/-- The message of a fault. -/
def message : LabelFault → String
  | empty => "Empty Label"
  | tooLong => "Label too long"
  | notComposed => "Label must be in Normalization Form C"
  | innerDashes => "Label has disallowed hyphens in 3rd and 4th position"
  | outerDash => "Label must not start or end with a hyphen"
  | markFirst => "Label begins with an illegal combining character"
  | loose label place joiner =>
      "Unknown codepoint adjacent to joiner " ++ number joiner ++ " at position " ++
        toString place ++ " in " ++ Text.quoted (String.ofList label)
  | misplaced label place c =>
      "Codepoint " ++ number c ++ " not allowed at position " ++ toString place ++ " in " ++
        Text.quoted (String.ofList label)
  | notAllowed label place c =>
      "Codepoint " ++ number c ++ " at position " ++ toString place ++ " of " ++
        Text.quoted (String.ofList label) ++ " not allowed"
  | undirected label =>
      "First codepoint in label " ++ Text.quoted (String.ofList label) ++
        " must be directionality L, R or AL"
  | against isLeftward place =>
      "Invalid direction for codepoint at position " ++ toString place ++ " in a " ++
        (if isLeftward then "right-to-left" else "left-to-right") ++ " label"
  | mixedDigits => "Can not mix numeral types in a right-to-left label"
  | openEnding => "Label ends with illegal codepoint directionality"
  | nothingCoded => "Malformed A-label, no Punycode eligible content found"
  | openCode => "A-label must not end with a hyphen"
  | unreadableCode => "Invalid A-label"

end LabelFault

namespace Label

/-- The characters of Greek. -/
def greekRanges : Array (Nat × Nat) := #[
    (0x370, 0x373), (0x375, 0x377), (0x37A, 0x37D), (0x37F, 0x37F), (0x384, 0x384),
    (0x386, 0x386), (0x388, 0x3E1), (0x3F0, 0x3FF), (0x1D26, 0x1D2A), (0x1F00, 0x1FFE),
    (0xAB65, 0xAB65)
  ]

/-- The characters of Hebrew. -/
def hebrewRanges : Array (Nat × Nat) := #[
    (0x591, 0x5C7), (0x5D0, 0x5EA), (0x5EF, 0x5F4)
  ]

/-- The characters of Japanese. -/
def japaneseRanges : Array (Nat × Nat) := #[
    (0x3005, 0x3005), (0x3007, 0x3007), (0x3041, 0x3096), (0x309D, 0x309F), (0x30A1, 0x30FA),
    (0x30FD, 0x30FF), (0x31F0, 0x31FF), (0x3400, 0x4DBF), (0x4E00, 0x9FFF), (0xF900, 0xFAD9),
    (0x16FE2, 0x16FE3), (0x16FF0, 0x16FF1), (0x1AFF0, 0x1AFFE), (0x1B000, 0x1B122),
    (0x1B150, 0x1B152), (0x1B164, 0x1B167), (0x20000, 0x2A6DF), (0x2A700, 0x2EBE0),
    (0x30000, 0x3134A)
  ]

/-- The digits of Arabic. -/
def arabicDigits : Array (Nat × Nat) := #[(0x660, 0x669)]

/-- The digits of Persian. -/
def persianDigits : Array (Nat × Nat) := #[(0x6F0, 0x6F9)]

/-- Whether a character is a mark that takes the vowel from the letter before it. -/
def isVirama (c : Char) : Bool :=
  Text.combiningClass c == 9

/-- Whether a mark takes up no room of its own. -/
def isThin (c : Char) : Bool :=
  Direction.of c == .mark

/-- Whether letters join across what stands between them. `before` has the last one first. -/
def joins (before after : List Char) : Bool :=
  (before.dropWhile isThin).head?.any (Text.isWithin joiningRanges) &&
    (after.dropWhile isThin).head?.any
      fun c => Text.isWithin joiningRanges c || Text.isWithin endingRanges c

/-- Whether a character of a label may stand where it stands. `before` has the last one first. -/
def fits (label before : List Char) (c : Char) (after : List Char) : Bool :=
  if c == '\u200C' then before.head?.any isVirama || joins before after
  else if c == '\u200D' then before.head?.any isVirama
  else if c == '·' then before.head? == some 'l' && after.head? == some 'l'
  else if c == '\u0375' then after.head?.any (Text.isWithin greekRanges)
  else if c == '\u05F3' || c == '\u05F4' then before.head?.any (Text.isWithin hebrewRanges)
  else if c == '\u30FB' then label.any (Text.isWithin japaneseRanges)
  else if Text.isWithin arabicDigits c then !label.any (Text.isWithin persianDigits)
  else if Text.isWithin persianDigits c then !label.any (Text.isWithin arabicDigits)
  else isLabelChar c

/-- Whether a character joins the letters around it, or keeps them apart, without being seen. -/
def isJoiner (c : Char) : Bool :=
  c == '\u200C' || c == '\u200D'

/-- Whether there are rules for the place of a character in a label. -/
def hasPlace (c : Char) : Bool :=
  ['·', '\u0375', '\u05F3', '\u05F4', '\u30FB'].contains c ||
    Text.isWithin arabicDigits c || Text.isWithin persianDigits c

/-- The fault of a character that may not stand at a place of a label. -/
def faultOf (label : List Char) (place : Nat) (c : Char) : LabelFault :=
  if isJoiner c then .loose label place c
  else if hasPlace c then .misplaced label place c
  else .notAllowed label place c

/-- The first character of the rest of a label that may not stand behind what is before it. -/
def charFault? (label : List Char) : List Char → List Char → Option LabelFault
  | _, [] => none
  | before, c :: after =>
      if fits label before c after then charFault? label (c :: before) after
      else some (faultOf label (before.length + 1) c)

/-- The first character of the rest of a leftward label that may not stand behind what is before it: a
rightward one, or a digit of another kind than those before. -/
def leftwardFault? : List Direction → List Direction → Option LabelFault
  | _, [] => none
  | before, direction :: after =>
      if direction = .rightward then some (.against true (before.length + 1))
      else if direction = .digit ∧ before.contains .arabicDigit then some .mixedDigits
      else if direction = .arabicDigit ∧ before.contains .digit then some .mixedDigits
      else leftwardFault? (direction :: before) after

/-- Why directions of writing do not agree. A label with leftward letters, or digits of Arabic, begins
with a leftward letter, has no rightward one, and ends with a leftward letter or a digit. Its digits
are of one kind. -/
def directionFault? (label : List Char) : Option LabelFault :=
  let directions := label.map Direction.of
  let isLeftward := fun direction => direction == .leftward || direction == .arabicDigit
  if !directions.any isLeftward then none
  else
    match directions.head? with
    | some .leftward =>
        let ending := (directions.reverse.dropWhile (· == .mark)).head?
        let isClosed := ending.any fun direction => isLeftward direction || direction == .digit
        (leftwardFault? [] directions).or (if isClosed then none else some .openEnding)
    | some .rightward => some (.against false (directions.findIdx isLeftward + 1))
    | _ => some (.undirected label)

/-- Why a text is no label. -/
def fault? (label : List Char) : Option LabelFault :=
  if label.isEmpty then some .empty
  else if !Text.isComposed label then some .notComposed
  else if (label.drop 2).take 2 == ['-', '-'] then some .innerDashes
  else if label.head? == some '-' || label.getLast? == some '-' then some .outerDash
  else if label.head?.any isMark then some .markFirst
  else (charFault? label [] label).or (directionFault? label)

/-- What stands in front of a label that is written in Punycode. -/
def mark : List Char := ['x', 'n', '-', '-']

/-- Why a text of ASCII writes no label. -/
def sentFault? (s : List Char) : Option LabelFault :=
  if mark.isPrefixOf s then
    let code := s.drop mark.length
    if code.isEmpty then some .nothingCoded
    else if code.getLast? == some '-' then some .openCode
    else
      match Punycode.decode? code with
      | some label => fault? label
      | none => some .unreadableCode
  else fault? s

/-- The most characters that a label may have as it is sent. -/
def lengthLimit : Nat := 63

/-- A label, in small letters, as it is sent. -/
def encode (label : List Char) : Except LabelFault (List Char) := do
  let isBasic := label.all fun c => c.toNat < 0x80
  if let some fault := if isBasic then sentFault? label else fault? label then throw fault
  let sent := if isBasic then label else mark ++ Punycode.encode label
  if lengthLimit < sent.length then throw .tooLong
  return sent

example : sentFault? ['x', 'n', '-', '-'] = some .nothingCoded := by rfl

example : leftwardFault? [] [.leftward, .digit, .arabicDigit] = some .mixedDigits := by decide

end Label

end DetectorSearch.Http
