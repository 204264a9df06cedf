import DetectorSearch.Decimal.Real
import DetectorSearch.Text.Character
import DetectorSearch.Text.Encoding
import DetectorSearch.Yaml.Character
import DetectorSearch.Yaml.Fault
import DetectorSearch.Yaml.Token
/-! # Anchors, tags and directives

The marks of YAML 1.1 that stand in front of a node, and the lines that stand in front of a
document. Each is read from the characters behind its first one, in the way of PyYAML; what follows
it is given back.
-/

namespace DetectorSearch.Yaml

/-- The name of an anchor or an alias. -/
def readName (s : List Char) : Except Fault (String × List Char) :=
  let name := s.takeWhile isNamePart
  let rest := s.dropWhile isNamePart
  let ends := endsWord rest || (rest.head?.map "?:,]\x7d%@\x60".toList.contains).getD false
  if name.isEmpty || !ends then .error .badName else .ok (String.ofList name, rest)

/-- Whether a character may stand in a tag. -/
def isTagPart (c : Char) : Bool :=
  c.isAlphanum || "-;/?:@&=+$,_.!~*'()[]%".toList.contains c

/-- The bytes of the text of a tag. -/
def tagBytes? : List Char → Option (List Nat)
  | [] => some []
  | '%' :: a :: b :: rest =>
      match Text.hexNumber? [a, b], tagBytes? rest with
      | some byte, some bytes => some (byte :: bytes)
      | _, _ => none
  | '%' :: _ => none
  | c :: rest => (tagBytes? rest).map (c.toNat :: ·)

/-- The text of a tag, its escapes decoded. -/
def readTagText (s : List Char) : Except Fault (String × List Char) :=
  let coded := s.takeWhile isTagPart
  if coded.isEmpty then .error .badTag
  else
    match (tagBytes? coded).map Text.Utf8.decode with
    | some (.ok text) => .ok (String.ofList text, s.dropWhile isTagPart)
    | _ => .error .badTag

/-- The handle of a tag, which begins and ends with an exclamation mark; one alone is a handle in
front of a space. -/
def readHandle (s : List Char) : Except Fault (String × List Char) :=
  match s with
  | '!' :: ' ' :: rest => .ok ("!", ' ' :: rest)
  | '!' :: rest =>
      match rest.dropWhile isNamePart with
      | '!' :: after => .ok (String.ofList ('!' :: rest.takeWhile isNamePart ++ ['!']), after)
      | _ => .error .badTag
  | _ => .error .badTag

/-- A tag; the characters begin with its exclamation mark. -/
def readTag (s : List Char) : Except Fault (WrittenTag × List Char) := do
  let (tag, rest) ←
    match s.drop 1 with
    | '<' :: inner =>
        match readTagText inner with
        | .ok (text, '>' :: rest) => .ok (WrittenTag.mk none text, rest)
        | .ok _ => .error Fault.badTag
        | .error fault => .error fault
    | inner =>
        if endsWord inner then .ok (WrittenTag.mk none "!", inner)
        else do
          let hasHandle := (inner.takeWhile fun c => !(c == ' ' || isBreak c)).contains '!'
          let (handle, inner) ← if hasHandle then readHandle s else .ok ("!", inner)
          let (text, rest) ← readTagText inner
          pure (WrittenTag.mk (some handle) text, rest)
  if endsMark rest then return (tag, rest) else throw .badTag

example : (readTag ['!', 'a', '\x7b']).toOption = none := by rfl

/-- The version in a directive. -/
def readVersion (s : List Char) : Except Fault (Directive × List Char) :=
  let major := s.takeWhile isAsciiDigit
  match s.dropWhile isAsciiDigit with
  | '.' :: more =>
      let minor := more.takeWhile isAsciiDigit
      let rest := more.dropWhile isAsciiDigit
      if major.isEmpty || minor.isEmpty || !endsMark rest then .error .badDirective
      else .ok (.version (asciiNumber major) (asciiNumber minor), rest)
  | _ => .error .badDirective

/-- The handle of a directive, and what it stands for. -/
def readHandleMeaning (s : List Char) : Except Fault (Directive × List Char) := do
  let (handle, rest) ← readHandle s
  if rest.head? != some ' ' then throw .badDirective
  let (meaning, rest) ← readTagText (rest.dropWhile (· == ' '))
  if endsMark rest then return (.handle handle meaning, rest) else throw .badDirective

/-- A directive, read up to the blanks and the comment at the end of its line. -/
def readDirective (s : List Char) : Except Fault (Directive × List Char) :=
  let name := String.ofList (s.takeWhile isNamePart)
  let rest := s.dropWhile isNamePart
  let inner := rest.dropWhile (· == ' ')
  if name.isEmpty || !endsMark rest then .error .badDirective
  else if name = "YAML" then readVersion inner
  else if name = "TAG" then readHandleMeaning inner
  else .ok (.other, rest.dropWhile (!isBreak ·))

end DetectorSearch.Yaml
