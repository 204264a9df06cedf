/-! # Characters of YAML

Documents are those of YAML 1.1, read as PyYAML reads them with its safe loader. Here are the
characters that a document may hold, and those which end a word, a line or a name. Line ends are
one character once `unifyBreaks` has been applied.
-/

namespace DetectorSearch.Yaml

/-- Every line end of one or two characters as a line feed. -/
def unifyBreaks : List Char → List Char
  | [] => []
  | '\r' :: '\n' :: rest => '\n' :: unifyBreaks rest
  | '\r' :: rest => '\n' :: unifyBreaks rest
  | c :: rest => c :: unifyBreaks rest

/-- Whether a character ends a line. -/
def isBreak (c : Char) : Bool :=
  c == '\n' || c == '\x85' || c == '\u2028' || c == '\u2029'

/-- The line end that a text keeps: the next-line character counts as a line feed. -/
def keptBreak (c : Char) : Char :=
  if c == '\x85' then '\n' else c

/-- Whether a character is a space or a tab. -/
def isSpace (c : Char) : Bool :=
  c == ' ' || c == '\t'

/-- Whether a character stands between words. -/
def isGap (c : Char) : Bool :=
  isSpace c || isBreak c

/-- Whether nothing is left, or what is left begins with a gap. -/
def endsWord : List Char → Bool
  | [] => true
  | c :: _ => isGap c

/-- Whether nothing is left, or what is left begins with a space or a line end, but no tab. -/
def endsMark : List Char → Bool
  | [] => true
  | c :: _ => c == ' ' || isBreak c

/-- Whether nothing is left of the line. -/
def endsLine : List Char → Bool
  | [] => true
  | c :: _ => isBreak c

/-- A text without the line feed at its end. -/
def withoutLineEnd (s : List Char) : List Char :=
  if s.getLast? == some '\n' then s.dropLast else s

/-- Whether a character may stand in the name of an anchor, of a directive or of a tag handle. -/
def isNamePart (c : Char) : Bool :=
  c.isAlphanum || c == '-' || c == '_'

/-- Whether a document may hold a character. -/
def isAllowed (c : Char) : Bool :=
  let code := c.toNat
  code == 0x09 || code == 0x0A || code == 0x0D || (0x20 ≤ code && code ≤ 0x7E) || code == 0x85 ||
  (0xA0 ≤ code && code ≤ 0xFFFD) || 0x10000 ≤ code

/-- The mark that may stand at the very beginning of a document. -/
def byteOrderMark : Char := '\uFEFF'

end DetectorSearch.Yaml
