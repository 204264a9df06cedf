import DetectorSearch.Yaml.Character
/-! # Places in a document

A cursor is a place in a document, counted as PyYAML counts for its marks: what is left from there
on, with the line, the column and the count of characters before it. A byte order mark takes no
column.
-/

namespace DetectorSearch.Yaml

/-- A place in a document. -/
structure Cursor where
  rest : List Char
  offset : Nat
  line : Nat
  column : Nat

namespace Cursor

/-- The beginning of a document. -/
def start (text : List Char) : Cursor := ⟨text, 0, 0, 0⟩

/-- The place behind the next character. -/
def next (c : Cursor) : Cursor :=
  match c.rest with
  | [] => c
  | first :: rest =>
      if isBreak first then ⟨rest, c.offset + 1, c.line + 1, 0⟩
      else ⟨rest, c.offset + 1, c.line, if first == byteOrderMark then c.column else c.column + 1⟩

/-- The place behind the next so many characters. -/
def skip : Nat → Cursor → Cursor
  | 0, c => c
  | count + 1, c => skip count c.next

/-- The place behind the characters of a class. -/
def skipWhile (p : Char → Bool) (c : Cursor) : Cursor :=
  c.skip (c.rest.takeWhile p).length

/-- The place at which only these characters are left. -/
def skipTo (rest : List Char) (c : Cursor) : Cursor :=
  c.skip (c.rest.length - rest.length)

/-- The place behind the spaces and the comment at the end of a line. -/
def skipComment (c : Cursor) : Cursor :=
  let c := c.skipWhile (· == ' ')
  if c.rest.head? == some '#' then c.skipWhile (!isBreak ·) else c

/-- Whether three characters and a gap follow. -/
def isAtMark (mark : Char) (c : Cursor) : Bool :=
  c.rest.take 3 == [mark, mark, mark] && endsWord (c.rest.drop 3)

/-- Whether a mark between documents follows. -/
def isAtMarker (c : Cursor) : Bool :=
  c.isAtMark '-' || c.isAtMark '.'

end Cursor

/-- What stands for a line end with further empty lines behind it: a single line feed becomes a
space, of several the first is dropped. -/
def folded (first : Char) (more : List Char) : List Char :=
  if first == '\n' then (if more.isEmpty then [' '] else more) else first :: more

end DetectorSearch.Yaml
