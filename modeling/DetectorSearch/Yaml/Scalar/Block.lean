import DetectorSearch.Decimal.Real
import DetectorSearch.Yaml.Cursor
import DetectorSearch.Yaml.Fault
/-! # Block scalars

A block scalar of YAML 1.1 is a header, `|` or `>`, and lines that are indented more deeply than
what holds it. Line ends are kept after `|` and folded after `>`, as PyYAML folds them. The header
says what becomes of the line ends at the end, and may say how deeply the lines are indented; else
the first line that is not empty does.
-/

namespace DetectorSearch.Yaml

/-- What becomes of the line ends at the end of a block scalar. -/
inductive Chomping where
  /-- All are dropped. -/
  | strip
  /-- The first one is kept. -/
  | clip
  /-- All are kept. -/
  | keep
  deriving DecidableEq, Repr

/-- What a sign in a header means. -/
def Chomping.ofSign? : Char → Option Chomping
  | '+' => some keep
  | '-' => some strip
  | _ => none

/-- What the header says, and what follows it. -/
structure BlockHeader where
  chomping : Chomping
  indent : Option Nat
  after : List Char

/-- Reads a header behind its first character: a sign, a digit from one to nine, or both in any
order. -/
def BlockHeader.read (s : List Char) : Except Fault BlockHeader :=
  let chomping? := s.head?.bind Chomping.ofSign?
  let s := if chomping?.isSome then s.drop 1 else s
  let indent? := s.head?.bind asciiDigit?
  let s := if indent?.isSome then s.drop 1 else s
  let later? := if chomping?.isNone && indent?.isSome then s.head?.bind Chomping.ofSign? else none
  let s := if later?.isSome then s.drop 1 else s
  if indent? = some 0 || !endsMark s then .error .badHeader
  else .ok ⟨(chomping?.or later?).getD .clip, indent?, s⟩

/-- The empty lines in front of the first line, the deepest column reached in them, and the place
behind them. -/
def leadingLines : Nat → Nat → Cursor → List Char × Nat × Cursor
  | 0, deepest, c => ([], deepest, c)
  | fuel + 1, deepest, c =>
      match c.rest with
      | [] => ([], deepest, c)
      | first :: _ =>
          if first == ' ' then leadingLines fuel (max deepest c.next.column) c.next
          else if isBreak first then
            let (more, deepest, after) := leadingLines fuel deepest c.next
            (keptBreak first :: more, deepest, after)
          else ([], deepest, c)

/-- The place behind the spaces of an indentation. -/
def skipIndent (indent : Nat) (c : Cursor) : Cursor :=
  c.skip ((c.rest.takeWhile (· == ' ')).length.min (indent - c.column))

/-- The empty lines in front of the next line, and the place where that line begins. -/
def blankLines (indent : Nat) : Nat → Cursor → List Char × Cursor
  | 0, c => ([], c)
  | fuel + 1, c =>
      let c := skipIndent indent c
      match c.rest with
      | [] => ([], c)
      | first :: _ =>
          if isBreak first then
            let (more, after) := blankLines indent fuel c.next
            (keptBreak first :: more, after)
          else ([], c)

/-- Whether a line of the block begins at a place. -/
def isBlockLine (indent : Nat) (c : Cursor) : Bool :=
  c.column == indent && !c.rest.isEmpty

/-- Whether what is left begins with a space or a tab. -/
def beginsSpaced (rest : List Char) : Bool :=
  (rest.head?.map isSpace).getD false

/-- What stands between two lines of the block. Only a single line feed between two lines that do
not begin with a space is folded. -/
def lineJoin (fold : Bool) (spaced : Bool) (lineEnd blanks : List Char) : List Char :=
  if fold && lineEnd == ['\n'] && !spaced then (if blanks.isEmpty then [' '] else []) else lineEnd

/-- The lines of a block from a place on, up to the line end of the last line and the empty lines
behind it. `blanks` are the empty lines in front of the place. -/
def blockLines (fold : Bool) (indent : Nat) :
    Nat → List Char → List Char → Cursor → List Char × List Char × List Char × Cursor
  | 0, done, blanks, c => (done, [], blanks, c)
  | fuel + 1, done, blanks, c =>
      if !isBlockLine indent c then (done, [], blanks, c)
      else
        let line := c.rest.takeWhile (!isBreak ·)
        let done := done ++ blanks ++ line
        let atEnd := c.skip line.length
        let lineEnd := (atEnd.rest.take 1).map keptBreak
        let (blanks, after) := blankLines indent (atEnd.rest.length + 1) atEnd.next
        if isBlockLine indent after then
          let spaced := beginsSpaced c.rest || beginsSpaced after.rest
          blockLines fold indent fuel (done ++ lineJoin fold spaced lineEnd blanks) blanks after
        else (done, lineEnd, blanks, after)

/-- A block scalar that begins with its header, and the place behind it. `floor` is the least column
of its lines. -/
def readBlock (fold : Bool) (floor : Nat) (c : Cursor) : Except Fault (List Char × Cursor) := do
  let header ← BlockHeader.read (c.rest.drop 1)
  let atEnd := (c.skipTo header.after).skipComment
  if !endsLine atEnd.rest then throw .badHeader
  let first := atEnd.next
  let least := max floor 1
  let fuel := first.rest.length + 1
  let (blanks, indent, begins) :=
    match header.indent with
    | some deeper =>
        let indent := least + deeper - 1
        let (blanks, begins) := blankLines indent fuel first
        (blanks, indent, begins)
    | none =>
        let (blanks, deepest, begins) := leadingLines fuel 0 first
        (blanks, max least deepest, begins)
  let (text, lineEnd, blanks, after) := blockLines fold indent fuel [] blanks begins
  let kept :=
    match header.chomping with
    | .strip => []
    | .clip => lineEnd
    | .keep => lineEnd ++ blanks
  return (text ++ kept, after)

end DetectorSearch.Yaml
