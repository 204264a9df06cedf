import DetectorSearch.Yaml.Cursor
/-! # Plain scalars

A plain scalar of YAML 1.1, in the reading of PyYAML, is a row of words without quotes. It ends
before a comment, before a colon that is followed by a gap, before a bracket or comma inside
brackets, before a line that is not indented deeply enough and before a mark between documents. The
gap between two words is kept when it is on one line and folded when it crosses lines.
-/

namespace DetectorSearch.Yaml

/-- The characters that end a word inside brackets. -/
def flowMarks : List Char := [',', '?', '[', ']', '\x7b', '\x7d']

/-- Whether a colon in front of these characters ends a key. -/
def endsKey (inFlow : Bool) (rest : List Char) : Bool :=
  endsWord rest ||
    (inFlow && (rest.head?.map fun c => c != '?' && flowMarks.contains c).getD false)

/-- The length of the word at the beginning. -/
def wordLength (inFlow : Bool) : List Char → Nat
  | [] => 0
  | c :: rest =>
      if isGap c || (c == ':' && endsKey inFlow rest) || (inFlow && flowMarks.contains c) then 0
      else wordLength inFlow rest + 1

/-- What follows a word: the text that stands for the gap, empty when the scalar ends here, whether
the gap crosses lines, and the place behind it. -/
structure Gap where
  text : List Char
  crosses : Bool
  after : Cursor

/-- The line ends and spaces in front of the next word, and whether a mark between documents stands
in the way. -/
def emptyLines : Nat → Cursor → List Char × Bool × Cursor
  | 0, c => ([], false, c)
  | fuel + 1, c =>
      match c.rest with
      | [] => ([], false, c)
      | first :: _ =>
          if first == ' ' then emptyLines fuel c.next
          else if isBreak first then
            if c.next.isAtMarker then ([keptBreak first], true, c.next)
            else
              let (more, stopped, after) := emptyLines fuel c.next
              (keptBreak first :: more, stopped, after)
          else ([], false, c)

/-- The gap that begins at a place. -/
def Gap.at (c : Cursor) : Gap :=
  let spaces := c.rest.takeWhile (· == ' ')
  let c := c.skip spaces.length
  match c.rest with
  | [] => ⟨spaces, false, c⟩
  | first :: _ =>
      if !isBreak first then ⟨spaces, false, c⟩
      else if c.next.isAtMarker then ⟨[], true, c.next⟩
      else
        let (more, stopped, after) := emptyLines c.rest.length c.next
        ⟨if stopped then [] else folded (keptBreak first) more, true, after⟩

/-- The text from a gap on, if words follow it, and the gap behind the last of them. -/
def plainWords (inFlow : Bool) (floor : Nat) : Nat → Gap → List Char × Gap
  | 0, gap => ([], gap)
  | fuel + 1, gap =>
      let c := gap.after
      let length := wordLength inFlow c.rest
      if c.rest.head? == some '#' || length == 0 then ([], gap)
      else
        let text := gap.text ++ c.rest.take length
        let gap := Gap.at (c.skip length)
        if gap.text.isEmpty || (!inFlow && gap.after.column < floor) then (text, gap)
        else
          let (more, last) := plainWords inFlow floor fuel gap
          (text ++ more, last)

/-- A plain scalar, and the gap that follows it. `floor` is the least column of its further
lines. -/
def readPlain (inFlow : Bool) (floor : Nat) (c : Cursor) : List Char × Gap :=
  plainWords inFlow floor (c.rest.length + 1) ⟨[], false, c⟩

end DetectorSearch.Yaml
