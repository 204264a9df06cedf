/-! # Glob patterns

A pattern is read into pieces: a star takes any text, a question mark any one character, a bracket
one character of a class, and every other character itself. The whole text has to be taken.

A bracket is closed by the first `]` after its first member; one that is never closed stands for
itself. A leading `!` turns a class around. A hyphen between two members makes a range, except one
that directly follows the end of a range. A range whose ends are in the wrong order is dropped with
both its ends.

`Glob.accepts` works with rows: the row of a pattern says for each suffix of the text whether the
pattern takes it, and the row of a longer pattern is found from that of its rest.
-/

namespace DetectorSearch.Text

/-- A member of a class of characters. -/
inductive ClassMember where
  | one (c : Char)
  | range (first last : Char)
  deriving DecidableEq, Repr

/-- Whether a character is a member. -/
def ClassMember.holds (c : Char) : ClassMember → Bool
  | one d => c == d
  | range first last => first ≤ c && c ≤ last

/-- A piece of a pattern. -/
inductive GlobPiece where
  | star
  | anyOne
  | exactly (c : Char)
  | oneOf (negated : Bool) (members : List ClassMember)
  deriving DecidableEq, Repr

namespace GlobPiece

/-- Whether a piece other than a star takes a character. -/
def takes (piece : GlobPiece) (c : Char) : Bool :=
  match piece with
  | star => false
  | anyOne => true
  | exactly d => c == d
  | oneOf negated members => members.any (·.holds c) != negated

end GlobPiece

namespace Bracket

/-- A symbol inside a bracket: a character, or the hyphen of a range. -/
inductive Symbol where
  | char (c : Char)
  | hyphen
  deriving DecidableEq, Repr

/-- Cuts the inside of a bracket at its range hyphens. `skip` counts the characters in front of
which no range hyphen can stand; `part` is the part so far, its last character first. -/
def parts : Nat → List Char → List Char → List (List Char)
  | _, part, [] => [part.reverse]
  | 0, part, c :: rest =>
      if c == '-' then part.reverse :: parts 2 [] rest else parts 0 (c :: part) rest
  | skip + 1, part, c :: rest => parts skip (c :: part) rest

/-- An empty last part says that the last hyphen stands for itself. -/
def closeParts : List (List Char) → List (List Char)
  | [] => []
  | [part] => [part]
  | [part, []] => [part ++ ['-']]
  | part :: rest => part :: closeParts rest

/-- Drops every range with its ends in the wrong order, the last range first. -/
def dropEmptyRanges : List (List Char) → List (List Char)
  | [] => []
  | part :: rest =>
      match dropEmptyRanges rest with
      | [] => [part]
      | next :: others =>
          match part.getLast?, next with
          | some last, first :: after =>
              if first < last then (part.dropLast ++ after) :: others else part :: next :: others
          | _, _ => part :: next :: others

/-- The symbols of a bracket that has been cut at its range hyphens. -/
def symbols (parts : List (List Char)) : List Symbol :=
  List.flatten (List.intersperse [Symbol.hyphen] (parts.map (·.map Symbol.char)))

/-- The members that symbols stand for. A hyphen without a member on both sides stands for
itself. -/
def members : List Symbol → List ClassMember
  | [] => []
  | .char first :: .hyphen :: .char last :: rest => .range first last :: members rest
  | .char c :: rest => .one c :: members rest
  | .hyphen :: rest => .one '-' :: members rest

/-- How many characters at the start of a bracket cannot be a range hyphen. -/
def leading : List Char → Nat
  | '!' :: _ => 2
  | _ => 1

/-- The piece of a bracket with the given inside. -/
def piece (inside : List Char) : GlobPiece :=
  let all := symbols (dropEmptyRanges (closeParts (parts (leading inside) [] inside)))
  match all with
  | .char '!' :: rest => .oneOf true (members rest)
  | all => .oneOf false (members all)

/-- Cuts at the closing bracket; nothing when there is none. The first member may be a closing
bracket itself. -/
def split? (s : List Char) : Option (List Char × List Char) :=
  let negation := s.takeWhile (· == '!') |>.take 1
  let rest := s.drop negation.length
  let first := rest.takeWhile (· == ']') |>.take 1
  let rest := rest.drop first.length
  let inside := rest.takeWhile (· != ']')
  match rest.drop inside.length with
  | [] => none
  | _ :: after => some (negation ++ first ++ inside, after)

end Bracket

/-- A pattern as a list of pieces. -/
abbrev Glob := List GlobPiece

namespace Glob

/-- Reads a pattern. Each step takes a character at least, so the length bounds the steps. -/
def ofChars : Nat → List Char → Glob
  | _, [] => []
  | 0, _ => []
  | fuel + 1, c :: rest =>
      if c == '*' then .star :: ofChars fuel rest
      else if c == '?' then .anyOne :: ofChars fuel rest
      else if c == '[' then
        match Bracket.split? rest with
        | some (inside, after) => Bracket.piece inside :: ofChars fuel after
        | none => .exactly c :: ofChars fuel rest
      else .exactly c :: ofChars fuel rest

/-- Reads a pattern. -/
def read (pattern : List Char) : Glob :=
  ofChars pattern.length pattern

/-- For each suffix of a list of truths, whether one of them holds. -/
def someLater : List Bool → List Bool
  | [] => []
  | b :: rest =>
      let later := someLater rest
      (b || later.headD false) :: later

/-- For each suffix of the text, whether the pattern takes it all. -/
def row : Glob → List Char → List Bool
  | [], s => s.map (fun _ => false) ++ [true]
  | .star :: rest, s => someLater (row rest s)
  | piece :: rest, s => List.zipWith (fun c b => piece.takes c && b) s (row rest s).tail ++ [false]

/-- Whether the pattern takes the whole text. -/
def accepts (glob : Glob) (s : List Char) : Bool :=
  (row glob s).headD false

end Glob

example : (Glob.read ['a', '*', '[', 'b', '-', 'd', ']']).accepts ['a', 'x', 'c'] = true := by
  decide

example : (Glob.read ['[', '!', 'b', ']']).accepts ['b'] = false := by decide

example : Glob.read ['[', 'b'] = [.exactly '[', .exactly 'b'] := by decide

end DetectorSearch.Text
