import DetectorSearch.Text.Character
import DetectorSearch.Yaml.Cursor
import DetectorSearch.Yaml.Fault
/-! # Quoted scalars

The quoted scalars of YAML 1.1. Between single quotes a quote is written twice. Between double
quotes a backslash begins an escape, one of those that PyYAML knows. In both, gaps that cross lines
are folded.
-/

namespace DetectorSearch.Yaml

/-- The character of an escape of one letter. -/
def escaped? : Char → Option Char
  | '0' => some '\x00'
  | 'a' => some '\x07'
  | 'b' => some '\x08'
  | 't' => some '\t'
  | '\t' => some '\t'
  | 'n' => some '\n'
  | 'v' => some '\x0b'
  | 'f' => some '\x0c'
  | 'r' => some '\r'
  | 'e' => some '\x1b'
  | ' ' => some ' '
  | '"' => some '"'
  | '\\' => some '\\'
  | '/' => some '/'
  | 'N' => some '\x85'
  | '_' => some '\xa0'
  | 'L' => some '\u2028'
  | 'P' => some '\u2029'
  | _ => none

/-- How many hexadecimal digits an escape by number has. -/
def escapeDigits? : Char → Option Nat
  | 'x' => some 2
  | 'u' => some 4
  | 'U' => some 8
  | _ => none

/-- The empty lines inside quotes, and the place of the next word. -/
def quotedLines : Nat → Cursor → Except Fault (List Char × Cursor)
  | 0, c => .ok ([], c)
  | fuel + 1, c =>
      if c.isAtMarker then .error .markerInQuotes
      else
        let c := c.skipWhile isSpace
        match c.rest with
        | [] => .ok ([], c)
        | first :: _ =>
            if isBreak first then
              match quotedLines fuel c.next with
              | .ok (more, after) => .ok (keptBreak first :: more, after)
              | .error fault => .error fault
            else .ok ([], c)

/-- A gap inside quotes. -/
def quotedGap (c : Cursor) : Except Fault (List Char × Cursor) :=
  let spaces := c.rest.takeWhile isSpace
  let c := c.skip spaces.length
  match c.rest with
  | [] => .error .unclosedQuote
  | first :: _ =>
      if isBreak first then
        match quotedLines c.rest.length c.next with
        | .ok (more, after) => .ok (folded (keptBreak first) more, after)
        | .error fault => .error fault
      else .ok (spaces, c)

/-- What an escape stands for; the place is that behind its backslash. -/
def readEscape (c : Cursor) : Except Fault (List Char × Cursor) :=
  match c.rest with
  | [] => .error .badEscape
  | letter :: rest =>
      match escaped? letter, escapeDigits? letter with
      | some plain, _ => .ok ([plain], c.next)
      | none, some count =>
          let digits := rest.take count
          match Text.hexNumber? digits with
          | some code =>
              if digits.length < count then .error .badEscape
              else if 0x10FFFF < code then .error (.noCharacter code)
              else .ok ([Text.charOfCode code], c.next.skip count)
          | none => .error .badEscape
      | none, none =>
          if isBreak letter then quotedLines c.rest.length c.next else .error .badEscape

/-- The text up to the closing quote and the place behind it; `done` is the text before, its last
character first. -/
def quotedText (double : Bool) : Nat → List Char → Cursor → Except Fault (List Char × Cursor)
  | 0, _, _ => .error .unclosedQuote
  | fuel + 1, done, c =>
      match c.rest with
      | [] => .error .unclosedQuote
      | first :: rest =>
          if first == (if double then '"' else '\'') then
            if !double && rest.head? == some '\'' then
              quotedText double fuel ('\'' :: done) (c.skip 2)
            else .ok (done.reverse, c.next)
          else if double && first == '\\' then
            match readEscape c.next with
            | .ok (text, after) => quotedText double fuel (text.reverse ++ done) after
            | .error fault => .error fault
          else if isGap first then
            match quotedGap c with
            | .ok (text, after) => quotedText double fuel (text.reverse ++ done) after
            | .error fault => .error fault
          else quotedText double fuel (first :: done) c.next

/-- A quoted scalar that begins with its quote, and the place behind it. -/
def readQuoted (double : Bool) (c : Cursor) : Except Fault (List Char × Cursor) :=
  quotedText double (c.rest.length + 1) [] c.next

end DetectorSearch.Yaml
