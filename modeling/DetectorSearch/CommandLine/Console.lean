import DetectorSearch.Decimal.Real
/-! # The console

What a command takes from the place that it runs in: how the text of an option is read as a number,
and whether its output is shown on a terminal. The standard console is as the command line library
(typer) documents it. An integer or a real is read by the general rule for numbers in text. A line
may hold codes that colour it on a terminal, and goes elsewhere without them. A code begins with an
escape character and an opening bracket, goes on with digits, semicolons and question marks, and ends
in a letter of ASCII.
-/

namespace DetectorSearch.CommandLine

/-- The place that a command runs in. -/
structure Console where
  /-- The integer that the text of an option spells. -/
  integer? : String → Option Int
  /-- The real that the text of an option spells. -/
  real? : String → Option Float
  /-- Whether the output is shown on a terminal. -/
  onTerminal : Bool

namespace Console

/-- The console that reads numbers by the general rule. -/
def standard (onTerminal : Bool) : Console :=
  ⟨fun text => readInteger? text.toList, fun text => readReal? text.toList, onTerminal⟩

/-! ## Codes in a line -/

/-- The escape character. -/
def escape : Char := '\x1b'

/-- Whether a character may stand between the beginning and the end of a code. -/
def isParameter (c : Char) : Bool :=
  c == ';' || c == '?' || isAsciiDigit c

/-- Count of the characters of a code behind its bracket, if it has an end. -/
def codeTail? : List Char → Option Nat
  | [] => none
  | c :: rest =>
      if isParameter c then (codeTail? rest).map (· + 1)
      else if c.isAlpha then some 1
      else none

/-- Count of the characters of the code that a text begins with, if it begins with one. -/
def codeLength? : List Char → Option Nat
  | c :: '[' :: rest => if c == escape then (codeTail? rest).map (· + 2) else none
  | _ => none

/-- The characters of a text that belong to no code. `left` counts those in front that still belong to
the code before. -/
def outsideCodes : Nat → List Char → List Char
  | _, [] => []
  | left + 1, _ :: rest => outsideCodes left rest
  | 0, c :: rest =>
      match codeLength? (c :: rest) with
      | some length => outsideCodes (length - 1) rest
      | none => c :: outsideCodes 0 rest

/-- A text without its codes. -/
def plain (text : String) : String :=
  String.ofList (outsideCodes 0 text.toList)

example : outsideCodes 0 [escape, '[', '3', '1', 'm', 'a', escape, '[', '0', 'm', escape, '['] =
    ['a', escape, '['] := by decide

/-! ## Lines that are written -/

/-- A text in red. -/
def red (text : String) : String :=
  "\x1b[31m" ++ text ++ "\x1b[0m"

/-- A text as it is written, with the end of its line. -/
def echo (console : Console) (text : String) : String :=
  if console.onTerminal then text ++ "\n" else plain (text ++ "\n")

end Console

end DetectorSearch.CommandLine
