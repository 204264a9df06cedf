import DetectorSearch.Value
import DetectorSearch.Yaml.Node
/-! # What scalars stand for

A scalar stands for a value by its tag, one of those that YAML 1.1 knows and PyYAML makes plain
data of. A mapping with the tag of a scalar stands for the scalar under the key of a stand-in.
Octets are written in base sixty-four, in groups of four digits.
-/

namespace DetectorSearch.Yaml

/-- The value of a digit in base sixty-four. -/
def base64Digit? (c : Char) : Option Nat :=
  if 'A' ≤ c ∧ c ≤ 'Z' then some (c.toNat - 'A'.toNat)
  else if 'a' ≤ c ∧ c ≤ 'z' then some (c.toNat - 'a'.toNat + 26)
  else if '0' ≤ c ∧ c ≤ '9' then some (c.toNat - '0'.toNat + 52)
  else if c == '+' then some 62
  else if c == '/' then some 63
  else none

/-- The digits in base sixty-four up to the padding that ends a group of four; `count` is the number
of digits in the group, `pads` that of the equals signs since. Other characters are ignored. -/
def base64Digits? : Nat → Nat → List Char → Option (List Nat)
  | count, _, [] => if count == 0 then some [] else none
  | count, pads, c :: rest =>
      if c == '=' then
        if 2 ≤ count && 4 ≤ count + pads + 1 then some []
        else base64Digits? count (if 2 ≤ count then pads + 1 else pads) rest
      else
        match base64Digit? c with
        | some digit => (base64Digits? ((count + 1) % 4) 0 rest).map (digit :: ·)
        | none => base64Digits? count pads rest

/-- The octets that groups of four digits stand for. -/
def base64Octets : List Nat → List Nat
  | a :: b :: c :: d :: rest =>
      (a * 4 + b / 16) :: (b % 16 * 16 + c / 4) :: (c % 4 * 64 + d) :: base64Octets rest
  | [a, b, c] => [a * 4 + b / 16, b % 16 * 16 + c / 4]
  | [a, b] => [a * 4 + b / 16]
  | _ => []

/-- The octets of a binary scalar. -/
def readOctets (text : List Char) : Except Fault (List Nat) :=
  if text.any (127 < ·.toNat) then .error .badOctets
  else
    match base64Digits? 0 0 text with
    | some digits => .ok (base64Octets digits)
    | none => .error .badOctets

/-- A list of numbers as a value. -/
def numberList (numbers : List Int) : Value :=
  .list (numbers.map .int)

/-- What a scalar stands for. -/
def scalarValue (tag : Tag) (text : List Char) : Except Fault Value :=
  match tag with
  | .null => .ok .null
  | .flag =>
      let word := String.ofList (text.map Char.toLower)
      match Keyed.find? word flagWords with
      | some flag => .ok (.bool flag)
      | none => .error (.noFlag word)
  | .integer => (readInteger text).map .int
  | .real => (readReal text).map .real
  | .text => .ok (.text (String.ofList text))
  | .date => (readDate text).map fun date => numberList date.numbers
  | .octets => (readOctets text).map .octets
  | .merge | .standIn | .unknown => .error .unknownTag
  | _ => .error .wrongShape

namespace Graph

/-- The text of a node that a tag takes for a scalar. A mapping leads on to its stand-in; `steps` bounds
how often. -/
def textOf (graph : Graph) : Nat → Nat → Except Fault (List Char)
  | 0, _ => .error .tooDeep
  | steps + 1, place =>
      match graph.node place with
      | .scalar _ text => .ok text
      | .mapping _ pairs =>
          match pairs.find? fun pair => graph.tag pair.1 == .standIn with
          | some pair => textOf graph steps pair.2
          | none => .error .wrongShape
      | .sequence _ _ => .error .wrongShape

/-- The text of a node that a tag takes for a scalar. -/
def text (graph : Graph) (place : Nat) : Except Fault (List Char) :=
  graph.textOf (graph.size + 1) place

/-- What a node with the tag of a scalar stands for. -/
def scalar (graph : Graph) (place : Nat) : Except Fault Value :=
  match graph.node place with
  | .scalar tag text => scalarValue tag text
  | node =>
      match node.tag with
      | .merge | .standIn | .unknown => .error .unknownTag
      | .date => do let _ ← graph.text place; throw .mappedDate
      | tag => do scalarValue tag (← graph.text place)

end Graph

end DetectorSearch.Yaml
