import DetectorSearch.Keyed
/-! # Dynamic values

Documents of the catalog, replies of a service, query clauses and tool parameters are data of no
fixed shape. `Value` is that data. Objects keep their fields in the order in which the keys were
first written; a key written again keeps its place and takes the new value.

Integers and reals are kept apart (`1` and `1.0` are two values), although the order of values in
`DetectorSearch.Value.Order` compares them exactly as numbers.
-/

namespace DetectorSearch

/-- Data of no fixed shape. -/
inductive Value where
  | null
  | bool (flag : Bool)
  | int (number : Int)
  | real (number : Float)
  | text (string : String)
  /-- Bytes; JSON has none, other formats do. -/
  | octets (bytes : List Nat)
  | list (items : List Value)
  | object (fields : List (String × Value))
  deriving Inhabited

/-- The fields of an object, keys in order of first writing. -/
abbrev Fields := Keyed Value

namespace Value

/-- The kind of a value, in the words that error texts use. -/
def kindName : Value → String
  | null => "NoneType"
  | bool _ => "bool"
  | int _ => "int"
  | real _ => "float"
  | text _ => "str"
  | octets _ => "bytes"
  | list _ => "list"
  | object _ => "dict"

/-- Null, false, zero and everything empty do not hold; all else does. -/
def holds : Value → Bool
  | null => false
  | bool flag => flag
  | int number => number ≠ 0
  | real number => !(number == 0)
  | text string => string ≠ ""
  | octets bytes => !bytes.isEmpty
  | list items => !items.isEmpty
  | object fields => !fields.isEmpty

/-- The value itself if it holds, else the other one. -/
def orElse (value other : Value) : Value :=
  if value.holds then value else other

/-- Whether the value is null. -/
def isNull : Value → Bool
  | null => true
  | _ => false

end Value

/-- The value under a key, another one when the key is absent. -/
def Fields.getD (key : String) (fields : Fields) (default : Value) : Value :=
  (fields.find? key).getD default

/-- The value under the key, null when there is none. -/
def Fields.get (key : String) (fields : Fields) : Value :=
  fields.getD key .null

end DetectorSearch
