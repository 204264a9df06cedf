import DetectorSearch.Failure
import DetectorSearch.Text.Glob
import DetectorSearch.Value
import DetectorSearch.Value.Conversion
import DetectorSearch.Value.Sort
/-! # Queries and the documents they accept

A field of a document is named by a path of keys with points between them. The ending `.keyword` asks
for the exact value of a field and is no part of the path. A field with a list has its items as
values, a field that is absent has none.

A query is data. `Clause.ofValue` reads it into a tree of clauses, and `Clause.accepts` says whether
a document satisfies the tree. A query that does not hold, or that has `match_all`, accepts every
document. Of several clause names in one object the first of `bool`, `term`, `wildcard` and `range`
counts. What is wrong with a clause only comes out when the clause is reached: a conjunction stops
at its first clause that the document does not satisfy.
-/

namespace DetectorSearch.Document

/-- The ending that asks for the exact value of a field. -/
def exactEnding : List Char := ".keyword".toList

/-- The name of a field without the ending for its exact value. -/
def plainName (field : List Char) : List Char :=
  if exactEnding.isSuffixOf field then field.take (field.length - exactEnding.length) else field

/-- The keys of a path, one more than it has points. -/
def keys : List Char → List (List Char)
  | [] => [[]]
  | c :: rest =>
      if c == '.' then [] :: keys rest
      else
        match keys rest with
        | [] => [[c]]
        | key :: others => (c :: key) :: others

/-- The value at the end of a path of keys. -/
def follow : List String → Value → Option Value
  | [], value => some value
  | key :: rest, .object fields =>
      match Keyed.find? key fields with
      | some value => follow rest value
      | none => none
  | _ :: _, _ => none

/-- The path of keys that a field name stands for. -/
def path (field : String) : List String :=
  (keys (plainName field.toList)).map String.ofList

/-- The values of a field. -/
def values (source : Fields) (field : String) : List Value :=
  match follow (path field) (.object source) with
  | none => []
  | some (.list items) => items
  | some value => [value]

end DetectorSearch.Document

namespace DetectorSearch

/-- A query as a tree. -/
inductive Clause where
  /-- Accepts every document. -/
  | always
  /-- Accepts what all the clauses accept. -/
  | all (clauses : List Clause)
  /-- Accepts documents with this value among those of the field. -/
  | term (field : String) (expected : Value)
  /-- Accepts documents with a text of this pattern among the values of the field. -/
  | wildcard (field : String) (pattern : Value)
  /-- Accepts documents with a value of the field within the bounds. -/
  | range (field : String) (bounds : Value)
  /-- Fails when it is reached. -/
  | broken (failure : Failure)

namespace Clause

/-- A clause that fails because a value was used as something it is not. -/
def misused (what : Misuse) : Clause :=
  broken (.misuse what)

/-- The failure for a query that knows no clause name. `shown` are the names it has instead. -/
def unsupported (shown : Option String) : Failure :=
  match shown with
  | some names => .searchUnavailable ("Unsupported query clause: " ++ names)
  | none => .longInteger

/-- Keys in order, as a list in its exact form. -/
def shownKeys (keys : List String) : Option String :=
  Value.literal? (.list ((keys.mergeSort fun a b => !decide (Text.codes b < Text.codes a)).map Value.text))

/-- The failure for a clause whose count of fields is not one. -/
def notOneField (count : Nat) : Failure :=
  .fault .badValue <|
    if count = 0 then "not enough values to unpack (expected 1, got 0)"
    else "too many values to unpack (expected 1)"

/-- The parts `field` and `value` of a clause with exactly one field. -/
def withField (make : String → Value → Clause) (clause : Value) : Clause :=
  match clause with
  | .object [(field, value)] => make field value
  | .object fields => broken (notOneField fields.length)
  | value => misused (.noMember value.kindName "items")

/-- The value of an operand that may be wrapped in an object with a field `value`. -/
def operand : Value → Value
  | .object fields => Fields.get "value" fields
  | value => value

/-- The clause under a name other than `bool`. -/
def named? (name : String) (clause : Value) : Option Clause :=
  if name = "term" then some (withField (fun field value => term field (operand value)) clause)
  else if name = "wildcard" then
    some (withField (fun field value => wildcard field (operand value)) clause)
  else if name = "range" then some (withField range clause)
  else none

/-- The clause names in the order in which they count, `bool` apart. -/
def leafNames : List String := ["term", "wildcard", "range"]

/-- The first leaf clause that an object has. -/
def leafOf (fields : Fields) : Clause :=
  match leafNames.findSome? fun name => (fields.find? name).bind (named? name) with
  | some clause => clause
  | none => broken (unsupported (shownKeys (fields.map Prod.fst)))

/-- All names that a query can have. -/
def names : List String := ["bool", "term", "wildcard", "range"]

/-- Whether one text occurs in another. -/
def occurs (part whole : List Char) : Bool :=
  (List.range (whole.length + 1)).any fun start => part.isPrefixOf (whole.drop start)

/-- A query that is a text: a name that occurs in it is found but cannot be taken out. -/
def ofText (string : String) : Clause :=
  if string = "" ∨ occurs "match_all".toList string.toList then always
  else if names.any fun name => occurs name.toList string.toList then misused .textIndex
  else broken (unsupported (shownKeys (string.toList.map fun c => c.toString)))

/-- A query that is a list: a name among its items is found but cannot be taken out. -/
def ofItems (items : List Value) : Clause :=
  let has := fun name => items.any fun item => (Value.text name).equal item
  if items.isEmpty || has "match_all" then always
  else if names.any has then misused .listIndex
  else
    match Value.sortBy id false items with
    | .ok sorted => broken (unsupported (Value.literal? (.list sorted)))
    | .error failure => broken failure

/-- A query without parts: one that holds cannot be searched for names. -/
def ofScalar (value : Value) : Clause :=
  if value.holds then misused .wrongKind else always

mutual

/-- Reads a query. -/
def ofValue : Value → Clause
  | .object fields =>
      if fields.isEmpty || Keyed.has "match_all" fields then always
      else
        match boolIn fields with
        | some clause => clause
        | none => leafOf fields
  | .list items => ofItems items
  | .text string => ofText string
  | value => ofScalar value

/-- The clause under `bool`, if the fields have it. -/
def boolIn : List (String × Value) → Option Clause
  | [] => none
  | (key, value) :: rest => if key = "bool" then some (boolOf value) else boolIn rest

/-- The conjunction of a `bool` clause: what it must have, then what it filters by. -/
def boolOf : Value → Clause
  | .object fields =>
      match partIn "must" fields, partIn "filter" fields with
      | .error failure, _ => broken failure
      | .ok _, .error failure => broken failure
      | .ok must, .ok filter => all (must ++ filter)
  | value => misused (.noMember value.kindName "get")

/-- The clauses of one part of a `bool` clause, none if the part is absent. -/
def partIn (name : String) : List (String × Value) → Outcome (List Clause)
  | [] => .ok []
  | (key, value) :: rest => if key = name then clausesOf value else partIn name rest

/-- The clauses that a value lists: the items of a list, the keys of an object, the characters of
a text. -/
def clausesOf : Value → Outcome (List Clause)
  | .list items => .ok (ofEach items)
  | .object fields => .ok (fields.map fun field => ofText field.1)
  | .text string => .ok (string.toList.map fun c => ofText c.toString)
  | value => .error (.misuse (.notIterable value.kindName))

/-- Reads each of several queries. -/
def ofEach : List Value → List Clause
  | [] => []
  | item :: rest => ofValue item :: ofEach rest

end

/-- The bounds of a range, with the order in which they count. -/
def boundNames : List (String × Relation) :=
  [("gte", .greaterOrEqual), ("gt", .greater), ("lte", .lessOrEqual), ("lt", .less)]

/-- A test on a value, `stop` when it could not be made. -/
abbrev Test := Outcome Bool

/-- Whether a value satisfies one bound, absent bounds included. -/
def satisfiesBound (value : Value) (bounds : Fields) (name : String) (relation : Relation) :
    Test :=
  match bounds.find? name with
  | none => .ok true
  | some bound =>
      match value.relate? relation bound with
      | some holds => .ok holds
      | none => .error (.misuse .wrongKind)

/-- Whether all tests succeed; the first that does not decides. -/
def allTests {α : Type} (test : α → Test) : List α → Test
  | [] => .ok true
  | item :: rest =>
      match test item with
      | .ok true => allTests test rest
      | other => other

/-- Whether some test succeeds; the first that does, or cannot be made, decides. -/
def anyTest {α : Type} (test : α → Test) : List α → Test
  | [] => .ok false
  | item :: rest =>
      match test item with
      | .ok false => anyTest test rest
      | other => other

/-- Whether a value lies within bounds that are no object: it does unless a bound is found there,
which then cannot be taken out. -/
def withinOther (bounds : Value) : Test :=
  match bounds with
  | .list items =>
      let found := boundNames.any fun (name, _) => items.any fun item => (Value.text name).equal item
      if found then .error (.misuse .listIndex) else .ok true
  | .text string =>
      let found := boundNames.any fun (name, _) => occurs name.toList string.toList
      if found then .error (.misuse .textIndex) else .ok true
  | _ => .error (.misuse .wrongKind)

/-- Whether a value lies within bounds; null never does. -/
def within (bounds : Value) (value : Value) : Test :=
  match value with
  | .null => .ok false
  | value =>
      match bounds with
      | .object fields =>
          allTests (fun (name, relation) => satisfiesBound value fields name relation) boundNames
      | bounds => withinOther bounds

/-- Whether a value is a text of the pattern; a pattern that is no text can only be used on values
that are no texts. -/
def fitsPattern (pattern : Value) (value : Value) : Test :=
  match value with
  | .text string =>
      match pattern with
      | .text glob => .ok ((Text.Glob.read glob.toList).accepts string.toList)
      | _ => .error (.misuse .wrongKind)
  | _ => .ok false

mutual

/-- Whether a document satisfies a clause. -/
def accepts (source : Fields) : Clause → Test
  | always => .ok true
  | all clauses => acceptsAll source clauses
  | term field expected => .ok ((Document.values source field).any expected.equal)
  | wildcard field pattern => anyTest (fitsPattern pattern) (Document.values source field)
  | range field bounds => anyTest (within bounds) (Document.values source field)
  | broken failure => .error failure

/-- Whether a document satisfies all clauses; the first that it does not, or that fails,
decides. -/
def acceptsAll (source : Fields) : List Clause → Test
  | [] => .ok true
  | clause :: rest =>
      match accepts source clause with
      | .ok true => acceptsAll source rest
      | other => other

end

end Clause

/-- Whether a document satisfies a query. -/
def Document.satisfies (source : Fields) (query : Value) : Outcome Bool :=
  (Clause.ofValue query).accepts source

end DetectorSearch
