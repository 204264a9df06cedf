import DetectorSearch.Query.Request
import DetectorSearch.Schema.Reader
import DetectorSearch.Settings
import DetectorSearch.State
import DetectorSearch.Value.Conversion
/-! # Parameters of a search

Parameters come as data of no fixed shape, often as texts. Flags and numbers are read from their
texts; an instant that is no number is ignored; a size or start that is no number, or is negative,
is refused. What is left out or null takes its default.
-/

namespace DetectorSearch

/-- The parameters of a search in their types. -/
structure Parameters where
  filter : DetectorFilter
  predicate : StatePredicate
  size : Int
  start : Int
  sortField : String
  sortOrder : SortOrder

namespace Parameters

/-- The form of a value in a sentence; one that is too long to be written is a bad value. -/
def display (value : Value) : Outcome String :=
  match value.display? with
  | some string => .ok string
  | none => .error .longInteger

/-- A flag: null is none, and every other value is true if its text says so. -/
def readFlag (value : Value) : Outcome (Option Bool) :=
  match value with
  | .null => .ok none
  | .bool flag => .ok (some flag)
  | value =>
      match display value with
      | .error failure => .error failure
      | .ok string => .ok (some (Text.lowered (String.ofList (Text.strip string.toList)) = "true"))

/-- Why a number is refused that cannot be read. -/
def notInteger (name : String) (value : Value) : Failure :=
  match value.literal? with
  | some shown => .invalidParameters (name ++ " must be an integer, got " ++ shown)
  | none => .longInteger

/-- Why a number is refused that is negative. -/
def negative (name : String) (number : Int) : Failure :=
  match integerText? number with
  | some shown => .invalidParameters (name ++ " must not be negative, got " ++ shown)
  | none => .longInteger

/-- The integer that a value stands for. -/
def toInteger (name : String) (value : Value) : Outcome Int :=
  match value.toInteger with
  | .ok number => .ok number
  | .error .infinite => .error .endlessInteger
  | .error _ => .error (notInteger name value)

/-- A number that is not negative; null takes the default. -/
def readCount (name : String) (value : Value) (default : Int) : Outcome Int :=
  match value with
  | .null => .ok default
  | value =>
      match toInteger name value with
      | .error failure => .error failure
      | .ok number => if number < 0 then .error (negative name number) else .ok number

/-- An instant in milliseconds; what is no number is ignored. -/
def readInstant (value : Value) : Outcome (Option Int) :=
  match value with
  | .int number => .ok (some number)
  | .text string =>
      let digits := string.toList.filterMap Text.digitValue?
      if string = "" ∨ digits.length ≠ string.toList.length then .ok none
      else if digits.length ≤ digitLimit then .ok (some (Text.digitsValue digits))
      else .error (.longNumeral digits.length)
  | _ => .ok none

/-- A filter from its five values, of which the first three have to be texts or null. -/
def readFilter (name pattern indices : Value) (high : Option Bool) (updated : Option Int) :
    Outcome DetectorFilter :=
  Reading.outcome <|
    DetectorFilter.mk
      <$> Fields.under "detector_name" (Reader.optional Reader.text name)
      <*> Fields.under "detector_name_pattern" (Reader.optional Reader.text pattern)
      <*> Fields.under "indices" (Reader.optional Reader.text indices)
      <*> pure high
      <*> pure updated

/-- The order that a text asks for: falling unless it spells `asc`. -/
def orderOf (string : String) : SortOrder :=
  if Text.lowered string = "asc" then .asc else .desc

/-- Reads parameters. -/
def ofFields (fields : Fields) (defaults : Defaults) : Outcome Parameters := do
  let order ← display (fields.getD "sortOrder" (.text defaults.sortOrder.name))
  let high ← readFlag (fields.get "highCardinality")
  let updated ← readInstant (fields.get "lastUpdateTime")
  let filter ← readFilter (fields.get "detectorName") (fields.get "detectorNamePattern")
    (fields.get "indices") high updated
  let running ← readFlag (fields.get "running")
  let disabled ← readFlag (fields.get "disabled")
  let failed ← readFlag (fields.get "failed")
  let size ← readCount "size" (fields.get "size") defaults.size
  let start ← readCount "startIndex" (fields.get "startIndex") 0
  let sortField ← display (fields.getD "sortString" (.text defaults.sortField))
  return ⟨filter, ⟨running, disabled, failed⟩, size, start, sortField, orderOf order⟩

/-- The request to the catalog that the parameters make. -/
def request (parameters : Parameters) : SearchRequest :=
  ⟨parameters.filter.toQuery, parameters.size, parameters.start, parameters.sortField,
    parameters.sortOrder.name⟩

/-- Whether parameters can be read, as a caller asks it beforehand: what is wrong with them is
answered, while a fault of another kind is passed on. -/
def areValid (fields : Fields) (defaults : Defaults) : Outcome Bool :=
  match ofFields fields defaults with
  | .ok _ => .ok true
  | .error (.invalidParameters _) => .ok false
  | .error failure => if failure.isBadValue then .ok false else .error failure

end Parameters

end DetectorSearch
