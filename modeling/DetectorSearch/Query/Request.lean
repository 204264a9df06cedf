import DetectorSearch.Schema.Reader
/-! # Filters and search requests

A filter constrains up to five axes of a detector. Its query is a conjunction with one clause for
each axis that is present, in a fixed order; a filter without axes makes an empty conjunction, which
every document satisfies. A request holds a query, a window on the hits and the order of the hits. Its
body is the form in which it is sent to a server.
-/

namespace DetectorSearch

/-- Optional constraints on the documents of the catalog. -/
structure DetectorFilter where
  detectorName : Option String
  namePattern : Option String
  indices : Option String
  highCardinality : Option Bool
  lastUpdateTime : Option Int
  deriving DecidableEq, Repr

namespace DetectorFilter

/-- The filter that constrains nothing. -/
def none : DetectorFilter := ⟨.none, .none, .none, .none, .none⟩

/-- Reads a filter from its fields. -/
def ofFields (fields : Fields) : Reading DetectorFilter :=
  DetectorFilter.mk
    <$> fields.optional "detector_name" Reader.text
    <*> fields.optional "detector_name_pattern" Reader.text
    <*> fields.optional "indices" Reader.text
    <*> fields.optional "high_cardinality" Reader.flag
    <*> fields.optional "last_update_time" Reader.integer

/-- An object with one field. -/
def single (key : String) (value : Value) : Value :=
  .object [(key, value)]

/-- The clause for an exact value of a field. -/
def term (field : String) (value : Value) : Value :=
  single "term" (single field value)

/-- The clause for a pattern of a field. -/
def wildcard (field pattern : String) : Value :=
  single "wildcard" (single field (.text pattern))

/-- The type of detectors that work on one or on many entities. -/
def detectorType (highCardinality : Bool) : String :=
  if highCardinality then "MULTI_ENTITY" else "SINGLE_ENTITY"

/-- The clause for an update at or after an instant. -/
def updatedSince (epochMillis : Int) : Value :=
  let range := single "range" (single "last_update_time" (single "gte" (.int epochMillis)))
  single "bool" (single "filter" (.list [range]))

/-- The clauses of the axes that are present. -/
def clauses (filter : DetectorFilter) : List Value :=
  [filter.detectorName.map fun name => term "name.keyword" (.text name),
   filter.namePattern.map fun pattern => wildcard "name.keyword" pattern,
   filter.indices.map fun index => term "indices" (.text index),
   filter.highCardinality.map fun high => term "detector_type" (.text (detectorType high)),
   filter.lastUpdateTime.map updatedSince].filterMap id

/-- The query of a filter: one clause for each axis that is present. -/
def toQuery (filter : DetectorFilter) : Fields :=
  [("bool", single "must" (.list filter.clauses))]

end DetectorFilter

/-- One search of the catalog. -/
structure SearchRequest where
  query : Fields
  size : Int
  start : Int
  sortField : String
  sortOrder : String

namespace SearchRequest

/-- The field that hits are sorted by unless another is asked for. -/
def defaultSortField : String := "name.keyword"

/-- Reads a request from its fields. -/
def ofFields (fields : Fields) : Reading SearchRequest :=
  SearchRequest.mk
    <$> fields.withDefault "query" Reader.object DetectorFilter.none.toQuery
    <*> fields.withDefault "size" Reader.integer 20
    <*> fields.withDefault "start_index" Reader.integer 0
    <*> fields.withDefault "sort_string" Reader.text defaultSortField
    <*> fields.withDefault "sort_order" Reader.text "asc"

/-- The request as it is sent. -/
def body (request : SearchRequest) : Value :=
  .object
    [("query", .object request.query),
     ("size", .int request.size),
     ("from", .int request.start),
     ("sort", .list [.object [(request.sortField,
       .object [("order", .text request.sortOrder)])]])]

end SearchRequest

end DetectorSearch
