import DetectorSearch.Detector
import DetectorSearch.Query.Clause
import DetectorSearch.Query.Request
import DetectorSearch.Text.Letter
/-! # The catalog in memory

A search filters the documents by the query, sorts the hits by the first value of the sort field
that is not null, puts the hits without such a value at the end and cuts the window out of the
result. Documents keep the order in which they were added where the sort leaves them equal.
-/

namespace DetectorSearch

/-- A part of a list, by the positions where it begins and ends. Negative positions count from the
end of the list. -/
def slice {α : Type} (items : List α) (first last : Int) : List α :=
  let place := fun (position : Int) =>
    if position < 0 then (position + items.length).toNat else min position.toNat items.length
  (items.take (place last)).drop (place first)

/-- The documents that accept a query, in order; the first failure ends the search. -/
def hitsOf (clause : Clause) : List Detector → Outcome (List Detector)
  | [] => .ok []
  | detector :: rest =>
      match clause.accepts detector.source with
      | .error failure => .error failure
      | .ok accepted =>
          match hitsOf clause rest with
          | .error failure => .error failure
          | .ok hits => .ok (if accepted then detector :: hits else hits)

/-- The value that a detector is sorted by: the first of the field that is not null. -/
def sortKey (field : String) (detector : Detector) : Option Value :=
  (Document.values detector.source field).find? fun value => !value.isNull

/-- Whether an order of hits is falling: every order is that is not spelled `asc`. -/
def isDescending (sortOrder : String) : Bool :=
  Text.lowered sortOrder != "asc"

/-- The hits in order, those without a sort key at the end. -/
def ordered (field : String) (descending : Bool) (hits : List Detector) :
    Outcome (List Detector) :=
  let keyed := hits.filter fun detector => (sortKey field detector).isSome
  let unkeyed := hits.filter fun detector => (sortKey field detector).isNone
  match Value.sortBy (fun detector => (sortKey field detector).getD .null) descending keyed with
  | .error failure => .error failure
  | .ok sorted => .ok (sorted ++ unkeyed)

/-- All hits of a request in order, before the window is cut out. -/
def SearchRequest.rankedHits (documents : List Detector) (request : SearchRequest) :
    Outcome (List Detector) :=
  match hitsOf (Clause.ofValue (.object request.query)) documents with
  | .error failure => .error failure
  | .ok hits => ordered request.sortField (isDescending request.sortOrder) hits

/-- The page that a request asks for. -/
def SearchRequest.page (documents : List Detector) (request : SearchRequest) : Outcome Page :=
  match request.rankedHits documents with
  | .error failure => .error failure
  | .ok hits => .ok ⟨slice hits request.start (request.start + request.size), hits.length⟩

/-- A catalog held in memory, with the requests that it was asked, the latest one last. -/
structure Catalog where
  documents : List Detector
  requests : List SearchRequest

namespace Catalog

/-- A catalog that was asked nothing yet. -/
def ofDocuments (documents : List Detector) : Catalog := ⟨documents, []⟩

/-- Adds a document behind the others. -/
def add (catalog : Catalog) (detector : Detector) : Catalog :=
  { catalog with documents := catalog.documents ++ [detector] }

/-- Answers a request and takes note of it. -/
def search (catalog : Catalog) (request : SearchRequest) : Outcome Page × Catalog :=
  (request.page catalog.documents, { catalog with requests := catalog.requests ++ [request] })

end Catalog

end DetectorSearch
