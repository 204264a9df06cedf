import DetectorSearch.Failure
import DetectorSearch.Schema.Reader
import DetectorSearch.Value.Conversion
/-! # Detectors and pages

A detector is one hit of a catalog search: an opaque id and the fields of its source document. A
page is what one search gives, in display order, with the count of all hits. In the text of a page
each detector is shown by its id and name, without anything between two of them, and the total
follows the list.
-/

namespace DetectorSearch

/-- One hit of a catalog search. -/
structure Detector where
  id : String
  source : Fields
  deriving Inhabited

namespace Detector

/-- The name in the source document, null when it has none. -/
def name (detector : Detector) : Value :=
  detector.source.get "name"

/-- Reads a detector from its fields. -/
def ofFields (fields : Fields) : Reading Detector :=
  Detector.mk <$> fields.required "id" Reader.text <*> fields.withDefault "source" Reader.object []

end Detector

/-- One page of hits and the count of all hits. -/
structure Page where
  detectors : List Detector
  total : Int

end DetectorSearch

namespace DetectorSearch.Presentation

/-- The entry of one detector. -/
def entry (id name : String) : String :=
  "\x7bid=" ++ id ++ ",name=" ++ name ++ "\x7d"

/-- The entries of detectors with their shown names. -/
def entries (shown : List (String × String)) : String :=
  String.join (shown.map fun (id, name) => entry id name)

/-- The text around the entries. -/
def frame (entries total : String) : String :=
  "AnomalyDetectors=[" ++ entries ++ "]TotalAnomalyDetectors=" ++ total

/-- Ids and names as they are shown; nothing when a name cannot be shown. -/
def shownDetectors : List Detector → Option (List (String × String))
  | [] => some []
  | detector :: rest =>
      match detector.name.display?, shownDetectors rest with
      | some name, some shown => some ((detector.id, name) :: shown)
      | _, _ => none

/-- The text of detectors and a total. -/
def render (detectors : List Detector) (total : Int) : Outcome String :=
  match shownDetectors detectors, integerText? total with
  | some shown, some total => .ok (frame (entries shown) total)
  | _, _ => .error .longInteger

end DetectorSearch.Presentation
