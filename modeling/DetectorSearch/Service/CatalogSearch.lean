import DetectorSearch.Json.Writer
import DetectorSearch.Session
import DetectorSearch.Value.Conversion
/-! # Searching the catalog

A search is answered from memory or by a server. The server gets the body of the request and replies
with hits and a total. A request that breaks, a reply that is not one of success and a reply that is
no JSON make the search unavailable, and so does a reply in which hits are looked for in vain. A body
that cannot be quoted is not sent.
-/

namespace DetectorSearch.CatalogSearch

variable {σ : Type}

/-- Where searches are sent. -/
def target : List Char := "/_plugins/_anomaly_detection/detectors/_search".toList

/-- A field taken out of a value. -/
def subscript (key : String) : Value → Outcome Value
  | .object fields =>
      match Keyed.find? key fields with
      | some value => .ok value
      | none => .error (.misuse (.missingKey key))
  | .list _ => .error (.misuse .listIndex)
  | .text _ => .error (.misuse .textIndex)
  | value => .error (.misuse (.notSubscriptable value.kindName))

/-- A field asked of a value, with a default when it is absent. -/
def ask (key : String) (default : Value) : Value → Outcome Value
  | .object fields => .ok (Fields.getD key fields default)
  | value => .error (.misuse (.noMember value.kindName "get"))

/-- The items of a value: of a list its items, of an object its keys, of a text its characters. -/
def itemsOf : Value → Outcome (List Value)
  | .list items => .ok items
  | .object fields => .ok (fields.map fun field => .text field.1)
  | .text string => .ok (string.toList.map fun c => .text c.toString)
  | value => .error (.misuse (.notIterable value.kindName))

/-- Reads a detector from a hit. -/
def readHit (hit : Value) : Outcome Detector := do
  let id ← subscript "_id" hit
  let source ← ask "_source" .null hit
  match Detector.ofFields [("id", id), ("source", source.orElse (.object []))] with
  | .ok detector => .ok detector
  | .error complaints => .error (.invalid complaints)

/-- Reads a detector from each hit. -/
def readHits : List Value → Outcome (List Detector)
  | [] => .ok []
  | hit :: rest => do
      let detector ← readHit hit
      let detectors ← readHits rest
      return detector :: detectors

/-- The total that a reply tells, the count of its hits when it tells none. -/
def readTotal (count : Nat) (hits : Value) : Outcome Value := do
  let total ← ask "total" (.int count) hits
  match total with
  | .object fields => .ok (Fields.getD "value" fields (.int count))
  | total => .ok total

/-- The detectors of a reply and its total as it is told. -/
def readParts (payload : Value) : Outcome (List Detector × Value) := do
  let hits ← subscript "hits" payload
  let items ← ask "hits" (.list []) hits
  let detectors ← readHits (← itemsOf items)
  let total ← readTotal detectors.length hits
  return (detectors, total)

/-- A total as an integer. -/
def totalNumber (total : Value) : Outcome Int :=
  match total.toInteger with
  | .ok number => .ok number
  | .error fault => .error fault.failure

/-- Reads a page from the payload of a reply. -/
def readPage (payload : Value) : Outcome Page :=
  match readParts payload with
  | .error (.misuse what) =>
      .error (.searchUnavailable ("Malformed search response: " ++ what.report))
  | .error failure => .error failure
  | .ok (detectors, total) =>
      match totalNumber total with
      | .error failure => .error failure
      | .ok total => .ok ⟨detectors, total⟩

/-- The message about a search that failed. -/
def failedMessage (failure : Failure) : String :=
  "Failed to search anomaly detectors: " ++ failure.message

/-- Whether a failure on the way to the payload makes the search unavailable. -/
def isUnavailable (failure : Failure) : Bool :=
  failure.isTransport || failure.isBadValue

/-- Sends a request to the server and waits for the payload of the reply. -/
def payloadOf (around : Surroundings σ) (connection : Connection) (request : SearchRequest) :
    Op σ Value := do
  let body := request.body
  let address ← Session.ofOutcome (connection.base.locate target)
  let _ ← Session.ofOutcome (Json.encode body)
  Session.ofOutcome address.check
  let exchange ← Session.send around ⟨.post, address, connection.user, some body⟩
  exchange.wait.forM Session.sleep
  let reply ← Session.ofOutcome exchange.reply
  Session.ofOutcome (reply.payload address)

/-- Checks that a body can be quoted: the search quotes it to whoever traces it. -/
def quotable (body : Value) : Outcome Unit :=
  match body.literal? with
  | some _ => .ok ()
  | none => .error .longInteger

/-- Searches by way of a server. -/
def byServer (around : Surroundings σ) (link : Link) (request : SearchRequest) : Op σ Page := do
  let connection ← Session.connect link fun link session =>
    { session with search := .server link }
  Session.ofOutcome (quotable request.body)
  let payload ← tryCatch (payloadOf around connection request) fun failure =>
    if isUnavailable failure then do
      Session.log .error .serverSearch (failedMessage failure)
      throw (.searchUnavailable (failedMessage failure))
    else throw failure
  Session.ofOutcome (readPage payload)

/-- Searches the catalog. -/
def search (around : Surroundings σ) (request : SearchRequest) : Op σ Page := do
  match (← get).search with
  | .memory catalog =>
      let (page, catalog) := catalog.search request
      modify fun session => { session with search := .memory catalog }
      Session.ofOutcome page
  | .server link => byServer around link request

/-- Opens the connection to the catalog, if it needs one. -/
def connect : Op σ Unit := do
  match (← get).search with
  | .memory _ => return ()
  | .server link =>
      let _ ← Session.connect link fun link session => { session with search := .server link }
      return ()

/-- Closes the connection to the catalog, if it has one of its own. -/
def disconnect : Op σ Unit :=
  modify fun session =>
    match session.search with
    | .memory _ => session
    | .server link => { session with search := .server link.disconnect }

end DetectorSearch.CatalogSearch
