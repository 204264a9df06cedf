import DetectorSearch.Enrichment.Schedule
import DetectorSearch.Profile
import DetectorSearch.Session
/-! # Looking up states

A state is looked up in memory or asked of a server, which replies with a profile of the detector.
An enrichment looks up every detector of a page at once and keeps those in the states asked for.
-/

namespace DetectorSearch.StatusLookup

variable {σ : Type}

/-- What stands in front of the id in the place of a profile. -/
def targetHead : List Char := "/_plugins/_anomaly_detection/detectors/".toList

/-- What stands behind the id in the place of a profile. -/
def targetTail : List Char := "/_profile/state".toList

/-- Where the profile of a detector is asked for. -/
def target (id : String) : List Char :=
  targetHead ++ id.toList ++ targetTail

/-- The status in a reply to the request for a profile. `words` tell what is wrong with it. -/
def readReply (words : Value → Complaints → String) (id : String) (address : Http.Address)
    (reply : Outcome Http.Reply) : Outcome Status := do
  let reply ← reply
  let payload ← reply.payload address
  (Profile.read (some id) payload).mapError (Failure.worded (words payload))

/-- Asks a server for the profile of a detector. -/
def askServer (around : Surroundings σ) (link : Link) (id : String) : Op σ Answer := do
  let connection ← Session.connect link fun link session =>
    { session with status := .server link }
  let address ← Session.ofOutcome (connection.base.locate (target id))
  Session.ofOutcome address.check
  let exchange ← Session.send around ⟨.get, address, connection.user, none⟩
  return ⟨exchange.wait, readReply around.words id address exchange.reply⟩

/-- What a lookup of an id comes to. A lookup that cannot be made fails without waiting. -/
def answer (around : Surroundings σ) (id : String) : Op σ Answer := do
  match (← get).status with
  | .memory service => return service.answer id
  | .server link =>
      tryCatch (askServer around link id) fun failure => return ⟨none, .error failure⟩

/-- The events that an observer of the backend sees: lookups show in memory only. -/
def visible (backend : StatusBackend) (events : List Event) : List Event :=
  match backend with
  | .memory _ => events
  | .server _ => (Event.records events).map .logged

/-- Takes note of what an observer of the backend sees. -/
def record (events : List Event) : Op σ Unit := do
  Session.record (visible (← get).status events)

/-- Looks up the status of one detector. -/
def fetch (around : Surroundings σ) (id : String) : Op σ Status := do
  let answer ← answer around id
  let (clock, ending, events) := answer.alone (← get).clock id
  record events
  modify fun session => { session with clock }
  Session.ofOutcome ending

/-- Keeps the detectors of a page that are in the states asked for, within a span of time. -/
def enrich (around : Surroundings σ) (request : EnrichRequest) : Op σ (List Detector) := do
  let answers ←
    if request.predicate.isActive then request.page.mapM fun detector => answer around detector.id
    else pure []
  let schedule := enrichAll (← get).clock none [(request, answers)]
  record schedule.events
  modify fun session => { session with clock := schedule.clock }
  Session.ofOutcome (schedule.verdicts.headD (.ok request.page))

/-- Opens the connection to the status service, if it needs one. -/
def connect : Op σ Unit := do
  match (← get).status with
  | .memory _ => return ()
  | .server link =>
      let _ ← Session.connect link fun link session => { session with status := .server link }
      return ()

/-- Closes the connection to the status service, if it has one of its own. -/
def disconnect : Op σ Unit :=
  modify fun session =>
    match session.status with
    | .memory _ => session
    | .server link => { session with status := .server link.disconnect }

end DetectorSearch.StatusLookup
