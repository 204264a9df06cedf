import DetectorSearch.Journal
import DetectorSearch.Keyed
import DetectorSearch.State
/-! # Lookups

A lookup asks a service for the status of one detector. What the service will do is its answer: how
long it waits, and how it ends. A lookup that waits a positive span is due at an instant; one that
waits for nothing or less gives up its turn once; one that does not wait ends in its first turn. A
span that is no number leads to no instant: such a lookup is not due before any other.

The status service in memory knows what it finds out about a detector, a state or a failure, and how
long it waits before it says so. It waits for nothing where no wait is set, and finds no detector that
it does not know.
-/

namespace DetectorSearch

/-- What a service does with a lookup: it waits, if at all, and then reports a status or fails. -/
structure Answer where
  wait : Option Seconds
  ending : Outcome Status

/-- Why a service cannot wait at all: the span is beyond all instants. -/
def Answer.obstacle? (answer : Answer) : Option Failure :=
  match answer.wait with
  | some span => if span.isPositive && span.toFloat?.isNone then some .beyondReals else none
  | none => none

/-- When a lookup ends. -/
inductive Due where
  | firstTurn
  | nextTurn
  | atInstant (instant : Instant)

namespace Due

/-- When a lookup ends that is made now. -/
def ofWait (now : Instant) : Option Seconds → Due
  | none => firstTurn
  | some span => if span.isNothing then nextTurn else atInstant (now.after span)

/-- Whether a lookup ends in its first turn. -/
def isFirstTurn : Due → Bool
  | firstTurn => true
  | _ => false

/-- Whether a lookup ends in its second turn. -/
def isNextTurn : Due → Bool
  | nextTurn => true
  | _ => false

/-- Whether a lookup ends at the given instant. -/
def isAt (now : Instant) : Due → Bool
  | atInstant instant => instant.same now
  | _ => false

/-- The instant at which a lookup ends, if it waits for one. -/
def instant? : Due → Option Instant
  | atInstant instant => some instant
  | _ => none

end Due

/-- A lookup under way. -/
structure Lookup where
  detector : String
  due : Due
  /-- Whether the service comes to the end of its wait. -/
  waits : Bool
  ending : Outcome Status

namespace Lookup

/-- The lookup of a detector that is made now. -/
def start (now : Instant) (detector : String) (answer : Answer) : Lookup :=
  match answer.obstacle? with
  | some failure => ⟨detector, .firstTurn, false, .error failure⟩
  | none => ⟨detector, Due.ofWait now answer.wait, true, answer.ending⟩

/-- The status that a lookup ends with. A lookup that fails has a failed status of its own. -/
def status (lookup : Lookup) : Status :=
  match lookup.ending with
  | .ok status => status
  | .error cause => Status.failure lookup.detector cause

/-- The failure that a lookup reports, with the id that it reports it for. -/
def failure? (lookup : Lookup) : Option Failure :=
  lookup.status.cause?.map fun cause => .lookupFailed cause (some lookup.status.detector)

/-- What is logged about the end of a lookup. -/
def record? (lookup : Lookup) : Option LogRecord :=
  match lookup.ending with
  | .ok _ => none
  | .error (.cancelled _) =>
      some ⟨.error, .enrichment,
        "Anomaly detector profile lookup for " ++ lookup.detector ++ " was cancelled"⟩
  | .error cause =>
      some ⟨.error, .enrichment,
        "Failed to get anomaly detector profile for " ++ lookup.detector ++ ": " ++
          cause.message⟩

/-- What is left behind by a lookup that ends. -/
def endingEvents (lookup : Lookup) : List Event :=
  (if lookup.waits then [.completed lookup.detector] else []) ++
    lookup.record?.toList.map .logged

end Lookup

/-- A lookup that is made by itself: when it has ended, what it ends with, and what it leaves behind. -/
def Answer.alone (answer : Answer) (now : Instant) (detector : String) :
    Instant × Outcome Status × List Event :=
  let lookup := Lookup.start now detector answer
  let events := if lookup.waits then [.called detector, .completed detector] else [.called detector]
  let clock := (lookup.due.instant?.filter now.before).getD now
  (clock, lookup.ending, events)

/-- A status service held in memory. -/
structure StatusService where
  findings : Keyed (Outcome State)
  waits : Keyed Seconds

namespace StatusService

/-- What a lookup of an id ends with. -/
def ending (service : StatusService) (id : String) : Outcome Status :=
  match Keyed.find? id service.findings with
  | none => .error (.fault .notFound ("Can't find detector with id: " ++ id))
  | some (.error failure) => .error failure
  | some (.ok state) => .ok (Status.resolved id state)

/-- What the service does with a lookup of an id. -/
def answer (service : StatusService) (id : String) : Answer :=
  ⟨some ((Keyed.find? id service.waits).getD (.whole 0)), service.ending id⟩

/-- Sets what the service finds out about a detector, and how long it waits. -/
def set (service : StatusService) (id : String) (finding : Outcome State) (wait : Seconds) :
    StatusService :=
  ⟨Keyed.put id finding service.findings, Keyed.put id wait service.waits⟩

end StatusService

end DetectorSearch
