import DetectorSearch.Enrichment.Lookup
import DetectorSearch.Join
/-! # Flights

A flight is one request for the states of a page that is under way. Its lookups all start at once,
in page order. The first failed lookup ends the flight, and so does its deadline, or the caller who
calls it off; what is still waiting then is cancelled. When the last lookup has ended without a
failure, the statuses are joined to the page and the page is filtered.

A flight that asks nothing, or has an empty page, ends at once without a lookup. So does one whose
deadline is beyond all instants, but a caller who calls it off by then is heard first.

What happens at one instant happens in phases. Lookups of the first turn end before those of the
next turn. A lookup that is due at the deadline comes too late, but is told so before the others.
All lookups that are due at an instant end before the flight looks at any of them.

An event loop leaves open in which order timers come that are due at exactly one instant. Here they
come in the order in which they were made: the deadline of a flight, then its lookups in page order. A
caller who calls the flight off at such an instant is heard, whatever else falls on it.
-/

namespace DetectorSearch

/-- A request for the detectors of a page that are in the states asked for. -/
structure EnrichRequest where
  page : List Detector
  predicate : StatePredicate
  /-- How long the lookups may take. -/
  span : Seconds

/-- The order of what happens at one instant. -/
inductive Phase where
  /-- Lookups are made. -/
  | call
  /-- Lookups end that do not wait. -/
  | firstTurn
  /-- Lookups end that wait one turn. -/
  | nextTurn
  /-- Deadlines come, and with them the lookups that are due too late by nothing. -/
  | deadline
  /-- Lookups end that are due. -/
  | due
  /-- The other lookups of a flight that ran into its deadline, or was called off, are cancelled. -/
  | late
  /-- The other lookups of a flight that failed in the first turn are cancelled. -/
  | failedAtOnce
  /-- The other lookups of a flight that failed later are cancelled. -/
  | failed
  deriving DecidableEq, Repr

namespace Phase

/-- The phases in which lookups are made, and end that do not wait for an instant. -/
def opening : List Phase := [call, firstTurn, nextTurn]

/-- The phases in which time is up. -/
def closing : List Phase := [deadline, due, late]

/-- The phases in which failures are answered. -/
def failing : List Phase := [failedAtOnce, failed]

end Phase

/-- What happens at one instant, each event with its phase. -/
abbrev Timeline := List (Phase × Event)

namespace Timeline

/-- Lookups that end. -/
def endings (phase : Phase) (lookups : List Lookup) : Timeline :=
  lookups.flatMap fun lookup => lookup.endingEvents.map fun event => (phase, event)

/-- Lookups that are cancelled. -/
def drops (phase : Phase) (lookups : List Lookup) : Timeline :=
  lookups.map fun lookup => (phase, .cancelled lookup.detector)

/-- Lookups that are made. -/
def calls (lookups : List Lookup) : Timeline :=
  lookups.map fun lookup => (.call, .called lookup.detector)

/-- What happens to several flights in some phases of one instant, phase by phase. -/
def merge (phases : List Phase) (timelines : List Timeline) : List Event :=
  phases.flatMap fun phase =>
    timelines.flatMap fun timeline =>
      (timeline.filter fun entry => entry.1 == phase).map Prod.snd

end Timeline

/-- The end of a request: the detectors asked for, or why there are none. -/
abbrev Verdict := Outcome (List Detector)

/-- A request under way. -/
structure Flight where
  request : EnrichRequest
  deadline : Instant
  /-- When the caller calls the flight off, if at all. -/
  callOff : Option Instant
  /-- The lookups that have not ended, in page order. -/
  waiting : List Lookup
  /-- The statuses so far, in the order in which their lookups ended. -/
  arrived : List Status
  /-- The end of the flight, once it has one. -/
  verdict : Option Verdict

namespace Flight

/-- Joins all statuses to the page and filters it. -/
def conclude (request : EnrichRequest) (statuses : List Status) : Verdict :=
  match Batch.join request.page statuses with
  | .error failure => .error failure
  | .ok batch => batch.filter request.predicate

/-- The flight with its end. -/
def finish (flight : Flight) (verdict : Verdict) : Flight :=
  { flight with waiting := [], verdict := some verdict }

/-- What is logged when a deadline comes. -/
def lateRecord (span : Seconds) (pending : Nat) : LogRecord :=
  ⟨.warning, .enrichment,
    "Detector state lookups timed out after " ++ span.text ++ "s with " ++ toString pending ++
      " pending"⟩

/-- The end of a flight at its deadline. -/
def timeout (flight : Flight) (pending : Nat) : Flight :=
  flight.finish (.error (.enrichmentTimeout flight.request.span pending))

/-- The end of a flight that was called off. At one instant with its deadline or its lookups, where an
event loop leaves the order open, the call-off counts. -/
def abandon (flight : Flight) : Flight :=
  flight.finish (.error (.cancelled ""))

/-- Takes in lookups that have ended while others are still waiting. A failure among them is answered
in the given phase. Of several failures at one instant, whose order an event loop leaves open, the one
of the lookup that was made first counts. -/
def settle (flight : Flight) (phase : Phase) (ended waiting : List Lookup) : Flight × Timeline :=
  match ended.findSome? Lookup.failure? with
  | some failure => (flight.finish (.error failure), Timeline.drops phase waiting)
  | none =>
      let arrived := flight.arrived ++ ended.map Lookup.status
      if waiting.isEmpty then
        ({ flight with arrived }.finish (conclude flight.request arrived), [])
      else ({ flight with arrived, waiting }, [])

/-- Whether an instant is not after another one. -/
def reached (now : Instant) : Option Instant → Bool
  | none => false
  | some instant => !now.before instant

/-- The phase in which a flight answers a failure among the lookups that do not wait for an instant.
It looks at them at once if one of them ends in its first turn. What it sees then are the lookups of
the first turn, and those of the next turn that were made before the first of them. -/
def failurePhase (lookups : List Lookup) : Phase :=
  let seen := lookups.filter fun lookup => lookup.due.isFirstTurn
  let earlier := lookups.takeWhile fun lookup => !lookup.due.isFirstTurn
  let alsoSeen := earlier.filter fun lookup => lookup.due.isNextTurn
  if !seen.isEmpty && (seen ++ alsoSeen).any (·.failure?.isSome) then .failedAtOnce else .failed

/-- Starts the lookups of a request that asks something about a page that is not empty. -/
def depart (flight : Flight) (now : Instant) (lookups : List Lookup) : Flight × Timeline :=
  let first := lookups.filter fun lookup => lookup.due.isFirstTurn
  let next := lookups.filter fun lookup => lookup.due.isNextTurn
  let waiting := lookups.filter fun lookup => lookup.due.instant?.isSome
  let opening := Timeline.calls lookups ++ Timeline.endings .firstTurn first
  if reached now flight.callOff then
    (flight.abandon, opening ++ Timeline.drops .late (next ++ waiting))
  else
    let opening := opening ++ Timeline.endings .nextTurn next
    if reached now (some flight.deadline) then
      (flight.timeout waiting.length,
        opening ++ (.deadline, .logged (lateRecord flight.request.span waiting.length)) ::
          Timeline.drops .late waiting)
    else
      let (flight, timeline) := flight.settle (failurePhase lookups) (first ++ next) waiting
      (flight, opening ++ timeline)

/-- Starts a request. -/
def launch (now : Instant) (callOff : Option Instant) (request : EnrichRequest)
    (answers : List Answer) : Flight × Timeline :=
  let flight : Flight := ⟨request, now.after request.span, callOff, [], [], none⟩
  if !request.predicate.isActive then (flight.finish (.ok request.page), [])
  else if request.page.isEmpty then (flight.finish (.ok []), [])
  else if request.span.toFloat?.isNone then
    (if reached now callOff then flight.abandon else flight.finish (.error .beyondReals), [])
  else
    flight.depart now
      (List.zipWith (fun detector answer => Lookup.start now detector.id answer) request.page answers)

/-- What happens to a flight that has not ended when an instant comes. Where its deadline and the ends
of lookups fall on this instant, whose order an event loop leaves open, the deadline comes first, since
it was made before them. -/
def strike (flight : Flight) (now : Instant) : Flight × Timeline :=
  let due := flight.waiting.filter fun lookup => lookup.due.isAt now
  let others := flight.waiting.filter fun lookup => !lookup.due.isAt now
  let calledOff := flight.callOff.any fun instant => instant.same now
  if flight.deadline.same now then
    let drops := Timeline.drops .deadline due ++ Timeline.drops .late others
    if calledOff then (flight.abandon, drops)
    else
      (flight.timeout flight.waiting.length,
        (.deadline, .logged (lateRecord flight.request.span flight.waiting.length)) :: drops)
  else if calledOff then
    (flight.abandon, Timeline.endings .due due ++ Timeline.drops .late others)
  else
    let (flight, timeline) := flight.settle .failed due others
    (flight, Timeline.endings .due due ++ timeline)

/-- What happens to a flight when an instant comes: nothing if it has ended. -/
def advance (now : Instant) (flight : Flight) : Flight × Timeline :=
  if flight.verdict.isSome then (flight, []) else flight.strike now

/-- The instants at which something may happen to a flight. -/
def instants (flight : Flight) : List Instant :=
  if flight.verdict.isSome then []
  else flight.deadline :: (flight.callOff.toList ++ flight.waiting.filterMap (·.due.instant?))

end Flight

end DetectorSearch
