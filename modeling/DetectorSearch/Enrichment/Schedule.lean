import DetectorSearch.Enrichment.Flight
/-! # Flights on one clock

Several flights may be under way at once. The clock jumps from one instant at which something may
happen to the next, and at each of them every flight is told the time. A flight is not affected by
the others: an instant at which nothing of its own is due leaves it as it is.

Each jump ends a lookup or a flight, so their number bounds the jumps.
-/

namespace DetectorSearch

namespace Instant

/-- The earlier of two instants, the first one if they are the same. -/
def earlier (a b : Instant) : Instant :=
  if before b a then b else a

/-- The earliest of some instants. -/
def earliest? : List Instant → Option Instant
  | [] => none
  | instant :: rest => some (rest.foldl earlier instant)

end Instant

/-- Flights on one clock, and what has happened to them. -/
structure Schedule where
  clock : Instant
  flights : List Flight
  events : List Event

namespace Schedule

/-- Flights by their deadlines, the earliest first. -/
def byDeadline (started : List (Flight × Timeline)) : List (Flight × Timeline) :=
  started.mergeSort fun a b => !b.1.deadline.before a.1.deadline

/-- What happens to flights at their start. Those that are too late already are told so in the order
of their deadlines. -/
def opening (started : List (Flight × Timeline)) : List Event :=
  Timeline.merge Phase.opening (started.map Prod.snd) ++
    Timeline.merge Phase.closing ((byDeadline started).map Prod.snd) ++
    Timeline.merge Phase.failing (started.map Prod.snd)

/-- Starts requests at once. Each comes with what the service does with its lookups. -/
def launch (now : Instant) (callOff : Option Instant)
    (requests : List (EnrichRequest × List Answer)) : Schedule :=
  let started := requests.map fun (request, answers) => Flight.launch now callOff request answers
  ⟨now, started.map Prod.fst, opening started⟩

/-- The next instant at which something may happen. -/
def next? (schedule : Schedule) : Option Instant :=
  Instant.earliest? (schedule.flights.flatMap Flight.instants)

/-- Lets an instant come. -/
def jump (schedule : Schedule) (now : Instant) : Schedule :=
  let moved := schedule.flights.map (Flight.advance now)
  let happened := Timeline.merge (Phase.closing ++ Phase.failing) (moved.map Prod.snd)
  ⟨now, moved.map Prod.fst, schedule.events ++ happened⟩

/-- Lets instants come until nothing more can happen, at most the given number. -/
def runFor : Nat → Schedule → Schedule
  | 0, schedule => schedule
  | fuel + 1, schedule =>
      match schedule.next? with
      | none => schedule
      | some now => runFor fuel (schedule.jump now)

/-- The number of flights and lookups that have not ended. -/
def load (schedule : Schedule) : Nat :=
  schedule.flights.foldr (fun flight load => flight.waiting.length + 1 + load) 0

/-- Lets instants come until all flights have ended. -/
def run (schedule : Schedule) : Schedule :=
  runFor schedule.load schedule

/-- The ends of the flights. -/
def verdicts (schedule : Schedule) : List Verdict :=
  schedule.flights.map fun flight => flight.verdict.getD (.error (.cancelled ""))

end Schedule

/-- Enriches pages at once, from the given instant on. -/
def enrichAll (now : Instant) (callOff : Option Instant)
    (requests : List (EnrichRequest × List Answer)) : Schedule :=
  (Schedule.launch now callOff requests).run

end DetectorSearch
