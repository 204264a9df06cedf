import DetectorSearch.Detector
import DetectorSearch.State
/-! # Joining statuses to a page

Statuses arrive in any order and are joined to the detectors of a page by id. Every detector has to
get one status, so an id that stands on the page twice needs two. A status for an id that needs none,
or no further one, is refused at once; ids that still need one at the end are missing.
-/

namespace DetectorSearch

/-- How many statuses each id still needs, ids in order of first occurrence on the page. -/
abbrev Needs := List (String × Nat)

namespace Needs

/-- Counts one more need of an id. -/
def add (id : String) : Needs → Needs
  | [] => [(id, 1)]
  | (other, count) :: rest =>
      if other = id then (other, count + 1) :: rest else (other, count) :: add id rest

/-- The needs of a list of ids. -/
def ofIds (ids : List String) : Needs :=
  ids.foldl (fun needs id => add id needs) []

/-- How many statuses an id still needs. -/
def count (id : String) : Needs → Nat
  | [] => 0
  | (other, count') :: rest => if other = id then count' else count id rest

/-- One need of an id less. -/
def meet (id : String) : Needs → Needs
  | [] => []
  | (other, count) :: rest =>
      if other = id then (other, count - 1) :: rest else (other, count) :: meet id rest

/-- The ids that still need a status. -/
def missing (needs : Needs) : List String :=
  (needs.filter fun need => 0 < need.2).map Prod.fst

end Needs

/-- Statuses by the ids that they are about, in order of first arrival. -/
abbrev Statuses := Keyed Status

/-- A page with the statuses of its detectors. -/
structure Batch where
  detectors : List Detector
  statuses : Statuses

namespace Batch

/-- The state of a detector, by its id. -/
def stateOf (batch : Batch) (detector : Detector) : Outcome State :=
  match batch.statuses.find? detector.id with
  | some status => .ok status.state
  | none => .error (.misuse (.missingKey detector.id))

/-- The detectors among the given ones whose state satisfies a predicate. -/
def keep (batch : Batch) (predicate : StatePredicate) : List Detector → Outcome (List Detector)
  | [] => .ok []
  | detector :: rest =>
      match batch.stateOf detector with
      | .error failure => .error failure
      | .ok state =>
          match keep batch predicate rest with
          | .error failure => .error failure
          | .ok kept => .ok (if predicate.accepts state then detector :: kept else kept)

/-- The detectors of the page whose state satisfies a predicate, in page order. -/
def filter (batch : Batch) (predicate : StatePredicate) : Outcome (List Detector) :=
  batch.keep predicate batch.detectors

/-- Takes in statuses one by one, as long as each is needed. -/
def receive (needs : Needs) (statuses : Statuses) : List Status → Outcome (Needs × Statuses)
  | [] => .ok (needs, statuses)
  | status :: rest =>
      if needs.count status.detector = 0 then .error (.unknownIdentity status.detector)
      else receive (needs.meet status.detector) (statuses.put status.detector status) rest

/-- Joins statuses to a page. -/
def join (detectors : List Detector) (results : List Status) : Outcome Batch :=
  match receive (Needs.ofIds (detectors.map Detector.id)) [] results with
  | .error failure => .error failure
  | .ok (needs, statuses) =>
      if needs.missing.isEmpty then .ok ⟨detectors, statuses⟩
      else .error (.missingResult needs.missing)

end Batch

end DetectorSearch
