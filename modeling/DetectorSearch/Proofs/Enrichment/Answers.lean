import DetectorSearch.Proofs.Enrichment.Accounting
import DetectorSearch.Proofs.Enrichment.Correlation

/-!
# Requests to services that answer

A service that has one state for each id, and tells it before the deadline, makes
a request a plain filter of its page. A request that nobody calls off, to any
service and with any deadline that is a double, ends in a list or in a failure of
the search itself.

Results:
1. `verdicts_of_answeredInTime`: what becomes of a page whose states are told in
   time.
2. `enrichAll_calls`: one lookup for each detector, in page order.
3. `answersFor_eq`: the service in memory as one of these.
4. `enrichAll_expected`: how a request can end.
-/

namespace DetectorSearch

variable {now : Instant} {callOff : Option Instant} {request : EnrichRequest}
  {answers : List Answer} {waits : List (Option Seconds)} {state? : String → Option State}

/-! ## 1. States that are told in time -/

/-- Every lookup of a request waits for a number of seconds, ends before the deadline and tells the
one state of its id, or leaves it open. -/
structure EnrichRequest.AnsweredInTime (request : EnrichRequest) (now : Instant)
    (state? : String → Option State) (waits : List (Option Seconds)) : Prop where
  span : request.span.toFloat?.isSome = true
  each : waits.length = request.page.length
  doubles : ∀ wait, some wait ∈ waits → wait.toFloat?.isSome = true
  early : ∀ lookup ∈ request.lookups now (request.stateAnswers state? waits),
    lookup.isEarly now (now.after request.span) = true

/-- The detectors of a page whose states meet every demand. -/
def StatePredicate.select (predicate : StatePredicate) (state? : String → Option State)
    (page : List Detector) : List Detector :=
  page.filter fun detector => predicate.Demands ((state? detector.id).getD .unknown)

open ExactnessLemmas in
theorem EnrichRequest.verdicts_of_answeredInTime (hactive : request.predicate.isActive = true)
    (h : request.AnsweredInTime now state? waits) :
    (enrichAll now none [(request, request.stateAnswers state? waits)]).verdicts =
      [.ok (request.predicate.select state? request.page)] := by
  by_cases hpage : request.page = []
  · rw [(enrichAll_of_nothing (.inr hpage)).1, hpage]
    rfl
  · have hanswers : (request.stateAnswers state? waits).length = request.page.length := by
      rw [EnrichRequest.stateAnswers, List.length_zipWith, h.each, Nat.min_self]
    rw [enrichAll_reports ⟨⟨hactive, hpage⟩, h.span, hanswers, h.early,
      fails_eq_false state? h.each h.doubles⟩]
    exact congrArg (fun verdict => [verdict])
      (conclude_eq state? h.each h.doubles ((inOrder_perm now _).map Lookup.status))

/-! ## 2. The lookups that are made -/

/-- A request makes one lookup for each detector of its page, in page order. -/
theorem enrichAll_calls (hactive : request.predicate.isActive = true)
    (hspan : request.span.toFloat?.isSome = true)
    (hanswers : answers.length = request.page.length)
    (hwaits : ∀ lookup ∈ request.lookups now answers, lookup.waits = true) :
    Event.calls (enrichAll now callOff [(request, answers)]).events =
      request.page.map Detector.id := by
  rw [← @AccountingLemmas.lookups_detector now request answers hanswers]
  -- the lookups are all made at the start, and no jump makes another
  obtain ⟨flight, ended, dropped, -, h⟩ : ∃ flight ended dropped,
      (enrichAll now callOff [(request, answers)]).flights = [flight] ∧
        Accounted (request.lookups now answers)
          (enrichAll now callOff [(request, answers)]).events flight ended dropped := by
    refine Schedule.runFor_invariant (P := fun schedule => ∃ flight ended dropped,
      schedule.flights = [flight] ∧
        Accounted (request.lookups now answers) schedule.events flight ended dropped) ?_ _ ?_
    · rintro schedule next ⟨flight, ended, dropped, hflights, h⟩ -
      obtain ⟨ended', dropped', h'⟩ := AccountingLemmas.jump_accounted hflights hwaits h next
      exact ⟨_, ended', dropped', by simp [Schedule.jump, hflights], h'⟩
    · obtain ⟨ended, dropped, h⟩ :=
        @AccountingLemmas.launch_accounted now callOff request answers hactive hspan hwaits
      exact ⟨_, ended, dropped, rfl, h⟩
  exact h.calls

/-! ## 3. The service in memory -/

namespace StatusService

variable {service : StatusService} {state : String → State}

/-- A service that holds a state for each detector of a page answers with these states. -/
theorem answersFor_eq (h : ∀ detector ∈ request.page,
      Keyed.find? detector.id service.findings = some (.ok (state detector.id))) :
    service.answersFor request.page = request.stateAnswers (fun id => some (state id))
      (request.page.map fun detector => (service.answer detector.id).wait) := by
  rw [answersFor, EnrichRequest.stateAnswers, List.zipWith_map_right, List.zipWith_self]
  refine List.map_congr_left fun detector hdetector => ?_
  rw [answer, ending, h detector hdetector]
  rfl

end StatusService

/-! ## 4. The ends of a request that nobody calls off -/

/-- An end that a caller can expect: a part of the page, or a failure of the search itself. -/
inductive Verdict.Expected (page : List Detector) : Verdict → Prop where
  | kept {kept : List Detector} (h : kept.Sublist page) : Expected page (.ok kept)
  | failed {failure : Failure} (h : failure.isOwn = true) : Expected page (.error failure)

theorem conclude_expected {results : List Status}
    (hlength : results.length = request.page.length) :
    (Flight.conclude request results).Expected request.page := by
  by_cases hperm : (results.map Status.detector).Perm (request.page.map Detector.id)
  · obtain ⟨judge, hjudge⟩ := Batch.exists_judge hperm
    rw [Batch.conclude_of_lastOf hperm fun id hid => (hjudge id hid).2.2]
    exact .kept List.filter_sublist
  · obtain ⟨id, -, hconclude⟩ := Batch.conclude_of_excess hlength hperm
    rw [hconclude]
    exact .failed rfl

/-- A request that nobody calls off, with a deadline that is a double, ends as a caller can expect,
whatever its lookups do. -/
theorem enrichAll_expected (hspan : request.span.toFloat?.isSome = true)
    (hanswers : answers.length = request.page.length) :
    ∃ verdict : Verdict, (enrichAll now none [(request, answers)]).verdicts = [verdict] ∧
      verdict.Expected request.page := by
  obtain ⟨verdict, instant, hends, hverdicts, -⟩ := @enrichAll_ends now none request _ hanswers
  refine ⟨verdict, hverdicts, ?_⟩
  cases hends with
  | idle => exact .kept (.refl _)
  | abandoned _ hcall => exact absurd hcall nofun
  | beyond _ _ hbeyond => exact absurd (hspan.symm.trans hbeyond) nofun
  | overdue => exact .failed rfl
  | flown _ _ _ _ hend =>
      cases hend with
      | failed _ hfailure =>
          obtain ⟨cause, -, rfl⟩ := Option.map_eq_some_iff.1 hfailure
          exact .failed rfl
      | concluded => exact conclude_expected (EnrichRequest.length_reports hanswers)
      | expired => exact .failed rfl

end DetectorSearch
