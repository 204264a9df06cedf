import DetectorSearch.Proofs.Enrichment.Run

/-!
# The first failure decides

A request fails as soon as one of its lookups does. Which one that is depends on
when the lookups end, not on where they stand on the page: by their instants, at
one instant by the turns that they wait, and only then by the page.

Results:
1. `first_failure_decides`: a request of which a lookup fails before the deadline
   ends in the first of these failures, at the instant of that lookup.
2. `turns_before_page`: of two failed lookups without a timer the one that waits
   a turn is not heard, though it stands first on the page.
-/

namespace DetectorSearch

variable {now : Instant} {request : EnrichRequest} {answers : List Answer}

namespace FirstFailureLemmas

/-- The failure of a lookup is told with its cause and with the id that it was reported for. -/
theorem failure?_eq_some {lookup : Lookup} {failure : Failure}
    (h : lookup.failure? = some failure) :
    ∃ cause, lookup.status.cause? = some cause ∧
      failure = .lookupFailed cause (some lookup.status.detector) := by
  obtain ⟨cause, hcause, rfl⟩ := Option.map_eq_some_iff.1 h
  exact ⟨cause, hcause, rfl⟩

/-- The head of the order of early lookups is the one that ends first. -/
theorem endsFirst_of_early {limit : Instant} {select : Lookup → Bool} {lookups : List Lookup}
    {first : Lookup} {rest : List Lookup}
    (h : inOrder now (lookups.filter fun lookup => lookup.isEarly now limit && select lookup) =
      first :: rest) :
    EndsFirst now (lookups.filter fun lookup => lookup.isEarly now limit && select lookup)
      first := by
  refine head_inOrder ?_ (by rw [h]; rfl)
  intro lookup hlookup
  have hearly := (Bool.and_eq_true_iff.1 (List.mem_filter.1 hlookup).2).1
  exact Instant.isNumber_left hearly

end FirstFailureLemmas

open FirstFailureLemmas

/-- A request ends in the failure of the lookup that ends first among all that fail before the
deadline, at the instant of that lookup. What the others do does not matter, and neither does the
deadline. A wait that is no number leads to no instant, so that its lookup is not among those that fail
before the deadline. -/
theorem first_failure_decides (hactive : request.predicate.isActive = true)
    (hspan : request.span.toFloat?.isSome = true)
    (hanswers : answers.length = request.page.length)
    (hlimit : now.before (now.after request.span) = true)
    (hfailing : ∃ lookup ∈ request.lookups now answers,
      lookup.isEarly now (now.after request.span) = true ∧ lookup.fails = true) :
    ∃ first cause,
      EndsFirst now ((request.lookups now answers).filter fun lookup =>
        lookup.isEarly now (now.after request.span) && lookup.fails) first ∧
      first.status.cause? = some cause ∧
      (enrichAll now none [(request, answers)]).verdicts =
        [.error (.lookupFailed cause (some first.status.detector))] ∧
      (first.dueAt now).same (enrichAll now none [(request, answers)]).clock = true := by
  obtain ⟨lookup, hlookup, hearly, hfails⟩ := hfailing
  have hpage : request.page ≠ [] := by
    rintro hempty
    simp [EnrichRequest.lookups, hempty] at hlookup
  obtain ⟨verdict, instant, hend, hverdicts, hclock⟩ :=
    @enrichAll_endsWith now none request answers hactive hpage hspan hanswers hlimit rfl
  -- the failing lookup itself rules out that the flight was concluded or expired
  have hsome : (Flight.made now none request answers).failures now ≠ [] := by
    rw [Flight.failures_made]
    refine List.ne_nil_of_mem (OrderLemmas.mem_inOrder.2 (List.mem_filter.2 ⟨hlookup, ?_⟩))
    exact Bool.and_eq_true_iff.2 ⟨hearly, hfails⟩
  cases hend with
  | @failed first rest failure hfailures hfailure =>
      obtain ⟨cause, hcause, rfl⟩ := failure?_eq_some hfailure
      rw [Flight.failures_made] at hfailures
      exact ⟨first, cause, endsFirst_of_early hfailures, hcause, hverdicts, hclock⟩
  | concluded hfailures => exact absurd hfailures hsome
  | expired hfailures => exact absurd hfailures hsome

/-- A page of two detectors, to be told within five seconds which of them run. -/
def pairRequest : EnrichRequest :=
  ⟨[⟨"a", []⟩, ⟨"b", []⟩], ⟨some true, none, none⟩, .whole 5⟩

/-- A failure that is raised late, and before it one that is reported under another id. -/
def reportedAnswers : List Answer :=
  [⟨some (.real 2.5), .error (.fault .badValue "v")⟩,
    ⟨some (.whole 1), .ok (.failure "x" (.fault .runtime "r"))⟩]

theorem first_failure_decides_reported :
    ∃ first cause,
      EndsFirst (Float.ofInt 0) ((pairRequest.lookups (Float.ofInt 0) reportedAnswers).filter
        fun lookup =>
          lookup.isEarly (Float.ofInt 0) (Instant.after (Float.ofInt 0) pairRequest.span) &&
            lookup.fails) first ∧
      first.status.cause? = some cause ∧
      (enrichAll (Float.ofInt 0) none [(pairRequest, reportedAnswers)]).verdicts =
        [.error (.lookupFailed cause (some first.status.detector))] ∧
      (first.dueAt (Float.ofInt 0)).same
        (enrichAll (Float.ofInt 0) none [(pairRequest, reportedAnswers)]).clock = true :=
  first_failure_decides (by decide) (by decide +kernel) rfl (by decide +kernel)
    ⟨_, List.mem_cons_self, by decide +kernel⟩

/-- Two failures at the start, the first of which waits a turn. -/
def untimedAnswers : List Answer :=
  [⟨some (.whole 0), .error (.fault .badValue "v")⟩, ⟨none, .error (.fault .runtime "r")⟩]

/-- Both lookups fail at their start and neither has a timer. The second one on the page ends in its
first turn, and the request with it. -/
theorem turns_before_page :
    (∀ lookup ∈ pairRequest.lookups (Float.ofInt 0) untimedAnswers,
      lookup.due.instant?.isNone = true ∧ lookup.fails = true ∧
        lookup.isEarly (Float.ofInt 0) (Instant.after (Float.ofInt 0) pairRequest.span) = true) ∧
    (enrichAll (Float.ofInt 0) none [(pairRequest, untimedAnswers)]).verdicts =
      [.error (.lookupFailed (.fault .runtime "r") (some "b"))] := by
  refine ⟨by decide +kernel, ?_⟩
  have hlookups : pairRequest.lookups (Float.ofInt 0) untimedAnswers =
      [⟨"a", .nextTurn, true, .error (.fault .badValue "v")⟩,
        ⟨"b", .firstTurn, true, .error (.fault .runtime "r")⟩] := by
    have hzero : (Seconds.whole 0).isNothing = true := by decide +kernel
    have hpositive : (Seconds.whole 0).isPositive = false := by decide +kernel
    simp [EnrichRequest.lookups, pairRequest, untimedAnswers, Lookup.start, Answer.obstacle?,
      Due.ofWait, hzero, hpositive]
  have hlaunch : (Flight.launch (Float.ofInt 0) none pairRequest untimedAnswers).1.verdict =
      some (.error (.lookupFailed (.fault .runtime "r") (some "b"))) := by
    have hreached : Flight.reached (Float.ofInt 0)
        (some (Instant.after (Float.ofInt 0) pairRequest.span)) = false := by decide +kernel
    rw [Flight.launch_eq_depart (by decide) (by simp [pairRequest]) (by decide +kernel), hlookups]
    simp only [Flight.depart, hreached]
    rfl
  rw [enrichAll_of_launch (by rw [hlaunch]; rfl)]
  simp [Schedule.launch, Schedule.verdicts, hlaunch]

end DetectorSearch
