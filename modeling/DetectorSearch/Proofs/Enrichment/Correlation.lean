import DetectorSearch.Proofs.Enrichment.Exactness
import DetectorSearch.Proofs.Enrichment.Independence
import DetectorSearch.Proofs.Enrichment.Solo

/-!
# Statuses that name other ids

A service may report a status under any id, so a lookup can answer for another
one, or for none of the page. A request whose lookups all succeed counts what is
reported: there are as many statuses as detectors, so they fit the page unless
an id is named too often, and then that id is refused before any other is found
missing.

Results:
1. `enrichAll_reports`: a request whose lookups all succeed joins what they
   report, in the order in which they end.
2. `list_of_perm`, `refused_of_not_perm`, `ends_ne_missing`: ids that fit the
   page, ids that do not, and no end of a request that finds an id missing.
3. `reports_decide`: the reported ids decide whether the request gives a list or
   refuses an id, and which one. No request ever finds a status missing.
-/

namespace DetectorSearch

variable {now : Instant} {callOff : Option Instant} {request : EnrichRequest}
  {answers : List Answer}

/-! ## 1. Requests whose lookups all succeed -/

/-- What the lookups of a request report, in the order in which they end. -/
def EnrichRequest.reports (request : EnrichRequest) (now : Instant) (answers : List Answer) :
    List Status :=
  (inOrder now (request.lookups now answers)).map Lookup.status

/-- A request whose lookups all succeed before its deadline, whatever they report. -/
structure EnrichRequest.AllSucceed (request : EnrichRequest) (now : Instant)
    (answers : List Answer) : Prop where
  asks : request.Asks
  span : request.span.toFloat?.isSome = true
  answered : answers.length = request.page.length
  early : ∀ lookup ∈ request.lookups now answers,
    lookup.isEarly now (now.after request.span) = true
  succeed : ∀ lookup ∈ request.lookups now answers, lookup.fails = false

theorem EnrichRequest.length_reports (hanswers : answers.length = request.page.length) :
    (request.reports now answers).length = request.page.length := by
  rw [reports, List.length_map, (inOrder_perm now _).length_eq, lookups, List.length_zipWith,
    hanswers, Nat.min_self]

/-- A request whose lookups all succeed joins what they report. -/
theorem enrichAll_reports (h : request.AllSucceed now answers) :
    (enrichAll now none [(request, answers)]).verdicts =
      [Flight.conclude request (request.reports now answers)] := by
  obtain ⟨lookup, hlookup⟩ :=
    List.exists_mem_of_ne_nil _ (EnrichRequest.lookups_ne_nil h.asks.2 h.answered)
  have hlimit := EnrichRequest.before_of_isEarly hlookup (h.early lookup hlookup)
  obtain ⟨verdict, instant, hend, hverdicts, -⟩ :=
    @enrichAll_endsWith now none request _ h.asks.1 h.asks.2 h.span h.answered hlimit rfl
  rw [hverdicts]
  -- no lookup fails and none is late, so only the conclusion is left
  cases hend with
  | @failed first rest failure hfailures =>
      rw [Flight.failures_made] at hfailures
      have hfirst := OrderLemmas.mem_inOrder.1 (hfailures ▸ List.mem_cons_self)
      obtain ⟨hmem, hfails⟩ := List.mem_filter.1 hfirst
      simp [h.succeed first hmem] at hfails
  | concluded => rfl
  | expired _ hlate =>
      rw [Flight.late_made] at hlate
      refine absurd (List.filter_eq_nil_iff.2 fun lookup hlookup => ?_) hlate
      simp [h.early lookup hlookup]

/-! ## 2. Statuses that fit the page, and those that do not -/

namespace CorrelationLemmas

theorem conclude_ne_missing {results : List Status}
    (hlength : results.length = request.page.length) (ids : List String) :
    Flight.conclude request results ≠ .error (.missingResult ids) := by
  -- as many statuses as detectors are joined, or one of them is refused
  by_cases hperm : (results.map Status.detector).Perm (request.page.map Detector.id)
  · obtain ⟨judge, hjudge⟩ := Batch.exists_judge hperm
    rw [Batch.conclude_of_lastOf hperm fun id hid => (hjudge id hid).2.2]
    exact nofun
  · obtain ⟨id, -, hconclude⟩ := Batch.conclude_of_excess hlength hperm
    rw [hconclude]
    exact nofun

/-- No end of a request finds an id missing. -/
theorem ends_ne_missing {verdict : Verdict} {instant : Instant}
    (hanswers : answers.length = request.page.length)
    (h : request.Ends now callOff answers verdict instant) (ids : List String) :
    verdict ≠ .error (.missingResult ids) := by
  cases h with
  | idle | abandoned | beyond | overdue => exact nofun
  | flown _ _ _ _ hend =>
      cases hend with
      | failed _ hfailure =>
          obtain ⟨cause, -, rfl⟩ := Option.map_eq_some_iff.1 hfailure
          exact nofun
      | concluded => exact conclude_ne_missing (EnrichRequest.length_reports hanswers) ids
      | expired =>
          unfold Flight.expiry
          split <;> exact nofun

/-- On no schedule of requests that have ended is an id found missing. -/
theorem missing_notMem {schedule : Schedule} (h : schedule.Idle) (ids : List String) :
    .error (.missingResult ids) ∉ schedule.verdicts := by
  induction h with
  | start now => exact List.not_mem_nil
  | sleep _ now ih => exact ih
  | @batch earlier hidle callOff requests hanswers ih =>
      rw [Schedule.add_verdicts (IndependenceLemmas.ended_of_idle hidle) hanswers, List.mem_append]
      rintro (hmem | hmem)
      · exact ih hmem
      · obtain ⟨⟨request, answers⟩, hpair, hmem⟩ := List.mem_flatMap.1 hmem
        obtain ⟨verdict, instant, hends, hverdicts, -⟩ :=
          @enrichAll_ends earlier.clock callOff request answers (hanswers _ hpair)
        rw [hverdicts, List.mem_singleton] at hmem
        exact ends_ne_missing (hanswers _ hpair) hends ids hmem.symm

theorem list_of_perm (h : request.AllSucceed now answers)
    (hperm : ((request.reports now answers).map Status.detector).Perm
      (request.page.map Detector.id)) :
    ∃ judge : String → Status,
      (∀ id ∈ request.page.map Detector.id,
        judge id ∈ request.reports now answers ∧ (judge id).detector = id) ∧
      (enrichAll now none [(request, answers)]).verdicts =
        [.ok (request.page.filter fun detector =>
          request.predicate.Demands (judge detector.id).state)] := by
  obtain ⟨judge, hjudge⟩ := Batch.exists_judge hperm
  refine ⟨judge, fun id hid => ⟨(hjudge id hid).1, (hjudge id hid).2.1⟩, ?_⟩
  rw [enrichAll_reports h, Batch.conclude_of_lastOf hperm fun id hid => (hjudge id hid).2.2]
  refine congrArg (fun kept => [Except.ok kept]) (List.filter_congr fun detector _ => ?_)
  rw [Bool.eq_iff_iff, decide_eq_true_iff]
  exact StatePredicate.accepts_iff

theorem refused_of_not_perm (h : request.AllSucceed now answers)
    (hperm : ¬ ((request.reports now answers).map Status.detector).Perm
      (request.page.map Detector.id)) :
    ∃ id, Batch.FirstExcess (request.page.map Detector.id)
        ((request.reports now answers).map Status.detector) id ∧
      (enrichAll now none [(request, answers)]).verdicts = [.error (.unknownIdentity id)] := by
  obtain ⟨id, hfirst, hconclude⟩ :=
    Batch.conclude_of_excess (EnrichRequest.length_reports h.answered) hperm
  exact ⟨id, hfirst, by rw [enrichAll_reports h, hconclude]⟩

end CorrelationLemmas

open CorrelationLemmas

/-! ## 3. The reported ids decide -/

/-- A request whose lookups all succeed gives a list if and only if the reported ids are those of the
page, each as often. Then every detector is judged by a status that was reported under its id. If
they are not, the first id is refused that has been reported more often than it stands on the page.
However requests end, and whatever was requested before, no status is ever found missing. -/
theorem reports_decide :
    (request.AllSucceed now answers →
      ((∃ kept, (enrichAll now none [(request, answers)]).verdicts = [.ok kept]) ↔
        ((request.reports now answers).map Status.detector).Perm
          (request.page.map Detector.id)) ∧
      (((request.reports now answers).map Status.detector).Perm (request.page.map Detector.id) →
        ∃ judge : String → Status,
          (∀ id ∈ request.page.map Detector.id,
            judge id ∈ request.reports now answers ∧ (judge id).detector = id) ∧
          (enrichAll now none [(request, answers)]).verdicts =
            [.ok (request.page.filter fun detector =>
              request.predicate.Demands (judge detector.id).state)]) ∧
      (¬ ((request.reports now answers).map Status.detector).Perm
          (request.page.map Detector.id) →
        ∃ id, Batch.FirstExcess (request.page.map Detector.id)
            ((request.reports now answers).map Status.detector) id ∧
          (enrichAll now none [(request, answers)]).verdicts =
            [.error (.unknownIdentity id)])) ∧
    ∀ schedule : Schedule, schedule.Idle → ∀ ids : List String,
      .error (.missingResult ids) ∉ schedule.verdicts := by
  refine ⟨fun hsucceed => ⟨⟨?_, fun hperm => ?_⟩, list_of_perm hsucceed, refused_of_not_perm hsucceed⟩,
    fun schedule hidle ids => missing_notMem hidle ids⟩
  · -- a list is not a refusal, so the ids must fit
    rintro ⟨kept, hkept⟩
    by_contra hperm
    obtain ⟨id, -, hrefused⟩ := refused_of_not_perm hsucceed hperm
    simp [hkept] at hrefused
  · obtain ⟨judge, -, hlist⟩ := list_of_perm hsucceed hperm
    exact ⟨_, hlist⟩

/-- A page of two detectors, to be told within five seconds which of them run. -/
def coupleRequest : EnrichRequest :=
  ⟨[⟨"a", []⟩, ⟨"b", []⟩], ⟨some true, none, none⟩, .whole 5⟩

/-- Two lookups that answer for each other. -/
def swappedAnswers : List Answer :=
  [⟨some (.real 2.5), .ok (.resolved "b" .running)⟩, ⟨none, .ok (.resolved "a" .disabled)⟩]

/-- Two lookups that answer for one of them. -/
def doubledAnswers : List Answer :=
  [⟨some (.real 2.5), .ok (.resolved "a" .running)⟩, ⟨none, .ok (.resolved "a" .disabled)⟩]

theorem reports_decide_swapped_doubled :
    (enrichAll (Float.ofInt 0) none [(coupleRequest, swappedAnswers)]).verdicts =
      [.ok [⟨"b", []⟩]] ∧
    (enrichAll (Float.ofInt 0) none [(coupleRequest, doubledAnswers)]).verdicts =
      [.error (.unknownIdentity "a")] ∧
    ∀ ids, .error (.missingResult ids) ∉ (enrichAll (Float.ofInt 0) none
      [(coupleRequest, swappedAnswers), (coupleRequest, doubledAnswers)]).verdicts := by
  have hasks : coupleRequest.Asks := ⟨by decide, by simp [coupleRequest]⟩
  have hswapped : coupleRequest.AllSucceed (Float.ofInt 0) swappedAnswers :=
    ⟨hasks, by decide +kernel, rfl, by decide +kernel, by decide +kernel⟩
  have hdoubled : coupleRequest.AllSucceed (Float.ofInt 0) doubledAnswers :=
    ⟨hasks, by decide +kernel, rfl, by decide +kernel, by decide +kernel⟩
  refine ⟨?_, ?_, ?_⟩
  · obtain ⟨judge, hjudge, hverdicts⟩ := (reports_decide.1 hswapped).2.1 (by decide +kernel)
    have ha := hjudge "a" (by decide)
    have hb := hjudge "b" (by decide)
    have hreports : ∀ status ∈ coupleRequest.reports (Float.ofInt 0) swappedAnswers,
        (status.detector = "a" → status.state = .disabled) ∧
          (status.detector = "b" → status.state = .running) := by decide +kernel
    have hfilter : (coupleRequest.page.filter fun detector =>
        decide (coupleRequest.predicate.Demands (judge detector.id).state)) = [⟨"b", []⟩] := by
      simp only [coupleRequest, List.filter_cons, List.filter_nil,
        (hreports _ ha.1).1 ha.2, (hreports _ hb.1).2 hb.2]
      rfl
    rw [hverdicts, hfilter]
  · obtain ⟨id, ⟨earlier, later, heq, -⟩, hverdicts⟩ :=
      (reports_decide.1 hdoubled).2.2 (by decide +kernel)
    have hids : (coupleRequest.reports (Float.ofInt 0) doubledAnswers).map Status.detector =
        ["a", "a"] := by decide +kernel
    have hid : id ∈ ["a", "a"] := by simp [← hids, heq]
    obtain rfl : id = "a" := by simpa using hid
    exact hverdicts
  · exact (@reports_decide (Float.ofInt 0) coupleRequest swappedAnswers).2 _
      (Schedule.idle_enrichAll (Float.ofInt 0) none (by decide))

end DetectorSearch
