import DetectorSearch.Proofs.Enrichment.Run
import DetectorSearch.Proofs.Join

/-!
# A request that succeeds is exact

If every lookup ends before the deadline and finds the state of its id, the order
in which the lookups end is a permutation of the page, and the statuses are
joined to it by id. So the waits do not show in the result.

Results:
1. `accepts_iff`: a predicate accepts a state if every axis does.
2. `enrich_exact`: the result is the page without the detectors whose states are
   not accepted, and the page itself if nothing is asked.
-/

namespace DetectorSearch

/-! ## 1. What a predicate demands -/

/-- What a predicate demands of a state: to be each state that is asked for, and none that is asked
against. -/
def StatePredicate.Demands (predicate : StatePredicate) (state : State) : Prop :=
  ∀ axis, (predicate.asked axis = some true → state = axis) ∧
    (predicate.asked axis = some false → state ≠ axis)

theorem StatePredicate.accepts_iff {predicate : StatePredicate} {state : State} :
    predicate.accepts state = true ↔ predicate.Demands state := by
  rw [accepts, List.all_eq_true]
  constructor
  · intro h axis
    refine ⟨fun hasked => ?_, fun hasked => ?_⟩
    · simpa using h (axis, true) (mem_requested.2 hasked)
    · simpa using h (axis, false) (mem_requested.2 hasked)
  · rintro h ⟨axis, flag⟩ hrequested
    obtain ⟨hfor, hagainst⟩ := h axis
    cases flag with
    | true => simpa using hfor (mem_requested.1 hrequested)
    | false => simpa using hagainst (mem_requested.1 hrequested)

instance (predicate : StatePredicate) (state : State) : Decidable (predicate.Demands state) :=
  decidable_of_iff _ StatePredicate.accepts_iff

/-! ## 2. A service that answers -/

variable {now : Instant} {request : EnrichRequest} {waits : List (Option Seconds)}

/-- Answers of a service that has one state for each id, or leaves it open, and waits as long as it
likes. -/
def EnrichRequest.stateAnswers (request : EnrichRequest) (state? : String → Option State)
    (waits : List (Option Seconds)) : List Answer :=
  List.zipWith (fun detector wait => ⟨wait, .ok ⟨detector.id, .ok (state? detector.id)⟩⟩)
    request.page waits

namespace ExactnessLemmas

/-- A lookup that can wait ends with the status that it is answered. -/
theorem status_start (now : Instant) (id : String) {wait : Option Seconds} {status : Status}
    (hwait : ∀ span, wait = some span → span.toFloat?.isSome = true) :
    (Lookup.start now id ⟨wait, .ok status⟩).status = status := by
  rw [Lookup.start_eq now id hwait]
  rfl

/-- The statuses of the lookups stand as the page does. -/
theorem statuses_eq (state? : String → Option State) (hlength : waits.length = request.page.length)
    (hwaits : ∀ span, some span ∈ waits → span.toFloat?.isSome = true) :
    (request.lookups now (request.stateAnswers state? waits)).map Lookup.status =
      request.page.map fun detector => ⟨detector.id, .ok (state? detector.id)⟩ := by
  unfold EnrichRequest.lookups EnrichRequest.stateAnswers
  generalize request.page = page at hlength ⊢
  induction page generalizing waits with
  | nil => rfl
  | cons detector rest ih =>
      cases waits with
      | nil => simp at hlength
      | cons wait waits =>
          rw [List.zipWith_cons_cons, List.zipWith_cons_cons, List.map_cons, List.map_cons,
            ih (fun span hspan => hwaits span (by simp [hspan])) (by simpa using hlength),
            status_start now detector.id fun span hspan => hwaits span (by simp [hspan])]

/-- Whatever their order, the statuses filter the page by the states of its ids. -/
theorem conclude_eq (state? : String → Option State) (hlength : waits.length = request.page.length)
    (hwaits : ∀ span, some span ∈ waits → span.toFloat?.isSome = true) {results : List Status}
    (hperm : results.Perm
      ((request.lookups now (request.stateAnswers state? waits)).map Lookup.status)) :
    Flight.conclude request results = .ok (request.page.filter fun detector =>
      request.predicate.Demands ((state? detector.id).getD .unknown)) := by
  rw [statuses_eq state? hlength hwaits] at hperm
  rw [@Batch.conclude_of_perm _ _ fun id => (state? id).getD .unknown]
  · refine congrArg _ (List.filter_congr fun detector _ => ?_)
    rw [Bool.eq_iff_iff, decide_eq_true_iff]
    exact StatePredicate.accepts_iff
  · have hids := hperm.map Status.detector
    rwa [List.map_map] at hids
  · intro status hstatus
    obtain ⟨detector, -, rfl⟩ := List.mem_map.1 (hperm.mem_iff.1 hstatus)
    cases state? detector.id <;> rfl

/-- No lookup fails of a service that answers. -/
theorem fails_eq_false (state? : String → Option State)
    (hlength : waits.length = request.page.length)
    (hwaits : ∀ span, some span ∈ waits → span.toFloat?.isSome = true) :
    ∀ lookup ∈ request.lookups now (request.stateAnswers state? waits), lookup.fails = false := by
  intro lookup hlookup
  have hstatus := List.mem_map_of_mem (f := Lookup.status) hlookup
  rw [statuses_eq state? hlength hwaits] at hstatus
  obtain ⟨detector, -, heq⟩ := List.mem_map.1 hstatus
  simp [Lookup.fails, Lookup.failure?, ← heq, Status.cause?]

end ExactnessLemmas

open ExactnessLemmas

/-- A request whose lookups all end before the deadline, each with the state of its id, gives the
detectors of the page whose states meet every demand, as they stand on the page and however long the
lookups took. A request that asks nothing gives the page, and makes no lookup. -/
theorem enrich_exact (state? : String → Option State)
    (hlength : waits.length = request.page.length) :
    (request.predicate.isActive = true →
      request.span.toFloat?.isSome = true →
      (∀ span, some span ∈ waits → span.toFloat?.isSome = true) →
      (∀ lookup ∈ request.lookups now (request.stateAnswers state? waits),
        lookup.isEarly now (now.after request.span) = true) →
      (enrichAll now none [(request, request.stateAnswers state? waits)]).verdicts =
        [.ok (request.page.filter fun detector =>
          request.predicate.Demands ((state? detector.id).getD .unknown))]) ∧
    (request.predicate.isActive = false →
      (enrichAll now none [(request, request.stateAnswers state? waits)]).verdicts =
        [.ok request.page] ∧
      (enrichAll now none [(request, request.stateAnswers state? waits)]).events = []) := by
  refine ⟨fun hactive hspan hwaits hearly => ?_, fun hinactive => ?_⟩
  · by_cases hpage : request.page = []
    · rw [(enrichAll_of_nothing (.inr hpage)).1, hpage]
      rfl
    have hanswers : (request.stateAnswers state? waits).length = request.page.length := by
      rw [EnrichRequest.stateAnswers, List.length_zipWith, hlength, Nat.min_self]
    obtain ⟨lookup, hlookup⟩ :=
      List.exists_mem_of_ne_nil _ (EnrichRequest.lookups_ne_nil hpage hanswers)
    have hlimit := EnrichRequest.before_of_isEarly hlookup (hearly lookup hlookup)
    obtain ⟨verdict, instant, hend, hverdicts, -⟩ :=
      @enrichAll_endsWith now none request _ hactive hpage hspan hanswers hlimit rfl
    rw [hverdicts]
    cases hend with
    | @failed first rest failure hfailures =>
        rw [Flight.failures_made] at hfailures
        have hfirst := OrderLemmas.mem_inOrder.1 (hfailures ▸ List.mem_cons_self)
        obtain ⟨hmem, hfails⟩ := List.mem_filter.1 hfirst
        simp [fails_eq_false state? hlength hwaits first hmem] at hfails
    | concluded =>
        -- the order of the ends is a permutation of the page, which is all that the join needs
        refine congrArg (fun verdict => [verdict])
          (@conclude_eq now _ _ state? hlength hwaits _ ?_)
        exact (inOrder_perm now _).map Lookup.status
    | expired _ hlate =>
        rw [Flight.late_made] at hlate
        refine absurd (List.filter_eq_nil_iff.2 fun lookup hlookup => ?_) hlate
        simp [hearly lookup hlookup]
  · obtain ⟨hverdicts, hevents, -⟩ := enrichAll_of_nothing (.inl hinactive)
    exact ⟨hverdicts, hevents⟩

/-- A page that names one detector twice, to be told within five seconds which of it run. -/
def twiceRequest : EnrichRequest :=
  ⟨[⟨"a", []⟩, ⟨"b", []⟩, ⟨"a", []⟩], ⟨some true, some false, none⟩, .whole 5⟩

theorem enrich_exact_twice :
    (enrichAll (Float.ofInt 0) none [(twiceRequest, twiceRequest.stateAnswers
      (fun id => if id = "a" then some .running else none)
      [some (.real 2.5), none, some (.whole 1)])]).verdicts =
        [.ok [⟨"a", []⟩, ⟨"a", []⟩]] ∧
    (enrichAll (Float.ofInt 0) none [({ twiceRequest with predicate := .any },
      EnrichRequest.stateAnswers { twiceRequest with predicate := .any } (fun _ => none)
        [none, none, none])]).events = [] := by
  refine ⟨?_, ((enrich_exact _ rfl).2 (by decide)).2⟩
  exact (enrich_exact _ rfl).1 (by decide) (by decide +kernel)
    (by simp +decide) (by decide +kernel)

end DetectorSearch
