import DetectorSearch.Proofs.Catalog
import DetectorSearch.Proofs.Decimal.Sum
import DetectorSearch.Proofs.Presentation
import DetectorSearch.Proofs.Tool
import DetectorSearch.Proofs.Tool.Memory

/-!
# What a run of the tool means

With both backends in memory a run is a function of its parameters, the documents
and the states. It filters and orders the documents, cuts out its window, keeps
the detectors whose states meet every demand, and shows them.

Results:
1. `TellsInTime`: a service that tells the states of a page before the deadline;
   `StaysBelow.tellsInTime`: at the start of the clock its delays decide that.
2. `Finds`, `Finds.page`: runs whose documents can be asked and ordered.
3. `run_means`: what a run shows, and which lookups it makes.
4. `run_outruns_delay`: later on, a delay below the deadline is not enough.
-/

namespace DetectorSearch

open Op

/-! ## 1. A service that is in time -/

namespace StatusService

/-- How long the service waits for a detector. -/
def delay (service : StatusService) (id : String) : Seconds :=
  (Keyed.find? id service.waits).getD (.whole 0)

/-- The instant at which the service tells a state. -/
def toldAt (service : StatusService) (now : Instant) (id : String) : Instant :=
  if (service.delay id).isNothing then now else now.after (service.delay id)

/-- The service has a state for each detector of a page, and tells it before the deadline. -/
structure TellsInTime (service : StatusService) (state : String → State) (now : Instant)
    (span : Seconds) (page : List Detector) : Prop where
  double : span.toFloat?.isSome = true
  held : ∀ detector ∈ page,
    Keyed.find? detector.id service.findings = some (.ok (state detector.id))
  doubles : ∀ detector ∈ page, (service.delay detector.id).toFloat?.isSome = true
  early : ∀ detector ∈ page, (service.toldAt now detector.id).before (now.after span) = true

variable {service : StatusService} {state : String → State} {now : Instant} {span : Seconds}
  {page : List Detector} {request : EnrichRequest}

theorem lookups_answersFor : request.lookups now (service.answersFor request.page) =
    request.page.map fun detector => Lookup.start now detector.id (service.answer detector.id) := by
  rw [EnrichRequest.lookups, answersFor, List.zipWith_map_right, List.zipWith_self]

theorem start_answer (now : Instant) {id : String}
    (h : (service.delay id).toFloat?.isSome = true) : Lookup.start now id (service.answer id) =
      ⟨id, Due.ofWait now (some (service.delay id)), true, service.ending id⟩ := by
  refine Lookup.start_eq now id ?_
  rintro wait hwait
  obtain rfl : service.delay id = wait := Option.some.inj hwait
  exact h

theorem dueAt_answer (now : Instant) {id : String}
    (h : (service.delay id).toFloat?.isSome = true) :
    (Lookup.start now id (service.answer id)).dueAt now = service.toldAt now id := by
  rw [start_answer now h, Lookup.dueAt, Due.ofWait, toldAt]
  split <;> rfl

namespace TellsInTime

theorem answeredInTime (h : service.TellsInTime state now request.span request.page) :
    request.AnsweredInTime now (fun id => some (state id))
      (request.page.map fun detector => (service.answer detector.id).wait) where
  span := h.double
  each := List.length_map _
  doubles wait hwait := by
    obtain ⟨detector, hdetector, heq⟩ := List.mem_map.1 hwait
    obtain rfl : service.delay detector.id = wait := Option.some.inj heq
    exact h.doubles detector hdetector
  early lookup hlookup := by
    rw [← answersFor_eq h.held, lookups_answersFor] at hlookup
    obtain ⟨detector, hdetector, rfl⟩ := List.mem_map.1 hlookup
    rw [Lookup.isEarly, dueAt_answer now (h.doubles detector hdetector)]
    exact h.early detector hdetector

theorem waits (h : service.TellsInTime state now request.span request.page) :
    ∀ lookup ∈ request.lookups now (service.answersFor request.page), lookup.waits = true := by
  intro lookup hlookup
  rw [lookups_answersFor] at hlookup
  obtain ⟨detector, hdetector, rfl⟩ := List.mem_map.1 hlookup
  rw [start_answer now (h.doubles detector hdetector)]

end TellsInTime

/-- At the start of the clock an instant after a span is the span itself. -/
theorem place_after_start (span : Seconds) :
    (Instant.after 0.0 span).place = Place.ofFloat span.toFloat := by
  have hzero : (0.0 : Float).toModel.unpack = .zero .positive := by rfl
  rw [Place.ofFloat_eq_ofUnpacked, ← Place.add_zero_left .positive, ← hzero]
  rfl

/-- The service has a state for each detector of a page, and waits less than a positive span. -/
structure StaysBelow (service : StatusService) (state : String → State) (span : Seconds)
    (page : List Detector) : Prop where
  double : span.toFloat?.isSome = true
  positive : span.isPositive = true
  held : ∀ detector ∈ page,
    Keyed.find? detector.id service.findings = some (.ok (state detector.id))
  doubles : ∀ detector ∈ page, (service.delay detector.id).toFloat?.isSome = true
  below : ∀ detector ∈ page,
    Instant.before (service.delay detector.id).toFloat span.toFloat = true

theorem StaysBelow.mono (h : service.StaysBelow state span page) {part : List Detector}
    (hpart : ∀ detector ∈ part, detector ∈ page) : service.StaysBelow state span part where
  double := h.double
  positive := h.positive
  held detector hdetector := h.held detector (hpart detector hdetector)
  doubles detector hdetector := h.doubles detector (hpart detector hdetector)
  below detector hdetector := h.below detector (hpart detector hdetector)

/-- At the start of the clock that is enough to be in time. Later on it is not, since the instants
after two spans may be the same double. -/
theorem StaysBelow.tellsInTime (h : service.StaysBelow state span page) :
    service.TellsInTime state 0.0 span page where
  double := h.double
  held := h.held
  doubles := h.doubles
  early detector hdetector := by
    have hzero : Instant.place 0.0 = Place.ofInt 0 := by decide +kernel
    unfold toldAt Instant.before
    rw [place_after_start]
    split
    · rw [hzero]
      exact h.positive
    · rw [place_after_start]
      exact h.below detector hdetector

end StatusService

/-! ## 2. The page of a run -/

theorem isDescending_name (order : SortOrder) :
    isDescending order.name = (order == .desc) := by
  cases order <;> decide +kernel

namespace Tool

variable {σ : Type} {around : Surroundings σ} {tool : Tool} {fields : Fields}
  {deadline : Option Seconds} {session : Session σ} {parameters : Parameters}
  {catalog : Catalog} {service : StatusService} {hits : List Detector}

/-- A run in memory whose parameters can be read, and whose documents can be asked the query of its
filter and put into the order asked for. -/
structure Finds (tool : Tool) (fields : Fields) (session : Session σ) (parameters : Parameters)
    (catalog : Catalog) (service : StatusService) (hits : List Detector) : Prop where
  read : Parameters.ofFields fields tool.settings.defaults = .ok parameters
  size : 0 ≤ parameters.size
  start : 0 ≤ parameters.start
  search : session.search = .memory catalog
  status : session.status = .memory service
  answers : (Value.object parameters.filter.toQuery).Answers catalog.documents
  ordered : ordered parameters.sortField (parameters.sortOrder == .desc)
    (catalog.documents.filter (Detector.isFound (.object parameters.filter.toQuery))) = .ok hits

/-- The page of a run, a window of its hits. -/
def pageOf (parameters : Parameters) (hits : List Detector) : List Detector :=
  window hits parameters.size.toNat parameters.start.toNat

/-- The page of the request is the window of the hits, with their count. -/
theorem Finds.page (h : tool.Finds fields session parameters catalog service hits) :
    parameters.request.page catalog.documents = .ok ⟨pageOf parameters hits, hits.length⟩ := by
  have hranked : parameters.request.rankedHits catalog.documents = .ok hits := by
    refine SearchRequest.rankedHits_eq_ok.2 ⟨h.answers, ?_⟩
    show DetectorSearch.ordered parameters.sortField (isDescending parameters.sortOrder.name) _ = _
    rw [isDescending_name]
    exact h.ordered
  refine SearchRequest.page_eq_ok.2 ⟨hits, hranked, ?_⟩
  rw [pageOf, ← slice_of_nonneg hits h.start h.size]
  rfl

theorem Finds.mem_of_mem_pageOf (h : tool.Finds fields session parameters catalog service hits) :
    ∀ detector ∈ pageOf parameters hits, detector ∈ catalog.documents := by
  intro detector hdetector
  have hhit := (window_sublist hits _ _).mem hdetector
  exact (List.mem_filter.1 ((ordered_ranks h.ordered).perm.mem_iff.1 hhit)).1

/-! ## 3. What a run shows -/

/-- A run ends as the presentation of detectors and a total does. That is a text, unless a name or
the total has a number in it that is too long to be written. -/
structure Shows (ending : Outcome String) (shown : List Detector) (total : Nat) : Prop where
  rendered : ending = Presentation.render shown total
  written : Presentation.Nameable shown → total < tenTo digitLimit → ∃ text, ending = .ok text

namespace MeaningLemmas

theorem shows_of_eq {ending : Outcome String} {shown : List Detector} {total : Nat}
    (h : ending = Presentation.render shown total) : Shows ending shown total where
  rendered := h
  written hnames htotal := by
    rw [h]
    exact Presentation.render_isOk hnames (by simpa using htotal)

/-- What cannot be shown is not worth another attempt. -/
theorem render_final {shown : List Detector} {total : Int} {failure : Failure}
    (h : Presentation.render shown total = .error failure) : failure.isRetryable = false := by
  rw [(Presentation.render_error h).1]
  rfl

theorem run_inactive (h : tool.Finds fields session parameters catalog service hits)
    (hinactive : parameters.predicate.isActive = false) :
    (run around tool fields deadline).outcome session =
      (Presentation.render (pageOf parameters hits) hits.length,
        session.noting catalog parameters.request) := by
  have hattempt := @attempt_of_inactive σ around session catalog tool.settings parameters deadline
    _ h.search h.page hinactive
  rw [run_of_final h.read (fun failure hfailure => ?_), hattempt]
  rw [hattempt] at hfailure
  exact render_final hfailure

theorem run_active (h : tool.Finds fields session parameters catalog service hits)
    (hactive : parameters.predicate.isActive = true) {state : String → State}
    (htold : service.TellsInTime state session.clock (spanFor tool.settings deadline)
      (pageOf parameters hits)) {kept : List Detector}
    (hkept : kept = parameters.predicate.select (fun id => some (state id))
      (pageOf parameters hits)) :
    ((run around tool fields deadline).outcome session).1 =
      Presentation.render kept kept.length ∧
    Event.calls ((run around tool fields deadline).outcome session).2.events =
      Event.calls session.events ++ (pageOf parameters hits).map Detector.id := by
  let request := enrichment tool.settings parameters deadline
    ⟨pageOf parameters hits, hits.length⟩
  have hanswers := @StatusService.answersFor_eq request service state htold.held
  have hverdict : (StatusLookup.Alone session service request).verdicts = [.ok kept] := by
    rw [StatusLookup.Alone, hanswers, hkept]
    exact EnrichRequest.verdicts_of_answeredInTime hactive
      (@StatusService.TellsInTime.answeredInTime _ _ _ request htold)
  have hcalls : Event.calls (StatusLookup.Alone session service request).events =
      (pageOf parameters hits).map Detector.id :=
    @enrichAll_calls session.clock none request _ hactive htold.double
      (length_answersFor service (pageOf parameters hits))
      (@StatusService.TellsInTime.waits _ _ _ request htold)
  obtain ⟨events, hattempt, hnone⟩ := @attempt_of_active σ around session catalog service
    tool.settings parameters deadline _ h.search h.status h.page hactive _ hverdict
  rw [run_of_final h.read (fun failure hfailure => ?_), hattempt]
  · refine ⟨rfl, ?_⟩
    show Event.calls (session.events ++ (StatusLookup.Alone session service request).events ++
      events) = _
    rw [Event.calls_append, Event.calls_append, hcalls, hnone, List.append_nil]
  · rw [hattempt] at hfailure
    exact render_final hfailure

end MeaningLemmas

open MeaningLemmas

/-- A run whose documents can be asked its query and ordered finds those that the query finds, in
the order asked for, and takes its page out of them. If no states are asked for, it shows the page
and the count of all that was found, and nothing but the request shows in the session. If states are
asked for and the service tells those of the page before the deadline, it shows the detectors of the
page whose states meet every demand, in the order of the page, and their count; one lookup was made
for each detector of the page. At the start of the clock it is enough that the service waits less
than a positive deadline. -/
theorem run_means (around : Surroundings σ) (deadline : Option Seconds)
    (h : tool.Finds fields session parameters catalog service hits) :
    Ranking parameters.sortField (parameters.sortOrder == .desc)
      (catalog.documents.filter (Detector.isFound (.object parameters.filter.toQuery))) hits ∧
    (parameters.predicate.isActive = false →
      Shows ((run around tool fields deadline).outcome session).1 (pageOf parameters hits)
        hits.length ∧
      ((run around tool fields deadline).outcome session).2 =
        session.noting catalog parameters.request) ∧
    (parameters.predicate.isActive = true → ∀ state : String → State,
      (service.TellsInTime state session.clock (spanFor tool.settings deadline)
          (pageOf parameters hits) ∨
        session.clock = 0.0 ∧ service.StaysBelow state (spanFor tool.settings deadline)
          (pageOf parameters hits)) →
      ∀ kept, kept = (pageOf parameters hits).filter (fun detector =>
          parameters.predicate.Demands (state detector.id)) →
        Shows ((run around tool fields deadline).outcome session).1 kept kept.length ∧
        Event.calls ((run around tool fields deadline).outcome session).2.events =
          Event.calls session.events ++ (pageOf parameters hits).map Detector.id) := by
  refine ⟨ordered_ranks h.ordered, fun hinactive => ?_, ?_⟩
  · rw [run_inactive h hinactive]
    exact ⟨shows_of_eq rfl, rfl⟩
  · intro hactive state htold kept hkept
    have hintime : service.TellsInTime state session.clock (spanFor tool.settings deadline)
        (pageOf parameters hits) := by
      rcases htold with htold | ⟨hclock, hbelow⟩
      · exact htold
      · rw [hclock]
        exact hbelow.tellsInTime
    obtain ⟨hshown, hcalls⟩ := @run_active σ around tool fields deadline session parameters catalog
      service hits h hactive state hintime kept hkept
    exact ⟨shows_of_eq hshown, hcalls⟩

/-- The tool with the standard settings. -/
def standardTool : Tool := .ofSettings Settings.standard

/-- Whether the premises of a run under the standard settings hold, and what it asks. -/
def findsTest (fields : Fields) (documents : List Detector) (test : Parameters → Bool) : Bool :=
  (Parameters.ofFields fields Defaults.standard).toOption.any fun parameters =>
    decide (0 ≤ parameters.size) && decide (0 ≤ parameters.start) &&
      (documents.all fun detector =>
        (Document.satisfies detector.source (.object parameters.filter.toQuery)).isOk) &&
      (ordered parameters.sortField (parameters.sortOrder == .desc) (documents.filter
        (Detector.isFound (.object parameters.filter.toQuery)))).isOk && test parameters

theorem exists_finds {documents : List Detector} {test : Parameters → Bool}
    (hsearch : session.search = .memory (.ofDocuments documents))
    (hstatus : session.status = .memory service)
    (h : findsTest fields documents test = true) :
    ∃ parameters hits, standardTool.Finds fields session parameters (.ofDocuments documents)
      service hits ∧ test parameters = true := by
  unfold findsTest at h
  cases hread : Parameters.ofFields fields Defaults.standard with
  | error failure => simp [hread, Except.toOption] at h
  | ok parameters =>
      simp only [hread, Except.toOption, Option.any_some, Bool.and_eq_true, decide_eq_true_eq,
        List.all_eq_true] at h
      obtain ⟨⟨⟨⟨hsize, hstart⟩, hanswers⟩, hordered⟩, htest⟩ := h
      obtain ⟨hits, hordered⟩ := Outcome.isOk_iff.1 hordered
      refine ⟨parameters, hits, ⟨hread, hsize, hstart, hsearch, hstatus, ?_, hordered⟩, htest⟩
      exact fun detector hdetector => Outcome.isOk_iff.1 (hanswers detector hdetector)

/-- A service that holds three states, and waits for one of them. -/
def trioService : StatusService :=
  ⟨[("a", .ok .running), ("b", .ok .disabled), ("c", .ok .failed)], [("a", .real 0.5)]⟩

/-- Three detectors, of which the second one alone has a name. -/
def trioDocuments : List Detector :=
  [⟨"a", []⟩, ⟨"b", [("name", .text "beta")]⟩, ⟨"c", []⟩]

/-- A session at the start of the clock. -/
def trioSession : Session Unit :=
  Session.start (.memory (.ofDocuments trioDocuments)) (.memory trioService) ()

/-- Fields that ask for a page of two, and for those of them that are not disabled. -/
def enabledFields : Fields := [("disabled", .bool false), ("size", .text "2")]

/-- The states that the service holds. -/
def trioState (id : String) : State :=
  if id = "a" then .running else if id = "b" then .disabled else .failed

theorem trioService_staysBelow :
    trioService.StaysBelow trioState (spanFor Settings.standard none) trioDocuments where
  double := by decide +kernel
  positive := by decide +kernel
  held := by
    simp only [trioDocuments, List.forall_mem_cons]
    exact ⟨rfl, rfl, rfl, nofun⟩
  doubles := by decide +kernel
  below := by decide +kernel

theorem run_means_trio :
    (∃ parameters hits,
      standardTool.Finds enabledFields trioSession parameters (.ofDocuments trioDocuments)
        trioService hits ∧
      ∀ kept, kept = (pageOf parameters hits).filter (fun detector =>
          parameters.predicate.Demands (trioState detector.id)) →
        Shows ((run stillSurroundings standardTool enabledFields none).outcome trioSession).1 kept
          kept.length ∧
        Event.calls ((run stillSurroundings standardTool enabledFields none).outcome
          trioSession).2.events = (pageOf parameters hits).map Detector.id) ∧
    ∃ parameters hits,
      standardTool.Finds [] trioSession parameters (.ofDocuments trioDocuments) trioService hits ∧
      Shows ((run stillSurroundings standardTool [] none).outcome trioSession).1
        (pageOf parameters hits) hits.length := by
  constructor
  · obtain ⟨parameters, hits, hfinds, hactive⟩ := @exists_finds Unit enabledFields trioSession
      trioService trioDocuments (fun parameters => parameters.predicate.isActive) rfl rfl
      (by decide +kernel)
    exact ⟨parameters, hits, hfinds, (run_means stillSurroundings none hfinds).2.2 hactive
      trioState (.inr ⟨rfl, trioService_staysBelow.mono hfinds.mem_of_mem_pageOf⟩)⟩
  · obtain ⟨parameters, hits, hfinds, hactive⟩ := @exists_finds Unit [] trioSession
      trioService trioDocuments (fun parameters => !parameters.predicate.isActive) rfl rfl
      (by decide +kernel)
    exact ⟨parameters, hits, hfinds,
      ((run_means stillSurroundings none hfinds).2.1 (by simpa using hactive)).1⟩

/-! ## 4. A delay below the deadline -/

/-- A service that waits for a moment. -/
def momentService : StatusService := ⟨[("a", .ok .running)], [("a", .real 1e-17)]⟩

/-- A session one second after the start of the clock. -/
def laterSession : Session Unit :=
  { Session.start (.memory (.ofDocuments [⟨"a", []⟩])) (.memory momentService) () with clock := 1.0 }

/-- A detector whose name has more digits than can be written. -/
def endlessDetector : Detector := ⟨"a", [("name", .int (tenTo digitLimit))]⟩

/-- A session with that detector. -/
def endlessSession : Session Unit :=
  Session.start (.memory (.ofDocuments [endlessDetector])) (.memory ⟨[], []⟩) ()

/-- Whether an outcome is a deadline that came. -/
def isTimeout : Outcome String → Bool
  | .error (.enrichmentTimeout _ _) => true
  | _ => false

/-- Whether an outcome is a value that could not be written. -/
def isUnwritten : Outcome String → Bool
  | .error (.fault .badValue _) => true
  | _ => false

/-- Later on, a delay that is below a positive deadline may end with it: both are then too short to
show in the clock. And a page is not always shown, even at the start of the clock and if nothing is
asked of its states. -/
theorem run_outruns_delay :
    (∃ parameters hits span pending,
      standardTool.Finds runningFields laterSession parameters (.ofDocuments [⟨"a", []⟩])
        momentService hits ∧
      momentService.StaysBelow (fun _ => .running) (.real 2e-17) [⟨"a", []⟩] ∧
      ((run stillSurroundings standardTool runningFields (some (.real 2e-17))).outcome
        laterSession).1 = .error (.enrichmentTimeout span pending)) ∧
    ∃ parameters hits reason,
      standardTool.Finds [] endlessSession parameters (.ofDocuments [endlessDetector]) ⟨[], []⟩
        hits ∧
      parameters.predicate.isActive = false ∧
      ((run stillSurroundings standardTool [] none).outcome endlessSession).1 =
        .error (.fault .badValue reason) := by
  constructor
  · obtain ⟨parameters, hits, hfinds, -⟩ := @exists_finds Unit runningFields laterSession
      momentService [⟨"a", []⟩] (fun _ => true) rfl rfl (by decide +kernel)
    have htest : isTimeout ((run stillSurroundings standardTool runningFields
        (some (.real 2e-17))).outcome laterSession).1 = true := by decide +kernel
    unfold isTimeout at htest
    split at htest
    · rename_i span pending hend
      refine ⟨parameters, hits, span, pending, hfinds, ?_, hend⟩
      exact ⟨by decide +kernel, by decide +kernel, by simp [momentService, Keyed.find?],
        by decide +kernel, by decide +kernel⟩
    · exact absurd htest Bool.false_ne_true
  · obtain ⟨parameters, hits, hfinds, hinactive⟩ := @exists_finds Unit [] endlessSession
      ⟨[], []⟩ [endlessDetector] (fun parameters => !parameters.predicate.isActive) rfl rfl
      (by decide +kernel)
    have htest : isUnwritten ((run stillSurroundings standardTool [] none).outcome
        endlessSession).1 = true := by decide +kernel
    unfold isUnwritten at htest
    split at htest
    · rename_i reason hend
      exact ⟨parameters, hits, reason, hfinds, by simpa using hinactive, hend⟩
    · exact absurd htest Bool.false_ne_true

end Tool

end DetectorSearch
