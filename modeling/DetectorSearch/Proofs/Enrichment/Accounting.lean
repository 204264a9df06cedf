import DetectorSearch.Enrichment.Lookup
import DetectorSearch.Proofs.Enrichment.Run
import DetectorSearch.Proofs.Enrichment.Timeline

/-!
# Every lookup is accounted for

A request makes one lookup for each detector of its page, and whichever way it
ends, each lookup has then either come to its end or been called off. None is
called off if the request has a result, and none is heard of afterwards.

Results:
1. `jumps_of_ended`: flights that have ended add nothing to what later ones
   leave behind.
2. `enrichAll_accountsFor`: what a request to the service in memory leaves
   behind, whoever calls it off and when.
-/

namespace DetectorSearch

open Timeline

variable {now : Instant} {callOff : Option Instant} {request : EnrichRequest}
  {answers : List Answer} {flight : Flight} {schedule : Schedule} {lookups : List Lookup}

/-! ## 1. Flights that have ended -/

namespace AccountingLemmas

theorem merge_of_empty (phases : List Phase) {empty timelines : List Timeline}
    (h : ∀ timeline ∈ empty, timeline = []) :
    merge phases (empty ++ timelines) = merge phases timelines := by
  have hflat : empty.flatten = [] := List.flatten_eq_nil_iff.2 h
  rw [merge_eq, merge_eq, List.flatten_append, hflat, List.nil_append]

theorem jump_append {ended : List Flight} (hended : ∀ flight ∈ ended, flight.verdict.isSome = true)
    (clock now : Instant) (later : List Flight) (events events' : List Event) :
    (Schedule.jump ⟨clock, ended ++ later, events ++ events'⟩ now) =
      ⟨now, ended ++ (Schedule.jump ⟨clock, later, events'⟩ now).flights,
        events ++ (Schedule.jump ⟨clock, later, events'⟩ now).events⟩ := by
  have hadvance : ∀ flight ∈ ended, Flight.advance now flight = (flight, []) := by
    intro flight hflight
    rw [Flight.advance, if_pos (hended flight hflight)]
  have hflights : (ended.map (Flight.advance now)).map Prod.fst = ended := by
    rw [List.map_map, List.map_congr_left (g := id)]
    · exact List.map_id ended
    · intro flight hflight
      rw [Function.comp_apply, hadvance flight hflight, id]
  have hempty : ∀ timeline ∈ (ended.map (Flight.advance now)).map Prod.snd, timeline = [] := by
    intro timeline htimeline
    rw [List.map_map] at htimeline
    obtain ⟨flight, hflight, rfl⟩ := List.mem_map.1 htimeline
    rw [Function.comp_apply, hadvance flight hflight]
  simp only [Schedule.jump, List.map_append, hflights, merge_of_empty _ hempty, List.append_assoc]

end AccountingLemmas

open AccountingLemmas

/-- Flights that have ended add nothing, whatever flights and instants follow. -/
theorem jumps_of_ended {ended : List Flight}
    (hended : ∀ flight ∈ ended, flight.verdict.isSome = true) (clock : Instant)
    (later : List Flight) (events events' : List Event) (instants : List Instant) :
    (instants.foldl Schedule.jump ⟨clock, ended ++ later, events ++ events'⟩).events =
      events ++ (instants.foldl Schedule.jump ⟨clock, later, events'⟩).events := by
  induction instants generalizing clock later events' with
  | nil => rfl
  | cons now rest ih =>
      rw [List.foldl_cons, List.foldl_cons, jump_append hended, ih]
      rfl

/-! ## 2. A flight that is accounted for -/

/-- What has happened to the lookups of a single flight: some have ended, some were dropped, and the
others wait. -/
structure Accounted (lookups : List Lookup) (events : List Event) (flight : Flight)
    (ended dropped : List Lookup) : Prop where
  calls : Event.calls events = lookups.map Lookup.detector
  completions : (Event.completions events).Perm (ended.map Lookup.detector)
  cancellations : (Event.cancellations events).Perm (dropped.map Lookup.detector)
  perm : (ended ++ dropped ++ flight.waiting).Perm lookups
  kept : dropped = [] ∨ ∃ failure, flight.verdict = some (.error failure)
  settled : flight.verdict.isSome = true → flight.waiting = []

namespace AccountingLemmas

theorem opening_singleton (flight : Flight) (timeline : Timeline) :
    Schedule.opening [(flight, timeline)] = merge (.call :: Phase.afterCall) [timeline] := by
  have hphases : Phase.call :: Phase.afterCall =
      Phase.opening ++ Phase.closing ++ Phase.failing := rfl
  simp [Schedule.opening, Schedule.byDeadline, hphases, merge, List.flatMap_append]

/-- At its start a flight has made its lookups, and accounts for them. -/
theorem launch_accounted (hactive : request.predicate.isActive = true)
    (hspan : request.span.toFloat?.isSome = true)
    (hwaits : ∀ lookup ∈ request.lookups now answers, lookup.waits = true) :
    ∃ ended dropped, Accounted (request.lookups now answers)
      (Schedule.launch now callOff [(request, answers)]).events
      (Flight.launch now callOff request answers).1 ended dropped := by
  by_cases hpage : request.page = []
  · have hlaunch : ∃ flight, Flight.launch now callOff request answers = (flight, []) ∧
        flight.waiting = [] :=
      ⟨_, by simp only [Flight.launch, hactive, hpage]; rfl, rfl⟩
    obtain ⟨flight, hlaunch, hwaiting⟩ := hlaunch
    have hevents : (Schedule.launch now callOff [(request, answers)]).events = [] := by
      simp only [Schedule.launch, List.map_cons, List.map_nil, hlaunch, opening_singleton]
      rfl
    rw [hlaunch, hevents]
    refine ⟨[], [], ?_, .refl [], .refl [], ?_, .inl rfl, fun _ => hwaiting⟩ <;>
      simp [EnrichRequest.lookups, hpage, hwaiting, Event.calls]
  obtain ⟨rest, ended, dropped, htimeline, h⟩ := @Flight.depart_accounts
    ⟨request, now.after request.span, callOff, [], [], none⟩ _ now rfl hwaits
  rw [← Flight.launch_eq_depart hactive hpage hspan] at htimeline h
  have hevents : (Schedule.launch now callOff [(request, answers)]).events =
      ((request.lookups now answers).map fun lookup => .called lookup.detector) ++
        merge Phase.afterCall [rest] := by
    rw [← merge_calls _ h.records.phases, ← htimeline, ← opening_singleton]
    rfl
  obtain ⟨hcalls, hends, hdrops⟩ := h.records.merged (by decide)
  have hmade : ∀ made : List Lookup,
      Event.calls (made.map fun lookup => .called lookup.detector) = made.map Lookup.detector ∧
        Event.completions (made.map fun lookup => .called lookup.detector) = [] ∧
        Event.cancellations (made.map fun lookup => .called lookup.detector) = [] := by
    intro made
    simp [Event.calls, Event.completions, Event.cancellations, List.filterMap_map]
  obtain ⟨hmadeCalls, hmadeEnds, hmadeDrops⟩ := hmade (request.lookups now answers)
  refine ⟨ended, dropped, ?_, ?_, ?_, h.perm, h.kept, h.settled⟩
  · rw [hevents, Event.calls_append, hmadeCalls, hcalls, List.append_nil]
  · rwa [hevents, Event.completions_append, hmadeEnds, List.nil_append]
  · rwa [hevents, Event.cancellations_append, hmadeDrops, List.nil_append]

/-- A jump accounts for the lookups that end or are dropped at its instant. -/
theorem jump_accounted {ended dropped : List Lookup} (hflights : schedule.flights = [flight])
    (hwaits : ∀ lookup ∈ lookups, lookup.waits = true)
    (h : Accounted lookups schedule.events flight ended dropped) (now : Instant) :
    ∃ ended dropped, Accounted lookups (schedule.jump now).events (flight.advance now).1
      ended dropped := by
  have hevents : (schedule.jump now).events =
      schedule.events ++ merge (Phase.closing ++ Phase.failing) [(flight.advance now).2] := by
    simp [Schedule.jump, hflights]
  rw [hevents]
  unfold Flight.advance
  by_cases hverdict : flight.verdict.isSome = true
  · rw [if_pos hverdict]
    refine ⟨ended, dropped, ?_⟩
    have hnone : merge (Phase.closing ++ Phase.failing) [[]] = [] := rfl
    show Accounted lookups (schedule.events ++ merge (Phase.closing ++ Phase.failing) [[]])
      flight ended dropped
    rwa [hnone, List.append_nil]
  · rw [if_neg hverdict]
    have hnone : flight.verdict = none := by simpa using hverdict
    -- a flight that goes on has dropped nothing yet
    have hkept : dropped = [] := by
      refine h.kept.resolve_right ?_
      rintro ⟨failure, hfailure⟩
      simp [hnone] at hfailure
    subst hkept
    have hmem : ∀ lookup ∈ flight.waiting, lookup ∈ lookups := fun lookup hlookup =>
      h.perm.mem_iff.1 (List.mem_append_right _ hlookup)
    obtain ⟨ended', dropped', h'⟩ := Flight.strike_accounts now hnone fun lookup hlookup =>
      hwaits lookup (hmem lookup hlookup)
    obtain ⟨hcalls, hends, hdrops⟩ := h'.records.merged (by decide)
    refine ⟨ended ++ ended', dropped', ?_, ?_, ?_, ?_, h'.kept, h'.settled⟩
    · rw [Event.calls_append, hcalls, List.append_nil, h.calls]
    · rw [Event.completions_append, List.map_append]
      exact h.completions.append hends
    · have hcancelled := h.cancellations.append hdrops
      rwa [← Event.cancellations_append] at hcancelled
    · have hperm := h.perm
      rw [List.append_nil] at hperm
      rw [List.append_assoc, List.append_assoc, ← List.append_assoc ended']
      exact (h'.perm.append_left ended).trans hperm

end AccountingLemmas

/-! ## 3. The service in memory -/

/-- The answers of the service to the lookups of a page. -/
def StatusService.answersFor (service : StatusService) (page : List Detector) : List Answer :=
  page.map fun detector => service.answer detector.id

/-- What a run that has ended leaves behind of the lookups for a page. -/
structure Schedule.AccountsFor (run : Schedule) (page : List Detector) (lookups : List Lookup) :
    Prop where
  /-- Every flight has an end. -/
  finished : ∀ flight ∈ run.flights, flight.verdict.isSome = true
  /-- One lookup was made for each detector, in page order. -/
  calls : Event.calls run.events = page.map Detector.id
  /-- Each lookup has either come to its end or been called off. -/
  once : ∃ ended dropped : List Lookup, (ended ++ dropped).Perm lookups ∧
    (Event.completions run.events).Perm (ended.map Lookup.detector) ∧
    (Event.cancellations run.events).Perm (dropped.map Lookup.detector)
  /-- Their ids are those of the page, each as often as there. -/
  total : (Event.completions run.events ++ Event.cancellations run.events).Perm
    (page.map Detector.id)
  /-- No lookup was called off if there is a result. -/
  kept : ∀ result, run.verdicts = [.ok result] → Event.cancellations run.events = []
  /-- Nothing more is heard of any lookup, whatever flights and instants follow. -/
  silent : ∀ (later : List Flight) (events : List Event) (instants : List Instant),
    (instants.foldl Schedule.jump
      ⟨run.clock, run.flights ++ later, run.events ++ events⟩).events =
    run.events ++ (instants.foldl Schedule.jump ⟨run.clock, later, events⟩).events

namespace AccountingLemmas

variable {service : StatusService}

theorem start_detector (now : Instant) (id : String) (answer : Answer) :
    (Lookup.start now id answer).detector = id := by
  unfold Lookup.start
  split <;> rfl

theorem lookups_detector (hanswers : answers.length = request.page.length) :
    (request.lookups now answers).map Lookup.detector = request.page.map Detector.id := by
  rw [EnrichRequest.lookups_eq, List.map_map]
  calc
    (request.page.zip answers).map _ = (request.page.zip answers).map (Detector.id ∘ Prod.fst) :=
      List.map_congr_left fun pair _ => start_detector now pair.1.id pair.2
    _ = ((request.page.zip answers).map Prod.fst).map Detector.id := List.map_map.symm
    _ = request.page.map Detector.id := by rw [List.map_fst_zip hanswers.ge]

/-- The service comes to the end of every wait that is a double. -/
theorem service_waits
    (hwaits : ∀ id span, Keyed.find? id service.waits = some span → span.toFloat?.isSome = true) :
    ∀ lookup ∈ request.lookups now (service.answersFor request.page), lookup.waits = true := by
  intro lookup hlookup
  obtain ⟨detector, answer, hmem, rfl⟩ := EnrichRequest.mem_lookups hlookup
  obtain ⟨other, -, rfl⟩ := List.mem_map.1 (List.of_mem_zip hmem).2
  have hspan : ∀ span ∈ (service.answer other.id).wait, span.toFloat?.isSome = true := by
    rintro span hspan
    obtain rfl : (Keyed.find? other.id service.waits).getD (.whole 0) = span :=
      Option.some.inj hspan
    cases hfind : Keyed.find? other.id service.waits with
    | none => decide
    | some span => exact hwaits other.id span hfind
  rw [Lookup.start_eq now detector.id hspan]

end AccountingLemmas

/-- A request to the service in memory accounts for every lookup, whichever way it ends, and whoever
calls it off and when. Its deadline and the waits of the service are doubles, also those that are no
numbers. A request that asks nothing, or about nothing, leaves nothing behind. -/
theorem enrichAll_accountsFor (service : StatusService) (callOff : Option Instant)
    (hspan : request.span.toFloat?.isSome = true)
    (hwaits : ∀ id span, Keyed.find? id service.waits = some span →
      span.toFloat?.isSome = true) :
    (request.predicate.isActive = true →
      (enrichAll now callOff [(request, service.answersFor request.page)]).AccountsFor request.page
        (request.lookups now (service.answersFor request.page))) ∧
    (request.predicate.isActive = false ∨ request.page = [] →
      (enrichAll now callOff [(request, service.answersFor request.page)]).events = []) := by
  refine ⟨fun hactive => ?_, fun h => (enrichAll_of_nothing h).2.1⟩
  have hanswers : (service.answersFor request.page).length = request.page.length :=
    List.length_map _
  have hservice := @service_waits now request service hwaits
  have hfinished : ∀ flight ∈
      (enrichAll now callOff [(request, service.answersFor request.page)]).flights,
      flight.verdict.isSome = true := enrichAll_finished (by simpa using hanswers)
  -- at every jump of the run each lookup has ended, was dropped or waits
  obtain ⟨flight, ended, dropped, hflights, h⟩ : ∃ flight ended dropped,
      (enrichAll now callOff [(request, service.answersFor request.page)]).flights = [flight] ∧
        Accounted (request.lookups now (service.answersFor request.page))
          (enrichAll now callOff [(request, service.answersFor request.page)]).events
          flight ended dropped := by
    refine Schedule.runFor_invariant (P := fun schedule => ∃ flight ended dropped,
      schedule.flights = [flight] ∧
        Accounted (request.lookups now (service.answersFor request.page)) schedule.events
          flight ended dropped) ?_ _ ?_
    · rintro schedule next ⟨flight, ended, dropped, hflights, h⟩ -
      obtain ⟨ended', dropped', h'⟩ := jump_accounted hflights hservice h next
      exact ⟨_, ended', dropped', by simp [Schedule.jump, hflights], h'⟩
    · obtain ⟨ended, dropped, h⟩ :=
        @launch_accounted now callOff request _ hactive hspan hservice
      exact ⟨_, ended, dropped, rfl, h⟩
  have hover : flight.verdict.isSome = true := hfinished flight (by simp [hflights])
  have hperm := h.perm
  rw [h.settled hover, List.append_nil] at hperm
  refine ⟨hfinished, ?_, ⟨ended, dropped, hperm, h.completions, h.cancellations⟩, ?_, ?_, ?_⟩
  · rw [h.calls, lookups_detector hanswers]
  · rw [← @lookups_detector now request _ hanswers]
    refine (h.completions.append h.cancellations).trans ?_
    rw [← List.map_append]
    exact hperm.map Lookup.detector
  · intro result hresult
    have hkept : dropped = [] := by
      refine h.kept.resolve_right ?_
      rintro ⟨failure, hfailure⟩
      simp [Schedule.verdicts, hflights, hfailure] at hresult
    exact List.Perm.eq_nil (by simpa [hkept] using h.cancellations)
  · intro later events instants
    exact jumps_of_ended hfinished _ later _ events instants

/-- A page that names one detector twice, to be told within five seconds which of it run. -/
def repeatedRequest : EnrichRequest :=
  ⟨[⟨"a", []⟩, ⟨"b", []⟩, ⟨"a", []⟩], ⟨some true, none, none⟩, .whole 5⟩

/-- A service that waits for one detector, and does not know the other. -/
def slowService : StatusService :=
  ⟨[("a", .ok .running)], [("a", .real 2.5)]⟩

theorem enrichAll_accountsFor_called_off :
    (enrichAll (Float.ofInt 0) (some (Float.ofInt 1))
        [(repeatedRequest, slowService.answersFor repeatedRequest.page)]).AccountsFor
      repeatedRequest.page
      (repeatedRequest.lookups (Float.ofInt 0) (slowService.answersFor repeatedRequest.page)) ∧
    (enrichAll (Float.ofInt 0) none
      [({ repeatedRequest with predicate := .any },
        slowService.answersFor repeatedRequest.page)]).events = [] := by
  have hwaits (id : String) (span : Seconds)
      (h : Keyed.find? id slowService.waits = some span) : span.toFloat?.isSome = true := by
    simp only [slowService, Keyed.find?] at h
    split at h
    · obtain rfl := Option.some.inj h
      rfl
    · simp at h
  have hspan : repeatedRequest.span.toFloat?.isSome = true := rfl
  exact ⟨(enrichAll_accountsFor slowService (some (Float.ofInt 1)) hspan hwaits).1 (by decide),
    (@enrichAll_accountsFor (Float.ofInt 0) { repeatedRequest with predicate := .any } slowService
      none hspan hwaits).2 (.inl (by decide))⟩

end DetectorSearch
