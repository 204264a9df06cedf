import DetectorSearch.Enrichment.Schedule
import DetectorSearch.Proofs.Enrichment.Ending
import Mathlib.Algebra.Order.BigOperators.Group.List

/-!
# Runs of the clock

The clock jumps to the earliest instant of all flights, and no flight has an
instant before it. Each jump ends a flight or lets a lookup end, so the number
of jumps that a run allows is enough.

Results:
1. `runFor_invariant`: what every jump preserves holds at the end of a run.
2. `run_finished`: at the end of a run every flight has ended.
3. `enrichAll_endsWith`: a request that is enriched alone ends as its lookups
   say, and at the instant they say. `enrichAll_of_launch`: one that ends at its
   start is left as it is.
-/

namespace DetectorSearch

variable {start now : Instant} {flight whole : Flight} {schedule : Schedule}

/-- The lookups that a request makes. -/
def EnrichRequest.lookups (request : EnrichRequest) (now : Instant) (answers : List Answer) :
    List Lookup :=
  List.zipWith (fun detector answer => Lookup.start now detector.id answer) request.page answers

namespace Flight

/-- The flight of a request at the moment in which its lookups are made. -/
def made (now : Instant) (callOff : Option Instant) (request : EnrichRequest)
    (answers : List Answer) : Flight :=
  ⟨request, now.after request.span, callOff, request.lookups now answers, [], none⟩

theorem horizon_made (now : Instant) (request : EnrichRequest) (answers : List Answer) :
    (made now none request answers).horizon = now.after request.span :=
  rfl

/-- A flight that nobody calls off fails by the lookups that fail before its deadline. -/
theorem failures_made (now : Instant) (request : EnrichRequest) (answers : List Answer) :
    (made now none request answers).failures now =
      inOrder now ((request.lookups now answers).filter fun lookup =>
        lookup.isEarly now (now.after request.span) && lookup.fails) :=
  rfl

/-- A flight that nobody calls off is late by the lookups that do not end before its deadline. -/
theorem late_made (now : Instant) (request : EnrichRequest) (answers : List Answer) :
    (made now none request answers).late now =
      (request.lookups now answers).filter fun lookup =>
        !lookup.isEarly now (now.after request.span) :=
  rfl

/-- What is left to happen to a flight: the ends of its lookups, and its own. -/
def remaining (flight : Flight) : Nat :=
  if flight.verdict.isSome then 0 else flight.waiting.length + 1

/-- A flight that goes on as another one was to goes on as that one's origin was to. -/
theorem Proceeds.trans {before next : Instant} {middle last : Flight}
    (h : whole.Proceeds start before middle) (hopen : middle.Open)
    (h' : middle.Proceeds start next last) : whole.Proceeds start next last := by
  rcases h with ⟨_, _, hverdict, -, -⟩ | ⟨-, hends⟩
  · simp [hopen.verdict] at hverdict
  · rcases h' with ⟨verdict, instant, hverdict, hend, hsame⟩ | ⟨hlast, hends'⟩
    · exact .inl ⟨verdict, instant, hverdict, hends _ _ hend, hsame⟩
    · exact .inr ⟨hlast, fun verdict instant hend => hends _ _ (hends' _ _ hend)⟩

end Flight

namespace Schedule

/-! ## 1. Invariants -/

theorem runFor_of_next?_none (h : schedule.next? = none) (fuel : Nat) :
    runFor fuel schedule = schedule := by
  cases fuel with
  | zero => rfl
  | succ fuel => simp [runFor, h]

/-- What every jump preserves holds at the end of a run. -/
theorem runFor_invariant {P : Schedule → Prop}
    (hjump : ∀ schedule now, P schedule → schedule.next? = some now → P (schedule.jump now))
    (fuel : Nat) (h : P schedule) : P (runFor fuel schedule) := by
  induction fuel generalizing schedule with
  | zero => exact h
  | succ fuel ih =>
      rw [runFor]
      cases hnext : schedule.next? with
      | none => exact h
      | some now => exact ih (hjump schedule now h hnext)

/-! ## 2. The end of a run -/

/-- Every flight has ended or is under way. -/
def Ready (schedule : Schedule) : Prop :=
  ∀ flight ∈ schedule.flights, flight.verdict.isSome = true ∨ flight.Open

/-- What is left to happen to all flights. -/
def remaining (schedule : Schedule) : Nat :=
  (schedule.flights.map Flight.remaining).sum

namespace RunLemmas

theorem instants_of_ended (h : flight.verdict.isSome = true) : flight.instants = [] := by
  simp [Flight.instants, h]

/-- The next instant of flights under way is one of theirs, and none of theirs is before it. -/
theorem next?_spec {flights : List Flight}
    (h : ∀ flight ∈ flights, flight.verdict.isSome = true ∨ flight.Open) :
    (∀ flight ∈ flights, flight.verdict.isSome = true) ∧
        Instant.earliest? (flights.flatMap Flight.instants) = none ∨
      ∃ now, Instant.earliest? (flights.flatMap Flight.instants) = some now ∧ now.IsNumber ∧
        now ∈ flights.flatMap Flight.instants ∧
        ∀ instant ∈ flights.flatMap Flight.instants, instant.before now = false := by
  induction flights with
  | nil => exact .inl ⟨by simp, rfl⟩
  | cons flight rest ih =>
      rw [List.flatMap_cons]
      rcases h flight (by simp) with hended | hopen
      · rw [instants_of_ended hended, List.nil_append]
        rcases ih (fun other hother => h other (by simp [hother])) with ⟨hall, hnone⟩ | hsome
        · exact .inl ⟨by simpa [hended] using hall, hnone⟩
        · exact .inr hsome
      · -- the search starts from a deadline, which is a number
        have hinstants : flight.instants = flight.deadline ::
            (flight.callOff.toList ++ flight.waiting.filterMap (·.due.instant?)) := by
          simp [Flight.instants, hopen.verdict]
        rw [hinstants, List.cons_append]
        exact .inr (Instant.earliest?_spec hopen.deadline _)

theorem settle_waiting (flight : Flight) (phase : Phase) (ended waiting : List Lookup) :
    (flight.settle phase ended waiting).1.verdict.isSome = true ∨
      (flight.settle phase ended waiting).1.waiting = waiting := by
  unfold Flight.settle
  split
  · exact .inl rfl
  · dsimp only
    split
    · exact .inl rfl
    · exact .inr rfl

/-- An instant of a flight ends it or ends one of its lookups. -/
theorem strike_remaining (hopen : flight.Open) (hnow : now.IsNumber) :
    (flight.strike now).1.remaining ≤ flight.remaining ∧
      (now ∈ flight.instants → (flight.strike now).1.remaining < flight.remaining) := by
  have hflight : flight.remaining = flight.waiting.length + 1 := by
    simp [Flight.remaining, hopen.verdict]
  have hended (h : (flight.strike now).1.verdict.isSome = true) :
      (flight.strike now).1.remaining = 0 := by
    simp [Flight.remaining, h]
  by_cases hover : flight.deadline.same now = true ∨
      (flight.callOff.any fun instant => instant.same now) = true
  · have hzero := hended (by rw [Flight.EndingLemmas.strike_of_over hover]; rfl)
    omega
  · rw [Flight.EndingLemmas.strike_of_not_over hover] at hended ⊢
    rcases settle_waiting flight .failed (flight.waiting.filter fun lookup => lookup.due.isAt now)
      (flight.waiting.filter fun lookup => !lookup.due.isAt now) with hverdict | hwaiting
    · have hzero := hended hverdict
      omega
    · generalize flight.settle _ _ _ = settled at hwaiting ⊢
      have hsettled : settled.1.remaining ≤
          (flight.waiting.filter fun lookup => !lookup.due.isAt now).length + 1 := by
        rw [Flight.remaining, hwaiting]
        split <;> omega
      have hle := List.length_filter_le (fun lookup => !lookup.due.isAt now) flight.waiting
      refine ⟨by omega, fun hmem => ?_⟩
      -- time is not up, so the instant is that of a lookup, and this one does not go on waiting
      have hlt : (flight.waiting.filter fun lookup => !lookup.due.isAt now).length <
          flight.waiting.length := by
        refine List.length_filter_lt_length_iff_exists.2 ?_
        simp only [Flight.instants, hopen.verdict] at hmem
        rcases List.mem_cons.1 hmem with rfl | hmem
        · exact absurd (.inl (Instant.same_self hnow)) hover
        · rcases List.mem_append.1 hmem with hcall | htimer
          · refine absurd (.inr ?_) hover
            simp [Option.mem_toList.1 hcall, Instant.same_self hnow]
          · obtain ⟨lookup, hlookup, hdue⟩ := List.mem_filterMap.1 htimer
            refine ⟨lookup, hlookup, ?_⟩
            cases h : lookup.due <;> simp [h, Due.instant?] at hdue
            simp [Due.isAt, hdue, Instant.same_self hnow]
      omega

theorem advance_ready (h : flight.verdict.isSome = true ∨ flight.Open) (hnow : now.IsNumber)
    (hmin : ∀ instant ∈ flight.instants, instant.before now = false) :
    (flight.advance now).1.verdict.isSome = true ∨ (flight.advance now).1.Open := by
  unfold Flight.advance
  rcases h with hended | hopen
  · rw [if_pos hended]
    exact .inl hended
  · rw [if_neg (by simp [hopen.verdict])]
    rcases Flight.strike_proceeds now hopen hnow hmin with ⟨_, _, h, -, -⟩ | ⟨h, -⟩
    · exact .inl (by simp [h])
    · exact .inr h

theorem advance_remaining (h : flight.verdict.isSome = true ∨ flight.Open) (hnow : now.IsNumber) :
    (flight.advance now).1.remaining ≤ flight.remaining ∧
      (now ∈ flight.instants → (flight.advance now).1.remaining < flight.remaining) := by
  unfold Flight.advance
  rcases h with hended | hopen
  · simp [hended, instants_of_ended hended]
  · rw [if_neg (by simp [hopen.verdict])]
    exact strike_remaining hopen hnow

end RunLemmas

open RunLemmas

/-- A jump of flights under way leaves less to happen. -/
theorem jump_remaining (h : schedule.Ready) (hnext : schedule.next? = some now) :
    (schedule.jump now).Ready ∧ (schedule.jump now).remaining < schedule.remaining := by
  rcases next?_spec h with ⟨-, hnone⟩ | ⟨now', hsome, hnow, hmem, hmin⟩
  · exact absurd (hnext.symm.trans hnone) (by simp)
  · obtain rfl := Option.some.inj (hnext.symm.trans hsome)
    have hmin' (flight : Flight) (hflight : flight ∈ schedule.flights) (instant : Instant)
        (hinstant : instant ∈ flight.instants) : instant.before now = false :=
      hmin instant (List.mem_flatMap.2 ⟨flight, hflight, hinstant⟩)
    refine ⟨?_, ?_⟩
    · intro next hadvanced
      simp only [jump, List.map_map, List.mem_map, Function.comp_apply] at hadvanced
      obtain ⟨flight, hflight, rfl⟩ := hadvanced
      exact advance_ready (h flight hflight) hnow (hmin' flight hflight)
    · obtain ⟨flight, hflight, hinstant⟩ := List.mem_flatMap.1 hmem
      simp only [remaining, jump, List.map_map]
      refine List.sum_lt_sum _ _ ?_ ⟨flight, hflight, ?_⟩
      · exact fun other hother => (advance_remaining (h other hother) hnow).1
      · exact (advance_remaining (h flight hflight) hnow).2 hinstant

theorem remaining_le_load (schedule : Schedule) : schedule.remaining ≤ schedule.load := by
  unfold remaining load
  induction schedule.flights with
  | nil => exact Nat.le_refl 0
  | cons flight rest ih =>
      have hle : flight.remaining ≤ flight.waiting.length + 1 := by
        rw [Flight.remaining]
        split <;> omega
      rw [List.map_cons, List.sum_cons, List.foldr_cons]
      omega

theorem runFor_finished (fuel : Nat) (h : schedule.Ready) (hfuel : schedule.remaining ≤ fuel) :
    (runFor fuel schedule).next? = none := by
  induction fuel generalizing schedule with
  | zero =>
      cases hnext : schedule.next? with
      | none => exact hnext
      | some now =>
          have hlt := (jump_remaining h hnext).2
          omega
  | succ fuel ih =>
      rw [runFor]
      cases hnext : schedule.next? with
      | none => exact hnext
      | some now =>
          obtain ⟨hready, hlt⟩ := jump_remaining h hnext
          exact ih hready (by omega)

/-- At the end of a run every flight has ended. -/
theorem run_finished (h : schedule.Ready) :
    ∀ flight ∈ schedule.run.flights, flight.verdict.isSome = true := by
  have hready : schedule.run.Ready :=
    runFor_invariant (fun _ _ h hnext => (jump_remaining h hnext).1) schedule.load h
  have hnone : schedule.run.next? = none :=
    runFor_finished schedule.load h (remaining_le_load schedule)
  rcases next?_spec hready with ⟨hall, -⟩ | ⟨now, hsome, -⟩
  · exact hall
  · exact absurd (hnone.symm.trans hsome) (by simp)

end Schedule

/-! ## 3. A request alone -/

variable {callOff : Option Instant} {request : EnrichRequest} {answers : List Answer}

theorem EnrichRequest.lookups_ne_nil (hpage : request.page ≠ [])
    (hanswers : answers.length = request.page.length) : request.lookups now answers ≠ [] := by
  rw [← List.length_pos_iff, lookups, List.length_zipWith, hanswers, Nat.min_self]
  exact List.length_pos_iff.2 hpage

/-- Each detector of the page is looked up with its answer. -/
theorem EnrichRequest.lookups_eq (now : Instant) (request : EnrichRequest) (answers : List Answer) :
    request.lookups now answers =
      (request.page.zip answers).map fun pair => Lookup.start now pair.1.id pair.2 := by
  rw [lookups, ← List.map_uncurry_zip_eq_zipWith]
  rfl

theorem EnrichRequest.mem_lookups {lookup : Lookup} (h : lookup ∈ request.lookups now answers) :
    ∃ detector answer, (detector, answer) ∈ request.page.zip answers ∧
      lookup = Lookup.start now detector.id answer := by
  rw [lookups_eq] at h
  obtain ⟨⟨detector, answer⟩, hmem, rfl⟩ := List.mem_map.1 h
  exact ⟨detector, answer, hmem, rfl⟩

theorem EnrichRequest.lookups_not_before :
    ∀ lookup ∈ request.lookups now answers, (lookup.dueAt now).before now = false := by
  intro lookup hlookup
  obtain ⟨detector, answer, -, rfl⟩ := mem_lookups hlookup
  exact Lookup.dueAt_start_not_before now detector.id answer

/-- A lookup that ends before a limit was made before it. -/
theorem EnrichRequest.before_of_isEarly {lookup : Lookup} {limit : Instant}
    (hlookup : lookup ∈ request.lookups now answers)
    (hearly : lookup.isEarly now limit = true) : now.before limit = true := by
  obtain ⟨detector, answer, -, rfl⟩ := mem_lookups hlookup
  exact Instant.before_of_not_before
    (Lookup.isNumber_of_dueAt_start (Instant.isNumber_left hearly))
    (Lookup.dueAt_start_not_before now detector.id answer) hearly

namespace Flight

theorem launch_eq_depart (hactive : request.predicate.isActive = true) (hpage : request.page ≠ [])
    (hspan : request.span.toFloat?.isSome = true) :
    launch now callOff request answers =
      depart ⟨request, now.after request.span, callOff, [], [], none⟩ now
        (request.lookups now answers) := by
  have hempty : request.page.isEmpty = false := by simpa using hpage
  have hnone : request.span.toFloat?.isNone = false := by simpa using hspan
  simp only [launch, hactive, hempty, hnone]
  rfl

theorem launch_proceeds (hactive : request.predicate.isActive = true) (hpage : request.page ≠ [])
    (hspan : request.span.toFloat?.isSome = true)
    (hanswers : answers.length = request.page.length)
    (hlimit : now.before (now.after request.span) = true) (hcall : reached now callOff = false) :
    (made now callOff request answers).Proceeds now now (launch now callOff request answers).1 := by
  rw [launch_eq_depart hactive hpage hspan]
  exact depart_proceeds rfl (EnrichRequest.lookups_ne_nil hpage hanswers) hlimit hcall
    EnrichRequest.lookups_not_before

/-- A flight has ended at its start, or is under way. -/
theorem launch_ready (hanswers : answers.length = request.page.length) :
    (launch now callOff request answers).1.verdict.isSome = true ∨
      (launch now callOff request answers).1.Open := by
  by_cases hactive : request.predicate.isActive = true
  · by_cases hpage : request.page = []
    · simp [launch, hactive, hpage, finish]
    · by_cases hspan : request.span.toFloat?.isSome = true
      · by_cases hcall : reached now callOff = true
        · rw [launch_eq_depart hactive hpage hspan]
          simp [depart, hcall, abandon, finish]
        · by_cases hlimit : now.before (now.after request.span) = true
          · rw [Bool.not_eq_true] at hcall
            rcases launch_proceeds hactive hpage hspan hanswers hlimit hcall with
              ⟨_, _, h, -, -⟩ | ⟨h, -⟩
            · exact .inl (by simp [h])
            · exact .inr h
          · have hdeadline : reached now (some (now.after request.span)) = true := by
              simpa [reached] using hlimit
            rw [launch_eq_depart hactive hpage hspan]
            simp [depart, hcall, hdeadline, timeout, finish]
      · have hnone : request.span.toFloat?.isNone = true := by simpa using hspan
        cases hcall : reached now callOff <;>
          simp [launch, hactive, hpage, hnone, hcall, abandon, finish]
  · simp [launch, hactive, finish]

end Flight

open Schedule Schedule.RunLemmas

/-- At its start every flight has ended or is under way. -/
theorem Schedule.launch_ready {requests : List (EnrichRequest × List Answer)}
    (hanswers : ∀ pair ∈ requests, pair.2.length = pair.1.page.length) :
    (launch now callOff requests).Ready := by
  intro flight hflight
  simp only [launch, List.map_map, List.mem_map, Function.comp_apply] at hflight
  obtain ⟨⟨request, answers⟩, hpair, rfl⟩ := hflight
  exact Flight.launch_ready (hanswers _ hpair)

/-- At the end of an enrichment every flight has ended. -/
theorem enrichAll_finished {requests : List (EnrichRequest × List Answer)}
    (hanswers : ∀ pair ∈ requests, pair.2.length = pair.1.page.length) :
    ∀ flight ∈ (enrichAll now callOff requests).flights, flight.verdict.isSome = true :=
  run_finished (launch_ready hanswers)

/-- A jump leaves a single flight to end as it was to. -/
theorem Schedule.jump_proceeds (hflights : schedule.flights = [flight])
    (h : whole.Proceeds start schedule.clock flight) (hnext : schedule.next? = some now) :
    whole.Proceeds start now (flight.advance now).1 := by
  rw [next?, hflights, List.flatMap_cons, List.flatMap_nil, List.append_nil] at hnext
  have hopen : flight.Open := by
    rcases h with ⟨_, _, hverdict, -, -⟩ | ⟨hopen, -⟩
    · have hended : flight.verdict.isSome = true := by simp [hverdict]
      simp [instants_of_ended hended, Instant.earliest?] at hnext
    · exact hopen
  have hready : ∀ other ∈ [flight], other.verdict.isSome = true ∨ other.Open := by
    simpa using .inr hopen
  rcases next?_spec hready with ⟨hended, -⟩ | hsome
  · simpa [hopen.verdict] using hended flight (by simp)
  · obtain ⟨now', hnow', hnumber, -, hmin⟩ := hsome
    rw [List.flatMap_cons, List.flatMap_nil, List.append_nil] at hnow' hmin
    obtain rfl := Option.some.inj (hnext.symm.trans hnow')
    rw [Flight.advance, if_neg (by simp [hopen.verdict])]
    exact h.trans hopen (Flight.strike_proceeds start hopen hnumber hmin)

/-- A request that is enriched alone, from before its deadline and its call-off on, ends as its
lookups say, and at the instant they say. -/
theorem enrichAll_endsWith (hactive : request.predicate.isActive = true)
    (hpage : request.page ≠ []) (hspan : request.span.toFloat?.isSome = true)
    (hanswers : answers.length = request.page.length)
    (hlimit : now.before (now.after request.span) = true)
    (hcall : Flight.reached now callOff = false) :
    ∃ verdict instant,
      (Flight.made now callOff request answers).EndsWith now verdict instant ∧
      (enrichAll now callOff [(request, answers)]).verdicts = [verdict] ∧
      instant.same (enrichAll now callOff [(request, answers)]).clock = true := by
  have hstart := Flight.launch_proceeds hactive hpage hspan hanswers hlimit hcall
  have hfinished : ∀ flight ∈ (enrichAll now callOff [(request, answers)]).flights,
      flight.verdict.isSome = true := enrichAll_finished (by simpa using hanswers)
  obtain ⟨final, hflights, hproceeds⟩ : ∃ final,
      (enrichAll now callOff [(request, answers)]).flights = [final] ∧
        (Flight.made now callOff request answers).Proceeds now
          (enrichAll now callOff [(request, answers)]).clock final := by
    refine runFor_invariant (P := fun schedule => ∃ final, schedule.flights = [final] ∧
      (Flight.made now callOff request answers).Proceeds now schedule.clock final) ?_ _ ?_
    · rintro schedule next ⟨flight, hflights, h⟩ hnext
      exact ⟨(flight.advance next).1, by simp [jump, hflights],
        jump_proceeds hflights h hnext⟩
    · exact ⟨_, rfl, hstart⟩
  rcases hproceeds with ⟨verdict, instant, hverdict, hend, hsame⟩ | ⟨hopen, -⟩
  · exact ⟨verdict, instant, hend, by simp [verdicts, hflights, hverdict], hsame⟩
  · have hended := hfinished final (by simp [hflights])
    simp [hopen.verdict] at hended

/-- A request that ends at its start is left as it is. -/
theorem enrichAll_of_launch
    (h : (Flight.launch now callOff request answers).1.verdict.isSome = true) :
    enrichAll now callOff [(request, answers)] = launch now callOff [(request, answers)] := by
  refine runFor_of_next?_none ?_ _
  simp [next?, launch, instants_of_ended h, Instant.earliest?]

/-- A request that asks nothing, or about nothing, ends at once and leaves nothing behind. -/
theorem enrichAll_of_nothing (h : request.predicate.isActive = false ∨ request.page = []) :
    (enrichAll now callOff [(request, answers)]).verdicts = [.ok request.page] ∧
      (enrichAll now callOff [(request, answers)]).events = [] ∧
      (enrichAll now callOff [(request, answers)]).clock = now := by
  have hlaunch : ∃ flight : Flight, Flight.launch now callOff request answers = (flight, []) ∧
      flight.verdict = some (.ok request.page) := by
    unfold Flight.launch
    by_cases hactive : request.predicate.isActive = false
    · exact ⟨_, by simp only [hactive]; rfl, rfl⟩
    · have hpage := h.resolve_left hactive
      rw [Bool.not_eq_false] at hactive
      exact ⟨_, by simp only [hactive, hpage]; rfl, by rw [hpage]; rfl⟩
  obtain ⟨flight, hlaunch, hverdict⟩ := hlaunch
  rw [enrichAll_of_launch (by rw [hlaunch, hverdict]; rfl)]
  simp [launch, verdicts, opening, byDeadline, Timeline.merge, hlaunch, hverdict]

end DetectorSearch
