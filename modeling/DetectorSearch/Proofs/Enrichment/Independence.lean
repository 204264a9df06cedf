import DetectorSearch.Proofs.Enrichment.Run

/-!
# Requests do not disturb each other

The clock of several flights stops at the instants of all of them. An instant of
another flight leaves a flight as it is, so each goes its own course, which it
would go alone as well.

Results:
1. `advance_of_other`: an instant of others leaves a flight as it is.
2. `Flight.course`: what becomes of a flight by itself, and
   `runWhile_courses`: at every moment of a run each flight is where its course
   leads, and what has happened is what the courses tell.
3. `requests_independent`: requests that are made at once, beside and after any
   others, end as each would alone, and stand at every instant as each would
   alone.
-/

namespace DetectorSearch

variable {start now limit : Instant} {flight : Flight} {schedule : Schedule}
  {goesOn : Instant → Bool}

/-! ## 1. Instants of other flights -/

namespace Flight

theorem advance_congr {now' : Instant} (h : now.same now' = true) (flight : Flight) :
    flight.advance now = flight.advance now' := by
  have hat (due : Due) : due.isAt now = due.isAt now' := by
    cases due with
    | atInstant instant => exact Instant.same_congr_right h instant
    | firstTurn | nextTurn => rfl
  simp only [advance, strike, hat, Instant.same_congr_right h]

/-- An instant of others leaves a flight as it is. -/
theorem advance_of_other (hopen : flight.Open)
    (hother : ∀ instant ∈ flight.instants, instant.same now = false) :
    flight.advance now = (flight, []) := by
  -- neither its deadline nor its call-off nor a lookup of it has come
  have hdeadline : flight.deadline.same now = false :=
    hother _ (deadline_mem_instants hopen.verdict)
  have hcall : (flight.callOff.any fun instant => instant.same now) = false := by
    cases hcallOff : flight.callOff with
    | none => rfl
    | some instant => exact hother _ (callOff_mem_instants hopen.verdict hcallOff)
  have hat : ∀ lookup ∈ flight.waiting, lookup.due.isAt now = false := by
    intro lookup hlookup
    have hsame := hother _ (hopen.dueAt_mem_instants now hlookup)
    obtain ⟨instant, hdue⟩ := hopen.timers lookup hlookup
    simpa [Lookup.dueAt, hdue, Due.instant?, Due.isAt] using hsame
  have hdue : (flight.waiting.filter fun lookup => lookup.due.isAt now) = [] :=
    List.filter_eq_nil_iff.2 fun lookup hlookup => by simp [hat lookup hlookup]
  have hothers : (flight.waiting.filter fun lookup => !lookup.due.isAt now) = flight.waiting :=
    List.filter_eq_self.2 fun lookup hlookup => by simp [hat lookup hlookup]
  have hwaiting : flight.waiting.isEmpty = false := by simpa using hopen.waiting
  have hadvance : flight.advance now = ({ flight with verdict := none }, []) := by
    simp [advance, strike, settle, hopen.verdict, hdeadline, hcall, hdue, hothers, hwaiting,
      Timeline.endings]
  rw [hadvance, ← hopen.verdict]

end Flight

/-! ## 2. Runs up to an instant -/

namespace Schedule

/-- Lets instants come as long as they are wanted, at most the given number. -/
def runWhile (goesOn : Instant → Bool) : Nat → Schedule → Schedule
  | 0, schedule => schedule
  | fuel + 1, schedule =>
      match schedule.next? with
      | none => schedule
      | some now => if goesOn now then runWhile goesOn fuel (schedule.jump now) else schedule

/-- The schedule when all instants have come that are not after a limit. -/
def upTo (schedule : Schedule) (limit : Instant) : Schedule :=
  runWhile (fun now => !limit.before now) schedule.load schedule

theorem runFor_eq_runWhile (fuel : Nat) (schedule : Schedule) :
    runFor fuel schedule = runWhile (fun _ => true) fuel schedule := by
  induction fuel generalizing schedule with
  | zero => rfl
  | succ fuel ih =>
      rw [runFor, runWhile]
      cases schedule.next? with
      | none => rfl
      | some now => exact ih (schedule.jump now)

end Schedule

/-- Whoever wants an instant wants all that are not after it. -/
def Downward (goesOn : Instant → Bool) : Prop :=
  ∀ earlier later : Instant, earlier.IsNumber → later.IsNumber → later.before earlier = false →
    goesOn later = true → goesOn earlier = true

theorem downward_true : Downward fun _ => true :=
  fun _ _ _ _ _ _ => rfl

theorem downward_notAfter (limit : Instant) : Downward fun now => !limit.before now := by
  intro earlier later _ hlater hle hlimit
  rw [Bool.not_eq_true'] at hlimit ⊢
  exact Instant.not_before_trans hlater hle hlimit

namespace Flight

/-- What becomes of a flight by itself, as long as its instants are wanted, and what happens on the
way. -/
def courseFor (goesOn : Instant → Bool) : Nat → Flight → Flight × List Event
  | 0, flight => (flight, [])
  | fuel + 1, flight =>
      match Instant.earliest? flight.instants with
      | none => (flight, [])
      | some now =>
          if goesOn now then
            let (next, timeline) := flight.advance now
            let (last, events) := courseFor goesOn fuel next
            (last, Timeline.merge (Phase.closing ++ Phase.failing) [timeline] ++ events)
          else (flight, [])

/-- The whole course of a flight by itself. -/
def course (goesOn : Instant → Bool) (flight : Flight) : Flight × List Event :=
  flight.courseFor goesOn (flight.waiting.length + 1)

/-- A flight that is under way, or has ended. -/
def Ready (flight : Flight) : Prop :=
  flight.verdict.isSome = true ∨ flight.Open

end Flight

open Schedule.RunLemmas

namespace IndependenceLemmas

theorem courseFor_of_ended (h : flight.verdict.isSome = true) (fuel : Nat) :
    flight.courseFor goesOn fuel = (flight, []) := by
  cases fuel with
  | zero => rfl
  | succ fuel => simp [Flight.courseFor, instants_of_ended h, Instant.earliest?]

theorem earliest_spec (hopen : flight.Open) :
    ∃ first, Instant.earliest? flight.instants = some first ∧ first.IsNumber ∧
      first ∈ flight.instants ∧ ∀ instant ∈ flight.instants, instant.before first = false := by
  have hinstants : flight.instants = flight.deadline ::
      (flight.callOff.toList ++ flight.waiting.filterMap (·.due.instant?)) := by
    simp [Flight.instants, hopen.verdict]
  rw [hinstants]
  exact Instant.earliest?_spec hopen.deadline _

/-- Beyond the count of what is left to happen, more steps change nothing. -/
theorem courseFor_stable {fuel fuel' : Nat} (h : flight.Ready) (hfuel : flight.remaining ≤ fuel)
    (hfuel' : flight.remaining ≤ fuel') :
    flight.courseFor goesOn fuel = flight.courseFor goesOn fuel' := by
  -- each instant lowers the count, and a flight with nothing left has ended
  induction fuel generalizing flight fuel' with
  | zero =>
      have hended : flight.verdict.isSome = true := by
        by_contra hverdict
        simp [Flight.remaining, hverdict] at hfuel
      rw [courseFor_of_ended hended, courseFor_of_ended hended]
  | succ fuel ih =>
      rcases h with hended | hopen
      · rw [courseFor_of_ended hended, courseFor_of_ended hended]
      · obtain ⟨first, hfirst, hnumber, hmem, hmin⟩ := earliest_spec hopen
        have hlt := (advance_remaining (.inr hopen) hnumber).2 hmem
        cases fuel' with
        | zero => omega
        | succ fuel' =>
            simp only [Flight.courseFor, hfirst]
            rw [ih (advance_ready (.inr hopen) hnumber hmin) (by omega)
              (show (flight.advance first).1.remaining ≤ fuel' by omega)]

theorem remaining_le (flight : Flight) : flight.remaining ≤ flight.waiting.length + 1 := by
  rw [Flight.remaining]
  split <;> omega

/-- The course of a flight from an instant on that is not after any of its own. -/
theorem course_advance (hgoes : Downward goesOn) (h : flight.Ready) (hnow : now.IsNumber)
    (hwanted : goesOn now = true) (hmin : ∀ instant ∈ flight.instants, instant.before now = false) :
    flight.course goesOn = (((flight.advance now).1.course goesOn).1,
      Timeline.merge (Phase.closing ++ Phase.failing) [(flight.advance now).2] ++
        ((flight.advance now).1.course goesOn).2) := by
  rcases h with hended | hopen
  · rw [Flight.advance, if_pos hended]
    rfl
  · by_cases hown : ∃ instant ∈ flight.instants, instant.same now = true
    · -- the instant is the earliest of the flight's own, up to the way it is written
      obtain ⟨own, hmem, hsame⟩ := hown
      obtain ⟨first, hfirst, hnumber, hfirstMem, hfirstMin⟩ := earliest_spec hopen
      have hsameFirst : first.same now = true := by
        refine Instant.same_of_not_before hnumber hnow (hmin first hfirstMem) ?_
        rw [← Instant.before_congr_left hsame]
        exact hfirstMin own hmem
      have hwantedFirst : goesOn first = true := by
        refine hgoes first now hnumber hnow ?_ hwanted
        rw [Instant.before_congr_right hsameFirst, Instant.before_self]
      have hadvance := Flight.advance_congr hsameFirst flight
      have hlt := (advance_remaining (.inr hopen) hnumber).2 hfirstMem
      have hle := remaining_le flight
      rw [Flight.course, Flight.courseFor, hfirst]
      simp only [hwantedFirst, if_true, hadvance] at hlt ⊢
      rw [@courseFor_stable _ goesOn _ ((flight.advance now).1.waiting.length + 1)
        (advance_ready (.inr hopen) hnow hmin) (by omega) (remaining_le _)]
      rfl
    · -- the instant is one of others
      have hother : ∀ instant ∈ flight.instants, instant.same now = false := by
        intro instant hinstant
        by_contra hsame
        exact hown ⟨instant, hinstant, by simpa using hsame⟩
      rw [Flight.advance_of_other hopen hother]
      rfl

/-- A flight whose instants are not wanted stays as it is. -/
theorem course_of_unwanted (hgoes : Downward goesOn) (h : flight.Ready) (hnow : now.IsNumber)
    (hunwanted : goesOn now = false)
    (hmin : ∀ instant ∈ flight.instants, instant.before now = false) :
    flight.course goesOn = (flight, []) := by
  rcases h with hended | hopen
  · exact courseFor_of_ended hended _
  · -- its earliest instant is not before this one, so it is not wanted either
    obtain ⟨first, hfirst, hnumber, hmem, -⟩ := earliest_spec hopen
    have hfirstUnwanted : goesOn first = false := by
      by_contra hwanted
      have hnowWanted := hgoes now first hnow hnumber (hmin first hmem) (by simpa using hwanted)
      simp [hunwanted] at hnowWanted
    rw [Flight.course, Flight.courseFor, hfirst]
    simp [hfirstUnwanted]

theorem merge_perm_each (phases : List Phase) (timelines : List Timeline) :
    (Timeline.merge phases timelines).Perm
      (timelines.flatMap fun timeline => Timeline.merge phases [timeline]) := by
  induction timelines with
  | nil => simp [Timeline.merge]
  | cons timeline rest ih =>
      have hsplit : Timeline.merge phases (timeline :: rest) = phases.flatMap fun phase =>
          [timeline].flatMap (fun timeline =>
            (timeline.filter fun entry => entry.1 == phase).map Prod.snd) ++
          rest.flatMap fun timeline =>
            (timeline.filter fun entry => entry.1 == phase).map Prod.snd := by
        simp [Timeline.merge]
      rw [hsplit, List.flatMap_cons]
      exact (List.flatMap_append_perm phases _ _).symm.trans (ih.append_left _)

/-- Each flight is where its course leads, and what has happened since is what the courses tell. -/
def Along (goesOn : Instant → Bool) (schedule later : Schedule) : Prop :=
  later.flights = schedule.flights.map (fun flight => (flight.course goesOn).1) ∧
    later.events.Perm
      (schedule.events ++ schedule.flights.flatMap fun flight => (flight.course goesOn).2)

theorem along_of_still
    (h : ∀ flight ∈ schedule.flights, flight.course goesOn = (flight, [])) :
    Along goesOn schedule schedule := by
  refine ⟨?_, ?_⟩
  · conv => lhs; rw [← List.map_id schedule.flights]
    exact List.map_congr_left fun flight hflight => by rw [h flight hflight]; rfl
  · rw [List.flatMap_eq_nil_iff.2 fun flight hflight => by rw [h flight hflight], List.append_nil]

/-- What follows a jump follows from before it. -/
theorem along_of_jump {later : Schedule} (hgoes : Downward goesOn) (h : schedule.Ready)
    (hnow : now.IsNumber) (hwanted : goesOn now = true)
    (hmin : ∀ flight ∈ schedule.flights, ∀ instant ∈ flight.instants, instant.before now = false)
    (hlater : Along goesOn (schedule.jump now) later) : Along goesOn schedule later := by
  have hcourse (flight : Flight) (hflight : flight ∈ schedule.flights) :=
    course_advance hgoes (h flight hflight) hnow hwanted (hmin flight hflight)
  obtain ⟨hflights, hevents⟩ := hlater
  simp only [Schedule.jump, List.map_map] at hflights hevents
  refine ⟨?_, hevents.trans ?_⟩
  · rw [hflights]
    exact List.map_congr_left fun flight hflight => by rw [hcourse flight hflight]; rfl
  · -- a course tells what the instant does to its flight, and then the course from there
    have hsplit : (schedule.flights.flatMap fun flight => (flight.course goesOn).2) =
        schedule.flights.flatMap fun flight =>
          Timeline.merge (Phase.closing ++ Phase.failing) [(flight.advance now).2] ++
            ((flight.advance now).1.course goesOn).2 :=
      List.flatMap_congr fun flight hflight => by rw [hcourse flight hflight]
    rw [List.append_assoc, hsplit]
    refine (((merge_perm_each _ _).append_right _).trans ?_).append_left _
    rw [List.flatMap_map, List.flatMap_map]
    exact List.flatMap_append_perm schedule.flights _ _

end IndependenceLemmas

open IndependenceLemmas

/-- At the end of a run each flight is where its course leads, and what has happened is what all the
courses tell. -/
theorem Schedule.runWhile_along (hgoes : Downward goesOn) (h : schedule.Ready) {fuel : Nat}
    (hfuel : schedule.remaining ≤ fuel) :
    Along goesOn schedule (runWhile goesOn fuel schedule) := by
  -- by induction on what is left to happen: each flight moves by the instant or does not notice it
  induction fuel generalizing schedule with
  | zero =>
      refine along_of_still fun flight hflight => courseFor_of_ended ?_ _
      have hle := List.single_le_sum (fun _ _ => Nat.zero_le _) _
        (List.mem_map_of_mem (f := Flight.remaining) hflight)
      by_contra hverdict
      have hone : 1 ≤ flight.remaining := by simp [Flight.remaining, hverdict]
      exact absurd (hone.trans (hle.trans hfuel)) (by simp)
  | succ fuel ih =>
      rw [runWhile]
      rcases next?_spec h with ⟨hended, hnone⟩ | ⟨now, hsome, hnow, -, hmin⟩
      · rw [next?, hnone]
        exact along_of_still fun flight hflight => courseFor_of_ended (hended flight hflight) _
      · have hminFlight (flight : Flight) (hflight : flight ∈ schedule.flights) (instant : Instant)
            (hinstant : instant ∈ flight.instants) : instant.before now = false :=
          hmin instant (List.mem_flatMap.2 ⟨flight, hflight, hinstant⟩)
        have hnext : schedule.next? = some now := hsome
        rw [hnext]
        cases hwanted : goesOn now with
        | false =>
            simp only [hwanted]
            exact along_of_still fun flight hflight =>
              course_of_unwanted hgoes (h flight hflight) hnow hwanted (hminFlight flight hflight)
        | true =>
            simp only [hwanted, if_true]
            obtain ⟨hready, hlt⟩ := jump_remaining h hnext
            exact along_of_jump hgoes h hnow hwanted hminFlight (ih hready (by omega))

/-! ## 3. Requests beside others -/

variable {callOff : Option Instant} {requests : List (EnrichRequest × List Answer)}

namespace Schedule

/-- Starts requests at once, beside the flights that there are. -/
def add (schedule : Schedule) (callOff : Option Instant)
    (requests : List (EnrichRequest × List Answer)) : Schedule :=
  let started := launch schedule.clock callOff requests
  ⟨schedule.clock, schedule.flights ++ started.flights, schedule.events ++ started.events⟩

/-- A schedule on which requests were made batch by batch, each batch after all before it had ended,
in whatever way, and some time may have passed. -/
inductive Idle : Schedule → Prop where
  | start (now : Instant) : Idle ⟨now, [], []⟩
  | sleep {schedule : Schedule} (hidle : Idle schedule) (now : Instant) :
      Idle ⟨now, schedule.flights, schedule.events⟩
  | batch {schedule : Schedule} (hidle : Idle schedule) (callOff : Option Instant)
      (requests : List (EnrichRequest × List Answer))
      (hanswers : ∀ pair ∈ requests, pair.2.length = pair.1.page.length) :
      Idle (schedule.add callOff requests).run

/-- An enrichment is the first batch on an empty schedule. -/
theorem idle_enrichAll (now : Instant) (callOff : Option Instant)
    (hanswers : ∀ pair ∈ requests, pair.2.length = pair.1.page.length) :
    Idle (enrichAll now callOff requests) :=
  .batch (.start now) callOff requests hanswers

end Schedule

namespace IndependenceLemmas

theorem opening_perm (started : List (Flight × Timeline)) :
    (Schedule.opening started).Perm (started.flatMap fun pair => Schedule.opening [pair]) := by
  have heach (phases : List Phase) : (Timeline.merge phases (started.map Prod.snd)).Perm
      (started.flatMap fun pair => Timeline.merge phases [pair.2]) := by
    have hperm := merge_perm_each phases (started.map Prod.snd)
    rwa [List.flatMap_map] at hperm
  have hsorted : (Timeline.merge Phase.closing ((Schedule.byDeadline started).map Prod.snd)).Perm
      (started.flatMap fun pair => Timeline.merge Phase.closing [pair.2]) := by
    refine (merge_perm_each _ _).trans ?_
    rw [List.flatMap_map]
    exact (List.mergeSort_perm started _).flatMap_right _
  have hsingle (pair : Flight × Timeline) : Schedule.opening [pair] =
      Timeline.merge Phase.opening [pair.2] ++ Timeline.merge Phase.closing [pair.2] ++
        Timeline.merge Phase.failing [pair.2] := by
    simp [Schedule.opening, Schedule.byDeadline]
  simp only [hsingle]
  refine (((heach _).append hsorted).append (heach _)).trans ?_
  refine ((List.flatMap_append_perm started _ _).append_right _).trans ?_
  exact List.flatMap_append_perm started _ _

theorem add_ready {earlier : Schedule}
    (hended : ∀ flight ∈ earlier.flights, flight.verdict.isSome = true)
    (hanswers : ∀ pair ∈ requests, pair.2.length = pair.1.page.length) :
    (earlier.add callOff requests).Ready := by
  intro flight hflight
  rcases List.mem_append.1 hflight with hflight | hflight
  · exact .inl (hended flight hflight)
  · exact Schedule.launch_ready hanswers flight hflight

theorem ended_of_idle {earlier : Schedule} (h : earlier.Idle) :
    ∀ flight ∈ earlier.flights, flight.verdict.isSome = true := by
  induction h with
  | start now => simp
  | sleep _ now ih => exact ih
  | batch _ callOff requests hanswers ih => exact Schedule.run_finished (add_ready ih hanswers)

/-- Each request that is made at once with others starts as it does alone. -/
theorem launch_flights (start : Instant) (callOff : Option Instant)
    (requests : List (EnrichRequest × List Answer)) :
    (Schedule.launch start callOff requests).flights =
      requests.flatMap fun pair => (Schedule.launch start callOff [pair]).flights := by
  induction requests with
  | nil => rfl
  | cons pair rest ih => exact congrArg (_ :: ·) ih

theorem launch_events_perm (start : Instant) (callOff : Option Instant)
    (requests : List (EnrichRequest × List Answer)) :
    (Schedule.launch start callOff requests).events.Perm
      (requests.flatMap fun pair => (Schedule.launch start callOff [pair]).events) := by
  refine (opening_perm _).trans ?_
  rw [List.flatMap_map]
  exact List.Perm.refl _

/-- A run of requests beside flights that have ended shows what these show, and what each request
shows alone. -/
theorem along_add {earlier later : Schedule} (hgoes : Downward goesOn)
    (hended : ∀ flight ∈ earlier.flights, flight.verdict.isSome = true)
    (hanswers : ∀ pair ∈ requests, pair.2.length = pair.1.page.length)
    (hlater : Along goesOn (earlier.add callOff requests) later) :
    later.flights = earlier.flights ++ requests.flatMap (fun pair =>
        (Schedule.runWhile goesOn (Schedule.launch earlier.clock callOff [pair]).load
          (Schedule.launch earlier.clock callOff [pair])).flights) ∧
      later.events.Perm (earlier.events ++ requests.flatMap fun pair =>
        (Schedule.runWhile goesOn (Schedule.launch earlier.clock callOff [pair]).load
          (Schedule.launch earlier.clock callOff [pair])).events) := by
  -- a request alone is a schedule of one flight, so its run is told by the same course
  have hsolo (pair : EnrichRequest × List Answer) (hpair : pair ∈ requests) :=
    Schedule.runWhile_along hgoes
      (@Schedule.launch_ready earlier.clock callOff [pair] (by simpa using hanswers pair hpair))
      (Schedule.remaining_le_load _)
  have hstill : ∀ flight ∈ earlier.flights, flight.course goesOn = (flight, []) :=
    fun flight hflight => courseFor_of_ended (hended flight hflight) _
  obtain ⟨hkept, -⟩ := along_of_still hstill
  obtain ⟨hflights, hevents⟩ := hlater
  refine ⟨?_, hevents.trans ?_⟩
  · rw [hflights]
    simp only [Schedule.add, List.map_append]
    rw [← hkept, List.flatMap_congr fun pair hpair => (hsolo pair hpair).1, launch_flights,
      List.map_flatMap]
  · simp only [Schedule.add, List.flatMap_append]
    rw [List.flatMap_eq_nil_iff.2 fun flight hflight => by rw [hstill flight hflight],
      List.nil_append, List.append_assoc]
    refine List.Perm.append_left _ ?_
    refine List.Perm.trans ?_ (List.Perm.flatMap_left _ fun pair hpair => (hsolo pair hpair).2.symm)
    refine List.Perm.trans ?_ (List.flatMap_append_perm requests _ _)
    rw [launch_flights, List.flatMap_assoc]
    exact (launch_events_perm _ _ _).append_right _

end IndependenceLemmas

/-- Requests that are made beside flights that have ended end as each would alone. -/
theorem Schedule.add_verdicts {earlier : Schedule}
    (hended : ∀ flight ∈ earlier.flights, flight.verdict.isSome = true)
    (hanswers : ∀ pair ∈ requests, pair.2.length = pair.1.page.length) :
    (earlier.add callOff requests).run.verdicts = earlier.verdicts ++
      requests.flatMap fun pair => (enrichAll earlier.clock callOff [pair]).verdicts := by
  obtain ⟨hflights, -⟩ := along_add downward_true hended hanswers
    (runWhile_along downward_true (add_ready hended hanswers) (remaining_le_load _))
  simp only [verdicts, enrichAll, run, runFor_eq_runWhile]
  rw [hflights, List.map_append, List.map_flatMap]

theorem enrichAll_verdicts (hanswers : ∀ pair ∈ requests, pair.2.length = pair.1.page.length) :
    (enrichAll now callOff requests).verdicts =
      requests.flatMap fun pair => (enrichAll now callOff [pair]).verdicts :=
  @Schedule.add_verdicts callOff requests ⟨now, [], []⟩ (by simp) hanswers

/-- Requests that are made at once end as each would alone, whatever becomes of the others, and so
do requests that are made after any others, however these ended. At every instant on the way each
flight stands where it would alone, and nothing has happened that would not have happened to one of
them alone. -/
theorem requests_independent {earlier : Schedule} (hidle : earlier.Idle)
    (hanswers : ∀ pair ∈ requests, pair.2.length = pair.1.page.length) :
    (enrichAll now callOff requests).verdicts =
      requests.flatMap (fun pair => (enrichAll now callOff [pair]).verdicts) ∧
    (earlier.add callOff requests).run.verdicts = earlier.verdicts ++
      requests.flatMap (fun pair => (enrichAll earlier.clock callOff [pair]).verdicts) ∧
    ∀ limit : Instant,
      ((earlier.add callOff requests).upTo limit).flights = earlier.flights ++
        requests.flatMap (fun pair =>
          ((Schedule.launch earlier.clock callOff [pair]).upTo limit).flights) ∧
      ((earlier.add callOff requests).upTo limit).events.Perm (earlier.events ++
        requests.flatMap fun pair =>
          ((Schedule.launch earlier.clock callOff [pair]).upTo limit).events) := by
  have hended := ended_of_idle hidle
  refine ⟨enrichAll_verdicts hanswers, Schedule.add_verdicts hended hanswers, fun limit => ?_⟩
  have hgoes := downward_notAfter limit
  exact along_add hgoes hended hanswers
    (Schedule.runWhile_along hgoes (add_ready hended hanswers) (Schedule.remaining_le_load _))

/-- Two pages that share a detector. The second one has to be told within a second. -/
def sharingRequests : List (EnrichRequest × List Answer) :=
  [(⟨[⟨"a", []⟩, ⟨"b", []⟩], ⟨some true, none, none⟩, .whole 5⟩,
      [⟨some (.real 2.5), .ok (.resolved "a" .running)⟩,
        ⟨some (.whole 1), .ok (.resolved "b" .failed)⟩]),
    (⟨[⟨"a", []⟩], ⟨some true, none, none⟩, .whole 1⟩,
      [⟨some (.real 2.5), .ok (.resolved "a" .running)⟩])]

/-- A schedule on which the same requests were called off half a second after their start. -/
def calledOffBefore : Schedule :=
  enrichAll (Float.ofInt 0) (some 0.5) sharingRequests

theorem requests_independent_sharing :
    (calledOffBefore.add none sharingRequests).run.verdicts = calledOffBefore.verdicts ++
      sharingRequests.flatMap fun pair =>
        (enrichAll calledOffBefore.clock none [pair]).verdicts := by
  have hanswers : ∀ pair ∈ sharingRequests, pair.2.length = pair.1.page.length := by decide
  exact (@requests_independent (Float.ofInt 0) none sharingRequests calledOffBefore
    (Schedule.idle_enrichAll (Float.ofInt 0) (some 0.5) hanswers) hanswers).2.1

end DetectorSearch
