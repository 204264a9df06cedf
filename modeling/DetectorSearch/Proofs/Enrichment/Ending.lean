import DetectorSearch.Proofs.Enrichment.Order

/-!
# How a flight ends

A flight meets its instants one after another, but its end can be told from its
lookups at once (`Flight.EndsWith`). The first failure before the horizon ends
it; without one it is concluded if all lookups end before the horizon, and it
expires at the horizon if not. The horizon is the deadline, or the call-off if
that comes before it.

Results:
1. `EndsWith.unique`: a flight has at most one end, which is not after its
   horizon. Nothing has failed before it, and some lookup lasts until then.
2. `settle_proceeds`, `strike_proceeds`: an instant that is not after any instant
   of a flight either ends it the way it was to end, or leaves a flight that is
   to end that way still.
3. `depart_proceeds`: the same about the start of the lookups.
-/

namespace DetectorSearch

namespace Flight

/-! ## 1. The end of a flight -/

/-- The instant at which a flight ends at the latest. -/
def horizon (flight : Flight) : Instant :=
  match flight.callOff with
  | none => flight.deadline
  | some instant => flight.deadline.earlier instant

/-- The failed lookups of a flight that end before its horizon, in the order in which they end. -/
def failures (start : Instant) (flight : Flight) : List Lookup :=
  inOrder start (flight.waiting.filter fun lookup =>
    lookup.isEarly start flight.horizon && lookup.fails)

/-- The lookups of a flight that do not end before its horizon, in page order. -/
def late (start : Instant) (flight : Flight) : List Lookup :=
  flight.waiting.filter fun lookup => !lookup.isEarly start flight.horizon

/-- The end of a flight at its horizon. A caller who calls off at the deadline is heard first. -/
def expiry (start : Instant) (flight : Flight) : Verdict :=
  if flight.callOff.any fun instant => instant.same flight.horizon then .error (.cancelled "")
  else .error (.enrichmentTimeout flight.request.span (flight.late start).length)

/-- How a flight ends whose lookups were made at the start, and when. -/
inductive EndsWith (start : Instant) (flight : Flight) : Verdict → Instant → Prop where
  | failed {first : Lookup} {rest : List Lookup} {failure : Failure}
      (hfailures : flight.failures start = first :: rest)
      (hfailure : first.failure? = some failure) :
      EndsWith start flight (.error failure) (first.dueAt start)
  | concluded {last : Lookup} (hfailures : flight.failures start = [])
      (hlate : flight.late start = [])
      (hlast : (inOrder start flight.waiting).getLast? = some last) :
      EndsWith start flight
        (conclude flight.request
          (flight.arrived ++ (inOrder start flight.waiting).map Lookup.status))
        (last.dueAt start)
  | expired (hfailures : flight.failures start = []) (hlate : flight.late start ≠ []) :
      EndsWith start flight (flight.expiry start) flight.horizon

/-- A flight that is under way, after the turn in which its lookups were made. -/
structure Open (flight : Flight) : Prop where
  verdict : flight.verdict = none
  waiting : flight.waiting ≠ []
  timers : ∀ lookup ∈ flight.waiting, ∃ instant, lookup.due = .atInstant instant
  deadline : flight.deadline.IsNumber

/-- What an instant makes of a flight: it ends the way it was to end, or it goes on and is to end
that way still. -/
def Proceeds (start now : Instant) (flight next : Flight) : Prop :=
  (∃ verdict instant, next.verdict = some verdict ∧
    flight.EndsWith start verdict instant ∧ instant.same now = true) ∨
  (next.Open ∧ ∀ verdict instant,
    next.EndsWith start verdict instant → flight.EndsWith start verdict instant)

theorem deadline_mem_instants {flight : Flight} (h : flight.verdict = none) :
    flight.deadline ∈ flight.instants := by
  simp [instants, h]

theorem callOff_mem_instants {flight : Flight} {instant : Instant} (h : flight.verdict = none)
    (hcall : flight.callOff = some instant) : instant ∈ flight.instants := by
  simp [instants, h, hcall]

theorem Open.dueAt_mem_instants {flight : Flight} {lookup : Lookup} (h : flight.Open)
    (start : Instant) (hlookup : lookup ∈ flight.waiting) :
    lookup.dueAt start ∈ flight.instants := by
  obtain ⟨instant, hdue⟩ := h.timers lookup hlookup
  simp only [instants, h.verdict, Lookup.dueAt, hdue, Due.instant?, Option.getD_some]
  exact List.mem_cons_of_mem _ (List.mem_append_right _
    (List.mem_filterMap.2 ⟨lookup, hlookup, by rw [hdue]⟩))

/-- A flight has at most one end. -/
theorem EndsWith.unique {start instant instant' : Instant} {flight : Flight}
    {verdict verdict' : Verdict} (h : flight.EndsWith start verdict instant)
    (h' : flight.EndsWith start verdict' instant') : verdict = verdict' ∧ instant = instant' := by
  cases h with
  | failed hfailures hfailure =>
      cases h' with
      | failed hfailures' hfailure' =>
          obtain ⟨rfl, -⟩ := List.cons.inj (hfailures.symm.trans hfailures')
          obtain rfl := Option.some.inj (hfailure.symm.trans hfailure')
          exact ⟨rfl, rfl⟩
      | concluded hfailures' | expired hfailures' => simp [hfailures] at hfailures'
  | concluded hfailures hlate hlast =>
      cases h' with
      | failed hfailures' => simp [hfailures] at hfailures'
      | concluded _ _ hlast' =>
          obtain rfl := Option.some.inj (hlast.symm.trans hlast')
          exact ⟨rfl, rfl⟩
      | expired _ hlate' => exact absurd hlate hlate'
  | expired hfailures hlate =>
      cases h' with
      | failed hfailures' => simp [hfailures] at hfailures'
      | concluded _ hlate' => exact absurd hlate' hlate
      | expired => exact ⟨rfl, rfl⟩

variable {start now limit : Instant} {flight : Flight} {lookups ended waiting : List Lookup}

theorem mem_failures {lookup : Lookup} : lookup ∈ flight.failures start ↔
    lookup ∈ flight.waiting ∧ lookup.isEarly start flight.horizon = true ∧
      lookup.fails = true := by
  rw [failures, OrderLemmas.mem_inOrder, List.mem_filter, Bool.and_eq_true]

theorem failures_eq_nil_iff : flight.failures start = [] ↔
    ∀ lookup ∈ flight.waiting, lookup.isEarly start flight.horizon = true →
      lookup.fails = false := by
  simp only [List.eq_nil_iff_forall_not_mem, mem_failures, not_and, Bool.not_eq_true]

theorem late_eq_nil_iff : flight.late start = [] ↔
    ∀ lookup ∈ flight.waiting, lookup.isEarly start flight.horizon = true := by
  simp [late, List.filter_eq_nil_iff]

/-- The failure that a flight fails by is that of the lookup that ends first. -/
theorem endsFirst_of_failures {first : Lookup} {rest : List Lookup}
    (h : flight.failures start = first :: rest) :
    EndsFirst start (flight.waiting.filter fun lookup =>
      lookup.isEarly start flight.horizon && lookup.fails) first := by
  refine head_inOrder (fun lookup hlookup => ?_) (congrArg List.head? h)
  exact Instant.isNumber_left (Bool.and_eq_true_iff.1 (List.mem_filter.1 hlookup).2).1

/-- A flight fails by the failure of the lookup that ends first. -/
theorem failures_of_endsFirst {first : Lookup}
    (h : EndsFirst start (flight.waiting.filter fun lookup =>
      lookup.isEarly start flight.horizon && lookup.fails) first) :
    ∃ rest, flight.failures start = first :: rest := by
  cases hfailures : flight.failures start with
  | nil =>
      have hmem : first ∈ flight.failures start := OrderLemmas.mem_inOrder.2 h.mem
      simp [hfailures] at hmem
  | cons head rest => exact ⟨rest, by rw [h.unique (endsFirst_of_failures hfailures)]⟩

namespace EndsWith

variable {verdict : Verdict} {instant : Instant}

theorem isNumber (h : flight.EndsWith start verdict instant) (hhorizon : flight.horizon.IsNumber) :
    instant.IsNumber := by
  cases h with
  | failed hfailures =>
      exact Instant.isNumber_left (mem_failures.1 (hfailures ▸ List.mem_cons_self)).2.1
  | concluded _ hlate hlast =>
      have hmem := OrderLemmas.mem_inOrder.1 (List.mem_of_getLast? hlast)
      exact Instant.isNumber_left (late_eq_nil_iff.1 hlate _ hmem)
  | expired => exact hhorizon

/-- A flight never ends after its horizon. -/
theorem horizon_not_before (h : flight.EndsWith start verdict instant) :
    flight.horizon.before instant = false := by
  cases h with
  | failed hfailures =>
      have hearly := (mem_failures.1 (hfailures ▸ List.mem_cons_self)).2.1
      exact Instant.not_before_of_before hearly
  | concluded _ hlate hlast =>
      have hmem := OrderLemmas.mem_inOrder.1 (List.mem_of_getLast? hlast)
      exact Instant.not_before_of_before (late_eq_nil_iff.1 hlate _ hmem)
  | expired => exact Instant.before_self flight.horizon

/-- Some lookup of a flight is not due before its end. -/
theorem exists_waiting (h : flight.EndsWith start verdict instant) :
    ∃ lookup ∈ flight.waiting, (lookup.dueAt start).before instant = false := by
  cases h with
  | @failed first _ _ hfailures =>
      exact ⟨first, (mem_failures.1 (hfailures ▸ List.mem_cons_self)).1, Instant.before_self _⟩
  | @concluded last _ _ hlast =>
      exact ⟨last, OrderLemmas.mem_inOrder.1 (List.mem_of_getLast? hlast), Instant.before_self _⟩
  | expired _ hlate =>
      obtain ⟨lookup, hlookup⟩ := List.exists_mem_of_ne_nil _ hlate
      obtain ⟨hmem, hearly⟩ := List.mem_filter.1 hlookup
      exact ⟨lookup, hmem, by simpa [Lookup.isEarly] using hearly⟩

/-- No lookup of a flight fails before its end. -/
theorem not_before_of_fails (h : flight.EndsWith start verdict instant) {lookup : Lookup}
    (hlookup : lookup ∈ flight.waiting) (hearly : lookup.isEarly start flight.horizon = true)
    (hfails : lookup.fails = true) : (lookup.dueAt start).before instant = false := by
  cases h with
  | failed hfailures =>
      refine (endsFirst_of_failures hfailures).not_before (List.mem_filter.2 ⟨hlookup, ?_⟩)
      rw [hearly, hfails]
      rfl
  | concluded hfailures | expired hfailures =>
      simp [failures_eq_nil_iff.1 hfailures lookup hlookup hearly] at hfails

end EndsWith

/-! ## 2. Taking in lookups -/

/-- A flight that has taken in lookups and waits for others. -/
def takeIn (flight : Flight) (ended waiting : List Lookup) : Flight :=
  { flight with arrived := flight.arrived ++ ended.map Lookup.status, waiting }

namespace EndingLemmas

theorem early_of_here (hnow : now.before limit = true) {lookup : Lookup}
    (h : (lookup.dueAt start).same now = true) : lookup.isEarly start limit = true := by
  rw [Lookup.isEarly, Instant.before_congr_left h, hnow]

/-- The failures of a flight are those of the lookups that end now, and after them those of the
others. -/
theorem failures_eq (hfront : Front start flight.horizon now flight.waiting ended waiting)
    (hnow : now.before flight.horizon = true) :
    flight.failures start =
      ended.filter Lookup.fails ++ (flight.takeIn ended waiting).failures start := by
  refine (hfront.order _ fun lookup h => (Bool.and_eq_true_iff.1 h).1).trans ?_
  congr 1
  refine List.filter_congr fun lookup hlookup => ?_
  rw [early_of_here hnow (hfront.here lookup hlookup), Bool.true_and]

theorem late_eq (hfront : Front start flight.horizon now flight.waiting ended waiting) :
    flight.late start = (flight.takeIn ended waiting).late start :=
  hfront.late

theorem inOrder_eq (hfront : Front start flight.horizon now flight.waiting ended waiting)
    (hnow : now.before flight.horizon = true) (hlate : flight.late start = []) :
    inOrder start flight.waiting = ended ++ inOrder start waiting := by
  have hall {lookups : List Lookup}
      (h : (lookups.filter fun lookup => !lookup.isEarly start flight.horizon) = []) :
      lookups.filter (fun lookup => lookup.isEarly start flight.horizon) = lookups := by
    refine List.filter_eq_self.2 fun lookup hlookup => ?_
    simpa using List.filter_eq_nil_iff.1 h lookup hlookup
  have horder := hfront.order (fun lookup => lookup.isEarly start flight.horizon) fun _ h => h
  have hended : ended.filter (fun lookup => lookup.isEarly start flight.horizon) = ended :=
    List.filter_eq_self.2 fun lookup hlookup => early_of_here hnow (hfront.here lookup hlookup)
  rwa [hall hlate, hall (hfront.late.symm.trans hlate), hended] at horder

/-- The first failure among lookups is that of the first one that fails. -/
theorem filter_fails_of_findSome? {failure : Failure}
    (h : lookups.findSome? Lookup.failure? = some failure) :
    ∃ first rest, lookups.filter Lookup.fails = first :: rest ∧ first ∈ lookups ∧
      first.failure? = some failure := by
  obtain ⟨earlier, first, later, rfl, hfailure, hnone⟩ := List.findSome?_eq_some_iff.1 h
  refine ⟨first, later.filter Lookup.fails, ?_, by simp, hfailure⟩
  rw [List.filter_append, List.filter_cons_of_pos (by simp [Lookup.fails, hfailure]),
    List.filter_eq_nil_iff.2, List.nil_append]
  intro lookup hlookup
  simp [Lookup.fails, hnone lookup hlookup]

theorem filter_fails_of_none (h : lookups.findSome? Lookup.failure? = none) :
    lookups.filter Lookup.fails = [] := by
  refine List.filter_eq_nil_iff.2 fun lookup hlookup => ?_
  simp [Lookup.fails, List.findSome?_eq_none_iff.1 h lookup hlookup]

/-- What is to become of the lookups that go on waiting was to become of the flight. -/
theorem endsWith_of_takeIn (hfront : Front start flight.horizon now flight.waiting ended waiting)
    (hnow : now.before flight.horizon = true) (hnone : ended.findSome? Lookup.failure? = none)
    {verdict : Verdict} {instant : Instant}
    (h : (flight.takeIn ended waiting).EndsWith start verdict instant) :
    flight.EndsWith start verdict instant := by
  have hfailures : flight.failures start = (flight.takeIn ended waiting).failures start := by
    rw [failures_eq hfront hnow, filter_fails_of_none hnone, List.nil_append]
  have hlate := late_eq hfront
  cases h with
  | failed h hfailure => exact .failed (hfailures.trans h) hfailure
  | @concluded last h hlate' hlast =>
      -- the last lookup of all is the last one that goes on waiting
      have horder := inOrder_eq hfront hnow (hlate.trans hlate')
      have hlast' : (inOrder start flight.waiting).getLast? = some last := by
        rw [horder, List.getLast?_append]
        change (inOrder start waiting).getLast? = some last at hlast
        rw [hlast, Option.some_or]
      have hend := EndsWith.concluded (hfailures.trans h) (hlate.trans hlate') hlast'
      rwa [horder, List.map_append, ← List.append_assoc] at hend
  | expired h hlate' =>
      have hend := EndsWith.expired (hfailures.trans h) (hlate ▸ hlate')
      rwa [expiry, hlate] at hend

/-- Lookups that end without a failure, none of them left, conclude a flight. -/
theorem endsWith_of_none_left (hfront : Front start flight.horizon now flight.waiting ended [])
    (hnow : now.before flight.horizon = true) (hne : flight.waiting ≠ [])
    (hnone : ended.findSome? Lookup.failure? = none) :
    ∃ instant, flight.EndsWith start
      (conclude flight.request (flight.arrived ++ ended.map Lookup.status)) instant ∧
        instant.same now = true := by
  have hfailures : flight.failures start = [] := by
    rw [failures_eq hfront hnow, filter_fails_of_none hnone]
    rfl
  have hlate : flight.late start = [] := late_eq hfront
  have horder : inOrder start flight.waiting = ended := by
    rw [inOrder_eq hfront hnow hlate]
    exact List.append_nil ended
  cases hlast : ended.getLast? with
  | none =>
      rw [List.getLast?_eq_none_iff.1 hlast] at horder
      exact absurd (horder ▸ inOrder_perm start flight.waiting).symm.eq_nil hne
  | some last =>
      have hend := EndsWith.concluded hfailures hlate (horder ▸ hlast)
      rw [horder] at hend
      exact ⟨_, hend, hfront.here last (List.mem_of_getLast? hlast)⟩

end EndingLemmas

open EndingLemmas

/-- Lookups that end at one instant, as the front of all that are waiting, end a flight the way it
was to end or leave it to end that way. -/
theorem settle_proceeds (phase : Phase) (hverdict : flight.verdict = none)
    (hdeadline : flight.deadline.IsNumber) (hne : lookups ≠ [])
    (hfront : Front start flight.horizon now lookups ended waiting)
    (hnow : now.before flight.horizon = true)
    (htimers : ∀ lookup ∈ waiting, ∃ instant, lookup.due = .atInstant instant) :
    Proceeds start now { flight with waiting := lookups }
      (flight.settle phase ended waiting).1 := by
  -- what the flight waited for before plays no part in `settle`
  generalize hwhole : ({ flight with waiting := lookups } : Flight) = whole
  have hfront' : Front start whole.horizon now whole.waiting ended waiting := hwhole ▸ hfront
  have hnow' : now.before whole.horizon = true := hwhole ▸ hnow
  unfold settle
  cases hfailure : ended.findSome? Lookup.failure? with
  | some failure =>
      obtain ⟨first, rest, hfirst, hmem, hfailed⟩ := filter_fails_of_findSome? hfailure
      have hfailures := failures_eq hfront' hnow'
      rw [hfirst, List.cons_append] at hfailures
      exact .inl ⟨_, _, rfl, .failed hfailures hfailed, hfront.here first hmem⟩
  | none =>
      by_cases hempty : waiting = []
      · subst hempty
        obtain ⟨instant, hend, hsame⟩ :=
          endsWith_of_none_left hfront' hnow' (hwhole ▸ hne) hfailure
        subst hwhole
        exact .inl ⟨_, instant, rfl, hend, hsame⟩
      · rw [if_neg (by simpa using hempty)]
        refine .inr ⟨⟨hverdict, hempty, htimers, hdeadline⟩, fun verdict instant h => ?_⟩
        refine endsWith_of_takeIn hfront' hnow' hfailure ?_
        subst hwhole
        exact h

/-! ## 3. An instant comes -/

namespace EndingLemmas

theorem horizon_cases (flight : Flight) :
    flight.horizon = flight.deadline ∨ flight.callOff = some flight.horizon := by
  unfold horizon
  cases flight.callOff with
  | none => exact .inl rfl
  | some instant =>
      simp only [Instant.earlier]
      split
      · exact .inr rfl
      · exact .inl rfl

theorem horizon_isNumber (h : flight.deadline.IsNumber) : flight.horizon.IsNumber := by
  unfold horizon
  cases flight.callOff with
  | none => exact h
  | some instant => exact (Instant.earlier_spec h).1

/-- The horizon has come if the deadline or the call-off has, and neither of them before. -/
theorem horizon_same (hdeadline : flight.deadline.IsNumber)
    (hafter : flight.deadline.before now = false)
    (hcall : ∀ instant, flight.callOff = some instant → instant.before now = false)
    (h : flight.deadline.same now = true ∨
      (flight.callOff.any fun instant => instant.same now) = true) :
    flight.horizon.same now = true := by
  unfold horizon
  cases hcallOff : flight.callOff with
  | none => simpa [hcallOff] using h
  | some instant =>
      have hcall := hcall instant hcallOff
      simp only [Instant.earlier]
      rcases h with h | h
      · rw [Instant.before_congr_right h, hcall]
        exact h
      · replace h : instant.same now = true := by simpa [hcallOff] using h
        split
        · exact h
        · next hbefore =>
            rw [Instant.before_congr_left h, Bool.not_eq_true] at hbefore
            exact Instant.same_of_not_before hdeadline
              (Instant.same_iff.1 (Instant.same_symm h)).2 hafter hbefore

theorem strike_of_over (h : flight.deadline.same now = true ∨
      (flight.callOff.any fun instant => instant.same now) = true) :
    (flight.strike now).1.verdict = some
      (if flight.callOff.any fun instant => instant.same now then .error (.cancelled "")
      else .error (.enrichmentTimeout flight.request.span flight.waiting.length)) := by
  unfold strike
  by_cases hcall : (flight.callOff.any fun instant => instant.same now) = true
  · rw [if_pos hcall]
    simp only [hcall, if_true]
    split <;> rfl
  · rw [if_neg hcall]
    simp only [h.resolve_right hcall, if_true, if_neg hcall]
    rfl

theorem strike_of_not_over (h : ¬ (flight.deadline.same now = true ∨
      (flight.callOff.any fun instant => instant.same now) = true)) :
    (flight.strike now).1 = (flight.settle .failed
      (flight.waiting.filter fun lookup => lookup.due.isAt now)
      (flight.waiting.filter fun lookup => !lookup.due.isAt now)).1 := by
  unfold strike
  simp only [if_neg fun hd => h (.inl hd), if_neg fun hc => h (.inr hc)]

/-- At its horizon a flight expires if no lookup was due before. -/
theorem endsWith_expiry (hne : flight.waiting ≠ []) (hhorizon : flight.horizon.same now = true)
    (hwaits : ∀ lookup ∈ flight.waiting, (lookup.dueAt start).before now = false) :
    flight.EndsWith start (flight.expiry start) flight.horizon ∧
      flight.late start = flight.waiting := by
  have hlate : ∀ lookup ∈ flight.waiting, lookup.isEarly start flight.horizon = false := by
    intro lookup hlookup
    rw [Lookup.isEarly, Instant.before_congr_right hhorizon, hwaits lookup hlookup]
  have hall : flight.late start = flight.waiting :=
    List.filter_eq_self.2 fun lookup hlookup => by simp [hlate lookup hlookup]
  refine ⟨.expired ?_ (hall ▸ hne), hall⟩
  rw [failures, List.filter_eq_nil_iff.2]
  · rfl
  · intro lookup hlookup
    simp [hlate lookup hlookup]

/-- The lookups that are due at an instant are a front if none was due before. -/
theorem front_due (hnow : now.before limit = true)
    (htimers : ∀ lookup ∈ lookups, ∃ instant, lookup.due = .atInstant instant)
    (hwaits : ∀ lookup ∈ lookups, (lookup.dueAt start).before now = false) :
    Front start limit now lookups (lookups.filter fun lookup => lookup.due.isAt now)
      (lookups.filter fun lookup => !lookup.due.isAt now) := by
  refine Front.filter _ 2 hnow ?_ ?_
  · intro lookup hlookup hat
    obtain ⟨instant, hdue⟩ := htimers lookup hlookup
    simp only [Lookup.dueAt, hdue, Due.isAt] at hat ⊢
    exact ⟨hat, rfl⟩
  · intro lookup hlookup hat hearly
    have hwait := hwaits lookup hlookup
    obtain ⟨instant, hdue⟩ := htimers lookup hlookup
    simp only [Lookup.isEarly, Lookup.dueAt, hdue, Due.isAt, Due.instant?, Option.getD_some]
      at hat hearly hwait ⊢
    rcases Instant.before_or_same_or_before (Instant.isNumber_left hearly)
      (Instant.isNumber_left hnow) with h | h | h
    · simp [h] at hwait
    · simp [h] at hat
    · exact .inl h

end EndingLemmas

/-- An instant that is not after any instant of a flight ends it the way it was to end, or leaves it
to end that way. -/
theorem strike_proceeds (start : Instant) (h : flight.Open) (hnow : now.IsNumber)
    (hmin : ∀ instant ∈ flight.instants, instant.before now = false) :
    flight.Proceeds start now (flight.strike now).1 := by
  have hdeadline := hmin _ (deadline_mem_instants h.verdict)
  have hcall (instant : Instant) (hsome : flight.callOff = some instant) :=
    hmin _ (callOff_mem_instants h.verdict hsome)
  have hwaits (lookup : Lookup) (hlookup : lookup ∈ flight.waiting) :=
    hmin _ (h.dueAt_mem_instants start hlookup)
  by_cases hover : flight.deadline.same now = true ∨
      (flight.callOff.any fun instant => instant.same now) = true
  · -- time is up, and as no instant was missed no lookup was due before
    have hhorizon := horizon_same h.deadline hdeadline hcall hover
    obtain ⟨hend, hlate⟩ := endsWith_expiry h.waiting hhorizon hwaits
    refine .inl ⟨_, _, strike_of_over hover, ?_, hhorizon⟩
    rw [expiry, hlate] at hend
    simpa only [Instant.same_congr_right hhorizon] using hend
  · rw [strike_of_not_over hover]
    -- neither the deadline nor the call-off has come, so both lie ahead
    have hbefore : now.before flight.horizon = true := by
      rcases Instant.before_or_same_or_before hnow (horizon_isNumber h.deadline) with
        hlt | hsame | hlt
      · exact hlt
      · refine absurd ?_ hover
        rcases horizon_cases flight with heq | hsome
        · exact .inl (heq ▸ Instant.same_symm hsame)
        · exact .inr (by simp [hsome, Instant.same_symm hsame])
      · rcases horizon_cases flight with heq | hsome
        · simp [heq, hdeadline] at hlt
        · simp [hcall _ hsome] at hlt
    exact settle_proceeds .failed h.verdict h.deadline h.waiting
      (front_due hbefore h.timers hwaits) hbefore
      fun lookup hlookup => h.timers lookup (List.mem_filter.1 hlookup).1

/-! ## 4. Lookups are made -/

namespace EndingLemmas

theorem filter_nextTurn (lookups : List Lookup) :
    (lookups.filter fun lookup => lookup.due.isNextTurn) =
      (lookups.filter fun lookup => !lookup.due.isFirstTurn).filter
        fun lookup => lookup.due.isNextTurn := by
  rw [List.filter_filter]
  refine List.filter_congr fun lookup _ => ?_
  cases lookup.due <;> rfl

theorem filter_timers (lookups : List Lookup) :
    (lookups.filter fun lookup => lookup.due.instant?.isSome) =
      (lookups.filter fun lookup => !lookup.due.isFirstTurn).filter
        fun lookup => !lookup.due.isNextTurn := by
  rw [List.filter_filter]
  refine List.filter_congr fun lookup _ => ?_
  cases lookup.due <;> rfl

/-- The lookups without a timer are a front of all that are made now. -/
theorem front_untimed (hnow : now.before limit = true)
    (hmade : ∀ lookup ∈ lookups, (lookup.dueAt now).before now = false) :
    Front now limit now lookups
      ((lookups.filter fun lookup => lookup.due.isFirstTurn) ++
        lookups.filter fun lookup => lookup.due.isNextTurn)
      (lookups.filter fun lookup => lookup.due.instant?.isSome) := by
  have hnumber : now.IsNumber := Instant.isNumber_left hnow
  have hlater (lookup : Lookup) (hlookup : lookup ∈ lookups)
      (hearly : lookup.isEarly now limit = true) :
      now.before (lookup.dueAt now) = true ∨ now.same (lookup.dueAt now) = true := by
    rcases Instant.before_or_same_or_before hnumber (Instant.isNumber_left hearly) with h | h | h
    · exact .inl h
    · exact .inr h
    · simp [hmade lookup hlookup] at h
  have hfirst : Front now limit now lookups
      (lookups.filter fun lookup => lookup.due.isFirstTurn)
      (lookups.filter fun lookup => !lookup.due.isFirstTurn) := by
    refine Front.filter _ 0 hnow ?_ ?_
    · intro lookup _ hturn
      cases hdue : lookup.due <;> simp [hdue, Due.isFirstTurn] at hturn
      simpa [Lookup.dueAt, hdue, Due.instant?, Due.turn] using Instant.same_self hnumber
    · intro lookup hlookup hturn hearly
      refine (hlater lookup hlookup hearly).imp_right fun hsame => ⟨hsame, ?_⟩
      cases hdue : lookup.due <;> simp [hdue, Due.isFirstTurn, Due.turn] at hturn ⊢
  have hnext : Front now limit now (lookups.filter fun lookup => !lookup.due.isFirstTurn)
      ((lookups.filter fun lookup => !lookup.due.isFirstTurn).filter
        fun lookup => lookup.due.isNextTurn)
      ((lookups.filter fun lookup => !lookup.due.isFirstTurn).filter
        fun lookup => !lookup.due.isNextTurn) := by
    refine Front.filter _ 1 hnow ?_ ?_
    · intro lookup _ hturn
      cases hdue : lookup.due <;> simp [hdue, Due.isNextTurn] at hturn
      simpa [Lookup.dueAt, hdue, Due.instant?, Due.turn] using Instant.same_self hnumber
    · intro lookup hlookup hturn hearly
      obtain ⟨hlookup, hnotFirst⟩ := List.mem_filter.1 hlookup
      refine (hlater lookup hlookup hearly).imp_right fun hsame => ⟨hsame, ?_⟩
      cases hdue : lookup.due <;>
        simp [hdue, Due.isFirstTurn, Due.isNextTurn, Due.turn] at hnotFirst hturn ⊢
  rw [filter_nextTurn, filter_timers]
  exact hfirst.trans hnext

end EndingLemmas

/-- The lookups that a flight makes before its deadline and its call-off end it the way it is to
end, or leave it to end that way. -/
theorem depart_proceeds (hverdict : flight.verdict = none) (hne : lookups ≠ [])
    (hdeadline : now.before flight.deadline = true) (hcall : reached now flight.callOff = false)
    (hmade : ∀ lookup ∈ lookups, (lookup.dueAt now).before now = false) :
    Proceeds now now { flight with waiting := lookups } (flight.depart now lookups).1 := by
  have hbefore : now.before flight.horizon = true := by
    rcases horizon_cases flight with heq | hsome
    · rwa [heq]
    · simpa [hsome, reached] using hcall
  have hreached : reached now (some flight.deadline) = false := by simp [reached, hdeadline]
  unfold depart
  simp only [hcall, hreached]
  exact settle_proceeds _ hverdict (Instant.isNumber_right hdeadline) hne
    (front_untimed hbefore hmade) hbefore fun lookup hlookup => by
      have htimer := (List.mem_filter.1 hlookup).2
      cases hdue : lookup.due <;> simp [hdue, Due.instant?] at htimer
      exact ⟨_, rfl⟩

end Flight

end DetectorSearch
