import DetectorSearch.Proofs.Enrichment.Run

/-!
# All ends of a request alone

A request that is enriched alone ends in one of five ways: it asks nothing, it is
called off at its start, its deadline is beyond all reals or has come already, or
it ends as its lookups say.

Results:
1. `Ends.unique`: a request has only one end.
2. `enrichAll_ends`: it has one, and the clock stands at its instant.
-/

namespace DetectorSearch

variable {now : Instant} {callOff : Option Instant} {request : EnrichRequest}
  {answers : List Answer}

/-- Whether a request asks something about a page that is not empty. -/
def EnrichRequest.Asks (request : EnrichRequest) : Prop :=
  request.predicate.isActive = true ∧ request.page ≠ []

/-- How a request ends that is enriched alone, and when. -/
inductive EnrichRequest.Ends (request : EnrichRequest) (now : Instant) (callOff : Option Instant)
    (answers : List Answer) : Verdict → Instant → Prop where
  /-- It asks nothing, or about nothing. -/
  | idle (hidle : request.predicate.isActive = false ∨ request.page = []) :
      Ends request now callOff answers (.ok request.page) now
  /-- It is called off at its start. -/
  | abandoned (hasks : request.Asks) (hcall : Flight.reached now callOff = true) :
      Ends request now callOff answers (.error (.cancelled "")) now
  /-- Its deadline is beyond all reals. -/
  | beyond (hasks : request.Asks) (hcall : Flight.reached now callOff = false)
      (hspan : request.span.toFloat?.isSome = false) :
      Ends request now callOff answers (.error .beyondReals) now
  /-- Its deadline has come already. -/
  | overdue (hasks : request.Asks) (hcall : Flight.reached now callOff = false)
      (hspan : request.span.toFloat?.isSome = true)
      (hlimit : now.before (now.after request.span) = false) :
      Ends request now callOff answers (.error (.enrichmentTimeout request.span
        ((request.lookups now answers).filter fun lookup =>
          lookup.due.instant?.isSome).length)) now
  /-- It ends as its lookups say. -/
  | flown {verdict : Verdict} {instant : Instant} (hasks : request.Asks)
      (hcall : Flight.reached now callOff = false)
      (hspan : request.span.toFloat?.isSome = true)
      (hlimit : now.before (now.after request.span) = true)
      (hend : (Flight.made now callOff request answers).EndsWith now verdict instant) :
      Ends request now callOff answers verdict instant

theorem EnrichRequest.not_asks_iff : ¬ request.Asks ↔
    request.predicate.isActive = false ∨ request.page = [] := by
  rw [Asks, Classical.not_and_iff_not_or_not, Classical.not_not, Bool.not_eq_true]

theorem EnrichRequest.Ends.unique {verdict verdict' : Verdict} {instant instant' : Instant}
    (h : request.Ends now callOff answers verdict instant)
    (h' : request.Ends now callOff answers verdict' instant') : verdict = verdict' := by
  -- what one end asks for is what any other end excludes
  cases h with
  | idle hidle =>
      cases h' with
      | idle => rfl
      | abandoned hasks | beyond hasks | overdue hasks | flown hasks =>
          exact absurd hasks (not_asks_iff.2 hidle)
  | abandoned hasks hcall =>
      cases h' with
      | idle hidle => exact absurd hasks (not_asks_iff.2 hidle)
      | abandoned => rfl
      | beyond _ hcall' | overdue _ hcall' | flown _ hcall' => simp [hcall] at hcall'
  | beyond hasks hcall hspan =>
      cases h' with
      | idle hidle => exact absurd hasks (not_asks_iff.2 hidle)
      | abandoned _ hcall' => simp [hcall] at hcall'
      | beyond => rfl
      | overdue _ _ hspan' | flown _ _ hspan' => simp [hspan] at hspan'
  | overdue hasks hcall hspan hlimit =>
      cases h' with
      | idle hidle => exact absurd hasks (not_asks_iff.2 hidle)
      | abandoned _ hcall' => simp [hcall] at hcall'
      | beyond _ _ hspan' => simp [hspan] at hspan'
      | overdue => rfl
      | flown _ _ _ hlimit' => simp [hlimit] at hlimit'
  | flown hasks hcall hspan hlimit hend =>
      cases h' with
      | idle hidle => exact absurd hasks (not_asks_iff.2 hidle)
      | abandoned _ hcall' => simp [hcall] at hcall'
      | beyond _ _ hspan' => simp [hspan] at hspan'
      | overdue _ _ _ hlimit' => simp [hlimit] at hlimit'
      | flown _ _ _ _ hend' => exact (hend.unique hend').1

namespace SoloLemmas

theorem enrichAll_of_verdict {verdict : Verdict}
    (h : (Flight.launch now callOff request answers).1.verdict = some verdict) :
    (enrichAll now callOff [(request, answers)]).verdicts = [verdict] ∧
      (enrichAll now callOff [(request, answers)]).clock = now := by
  rw [enrichAll_of_launch (by rw [h]; rfl)]
  simp [Schedule.launch, Schedule.verdicts, h]

theorem launch_of_reached (hasks : request.Asks) (hcall : Flight.reached now callOff = true) :
    (Flight.launch now callOff request answers).1.verdict = some (.error (.cancelled "")) := by
  cases hspan : request.span.toFloat?.isSome with
  | true =>
      rw [Flight.launch_eq_depart hasks.1 hasks.2 hspan]
      simp only [Flight.depart, hcall]
      rfl
  | false =>
      simp [Flight.launch, hasks.1, hasks.2, hcall, Flight.abandon, Flight.finish,
        Option.isSome_eq_false_iff.1 hspan]

theorem launch_of_beyond (hasks : request.Asks) (hcall : Flight.reached now callOff = false)
    (hspan : request.span.toFloat?.isSome = false) :
    (Flight.launch now callOff request answers).1.verdict = some (.error .beyondReals) := by
  simp [Flight.launch, hasks.1, hasks.2, hcall, Flight.finish, Option.isSome_eq_false_iff.1 hspan]

theorem launch_of_overdue (hasks : request.Asks) (hcall : Flight.reached now callOff = false)
    (hspan : request.span.toFloat?.isSome = true)
    (hlimit : now.before (now.after request.span) = false) :
    (Flight.launch now callOff request answers).1.verdict =
      some (.error (.enrichmentTimeout request.span
        ((request.lookups now answers).filter fun lookup =>
          lookup.due.instant?.isSome).length)) := by
  have hdeadline : Flight.reached now (some (now.after request.span)) = true := by
    simp [Flight.reached, hlimit]
  rw [Flight.launch_eq_depart hasks.1 hasks.2 hspan]
  simp only [Flight.depart, hcall, hdeadline]
  rfl

end SoloLemmas

open SoloLemmas

/-- A request that is enriched alone has one of its ends, and the clock stands at its instant. -/
theorem enrichAll_ends (hanswers : answers.length = request.page.length) :
    ∃ verdict instant, request.Ends now callOff answers verdict instant ∧
      (enrichAll now callOff [(request, answers)]).verdicts = [verdict] ∧
      (enrichAll now callOff [(request, answers)]).clock.place = instant.place := by
  by_cases hasks : request.Asks
  · cases hcall : Flight.reached now callOff with
    | true =>
        obtain ⟨hverdicts, hclock⟩ :=
          @enrichAll_of_verdict now callOff request answers _ (launch_of_reached hasks hcall)
        exact ⟨_, _, .abandoned hasks hcall, hverdicts, by rw [hclock]⟩
    | false =>
        cases hspan : request.span.toFloat?.isSome with
        | false =>
            obtain ⟨hverdicts, hclock⟩ := @enrichAll_of_verdict now callOff request answers _
              (launch_of_beyond hasks hcall hspan)
            exact ⟨_, _, .beyond hasks hcall hspan, hverdicts, by rw [hclock]⟩
        | true =>
            cases hlimit : now.before (now.after request.span) with
            | false =>
                obtain ⟨hverdicts, hclock⟩ := @enrichAll_of_verdict now callOff request answers _
                  (launch_of_overdue hasks hcall hspan hlimit)
                exact ⟨_, _, .overdue hasks hcall hspan hlimit, hverdicts, by rw [hclock]⟩
            | true =>
                obtain ⟨verdict, instant, hend, hverdicts, hclock⟩ :=
                  enrichAll_endsWith hasks.1 hasks.2 hspan hanswers hlimit hcall
                exact ⟨verdict, instant, .flown hasks hcall hspan hlimit hend, hverdicts,
                  (Instant.same_iff.1 hclock).1.symm⟩
  · have hidle := EnrichRequest.not_asks_iff.1 hasks
    obtain ⟨hverdicts, -, hclock⟩ := @enrichAll_of_nothing now callOff request answers hidle
    exact ⟨_, _, .idle hidle, hverdicts, by rw [hclock]⟩

end DetectorSearch
