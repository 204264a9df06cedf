import DetectorSearch.Proofs.Enrichment.Run
import DetectorSearch.Proofs.Join

/-!
# The deadline

A deadline that lies ahead ends a request if and only if a lookup is not due
before it and none that is fails. A lookup that is due at the deadline itself
counts as pending. A deadline of nothing or less comes before the request looks
at any lookup, even at those that have ended in their first turns.

Result: `deadline_law`.
-/

namespace DetectorSearch

variable {now : Instant} {request : EnrichRequest} {answers : List Answer}

/-- Whether a service waits for something before it answers. -/
def Answer.sleeps (answer : Answer) : Bool :=
  answer.wait.any Seconds.isPositive

/-- A span that is a double, and a number. -/
def Seconds.IsReal (span : Seconds) : Prop :=
  span.toFloat?.isSome = true ∧ Place.ofFloat span.toFloat ≠ .nowhere

instance (span : Seconds) : Decidable span.IsReal :=
  inferInstanceAs (Decidable (_ ∧ _))

namespace DeadlineLemmas

/-- A lookup has a timer if and only if the service waits for something. -/
theorem instant?_start (now : Instant) (id : String) {answer : Answer}
    (hreal : ∀ span ∈ answer.wait, span.IsReal) :
    (Lookup.start now id answer).due.instant?.isSome = answer.sleeps := by
  rw [Lookup.start_eq now id fun span hspan => (hreal span hspan).1, Answer.sleeps]
  cases hwait : answer.wait with
  | none => rfl
  | some span =>
      have hpositive := Instant.isPositive_eq_not_isNothing (hreal span hwait).2
      cases hnothing : span.isNothing with
      | true => simp [Due.ofWait, Due.instant?, hnothing, hpositive]
      | false => simp [Due.ofWait, Due.instant?, hnothing, hpositive]

/-- The lookups with a timer are as many as the answers that the service waits with. -/
theorem length_timers (hanswers : answers.length = request.page.length)
    (hreal : ∀ answer ∈ answers, ∀ span ∈ answer.wait, span.IsReal) :
    ((request.lookups now answers).filter fun lookup => lookup.due.instant?.isSome).length =
      answers.countP Answer.sleeps := by
  rw [← List.countP_eq_length_filter, EnrichRequest.lookups_eq, List.countP_map]
  calc
    (request.page.zip answers).countP _ =
        (request.page.zip answers).countP (Answer.sleeps ∘ Prod.snd) := by
      refine List.countP_congr fun pair hpair => ?_
      rw [Function.comp_apply, instant?_start now pair.1.id (hreal _ (List.of_mem_zip hpair).2)]
      rfl
    _ = ((request.page.zip answers).map Prod.snd).countP Answer.sleeps := List.countP_map.symm
    _ = answers.countP Answer.sleeps := by rw [List.map_snd_zip hanswers.le]

/-- A deadline that has come already ends a request at its start. -/
theorem enrichAll_of_reached (hactive : request.predicate.isActive = true)
    (hpage : request.page ≠ []) (hspan : request.span.toFloat?.isSome = true)
    (hreached : now.before (now.after request.span) = false) :
    (enrichAll now none [(request, answers)]).verdicts =
        [.error (.enrichmentTimeout request.span
          ((request.lookups now answers).filter fun lookup =>
            lookup.due.instant?.isSome).length)] ∧
      (enrichAll now none [(request, answers)]).clock = now := by
  have hdeadline : Flight.reached now (some (now.after request.span)) = true := by
    simp [Flight.reached, hreached]
  have hverdict : (Flight.launch now none request answers).1.verdict =
      some (.error (.enrichmentTimeout request.span
        ((request.lookups now answers).filter fun lookup =>
          lookup.due.instant?.isSome).length)) := by
    rw [Flight.launch_eq_depart hactive hpage hspan]
    simp only [Flight.depart, hdeadline]
    rfl
  rw [enrichAll_of_launch (by rw [hverdict]; rfl)]
  exact ⟨by simp [Schedule.launch, Schedule.verdicts, hverdict], rfl⟩

/-- A flight that nobody calls off times out if and only if nothing fails before the deadline and
something is late. -/
theorem timeout_iff {verdict : Verdict} {instant : Instant}
    (h : (Flight.made now none request answers).EndsWith now verdict instant) :
    (∃ span pending, verdict = .error (.enrichmentTimeout span pending)) ↔
      (Flight.made now none request answers).failures now = [] ∧
        (Flight.made now none request answers).late now ≠ [] := by
  cases h with
  | @failed first rest failure hfailures hfailure =>
      obtain ⟨cause, -, rfl⟩ := Option.map_eq_some_iff.1 hfailure
      simp [hfailures]
  | concluded _ hlate =>
      refine ⟨?_, fun h => absurd hlate h.2⟩
      rintro ⟨span, pending, hverdict⟩
      -- a join fails in other ways only
      rcases Batch.conclude_error hverdict with ⟨_, h⟩ | ⟨_, h⟩ | ⟨_, h⟩ <;> cases h
  | expired hfailures hlate => exact ⟨fun _ => ⟨hfailures, hlate⟩, fun _ => ⟨_, _, rfl⟩⟩

theorem timeout_eq {span : Seconds} {pending : Int} {instant : Instant}
    (h : (Flight.made now none request answers).EndsWith now
      (.error (.enrichmentTimeout span pending)) instant) :
    span = request.span ∧
      pending = ((Flight.made now none request answers).late now).length ∧
      instant = now.after request.span := by
  obtain ⟨hfailures, hlate⟩ := (timeout_iff h).1 ⟨span, pending, rfl⟩
  obtain ⟨hverdict, hinstant⟩ := h.unique (.expired hfailures hlate)
  obtain ⟨rfl, rfl⟩ := Failure.enrichmentTimeout.inj (Except.error.inj hverdict)
  exact ⟨rfl, rfl, hinstant.trans (Flight.horizon_made now request answers)⟩

end DeadlineLemmas

open DeadlineLemmas

/-- A request with a deadline ahead times out at it if and only if a lookup is not due before, and
none that is fails. -/
theorem timeout_of_ahead (hactive : request.predicate.isActive = true) (hpage : request.page ≠ [])
    (hspan : request.span.toFloat?.isSome = true)
    (hanswers : answers.length = request.page.length)
    (hlimit : now.before (now.after request.span) = true) :
    ((∃ span pending, (enrichAll now none [(request, answers)]).verdicts =
        [.error (.enrichmentTimeout span pending)]) ↔
      (∀ lookup ∈ request.lookups now answers,
        lookup.isEarly now (now.after request.span) = true → lookup.fails = false) ∧
      ∃ lookup ∈ request.lookups now answers,
        lookup.isEarly now (now.after request.span) = false) ∧
    ∀ span pending, (enrichAll now none [(request, answers)]).verdicts =
        [.error (.enrichmentTimeout span pending)] →
      span = request.span ∧
      pending = ((request.lookups now answers).countP fun lookup =>
        !lookup.isEarly now (now.after request.span) : Nat) ∧
      (now.after request.span).same (enrichAll now none [(request, answers)]).clock = true := by
  obtain ⟨verdict, instant, hend, hverdicts, hclock⟩ :=
    @enrichAll_endsWith now none request answers hactive hpage hspan hanswers hlimit rfl
  have hfailures : (Flight.made now none request answers).failures now = [] ↔
      ∀ lookup ∈ request.lookups now answers,
        lookup.isEarly now (now.after request.span) = true → lookup.fails = false := by
    rw [Flight.failures_made, ← List.length_eq_zero_iff, (inOrder_perm now _).length_eq,
      List.length_eq_zero_iff, List.filter_eq_nil_iff]
    simp
  have hlate : (Flight.made now none request answers).late now ≠ [] ↔
      ∃ lookup ∈ request.lookups now answers,
        lookup.isEarly now (now.after request.span) = false := by
    rw [Flight.late_made, Ne, List.filter_eq_nil_iff]
    simp
  rw [hverdicts]
  refine ⟨?_, fun span pending hverdict => ?_⟩
  · rw [← hfailures, ← hlate, ← timeout_iff hend]
    simp only [List.cons.injEq, and_true]
  · obtain rfl : verdict = _ := (List.cons.inj hverdict).1
    obtain ⟨hspan, hpending, rfl⟩ := timeout_eq hend
    rw [Flight.late_made, ← List.countP_eq_length_filter] at hpending
    exact ⟨hspan, hpending, hclock⟩

/-- A deadline of more than nothing is not passed. -/
theorem deadline_not_passed (hactive : request.predicate.isActive = true)
    (hpage : request.page ≠ []) (hspan : request.span.toFloat?.isSome = true)
    (hanswers : answers.length = request.page.length) (hpositive : request.span.isPositive = true) :
    (now.after request.span).before (enrichAll now none [(request, answers)]).clock = false := by
  cases hlimit : now.before (now.after request.span) with
  | true =>
      obtain ⟨verdict, instant, hend, -, hclock⟩ :=
        @enrichAll_endsWith now none request answers hactive hpage hspan hanswers hlimit rfl
      rw [← Instant.before_congr_right hclock, ← Flight.horizon_made now request answers]
      exact hend.horizon_not_before
  | false =>
      -- the deadline is so near that the sum does not show it
      rw [(enrichAll_of_reached hactive hpage hspan hlimit).2]
      exact Instant.not_after_before now (Instant.not_isNothing_of_isPositive hpositive)

/-- A request with a deadline ahead times out if and only if a lookup is not due before the
deadline, and none that is fails. It does so at the deadline, and counts the lookups that are due
then or later. A request with a deadline of nothing or less always times out, and counts the lookups
that wait for something. So a deadline of more than nothing is never passed. -/
theorem deadline_law (hactive : request.predicate.isActive = true) (hpage : request.page ≠ [])
    (hspan : request.span.toFloat?.isSome = true)
    (hanswers : answers.length = request.page.length)
    (hreal : ∀ answer ∈ answers, ∀ span ∈ answer.wait, span.IsReal) :
    (now.before (now.after request.span) = true →
      ((∃ span pending, (enrichAll now none [(request, answers)]).verdicts =
          [.error (.enrichmentTimeout span pending)]) ↔
        (∀ lookup ∈ request.lookups now answers,
          lookup.isEarly now (now.after request.span) = true → lookup.fails = false) ∧
        ∃ lookup ∈ request.lookups now answers,
          lookup.isEarly now (now.after request.span) = false) ∧
      ∀ span pending, (enrichAll now none [(request, answers)]).verdicts =
          [.error (.enrichmentTimeout span pending)] →
        span = request.span ∧
        pending = ((request.lookups now answers).countP fun lookup =>
          !lookup.isEarly now (now.after request.span) : Nat) ∧
        (now.after request.span).same (enrichAll now none [(request, answers)]).clock = true) ∧
    (request.span.isNothing = true →
      (enrichAll now none [(request, answers)]).verdicts =
        [.error (.enrichmentTimeout request.span (answers.countP Answer.sleeps))]) ∧
    (request.span.isPositive = true →
      (now.after request.span).before (enrichAll now none [(request, answers)]).clock = false) := by
  refine ⟨timeout_of_ahead hactive hpage hspan hanswers, fun hnothing => ?_,
    deadline_not_passed hactive hpage hspan hanswers⟩
  rw [(enrichAll_of_reached hactive hpage hspan (Instant.not_before_after now hnothing)).1,
    length_timers hanswers hreal]

/-- A page of three detectors, to be told within five seconds which of them run. -/
def trioRequest : EnrichRequest :=
  ⟨[⟨"a", []⟩, ⟨"b", []⟩, ⟨"c", []⟩], ⟨some true, none, none⟩, .real 5⟩

/-- Answers of which one is due before five seconds, one at them, and one does not wait. -/
def trioAnswers : List Answer :=
  [⟨some (.real 5), .error (.fault .badValue "v")⟩,
    ⟨some (.real 2.5), .ok (.resolved "b" .running)⟩,
    ⟨some (.real 0), .ok (.resolved "c" .failed)⟩]

theorem deadline_law_trio :
    (enrichAll (Float.ofInt 0) none [(trioRequest, trioAnswers)]).verdicts =
      [.error (.enrichmentTimeout (.real 5) 1)] ∧
    (enrichAll (Float.ofInt 0) none
        [({ trioRequest with span := .real (-1) }, trioAnswers)]).verdicts =
      [.error (.enrichmentTimeout (.real (-1)) 2)] ∧
    (Instant.after (Float.ofInt 0) trioRequest.span).before
      (enrichAll (Float.ofInt 0) none [(trioRequest, trioAnswers)]).clock = false := by
  have hreal : ∀ answer ∈ trioAnswers, ∀ span ∈ answer.wait, span.IsReal := by decide +kernel
  obtain ⟨hahead, -, hpositive⟩ := @deadline_law (Float.ofInt 0) trioRequest trioAnswers
    (by decide) (by simp [trioRequest]) rfl rfl hreal
  obtain ⟨hiff, heq⟩ := hahead (by decide +kernel)
  refine ⟨?_, ?_, hpositive (by decide +kernel)⟩
  · obtain ⟨span, pending, hverdict⟩ := hiff.2 (by decide +kernel)
    obtain ⟨rfl, hpending, -⟩ := heq span pending hverdict
    have hone : ((trioRequest.lookups (Float.ofInt 0) trioAnswers).countP fun lookup =>
        !lookup.isEarly (Float.ofInt 0)
          (Instant.after (Float.ofInt 0) trioRequest.span)) = 1 := by decide +kernel
    rw [hverdict, hpending, hone]
    rfl
  · rw [(@deadline_law (Float.ofInt 0) { trioRequest with span := .real (-1) } trioAnswers
      (by decide) (by simp [trioRequest]) rfl rfl hreal).2.1 (by decide +kernel)]
    have htwo : trioAnswers.countP Answer.sleeps = 2 := by decide +kernel
    rw [htwo]
    rfl

end DetectorSearch
