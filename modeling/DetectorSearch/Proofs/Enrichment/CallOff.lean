import DetectorSearch.Proofs.Enrichment.Solo
import DetectorSearch.Proofs.Join

/-!
# Requests that are called off

A caller who calls a request off cuts its horizon short. If the request ends
before that anyway, nothing changes for it; if not, neither a lookup nor the
deadline is heard any more, also at the very instant of the call-off. A lookup
that is cancelled by its service is a failed one, and tells nothing about the
caller.

Results:
1. `ends_of_before`, `ends_of_not_before`: the end of a request that is called
   off, told by its end without that.
2. `callOff_decides`: what a caller gets who calls off, and what one gets who
   does not.
-/

namespace DetectorSearch

variable {now call : Instant} {callOff : Option Instant} {request : EnrichRequest}
  {answers : List Answer} {verdict : Verdict} {instant : Instant}

/-! ## 1. The horizon is cut short -/

namespace CallOffLemmas

theorem early_cut (hcall : call.IsNumber) (lookup : Lookup) :
    lookup.isEarly now (Flight.made now (some call) request answers).horizon =
      (lookup.isEarly now (now.after request.span) && lookup.isEarly now call) :=
  Instant.before_earlier hcall (lookup.dueAt now)

theorem horizon_of_before (h : call.before (now.after request.span) = true) :
    (Flight.made now (some call) request answers).horizon = call :=
  if_pos h

theorem horizon_of_not_before (h : call.before (now.after request.span) = false) :
    (Flight.made now (some call) request answers).horizon = now.after request.span :=
  if_neg fun hbefore => Bool.false_ne_true (h.symm.trans hbefore)

/-- A flight that ends before it is called off ends as it would without that. -/
theorem endsWith_of_before
    (h : (Flight.made now none request answers).EndsWith now verdict instant)
    (hbefore : instant.before call = true) :
    (Flight.made now (some call) request answers).EndsWith now verdict instant := by
  have hcall : call.IsNumber := Instant.isNumber_right hbefore
  cases h with
  | @failed first rest failure hfailures hfailure =>
      -- the first of the failures is still heard, so it is the first of those that are
      have hselect : ((request.lookups now answers).filter fun lookup =>
          lookup.isEarly now (Flight.made now (some call) request answers).horizon &&
            lookup.fails) =
          ((request.lookups now answers).filter fun lookup =>
            lookup.isEarly now (now.after request.span) && lookup.fails).filter
              fun lookup => lookup.isEarly now call := by
        rw [List.filter_filter]
        refine List.filter_congr fun lookup _ => ?_
        rw [early_cut hcall, Bool.and_comm (lookup.isEarly now (now.after request.span)),
          Bool.and_assoc]
      have hfirst : EndsFirst now ((request.lookups now answers).filter fun lookup =>
          lookup.isEarly now (Flight.made now (some call) request answers).horizon &&
            lookup.fails) first := by
        rw [hselect]
        exact (Flight.endsFirst_of_failures hfailures).filter _ hbefore
      obtain ⟨rest', hcut⟩ := @Flight.failures_of_endsFirst now
        (Flight.made now (some call) request answers) first hfirst
      exact .failed hcut hfailure
  | @concluded last hfailures hlate hlast =>
      -- the last of all lookups is early enough, so all are
      have hall := Flight.late_eq_nil_iff.1 hlate
      have hlater := getLast_inOrder (fun lookup hlookup =>
        Instant.isNumber_left (hall lookup hlookup)) hlast
      have hcut (lookup : Lookup)
          (hlookup : lookup ∈ (Flight.made now (some call) request answers).waiting) :
          lookup.isEarly now (Flight.made now (some call) request answers).horizon = true := by
        rw [early_cut hcall, Bool.and_eq_true]
        exact ⟨hall lookup hlookup, Instant.before_of_not_before
          (Instant.isNumber_left (hall lookup hlookup)) (hlater lookup hlookup) hbefore⟩
      refine @Flight.EndsWith.concluded now (Flight.made now (some call) request answers) last
        (Flight.failures_eq_nil_iff.2 fun lookup hlookup _ => ?_)
        (Flight.late_eq_nil_iff.2 hcut) hlast
      exact Flight.failures_eq_nil_iff.1 hfailures lookup hlookup (hall lookup hlookup)
  | expired hfailures hlate =>
      -- the deadline is the horizon as before
      have hhorizon : (Flight.made now (some call) request answers).horizon =
          (Flight.made now none request answers).horizon :=
        horizon_of_not_before (Instant.not_before_of_before hbefore)
      have hsame : ¬ call.same (Flight.made now none request answers).horizon = true := by
        intro hsame
        rw [← Instant.before_congr_left hsame, Instant.before_self] at hbefore
        exact Bool.false_ne_true hbefore
      have hexpiry : (Flight.made now (some call) request answers).expiry now =
          (Flight.made now none request answers).expiry now := by
        rw [Flight.expiry, Flight.late, hhorizon, if_neg (by simpa [Flight.made] using hsame)]
        rfl
      rw [← hexpiry, ← hhorizon]
      refine .expired ?_ ?_
      · rw [Flight.failures, hhorizon]
        exact hfailures
      · rw [Flight.late, hhorizon]
        exact hlate

/-- A flight that has not ended when it is called off ends in the call-off. -/
theorem endsWith_of_not_before (hdeadline : (now.after request.span).IsNumber)
    (hcall : call.IsNumber)
    (h : (Flight.made now none request answers).EndsWith now verdict instant)
    (hnot : instant.before call = false) :
    ∃ horizon, (Flight.made now (some call) request answers).EndsWith now
      (.error (.cancelled "")) horizon := by
  have hnumber : instant.IsNumber := h.isNumber hdeadline
  have hbefore {other : Instant} (hother : other.before call = true) :
      other.before instant = true := by
    by_contra hlate
    rw [Bool.not_eq_true] at hlate
    rw [Instant.before_of_not_before hnumber hlate hother] at hnot
    exact Bool.false_ne_true hnot.symm
  -- the horizon is the instant of the call-off, up to the way it is written
  have hsame : call.same (Flight.made now (some call) request answers).horizon = true := by
    have hnotDeadline : (now.after request.span).before call = false := by
      by_contra hlt
      rw [Bool.not_eq_false] at hlt
      have hpassed := h.horizon_not_before
      rw [Flight.horizon_made, hbefore hlt] at hpassed
      exact Bool.false_ne_true hpassed.symm
    cases hbeforeDeadline : call.before (now.after request.span) with
    | true =>
        rw [horizon_of_before hbeforeDeadline]
        exact Instant.same_self hcall
    | false =>
        rw [horizon_of_not_before hbeforeDeadline]
        exact Instant.same_of_not_before hcall hdeadline hbeforeDeadline hnotDeadline
  have hfailures : (Flight.made now (some call) request answers).failures now = [] := by
    refine Flight.failures_eq_nil_iff.2 fun lookup hlookup hearly => ?_
    rw [early_cut hcall, Bool.and_eq_true] at hearly
    by_contra hfails
    rw [Bool.not_eq_false] at hfails
    have hlate := h.not_before_of_fails hlookup hearly.1 hfails
    rw [hbefore hearly.2] at hlate
    exact Bool.false_ne_true hlate.symm
  have hlate : (Flight.made now (some call) request answers).late now ≠ [] := by
    obtain ⟨lookup, hlookup, hwaits⟩ := h.exists_waiting
    intro hnone
    have hearly := Flight.late_eq_nil_iff.1 hnone lookup hlookup
    rw [early_cut hcall, Bool.and_eq_true] at hearly
    rw [hbefore hearly.2] at hwaits
    exact Bool.false_ne_true hwaits.symm
  have hexpired := Flight.EndsWith.expired hfailures hlate
  rw [Flight.expiry, if_pos (by simpa [Flight.made] using hsame)] at hexpired
  exact ⟨_, hexpired⟩

theorem before_of_reached (h : Flight.reached now (some call) = false) : now.before call = true := by
  simpa [Flight.reached] using h

/-- No request ends before it was made. -/
theorem ends_not_before (h : request.Ends now callOff answers verdict instant) :
    instant.before now = false := by
  cases h with
  | idle | abandoned | beyond | overdue => exact Instant.before_self now
  | flown _ hcall _ hlimit hend =>
      cases hend with
      | failed hfailures =>
          have hmem := (Flight.mem_failures.1 (hfailures ▸ List.mem_cons_self)).1
          exact EnrichRequest.lookups_not_before _ hmem
      | concluded _ _ hlast =>
          have hmem := OrderLemmas.mem_inOrder.1 (List.mem_of_getLast? hlast)
          exact EnrichRequest.lookups_not_before _ hmem
      | expired =>
          refine Instant.not_before_of_before ?_
          cases callOff with
          | none => exact hlimit
          | some call =>
              have hbefore := before_of_reached hcall
              rw [Flight.horizon]
              simp only [Flight.made]
              rw [Instant.before_earlier (Instant.isNumber_right hbefore), hlimit, hbefore]
              rfl

/-- A request that ends before it is called off ends as it would without that. -/
theorem ends_of_before (h : request.Ends now none answers verdict instant)
    (hbefore : instant.before call = true) :
    request.Ends now (some call) answers verdict instant := by
  have hcall (hnumber : now.IsNumber) : Flight.reached now (some call) = false := by
    rw [Flight.reached, Instant.before_of_not_before hnumber (ends_not_before h) hbefore]
    rfl
  cases h with
  | idle hidle => exact .idle hidle
  | abandoned _ hreached => exact absurd hreached Bool.false_ne_true
  | beyond hasks _ hspan => exact .beyond hasks (hcall (Instant.isNumber_left hbefore)) hspan
  | overdue hasks _ hspan hlimit =>
      exact .overdue hasks (hcall (Instant.isNumber_left hbefore)) hspan hlimit
  | flown hasks _ hspan hlimit hend =>
      exact .flown hasks (hcall (Instant.isNumber_left hlimit)) hspan hlimit
        (endsWith_of_before hend hbefore)

/-- A request that has not ended when it is called off ends in the call-off. -/
theorem ends_of_not_before (hasks : request.Asks)
    (h : request.Ends now none answers verdict instant) (hnot : instant.before call = false) :
    ∃ horizon, request.Ends now (some call) answers (.error (.cancelled "")) horizon := by
  cases hreached : Flight.reached now (some call) with
  | true => exact ⟨now, .abandoned hasks hreached⟩
  | false =>
      have hbefore := before_of_reached hreached
      cases h with
      | idle hidle => exact absurd hasks (EnrichRequest.not_asks_iff.2 hidle)
      | abandoned _ hcall => exact absurd hcall Bool.false_ne_true
      | beyond | overdue => exact absurd (hnot.symm.trans hbefore) Bool.false_ne_true
      | flown _ _ hspan hlimit hend =>
          obtain ⟨horizon, hcut⟩ := endsWith_of_not_before (Instant.isNumber_right hlimit)
            (Instant.isNumber_right hbefore) hend hnot
          exact ⟨horizon, .flown hasks hreached hspan hlimit hcut⟩

/-- A request that nobody calls off does not end as if someone had. -/
theorem ends_ne_cancelled (h : request.Ends now none answers verdict instant) (reason : String) :
    verdict ≠ .error (.cancelled reason) := by
  cases h with
  | abandoned _ hcall => exact absurd hcall Bool.false_ne_true
  | idle | beyond | overdue => exact nofun
  | flown _ _ _ _ hend =>
      cases hend with
      | failed _ hfailure =>
          obtain ⟨cause, -, rfl⟩ := Option.map_eq_some_iff.1 hfailure
          exact nofun
      | concluded =>
          intro hcancelled
          rcases Batch.conclude_error hcancelled with ⟨_, h⟩ | ⟨_, h⟩ | ⟨_, h⟩ <;> cases h
      | expired => exact nofun

end CallOffLemmas

open CallOffLemmas

/-! ## 2. What the caller gets -/

/-- A request that asks nothing, or would have ended before the call-off, gives the caller who calls
it off what it would have given. Any other request is cancelled, whatever else falls on the instant
of the call-off. A request that nobody calls off is never cancelled: if a lookup that its service
cancels is the first to fail before the deadline, the request ends in the failure of that lookup. Waits
that are no numbers are not excluded: they lead to no instant, and a request that has one ends before
the call-off only if its deadline does, or another lookup fails. -/
theorem callOff_decides (hanswers : answers.length = request.page.length) :
    (∀ call : Instant,
      (¬ request.Asks ∨ (enrichAll now none [(request, answers)]).clock.before call = true →
        (enrichAll now (some call) [(request, answers)]).verdicts =
          (enrichAll now none [(request, answers)]).verdicts) ∧
      (request.Asks → (enrichAll now none [(request, answers)]).clock.before call = false →
        (enrichAll now (some call) [(request, answers)]).verdicts =
          [.error (.cancelled "")])) ∧
    (∀ reason, (enrichAll now none [(request, answers)]).verdicts ≠
      [.error (.cancelled reason)]) ∧
    ∀ first reason, request.Asks → request.span.toFloat?.isSome = true →
      EndsFirst now ((request.lookups now answers).filter fun lookup =>
        lookup.isEarly now (now.after request.span) && lookup.fails) first →
      first.ending = .error (.cancelled reason) →
      (enrichAll now none [(request, answers)]).verdicts =
        [.error (.lookupFailed (.cancelled reason) (some first.detector))] := by
  obtain ⟨verdict, instant, hends, hverdicts, hclock⟩ :=
    @enrichAll_ends now none request answers hanswers
  have hbefore (call : Instant) :
      (enrichAll now none [(request, answers)]).clock.before call = instant.before call := by
    rw [Instant.before, hclock]
    rfl
  refine ⟨fun call => ⟨?_, fun hasks hnot => ?_⟩, fun reason hcancelled => ?_, ?_⟩
  · rintro (hidle | hended)
    · rw [(enrichAll_of_nothing (EnrichRequest.not_asks_iff.1 hidle)).1,
        (enrichAll_of_nothing (EnrichRequest.not_asks_iff.1 hidle)).1]
    · obtain ⟨verdict', instant', hends', hverdicts', -⟩ :=
        @enrichAll_ends now (some call) request answers hanswers
      rw [hbefore] at hended
      rw [hverdicts, hverdicts', hends'.unique (ends_of_before hends hended)]
  · obtain ⟨verdict', instant', hends', hverdicts', -⟩ :=
      @enrichAll_ends now (some call) request answers hanswers
    rw [hbefore] at hnot
    obtain ⟨horizon, hcut⟩ := ends_of_not_before hasks hends hnot
    rw [hverdicts', hends'.unique hcut]
  · rw [hverdicts] at hcancelled
    exact ends_ne_cancelled hends reason (List.cons.inj hcancelled).1
  · intro first reason hasks hspan hfirst hending
    obtain ⟨hmem, hselected⟩ := List.mem_filter.1 hfirst.mem
    have hlimit := EnrichRequest.before_of_isEarly hmem (Bool.and_eq_true_iff.1 hselected).1
    obtain ⟨rest, hfailures⟩ :=
      @Flight.failures_of_endsFirst now (Flight.made now none request answers) first hfirst
    have hfailure : first.failure? =
        some (.lookupFailed (.cancelled reason) (some first.detector)) := by
      simp [Lookup.failure?, Lookup.status, hending, Status.failure, Status.cause?]
    rw [hverdicts, hends.unique (.flown hasks rfl hspan hlimit (.failed hfailures hfailure))]

/-- A page of two detectors, to be told within five seconds which of them run. -/
def brokenRequest : EnrichRequest :=
  ⟨[⟨"a", []⟩, ⟨"b", []⟩], ⟨some true, none, none⟩, .whole 5⟩

/-- A lookup that waits for long, and one that its service cancels after a second. -/
def brokenAnswers : List Answer :=
  [⟨some (.real 2.5), .ok (.resolved "a" .running)⟩, ⟨some (.real 1), .error (.cancelled "stop")⟩]

/-- The request fails after a second. Called off then, it is cancelled; called off later, it fails. -/
theorem callOff_decides_broken :
    (enrichAll (Float.ofInt 0) none [(brokenRequest, brokenAnswers)]).verdicts =
      [.error (.lookupFailed (.cancelled "stop") (some "b"))] ∧
    (enrichAll (Float.ofInt 0) (some (Float.ofInt 1)) [(brokenRequest, brokenAnswers)]).verdicts =
      [.error (.cancelled "")] ∧
    (enrichAll (Float.ofInt 0) (some (Float.ofInt 2)) [(brokenRequest, brokenAnswers)]).verdicts =
      (enrichAll (Float.ofInt 0) none [(brokenRequest, brokenAnswers)]).verdicts := by
  have hasks : brokenRequest.Asks := ⟨by decide, by simp [brokenRequest]⟩
  obtain ⟨hcall, -, hbroken⟩ := @callOff_decides (Float.ofInt 0) brokenRequest brokenAnswers rfl
  refine ⟨?_, (hcall _).2 hasks (by decide +kernel), (hcall _).1 (.inr (by decide +kernel))⟩
  have ha : Lookup.start (Float.ofInt 0) "a" ⟨some (.real 2.5), .ok (.resolved "a" .running)⟩ =
      ⟨"a", .ofWait (Float.ofInt 0) (some (.real 2.5)), true, .ok (.resolved "a" .running)⟩ :=
    Lookup.start_eq _ _ fun _ hspan => Option.some.inj hspan ▸ rfl
  have hb : Lookup.start (Float.ofInt 0) "b" ⟨some (.real 1), .error (.cancelled "stop")⟩ =
      ⟨"b", .ofWait (Float.ofInt 0) (some (.real 1)), true, .error (.cancelled "stop")⟩ :=
    Lookup.start_eq _ _ fun _ hspan => Option.some.inj hspan ▸ rfl
  have hlookups : brokenRequest.lookups (Float.ofInt 0) brokenAnswers =
      [⟨"a", .ofWait (Float.ofInt 0) (some (.real 2.5)), true, .ok (.resolved "a" .running)⟩,
        ⟨"b", .ofWait (Float.ofInt 0) (some (.real 1)), true, .error (.cancelled "stop")⟩] := by
    rw [← ha, ← hb]
    rfl
  refine hbroken ⟨"b", .ofWait (Float.ofInt 0) (some (.real 1)), true, .error (.cancelled "stop")⟩
    "stop" hasks (by decide +kernel) ⟨[], [], ?_, by simp, by simp⟩ rfl
  -- the first lookup does not fail, so the second one is all that is left
  rw [hlookups, List.filter_cons_of_neg (by decide +kernel),
    List.filter_cons_of_pos (by decide +kernel)]
  rfl

end DetectorSearch
