import DetectorSearch.Enrichment.Schedule
import DetectorSearch.Proofs.Enrichment.Ending
import Mathlib.Data.List.Perm.Basic

/-!
# What timelines record

Timelines are merged phase by phase, which loses nothing and repeats nothing as
long as every phase comes once. At each instant the lookups of a flight that
were waiting either end, or are dropped, or go on waiting, and its timeline
records just that.

Results:
1. `merge_perm`: merged timelines are a permutation of their entries.
2. `strike_accounts`, `depart_accounts`: what an instant, or the start, does to
   each lookup of a flight, and what it records about it.
-/

namespace DetectorSearch

namespace Event

theorem calls_append (events events' : List Event) :
    calls (events ++ events') = calls events ++ calls events' :=
  List.filterMap_append

theorem completions_append (events events' : List Event) :
    completions (events ++ events') = completions events ++ completions events' :=
  List.filterMap_append

theorem cancellations_append (events events' : List Event) :
    cancellations (events ++ events') = cancellations events ++ cancellations events' :=
  List.filterMap_append

end Event

/-- The phases of an instant after the one in which lookups are made. -/
def Phase.afterCall : List Phase :=
  [firstTurn, nextTurn] ++ closing ++ failing

namespace Timeline

/-! ## 1. Merged timelines -/

theorem merge_eq (phases : List Phase) (timelines : List Timeline) :
    merge phases timelines = phases.flatMap fun phase =>
      (timelines.flatten.filter fun entry => entry.1 == phase).map Prod.snd := by
  unfold merge
  refine List.flatMap_congr fun phase _ => ?_
  rw [List.filter_flatten, List.map_flatten, List.map_map, ← List.flatMap_def]
  rfl

theorem merge_perm {phases : List Phase} {timelines : List Timeline} (hnodup : phases.Nodup)
    (hphases : ∀ entry ∈ timelines.flatten, entry.1 ∈ phases) :
    (merge phases timelines).Perm (timelines.flatten.map Prod.snd) := by
  rw [merge_eq]
  generalize timelines.flatten = entries at hphases
  induction phases generalizing entries with
  | nil =>
      cases entries with
      | nil => exact .refl []
      | cons entry rest => simpa using hphases entry
  | cons phase rest ih =>
      obtain ⟨hphase, hrest⟩ := List.nodup_cons.1 hnodup
      let others := entries.filter fun entry => !(entry.1 == phase)
      -- a later phase does not see the entries of this one
      have hothers (later : Phase) (hlater : later ∈ rest) :
          (entries.filter fun entry => entry.1 == later) =
            others.filter fun entry => entry.1 == later := by
        rw [List.filter_filter]
        refine List.filter_congr fun entry _ => ?_
        by_cases h : entry.1 = later
        · have hne : ¬ later = phase := fun heq => hphase (heq ▸ hlater)
          simp [h, hne]
        · simp [h]
      have hmerged := ih hrest others fun entry hentry => by
        obtain ⟨hmem, hne⟩ := List.mem_filter.1 hentry
        rcases List.mem_cons.1 (hphases entry hmem) with h | h
        · simp [h] at hne
        · exact h
      rw [List.flatMap_cons, List.flatMap_congr fun later hlater => by rw [hothers later hlater]]
      refine (hmerged.append_left _).trans ?_
      rw [← List.map_append]
      exact (List.filter_append_perm _ entries).map Prod.snd

/-- Lookups are made before anything else of their instant. -/
theorem merge_calls {rest : Timeline} (lookups : List Lookup)
    (h : ∀ entry ∈ rest, entry.1 ∈ Phase.afterCall) :
    merge (.call :: Phase.afterCall) [calls lookups ++ rest] =
      (lookups.map fun lookup => .called lookup.detector) ++ merge Phase.afterCall [rest] := by
  have hcalls : ∀ entry ∈ calls lookups, entry.1 = .call := by
    intro entry hentry
    obtain ⟨lookup, -, rfl⟩ := List.mem_map.1 hentry
    rfl
  have hcall : ((calls lookups ++ rest).filter fun entry => entry.1 == .call) = calls lookups := by
    rw [List.filter_append, List.filter_eq_self.2, List.filter_eq_nil_iff.2, List.append_nil]
    · intro entry hentry heq
      have hlater := h entry hentry
      rw [beq_iff_eq.1 heq] at hlater
      exact absurd hlater (by decide)
    · exact fun entry hentry => beq_iff_eq.2 (hcalls entry hentry)
  have hlater (phase : Phase) (hphase : phase ∈ Phase.afterCall) :
      ((calls lookups ++ rest).filter fun entry => entry.1 == phase) =
        rest.filter fun entry => entry.1 == phase := by
    rw [List.filter_append, List.filter_eq_nil_iff.2, List.nil_append]
    intro entry hentry heq
    rw [hcalls entry hentry] at heq
    exact absurd (beq_iff_eq.1 heq ▸ hphase) (by decide)
  rw [merge_eq, merge_eq, List.flatten_singleton, List.flatten_singleton, List.flatMap_cons, hcall,
    List.flatMap_congr fun phase hphase => by rw [hlater phase hphase]]
  simp [calls]

/-! ## 2. Records of lookups -/

/-- A timeline records the ends of some lookups and the cancellations of others, in some phases, and
makes no lookup. -/
structure Records (phases : List Phase) (timeline : Timeline) (ended dropped : List Lookup) :
    Prop where
  phases : ∀ entry ∈ timeline, entry.1 ∈ phases
  calls : Event.calls (timeline.map Prod.snd) = []
  completions : Event.completions (timeline.map Prod.snd) = ended.map Lookup.detector
  cancellations : Event.cancellations (timeline.map Prod.snd) = dropped.map Lookup.detector

namespace Records

variable {phases : List Phase} {phase : Phase} {timeline timeline' : Timeline}
  {ended ended' dropped dropped' lookups : List Lookup}

theorem nil (phases : List Phase) : Records phases [] [] [] :=
  ⟨by simp, rfl, rfl, rfl⟩

theorem append (h : Records phases timeline ended dropped)
    (h' : Records phases timeline' ended' dropped') :
    Records phases (timeline ++ timeline') (ended ++ ended') (dropped ++ dropped') where
  phases entry hentry := (List.mem_append.1 hentry).elim (h.phases entry) (h'.phases entry)
  calls := by
    rw [List.map_append, Event.calls_append, h.calls, h'.calls, List.append_nil]
  completions := by
    rw [List.map_append, Event.completions_append, h.completions, h'.completions, List.map_append]
  cancellations := by
    rw [List.map_append, Event.cancellations_append, h.cancellations, h'.cancellations,
      List.map_append]

theorem logged (hphase : phase ∈ phases) (record : LogRecord)
    (h : Records phases timeline ended dropped) :
    Records phases ((phase, .logged record) :: timeline) ended dropped where
  phases entry hentry := (List.mem_cons.1 hentry).elim (fun h => h ▸ hphase) (h.phases entry)
  calls := h.calls
  completions := h.completions
  cancellations := h.cancellations

theorem drops (hphase : phase ∈ phases) (lookups : List Lookup) :
    Records phases (Timeline.drops phase lookups) [] lookups := by
  induction lookups with
  | nil => exact nil phases
  | cons lookup rest ih =>
      have hfirst : Records phases [(phase, .cancelled lookup.detector)] [] [lookup] :=
        ⟨by simpa using hphase, rfl, rfl, rfl⟩
      exact hfirst.append ih

theorem endings (hphase : phase ∈ phases) (hwaits : ∀ lookup ∈ lookups, lookup.waits = true) :
    Records phases (Timeline.endings phase lookups) lookups [] := by
  induction lookups with
  | nil => exact nil phases
  | cons lookup rest ih =>
      have hfirst : Records phases (lookup.endingEvents.map fun event => (phase, event))
          [lookup] [] := by
        rw [Lookup.endingEvents, hwaits lookup (by simp)]
        cases lookup.record? <;> exact ⟨by simpa using hphase, rfl, rfl, rfl⟩
      exact hfirst.append (ih fun other hother => hwaits other (by simp [hother]))

/-- The merged timeline records the same. -/
theorem merged (h : Records phases timeline ended dropped) (hnodup : phases.Nodup) :
    Event.calls (merge phases [timeline]) = [] ∧
      (Event.completions (merge phases [timeline])).Perm (ended.map Lookup.detector) ∧
      (Event.cancellations (merge phases [timeline])).Perm (dropped.map Lookup.detector) := by
  have hflat : [timeline].flatten = timeline := List.flatten_singleton
  have hperm := @merge_perm phases [timeline] hnodup (by rw [hflat]; exact h.phases)
  rw [hflat] at hperm
  refine ⟨?_, h.completions ▸ hperm.filterMap _, h.cancellations ▸ hperm.filterMap _⟩
  exact List.Perm.eq_nil (h.calls ▸ hperm.filterMap _)

end Records

end Timeline

namespace Flight

/-! ## 3. Lookups of a flight -/

variable {now : Instant} {flight : Flight} {phases : List Phase} {phase : Phase}
  {lookups ended waiting : List Lookup}

/-- What becomes of some lookups: they end, are dropped or go on waiting. The timeline records it,
only a failure drops any, and none goes on waiting for a flight that has ended. -/
structure Accounts (phases : List Phase) (lookups : List Lookup) (next : Flight)
    (timeline : Timeline) (ended dropped : List Lookup) : Prop where
  records : timeline.Records phases ended dropped
  perm : (ended ++ dropped ++ next.waiting).Perm lookups
  kept : dropped = [] ∨ ∃ failure, next.verdict = some (.error failure)
  settled : next.verdict.isSome = true → next.waiting = []

namespace TimelineLemmas

theorem settle_accounts (hphase : phase ∈ phases) (hverdict : flight.verdict = none)
    (ended waiting : List Lookup) :
    ∃ dropped, Accounts phases waiting (flight.settle phase ended waiting).1
      (flight.settle phase ended waiting).2 [] dropped := by
  unfold settle
  cases ended.findSome? Lookup.failure? with
  | some failure =>
      exact ⟨waiting, .drops hphase waiting, by simp [finish], .inr ⟨failure, rfl⟩, fun _ => rfl⟩
  | none =>
      refine ⟨[], ?_⟩
      by_cases hempty : waiting = []
      · subst hempty
        exact ⟨.nil phases, .refl [], .inl rfl, fun _ => rfl⟩
      · rw [if_neg (by simpa using hempty)]
        exact ⟨.nil phases, .refl waiting, .inl rfl, fun h => by simp [hverdict] at h⟩

/-- Lookups that end before others are settled are accounted for with them. -/
theorem accounts_of_settle {timeline rest : Timeline} {next : Flight} {dropped : List Lookup}
    (hended : timeline.Records phases ended []) (hperm : (ended ++ waiting).Perm lookups)
    (h : Accounts phases waiting next rest [] dropped) :
    Accounts phases lookups next (timeline ++ rest) ended dropped where
  records := by simpa using hended.append h.records
  perm := by
    rw [List.append_assoc]
    exact (h.perm.append_left ended).trans hperm
  kept := h.kept
  settled := h.settled

/-- A flight that ends with an error accounts for the lookups that ended and drops the others. -/
theorem accounts_of_error {timeline : Timeline} {dropped : List Lookup} (failure : Failure)
    (h : timeline.Records phases ended dropped) (hperm : (ended ++ dropped).Perm lookups) :
    Accounts phases lookups (flight.finish (.error failure)) timeline ended dropped where
  records := h
  perm := by simpa [finish] using hperm
  kept := .inr ⟨failure, rfl⟩
  settled _ := rfl

end TimelineLemmas

open TimelineLemmas Timeline

/-- An instant ends lookups of a flight, drops them or lets them wait. -/
theorem strike_accounts (now : Instant) (hverdict : flight.verdict = none)
    (hwaits : ∀ lookup ∈ flight.waiting, lookup.waits = true) :
    ∃ ended dropped, Accounts (Phase.closing ++ Phase.failing) flight.waiting
      (flight.strike now).1 (flight.strike now).2 ended dropped := by
  have hparts := List.filter_append_perm (fun lookup : Lookup => lookup.due.isAt now) flight.waiting
  have hended : (endings .due (flight.waiting.filter fun lookup => lookup.due.isAt now)).Records
      (Phase.closing ++ Phase.failing)
      (flight.waiting.filter fun lookup => lookup.due.isAt now) [] :=
    .endings (by decide) fun lookup hlookup => hwaits lookup (List.mem_filter.1 hlookup).1
  have hdropped (phase : Phase) (hphase : phase ∈ Phase.closing ++ Phase.failing) :
      (drops phase (flight.waiting.filter fun lookup => lookup.due.isAt now) ++
        drops .late (flight.waiting.filter fun lookup => !lookup.due.isAt now)).Records
        (Phase.closing ++ Phase.failing) []
        ((flight.waiting.filter fun lookup => lookup.due.isAt now) ++
          flight.waiting.filter fun lookup => !lookup.due.isAt now) :=
    (Records.drops hphase _).append (.drops (by decide) _)
  unfold strike
  by_cases hdeadline : flight.deadline.same now = true
  · rw [if_pos hdeadline]
    split
    · exact ⟨_, _, accounts_of_error _ (hdropped .deadline (by decide)) hparts⟩
    · have htimedOut := (hdropped .deadline (by decide)).logged
        (show Phase.deadline ∈ Phase.closing ++ Phase.failing by decide)
        (lateRecord flight.request.span flight.waiting.length)
      exact ⟨_, _, accounts_of_error _ htimedOut hparts⟩
  · rw [if_neg hdeadline]
    split
    · refine ⟨_, _, accounts_of_error _ (hended.append (.drops (by decide) _)) ?_⟩
      simpa using hparts
    · obtain ⟨dropped, h⟩ := settle_accounts
        (show Phase.failed ∈ Phase.closing ++ Phase.failing by decide) hverdict
        (flight.waiting.filter fun lookup => lookup.due.isAt now)
        (flight.waiting.filter fun lookup => !lookup.due.isAt now)
      exact ⟨_, dropped, accounts_of_settle hended hparts h⟩

namespace TimelineLemmas

/-- Every lookup ends in one of the first two turns, or has a timer. -/
theorem turns_perm (lookups : List Lookup) :
    (((lookups.filter fun lookup => lookup.due.isFirstTurn) ++
      lookups.filter fun lookup => lookup.due.isNextTurn) ++
      lookups.filter fun lookup => lookup.due.instant?.isSome).Perm lookups := by
  rw [EndingLemmas.filter_nextTurn, EndingLemmas.filter_timers, List.append_assoc]
  refine ((List.filter_append_perm _ _).append_left _).trans ?_
  exact List.filter_append_perm _ lookups

/-- A failure phase is one of the later ones. -/
theorem failurePhase_mem (lookups : List Lookup) : failurePhase lookups ∈ Phase.afterCall := by
  unfold failurePhase
  dsimp only
  split <;> decide

end TimelineLemmas

/-- The start of a flight makes all its lookups, and then ends them, drops them or lets them
wait. -/
theorem depart_accounts (now : Instant) (hverdict : flight.verdict = none)
    (hwaits : ∀ lookup ∈ lookups, lookup.waits = true) :
    ∃ rest ended dropped, (flight.depart now lookups).2 = calls lookups ++ rest ∧
      Accounts Phase.afterCall lookups (flight.depart now lookups).1 rest ended dropped := by
  have hparts := turns_perm lookups
  have hended (phase : Phase) (hphase : phase ∈ Phase.afterCall) (p : Lookup → Bool) :
      (endings phase (lookups.filter p)).Records Phase.afterCall (lookups.filter p) [] :=
    .endings hphase fun lookup hlookup => hwaits lookup (List.mem_filter.1 hlookup).1
  have hfirst := hended .firstTurn (by decide) fun lookup => lookup.due.isFirstTurn
  have hboth := hfirst.append (hended .nextTurn (by decide) fun lookup => lookup.due.isNextTurn)
  have hlate : Phase.late ∈ Phase.afterCall := by decide
  unfold depart
  by_cases hcall : reached now flight.callOff = true
  · simp only [if_pos hcall, List.append_assoc]
    refine ⟨_, _, _, rfl, accounts_of_error _ (hfirst.append (.drops hlate _)) ?_⟩
    simpa using hparts
  · by_cases hdeadline : reached now (some flight.deadline) = true
    · have htimedOut := hboth.append
        (.logged (show Phase.deadline ∈ Phase.afterCall by decide)
          (lateRecord flight.request.span
            (lookups.filter fun lookup => lookup.due.instant?.isSome).length)
          (.drops hlate (lookups.filter fun lookup => lookup.due.instant?.isSome)))
      rw [List.append_nil] at htimedOut
      simp only [if_neg hcall, if_pos hdeadline]
      exact ⟨_, _, _, by simp only [List.append_assoc], accounts_of_error _ htimedOut hparts⟩
    · obtain ⟨dropped, h⟩ := settle_accounts (failurePhase_mem lookups) hverdict
        ((lookups.filter fun lookup => lookup.due.isFirstTurn) ++
          lookups.filter fun lookup => lookup.due.isNextTurn)
        (lookups.filter fun lookup => lookup.due.instant?.isSome)
      simp only [if_neg hcall, if_neg hdeadline]
      exact ⟨_, _, dropped, by simp only [List.append_assoc], accounts_of_settle hboth hparts h⟩

end Flight

end DetectorSearch
