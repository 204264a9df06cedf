import DetectorSearch.Enrichment.Flight
import Mathlib.Data.List.Nodup
import Mathlib.Data.List.Perm.Subperm

/-!
# Joined statuses

The needs of a page count its ids, and every status that is taken in meets one
need of its id. Statuses that name each id as often as the page does are joined
without an error, in whatever order they arrive; under an id stands the status
that arrived last.

Results:
1. `count_ofIds`, `missing_eq_nil_iff`: needs as counts of ids.
2. `receive_spec`: what is taken in if no id is named too often.
3. `receive_excess`: the first id that is named too often is refused.
4. `join_of_perm`: statuses that name the ids of the page are joined.
5. `conclude_of_lastOf`: the page is filtered by the statuses that arrived last;
   `conclude_of_perm`: if those of one id agree on a state, by these states.
6. `conclude_of_excess`: as many statuses as detectors that do not name the ids of
   the page name one too often, so no id is ever found missing.
7. `conclude_error`: statuses that do not fit are the only errors of a join.
-/

namespace DetectorSearch

/-! ## 1. Needs -/

namespace Needs

variable {id other : String} {needs : Needs} {ids : List String}

@[simp]
theorem count_add (id other : String) (needs : Needs) :
    (add id needs).count other = needs.count other + if id = other then 1 else 0 := by
  induction needs with
  | nil => simp [add, count]
  | cons need rest ih =>
      by_cases h : need.1 = id
      · subst h
        by_cases ho : need.1 = other <;> simp [add, count, ho]
      · by_cases ho : need.1 = other
        · subst ho
          have hne : ¬ id = need.1 := fun h' => h h'.symm
          simp [add, count, h, hne]
        · simp [add, count, h, ho, ih]

@[simp]
theorem count_meet (id other : String) (needs : Needs) :
    (meet id needs).count other = needs.count other - if id = other then 1 else 0 := by
  induction needs with
  | nil => simp [meet, count]
  | cons need rest ih =>
      by_cases h : need.1 = id
      · subst h
        by_cases ho : need.1 = other <;> simp [meet, count, ho]
      · by_cases ho : need.1 = other
        · subst ho
          have hne : ¬ id = need.1 := fun h' => h h'.symm
          simp [meet, count, h, hne]
        · simp [meet, count, h, ho, ih]

theorem keys_meet (id : String) (needs : Needs) :
    (meet id needs).map Prod.fst = needs.map Prod.fst := by
  induction needs with
  | nil => rfl
  | cons need rest ih =>
      by_cases h : need.1 = id <;> simp [meet, h, ih]

theorem mem_keys_add : other ∈ (add id needs).map Prod.fst ↔
    other = id ∨ other ∈ needs.map Prod.fst := by
  induction needs with
  | nil => simp [add]
  | cons need rest ih =>
      by_cases h : need.1 = id
      · subst h
        simp [add]
      · simp only [add, if_neg h, List.map_cons, List.mem_cons, ih]
        tauto

theorem nodup_add (h : (needs.map Prod.fst).Nodup) : ((add id needs).map Prod.fst).Nodup := by
  induction needs with
  | nil => simp [add]
  | cons need rest ih =>
      obtain ⟨hneed, hrest⟩ := List.nodup_cons.1 h
      by_cases hid : need.1 = id
      · simpa [add, hid] using h
      · simp only [add, if_neg hid, List.map_cons]
        refine List.nodup_cons.2 ⟨fun hmem => ?_, ih hrest⟩
        rcases mem_keys_add.1 hmem with h | h
        · exact hid h
        · exact hneed h

/-- The needs of a page name each id once, with the number of its occurrences. -/
theorem ofIds_spec (ids : List String) :
    ((ofIds ids).map Prod.fst).Nodup ∧ ∀ id, (ofIds ids).count id = ids.count id := by
  suffices h : ∀ needs : Needs, (needs.map Prod.fst).Nodup →
      ((ids.foldl (fun needs id => add id needs) needs).map Prod.fst).Nodup ∧
        ∀ id, (ids.foldl (fun needs id => add id needs) needs).count id =
          needs.count id + ids.count id by
    simpa [ofIds, count] using h [] List.nodup_nil
  induction ids with
  | nil => exact fun needs h => ⟨h, by simp⟩
  | cons first rest ih =>
      intro needs h
      obtain ⟨hnodup, hcount⟩ := ih (add first needs) (nodup_add h)
      refine ⟨hnodup, fun id => ?_⟩
      rw [List.foldl_cons, hcount, count_add, List.count_cons]
      by_cases hid : first = id
      · simp [hid, Nat.add_assoc, Nat.add_comm]
      · simp [hid]

theorem count_of_mem {need : String × Nat} (hnodup : (needs.map Prod.fst).Nodup)
    (h : need ∈ needs) : needs.count need.1 = need.2 := by
  induction needs with
  | nil => simp at h
  | cons head rest ih =>
      obtain ⟨hhead, hrest⟩ := List.nodup_cons.1 hnodup
      rcases List.mem_cons.1 h with rfl | h
      · simp [count]
      · have hne : ¬ head.1 = need.1 := fun heq => hhead (heq ▸ List.mem_map_of_mem h)
        rw [count, if_neg hne, ih hrest h]

theorem count_eq_zero_of_values (h : ∀ need ∈ needs, need.2 = 0) (id : String) :
    needs.count id = 0 := by
  induction needs with
  | nil => rfl
  | cons head rest ih =>
      by_cases hid : head.1 = id
      · simpa [count, hid] using h head (by simp)
      · simpa [count, hid] using ih fun need hneed => h need (by simp [hneed])

/-- An id that is needed and meets its need leaves the others what they may still name. -/
theorem count_cons_le_iff (h : needs.count id ≠ 0) :
    (id :: ids).count other ≤ needs.count other ↔ ids.count other ≤ (needs.meet id).count other := by
  rw [List.count_cons, count_meet]
  by_cases hid : id = other
  · subst hid
    simp only [beq_self_eq_true, if_true]
    omega
  · simp [hid]

/-- Nothing is missing if and only if no id needs a status any more. -/
theorem missing_eq_nil_iff (hnodup : (needs.map Prod.fst).Nodup) :
    needs.missing = [] ↔ ∀ id, needs.count id = 0 := by
  rw [missing, List.map_eq_nil_iff, List.filter_eq_nil_iff]
  simp only [decide_eq_true_eq, Nat.not_lt, Nat.le_zero]
  constructor
  · exact count_eq_zero_of_values
  · intro h need hneed
    rw [← count_of_mem hnodup hneed, h]

end Needs

/-! ## 2. Statuses that are taken in -/

namespace Batch

/-- The status that arrived last under an id. -/
def lastOf (id : String) (results : List Status) : Option Status :=
  results.reverse.find? fun status => status.detector = id

theorem lastOf_cons (id : String) (status : Status) (results : List Status) :
    lastOf id (status :: results) =
      (lastOf id results).or (if status.detector = id then some status else none) := by
  simp only [lastOf, List.reverse_cons, List.find?_append, List.find?_singleton,
    decide_eq_true_eq]

theorem lastOf_spec {id : String} {results : List Status} (h : id ∈ results.map Status.detector) :
    ∃ status ∈ results, status.detector = id ∧ lastOf id results = some status := by
  cases hlast : lastOf id results with
  | none =>
      obtain ⟨status, hstatus, hid⟩ := List.mem_map.1 h
      have hnone := List.find?_eq_none.1 hlast status (List.mem_reverse.2 hstatus)
      simp [hid] at hnone
  | some status =>
      have hid := List.find?_some hlast
      exact ⟨status, List.mem_reverse.1 (List.mem_of_find?_eq_some hlast), by simpa using hid, rfl⟩

/-- Under each id that is named stands a status that names it. -/
theorem exists_judge {page : List Detector} {results : List Status}
    (hperm : (results.map Status.detector).Perm (page.map Detector.id)) :
    ∃ judge : String → Status, ∀ id ∈ page.map Detector.id,
      judge id ∈ results ∧ (judge id).detector = id ∧ lastOf id results = some (judge id) := by
  refine ⟨fun id => (lastOf id results).getD (Status.resolved id .unknown), fun id hid => ?_⟩
  obtain ⟨status, hstatus, hnamed, hlast⟩ := lastOf_spec (hperm.mem_iff.2 hid)
  simp only [hlast, Option.getD_some]
  exact ⟨hstatus, hnamed, trivial⟩

/-- Statuses that name no id too often are all taken in. Each meets one need of its id, and under
the id stands the last of them. -/
theorem receive_spec {needs : Needs} {results : List Status}
    (h : ∀ id, (results.map Status.detector).count id ≤ needs.count id) (statuses : Statuses) :
    ∃ needs' statuses', receive needs statuses results = .ok (needs', statuses') ∧
      needs'.map Prod.fst = needs.map Prod.fst ∧
      (∀ id, needs'.count id = needs.count id - (results.map Status.detector).count id) ∧
      ∀ id, statuses'.find? id = (lastOf id results).or (statuses.find? id) := by
  induction results generalizing needs statuses with
  | nil => exact ⟨needs, statuses, rfl, rfl, by simp, by simp [lastOf]⟩
  | cons status rest ih =>
      have hneeded : ¬ needs.count status.detector = 0 := by
        have hle := h status.detector
        rw [List.map_cons, List.count_cons_self] at hle
        omega
      have hrest (id : String) : (rest.map Status.detector).count id ≤
          (needs.meet status.detector).count id :=
        (Needs.count_cons_le_iff hneeded).1 (h id)
      obtain ⟨needs', statuses', hreceive, hkeys, hcount, hfind⟩ :=
        ih hrest (statuses.put status.detector status)
      -- a later status of the same id takes the place of this one
      refine ⟨needs', statuses', ?_, hkeys.trans (Needs.keys_meet _ _), fun id => ?_, fun id => ?_⟩
      · rw [receive, if_neg hneeded, hreceive]
      · rw [hcount, Needs.count_meet, List.map_cons, List.count_cons]
        by_cases hid : status.detector = id
        · simp only [hid, beq_self_eq_true, if_true]
          omega
        · simp [hid]
      · rw [hfind, lastOf_cons, Option.or_assoc]
        by_cases hid : status.detector = id
        · subst hid
          rw [Keyed.find?_put_self, if_pos rfl, Option.some_or]
        · rw [Keyed.find?_put_of_ne (Ne.symm hid), if_neg hid, Option.none_or]

/-- The first of some ids, as they come, that has come more often than it stands on the page. -/
def FirstExcess (page ids : List String) (id : String) : Prop :=
  ∃ earlier later, ids = earlier ++ id :: later ∧
    page.count id < (earlier ++ [id]).count id ∧
    ∀ other, earlier.count other ≤ page.count other

/-- If some id is named too often, the first one is refused that has been named once too often. -/
theorem receive_excess {page : List String} {needs : Needs} {results : List Status}
    (hneeds : ∀ id, needs.count id = page.count id)
    (h : ¬ ∀ id, (results.map Status.detector).count id ≤ page.count id) (statuses : Statuses) :
    ∃ id, FirstExcess page (results.map Status.detector) id ∧
      receive needs statuses results = .error (.unknownIdentity id) := by
  simp only [FirstExcess, ← hneeds] at h ⊢
  clear hneeds
  induction results generalizing needs statuses with
  | nil => simp at h
  | cons status rest ih =>
      by_cases hneeded : needs.count status.detector = 0
      · refine ⟨status.detector, ⟨[], rest.map Status.detector, rfl, ?_, by simp⟩, ?_⟩
        · simp [hneeded]
        · rw [receive, if_pos hneeded]
      · have hrest : ¬ ∀ id, (rest.map Status.detector).count id ≤
            (needs.meet status.detector).count id :=
          fun hle => h fun id => (Needs.count_cons_le_iff hneeded).2 (hle id)
        obtain ⟨id, ⟨earlier, later, heq, hmore, hearlier⟩, hreceive⟩ :=
          ih (statuses.put status.detector status) hrest
        refine ⟨id, ⟨status.detector :: earlier, later, ?_, ?_, fun other => ?_⟩, ?_⟩
        · rw [List.map_cons, heq, List.cons_append]
        · exact Nat.lt_of_not_le fun hle =>
            Nat.not_le_of_lt hmore ((Needs.count_cons_le_iff hneeded).1 hle)
        · exact (Needs.count_cons_le_iff hneeded).2 (hearlier other)
        · rw [receive, if_neg hneeded, hreceive]

/-- As many ids as stand on a page, none of which comes too often, are those of the page. -/
theorem perm_of_count_le {page ids : List String} (hlength : ids.length = page.length)
    (h : ∀ id, ids.count id ≤ page.count id) : ids.Perm page :=
  (List.subperm_ext_iff.2 fun id _ => h id).perm_of_length_le (Nat.le_of_eq hlength.symm)

/-- Statuses that name each id as often as the page are joined to it, in whatever order they
arrive. -/
theorem join_of_perm {page : List Detector} {results : List Status}
    (h : (results.map Status.detector).Perm (page.map Detector.id)) :
    ∃ statuses, join page results = .ok ⟨page, statuses⟩ ∧
      ∀ id ∈ page.map Detector.id, statuses.find? id = lastOf id results := by
  obtain ⟨hnodup, hneeds⟩ := Needs.ofIds_spec (page.map Detector.id)
  have hcount (id : String) : (results.map Status.detector).count id =
      (Needs.ofIds (page.map Detector.id)).count id := by
    rw [hneeds, h.count_eq]
  obtain ⟨needs, statuses, hreceive, hkeys, hleft, hfind⟩ :=
    receive_spec (fun id => Nat.le_of_eq (hcount id)) []
  have hmissing : needs.missing = [] := by
    refine (Needs.missing_eq_nil_iff (hkeys ▸ hnodup)).2 fun id => ?_
    rw [hleft, hcount, Nat.sub_self]
  refine ⟨statuses, ?_, fun id hid => ?_⟩
  · rw [join, hreceive]
    simp [hmissing]
  · rw [hfind]
    exact Option.or_none

/-! ## 3. Filtered pages -/

theorem keep_eq {batch : Batch} {state : Detector → State} (predicate : StatePredicate)
    {detectors : List Detector}
    (h : ∀ detector ∈ detectors, batch.stateOf detector = .ok (state detector)) :
    batch.keep predicate detectors =
      .ok (detectors.filter fun detector => predicate.accepts (state detector)) := by
  induction detectors with
  | nil => rfl
  | cons detector rest ih =>
      rw [keep, h detector (by simp), ih fun other hother => h other (by simp [hother]),
        List.filter_cons]

/-- Statuses that name each id as often as the page filter it: each detector is judged by the status
that arrived last under its id. -/
theorem conclude_of_lastOf {request : EnrichRequest} {results : List Status}
    {judge : String → Status}
    (hperm : (results.map Status.detector).Perm (request.page.map Detector.id))
    (hjudge : ∀ id ∈ request.page.map Detector.id, lastOf id results = some (judge id)) :
    Flight.conclude request results = .ok (request.page.filter fun detector =>
      request.predicate.accepts (judge detector.id).state) := by
  obtain ⟨statuses, hjoin, hfind⟩ := join_of_perm hperm
  rw [Flight.conclude, hjoin]
  refine keep_eq request.predicate fun detector hdetector => ?_
  have hid : detector.id ∈ request.page.map Detector.id := List.mem_map_of_mem hdetector
  simp only [stateOf, hfind _ hid, hjudge _ hid]

/-- Statuses that name each id as often as the page, and agree on its state, filter the page by
these states. -/
theorem conclude_of_perm {request : EnrichRequest} {results : List Status} {state : String → State}
    (hperm : (results.map Status.detector).Perm (request.page.map Detector.id))
    (hstate : ∀ status ∈ results, status.state = state status.detector) :
    Flight.conclude request results =
      .ok (request.page.filter fun detector => request.predicate.accepts (state detector.id)) := by
  obtain ⟨judge, hjudge⟩ := exists_judge hperm
  rw [conclude_of_lastOf hperm fun id hid => (hjudge id hid).2.2]
  refine congrArg _ (List.filter_congr fun detector hdetector => ?_)
  obtain ⟨hmem, hnamed, -⟩ := hjudge detector.id (List.mem_map_of_mem hdetector)
  rw [hstate _ hmem, hnamed]

/-! ## 4. Statuses that do not fit -/

/-- As many statuses as detectors that do not name the ids of the page are refused at the first one
that is named too often. -/
theorem conclude_of_excess {request : EnrichRequest} {results : List Status}
    (hlength : results.length = request.page.length)
    (hperm : ¬ (results.map Status.detector).Perm (request.page.map Detector.id)) :
    ∃ id, FirstExcess (request.page.map Detector.id) (results.map Status.detector) id ∧
      Flight.conclude request results = .error (.unknownIdentity id) := by
  have hmore : ¬ ∀ id, (results.map Status.detector).count id ≤
      (request.page.map Detector.id).count id :=
    fun hle => hperm (perm_of_count_le (by simpa using hlength) hle)
  obtain ⟨id, hfirst, hreceive⟩ :=
    receive_excess (Needs.ofIds_spec (request.page.map Detector.id)).2 hmore []
  refine ⟨id, hfirst, ?_⟩
  rw [Flight.conclude, join, hreceive]

theorem receive_error {needs : Needs} {statuses : Statuses} {results : List Status}
    {failure : Failure} (h : receive needs statuses results = .error failure) :
    ∃ id, failure = .unknownIdentity id := by
  induction results generalizing needs statuses with
  | nil => simp [receive] at h
  | cons status rest ih =>
      rw [receive] at h
      split at h
      · exact ⟨_, (Except.error.inj h).symm⟩
      · exact ih h

theorem keep_error {batch : Batch} {predicate : StatePredicate} {detectors : List Detector}
    {failure : Failure} (h : batch.keep predicate detectors = .error failure) :
    ∃ id, failure = .misuse (.missingKey id) := by
  induction detectors with
  | nil => simp [keep] at h
  | cons detector rest ih =>
      rw [keep, stateOf] at h
      cases hfind : batch.statuses.find? detector.id with
      | none =>
          rw [hfind] at h
          exact ⟨_, (Except.error.inj h).symm⟩
      | some status =>
          rw [hfind] at h
          cases hrest : batch.keep predicate rest with
          | error other =>
              rw [hrest] at h
              exact ih (hrest.trans h)
          | ok kept =>
              rw [hrest] at h
              simp at h

/-- A request whose lookups have all ended can only fail to fit statuses to its page. -/
theorem conclude_error {request : EnrichRequest} {results : List Status} {failure : Failure}
    (h : Flight.conclude request results = .error failure) :
    (∃ id, failure = .unknownIdentity id) ∨ (∃ ids, failure = .missingResult ids) ∨
      ∃ id, failure = .misuse (.missingKey id) := by
  unfold Flight.conclude join at h
  cases hreceive : receive (Needs.ofIds (request.page.map Detector.id)) [] results with
  | error other =>
      rw [hreceive] at h
      obtain rfl := Except.error.inj h
      exact .inl (receive_error hreceive)
  | ok received =>
      obtain ⟨needs, statuses⟩ := received
      rw [hreceive] at h
      by_cases hmissing : needs.missing.isEmpty = true
      · simp only [hmissing, if_true] at h
        exact .inr (.inr (keep_error h))
      · simp only [if_neg hmissing] at h
        exact .inr (.inl ⟨_, (Except.error.inj h).symm⟩)

end Batch

end DetectorSearch
