import DetectorSearch.Proofs.Join
import DetectorSearch.Proofs.Keyed
import Mathlib.Data.List.Induction

/-!
# Statuses in any number and order

A join takes any statuses, and its end is told by how often each id stands on the
page and among the statuses. Only which status stands under an id depends on the
order: it is the one that arrived last.

Results:
1. `keys_ofIds`, `missing_eq_filter`: the ids of a page in order of first
   occurrence, and those among them that miss a status.
2. `join_of_count`: the end of a join in each of three cases.
3. `join_decides`: statuses are joined if and only if they name each id as often as
   the page, and what is raised otherwise.
4. `join_arrivals`: statuses that arrive in another order end in the same kind of
   way. A detector has the same state both times if its id stands on the page once,
   or if the statuses of its id agree on their state.
5. `join_heeds_arrival`: two statuses of one id that disagree are told apart by
   their order.
-/

namespace DetectorSearch

variable {page : List Detector} {results results' : List Status}

/-! ## 1. Ids in order of first occurrence -/

namespace Needs

variable {id : String} {needs : Needs}

theorem keys_add (id : String) (needs : Needs) :
    (add id needs).map Prod.fst =
      if id ∈ needs.map Prod.fst then needs.map Prod.fst else needs.map Prod.fst ++ [id] := by
  induction needs with
  | nil => simp [add]
  | cons need rest ih =>
      by_cases h : need.1 = id
      · simp [add, h]
      · have hne : ¬ id = need.1 := fun h' => h h'.symm
        simp only [add, if_neg h, List.map_cons, ih, List.mem_cons, hne, false_or]
        split <;> rfl

/-- Needs stand in the order in which their ids first occur. -/
theorem keys_ofIds (ids : List String) : (ofIds ids).map Prod.fst = ids.eraseDups := by
  induction ids using List.reverseRecOn with
  | nil => rfl
  | append_singleton earlier id ih =>
      have hsnoc : ofIds (earlier ++ [id]) = add id (ofIds earlier) := by
        simp [ofIds]
      rw [hsnoc, keys_add, ih, List.eraseDups_append]
      by_cases h : id ∈ earlier <;> simp [List.removeAll, List.eraseDups_cons, h]

/-- What is missing are the ids whose need is not met. -/
theorem missing_eq_filter (hnodup : (needs.map Prod.fst).Nodup) :
    needs.missing = (needs.map Prod.fst).filter fun id => 0 < needs.count id := by
  rw [missing, List.filter_map]
  refine congrArg _ (List.filter_congr fun need hneed => ?_)
  rw [Function.comp_apply, count_of_mem hnodup hneed]

end Needs

/-! ## 2. The end of a join -/

namespace Batch

theorem receive_nodup {needs needs' : Needs} {statuses statuses' : Statuses}
    (hnodup : (statuses.map Prod.fst).Nodup)
    (h : receive needs statuses results = .ok (needs', statuses')) :
    (statuses'.map Prod.fst).Nodup := by
  induction results generalizing needs statuses with
  | nil =>
      obtain ⟨-, rfl⟩ := Prod.mk.inj (Except.ok.inj h)
      exact hnodup
  | cons status rest ih =>
      rw [receive] at h
      split at h
      · cases h
      · exact ih (Keyed.nodup_put hnodup) h

theorem lastOf_mem {id : String} {status : Status} (h : lastOf id results = some status) :
    status ∈ results ∧ status.detector = id :=
  ⟨List.mem_reverse.1 (List.mem_of_find?_eq_some h), by simpa using List.find?_some h⟩

theorem lastOf_isSome_iff {id : String} :
    (lastOf id results).isSome = true ↔ id ∈ results.map Status.detector := by
  rw [lastOf, List.find?_isSome]
  simp

/-- How often an id stands on a page. -/
def needed (page : List Detector) (id : String) : Nat :=
  (page.map Detector.id).count id

/-- How many statuses name an id. -/
def named (results : List Status) (id : String) : Nat :=
  (results.map Status.detector).count id

/-- The ids of a page that too few statuses name, each once, in order of first occurrence. -/
def lacking (page : List Detector) (results : List Status) : List String :=
  (page.map Detector.id).eraseDups.filter fun id => named results id < needed page id

/-- A batch holds its page and, under each id of the page and under no other one, a status that names
this id. -/
structure Correlates (page : List Detector) (results : List Status) (batch : Batch) : Prop where
  detectors : batch.detectors = page
  nodup : (batch.statuses.map Prod.fst).Nodup
  keys : ∀ id, id ∈ batch.statuses.map Prod.fst ↔ id ∈ page.map Detector.id
  entries : ∀ entry ∈ batch.statuses, entry.2 ∈ results ∧ entry.2.detector = entry.1

theorem lacking_ne_nil {id : String} (h : named results id < needed page id) :
    lacking page results ≠ [] := by
  have hpage : id ∈ page.map Detector.id :=
    List.count_pos_iff.1 (Nat.lt_of_le_of_lt (Nat.zero_le _) h)
  exact List.ne_nil_of_mem
    (List.mem_filter.2 ⟨List.mem_eraseDups.2 hpage, decide_eq_true h⟩)

theorem lacking_eq_nil (h : ∀ id, named results id = needed page id) :
    lacking page results = [] :=
  List.filter_eq_nil_iff.2 fun id _ => by simp [h id]

/-- Statuses that name no id too often are joined, unless too few name one. -/
theorem join_of_le (h : ∀ id, named results id ≤ needed page id) :
    ∃ statuses : Statuses, (statuses.map Prod.fst).Nodup ∧
      (∀ id, statuses.find? id = lastOf id results) ∧
      join page results = if (lacking page results).isEmpty then .ok ⟨page, statuses⟩
        else .error (.missingResult (lacking page results)) := by
  obtain ⟨hnodup, hneeds⟩ := Needs.ofIds_spec (page.map Detector.id)
  obtain ⟨needs, statuses, hreceive, hkeys, hleft, hfind⟩ :=
    receive_spec (fun id => Nat.le_trans (h id) (Nat.le_of_eq (hneeds id).symm)) []
  -- What is left to need of an id is what the page needs without what is named.
  have hmissing : needs.missing = lacking page results := by
    rw [Needs.missing_eq_filter (hkeys ▸ hnodup), hkeys, Needs.keys_ofIds, lacking]
    refine List.filter_congr fun id _ => ?_
    rw [hleft, hneeds, decide_eq_decide]
    exact Nat.sub_pos_iff_lt
  refine ⟨statuses, receive_nodup (by simp) hreceive, fun id => ?_, ?_⟩
  · rw [hfind]
    exact Option.or_none
  · rw [join, hreceive]
    simp only [hmissing]

/-- As many statuses of each id as the page has are joined to it. Under an id stands the status that
arrived last. -/
theorem join_of_eq (h : ∀ id, named results id = needed page id) :
    ∃ batch, join page results = .ok batch ∧ Correlates page results batch ∧
      ∀ id, batch.statuses.find? id = lastOf id results := by
  obtain ⟨statuses, hnodup, hfind, hjoin⟩ := join_of_le fun id => Nat.le_of_eq (h id)
  rw [lacking_eq_nil h] at hjoin
  have hpage (id : String) : id ∈ results.map Status.detector ↔ id ∈ page.map Detector.id := by
    rw [← List.count_pos_iff, ← List.count_pos_iff]
    exact iff_of_eq (congrArg _ (h id))
  refine ⟨⟨page, statuses⟩, hjoin, ⟨rfl, hnodup, fun id => ?_, fun entry hentry => ?_⟩, hfind⟩
  · rw [← Keyed.find?_isSome_iff, hfind, lastOf_isSome_iff, hpage]
  · exact lastOf_mem ((hfind _).symm.trans (Keyed.find?_of_mem hnodup hentry))

/-- If some id is named too often, the first status that is one too many is refused. -/
theorem join_of_more {id : String} (h : needed page id < named results id) :
    ∃ id, FirstExcess (page.map Detector.id) (results.map Status.detector) id ∧
      join page results = .error (.unknownIdentity id) := by
  obtain ⟨id, hfirst, hreceive⟩ := receive_excess (Needs.ofIds_spec (page.map Detector.id)).2
    (fun hle => Nat.not_le_of_lt h (hle id)) []
  refine ⟨id, hfirst, ?_⟩
  rw [join, hreceive]

/-- If no id is named too often, but some too rarely, those are missing. -/
theorem join_of_less {id : String} (hle : ∀ id, named results id ≤ needed page id)
    (h : named results id < needed page id) :
    join page results = .error (.missingResult (lacking page results)) := by
  obtain ⟨statuses, -, -, hjoin⟩ := join_of_le hle
  rw [hjoin, if_neg]
  rw [List.isEmpty_iff]
  exact lacking_ne_nil h

/-- Three cases end a join: ids are named as often as needed, one of them is named too often, or none
is but one of them too rarely. -/
theorem count_cases (page : List Detector) (results : List Status) :
    (∀ id, named results id = needed page id) ∨ (∃ id, needed page id < named results id) ∨
      (∀ id, named results id ≤ needed page id) ∧ ∃ id, named results id < needed page id := by
  by_cases hle : ∀ id, named results id ≤ needed page id
  · by_cases hless : ∃ id, named results id < needed page id
    · exact .inr (.inr ⟨hle, hless⟩)
    · exact .inl fun id => Nat.le_antisymm (hle id) (Nat.not_lt.1 fun h => hless ⟨id, h⟩)
  · obtain ⟨id, hid⟩ := not_forall.1 hle
    exact .inr (.inl ⟨id, Nat.not_le.1 hid⟩)

/-! ## 3. Statuses that are joined -/

/-- A join succeeds if and only if every id is named as often as it stands on the page, and then the
batch correlates the statuses with the page. If some id is named too often, the first status that is
one too many is refused, whatever else is missing. If none is, those that are named too rarely are
missing. -/
theorem join_decides (page : List Detector) (results : List Status) :
    ((∃ batch, join page results = .ok batch) ↔ ∀ id, named results id = needed page id) ∧
    (∀ batch, join page results = .ok batch → Correlates page results batch) ∧
    ((∃ id, needed page id < named results id) →
      ∃ id, FirstExcess (page.map Detector.id) (results.map Status.detector) id ∧
        join page results = .error (.unknownIdentity id)) ∧
    ((∀ id, named results id ≤ needed page id) → (∃ id, named results id < needed page id) →
      join page results = .error (.missingResult (lacking page results))) := by
  have hmore : (∃ id, needed page id < named results id) →
      ∃ id, FirstExcess (page.map Detector.id) (results.map Status.detector) id ∧
        join page results = .error (.unknownIdentity id) :=
    fun ⟨_, h⟩ => join_of_more h
  have hless : (∀ id, named results id ≤ needed page id) →
      (∃ id, named results id < needed page id) →
        join page results = .error (.missingResult (lacking page results)) :=
    fun hle ⟨_, h⟩ => join_of_less hle h
  have hok (batch : Batch) (hjoin : join page results = .ok batch) :
      ∀ id, named results id = needed page id := by
    rcases count_cases page results with h | h | ⟨hle, h⟩
    · exact h
    · obtain ⟨id, -, herror⟩ := hmore h
      cases hjoin.symm.trans herror
    · cases hjoin.symm.trans (hless hle h)
  refine ⟨⟨fun ⟨batch, hjoin⟩ => hok batch hjoin, fun h => ?_⟩, fun batch hjoin => ?_, hmore, hless⟩
  · obtain ⟨batch, hjoin, -⟩ := join_of_eq h
    exact ⟨batch, hjoin⟩
  · obtain ⟨other, hother, hcorrelates, -⟩ := join_of_eq (hok batch hjoin)
    obtain rfl := Except.ok.inj (hother.symm.trans hjoin)
    exact hcorrelates

/-- A page with one id twice, and statuses that leave out one id, or name an id that is not on it. -/
theorem join_decides_repeated :
    join [⟨"b", []⟩, ⟨"a", []⟩, ⟨"b", []⟩] [.resolved "b" .running] =
      .error (.missingResult ["b", "a"]) ∧
    (∃ id, FirstExcess ["b", "a", "b"] ["b", "c"] id ∧
      join [⟨"b", []⟩, ⟨"a", []⟩, ⟨"b", []⟩] [.resolved "b" .running, .resolved "c" .failed] =
        .error (.unknownIdentity id)) ∧
    ∀ batch, join [⟨"a", []⟩, ⟨"a", []⟩] [.resolved "a" .running, .resolved "a" .failed] =
      .ok batch → batch.detectors = [⟨"a", []⟩, ⟨"a", []⟩] := by
  obtain ⟨-, -, -, hless⟩ := join_decides [⟨"b", []⟩, ⟨"a", []⟩, ⟨"b", []⟩] [.resolved "b" .running]
  obtain ⟨-, -, hmore, -⟩ := join_decides [⟨"b", []⟩, ⟨"a", []⟩, ⟨"b", []⟩]
    [.resolved "b" .running, .resolved "c" .failed]
  obtain ⟨-, hok, -⟩ := join_decides [⟨"a", []⟩, ⟨"a", []⟩]
    [.resolved "a" .running, .resolved "a" .failed]
  have hsublist : ["b"].Sublist ["b", "a", "b"] := by decide
  exact ⟨hless (fun id => hsublist.count_le id) ⟨"a", by decide⟩, hmore ⟨"c", by decide⟩,
    fun batch hjoin => (hok batch hjoin).detectors⟩

/-! ## 4. Statuses in another order -/

theorem named_perm (h : results.Perm results') (id : String) :
    named results id = named results' id :=
  (h.map Status.detector).count_eq id

theorem lacking_perm (h : results.Perm results') : lacking page results = lacking page results' :=
  List.filter_congr fun id _ => by rw [named_perm h]

/-- The statuses of an id agree on its state. -/
def Settled (id : String) (results : List Status) : Prop :=
  ∀ a ∈ results, ∀ b ∈ results, a.detector = id → b.detector = id → a.state = b.state

/-- A single status of an id agrees with itself. -/
theorem settled_of_named {id : String} (h : named results id ≤ 1) : Settled id results := by
  intro a ha b hb hida hidb
  have hlength : (results.filter fun status => status.detector = id).length ≤ 1 := by
    have hcount : named results id = (results.filter fun status => status.detector = id).length := by
      rw [named, List.count, List.countP_map, List.countP_eq_length_filter]
      rfl
    exact hcount ▸ h
  have ha' : a ∈ results.filter fun status => status.detector = id :=
    List.mem_filter.2 ⟨ha, decide_eq_true hida⟩
  have hb' : b ∈ results.filter fun status => status.detector = id :=
    List.mem_filter.2 ⟨hb, decide_eq_true hidb⟩
  obtain ⟨only, honly⟩ := List.length_eq_one_iff.1
    (Nat.le_antisymm hlength (List.length_pos_of_mem ha'))
  rw [honly, List.mem_singleton] at ha' hb'
  rw [ha', hb']

theorem keep_congr {batch batch' : Batch} {detectors : List Detector}
    (h : ∀ detector ∈ detectors, batch.stateOf detector = batch'.stateOf detector)
    (predicate : StatePredicate) : batch.keep predicate detectors = batch'.keep predicate detectors := by
  induction detectors with
  | nil => rfl
  | cons detector rest ih =>
      rw [keep, keep, h detector (by simp), ih fun other hother => h other (by simp [hother])]

theorem stateOf_eq {batch : Batch} {detector : Detector} {status : Status}
    (h : batch.statuses.find? detector.id = some status) :
    batch.stateOf detector = .ok status.state := by
  rw [stateOf, h]

/-- Statuses that arrive in another order are joined both times, or have one too many both times, or
miss the same ids both times. If they are joined, each detector has the state of the last status of
its id, and so the same state both times if its id stands on the page once or its statuses agree. -/
theorem join_arrivals (page : List Detector) (h : results.Perm results') :
    (∃ batch batch', join page results = .ok batch ∧ join page results' = .ok batch' ∧
      (∀ detector ∈ page, ∃ last last',
        lastOf detector.id results = some last ∧ batch.stateOf detector = .ok last.state ∧
        lastOf detector.id results' = some last' ∧ batch'.stateOf detector = .ok last'.state) ∧
      (∀ detector ∈ page, needed page detector.id = 1 ∨ Settled detector.id results →
        batch.stateOf detector = batch'.stateOf detector) ∧
      ((∀ detector ∈ page, needed page detector.id = 1 ∨ Settled detector.id results) →
        ∀ predicate, batch.filter predicate = batch'.filter predicate)) ∨
    (∃ id id', join page results = .error (.unknownIdentity id) ∧
      join page results' = .error (.unknownIdentity id')) ∨
    (∃ ids, join page results = .error (.missingResult ids) ∧
      join page results' = .error (.missingResult ids)) := by
  rcases count_cases page results with heq | ⟨id, hmore⟩ | ⟨hle, id, hless⟩
  · obtain ⟨batch, hjoin, hbatch, hfind⟩ := join_of_eq heq
    obtain ⟨batch', hjoin', hbatch', hfind'⟩ :=
      @join_of_eq page results' fun id => (named_perm h id).symm.trans (heq id)
    have hlast : ∀ detector ∈ page, ∃ last last',
        lastOf detector.id results = some last ∧ batch.stateOf detector = .ok last.state ∧
        lastOf detector.id results' = some last' ∧ batch'.stateOf detector = .ok last'.state := by
      intro detector hdetector
      have hid : detector.id ∈ page.map Detector.id := List.mem_map_of_mem hdetector
      obtain ⟨last, hlast⟩ := Option.isSome_iff_exists.1
        (Keyed.find?_isSome_iff.2 ((hbatch.keys _).2 hid))
      obtain ⟨last', hlast'⟩ := Option.isSome_iff_exists.1
        (Keyed.find?_isSome_iff.2 ((hbatch'.keys _).2 hid))
      exact ⟨last, last', (hfind _).symm.trans hlast, stateOf_eq hlast,
        (hfind' _).symm.trans hlast', stateOf_eq hlast'⟩
    have hsame : ∀ detector ∈ page, needed page detector.id = 1 ∨ Settled detector.id results →
        batch.stateOf detector = batch'.stateOf detector := by
      intro detector hdetector hcase
      -- As many statuses are named as are needed, so an id that is needed once is named once.
      have hsettled : Settled detector.id results :=
        hcase.elim (fun hone => settled_of_named (Nat.le_of_eq ((heq _).trans hone))) fun h => h
      obtain ⟨last, last', hlast, hstate, hlast', hstate'⟩ := hlast detector hdetector
      obtain ⟨hmem, hnamed⟩ := lastOf_mem hlast
      obtain ⟨hmem', hnamed'⟩ := lastOf_mem hlast'
      rw [hstate, hstate', hsettled last hmem last' (h.mem_iff.2 hmem') hnamed hnamed']
    refine .inl ⟨batch, batch', hjoin, hjoin', hlast, hsame, fun hall predicate => ?_⟩
    rw [filter, filter, hbatch.detectors, hbatch'.detectors]
    exact keep_congr (fun detector hdetector => hsame detector hdetector (hall detector hdetector))
      predicate
  · obtain ⟨first, -, hjoin⟩ := join_of_more hmore
    obtain ⟨first', -, hjoin'⟩ := @join_of_more page results' id (named_perm h id ▸ hmore)
    exact .inr (.inl ⟨first, first', hjoin, hjoin'⟩)
  · refine .inr (.inr ⟨lacking page results, join_of_less hle hless, ?_⟩)
    rw [lacking_perm h]
    exact join_of_less (fun id => named_perm h id ▸ hle id) (named_perm h id ▸ hless)

theorem join_arrivals_swapped :
    ∃ batch batch',
      join [⟨"a", []⟩, ⟨"b", []⟩] [.resolved "a" .running, .resolved "b" .disabled] = .ok batch ∧
      join [⟨"a", []⟩, ⟨"b", []⟩] [.resolved "b" .disabled, .resolved "a" .running] = .ok batch' ∧
      ∀ predicate, batch.filter predicate = batch'.filter predicate := by
  have hjoin : join [⟨"a", []⟩, ⟨"b", []⟩] [.resolved "a" .running, .resolved "b" .disabled] =
      .ok ⟨[⟨"a", []⟩, ⟨"b", []⟩],
        [("a", .resolved "a" .running), ("b", .resolved "b" .disabled)]⟩ := rfl
  rcases join_arrivals [⟨"a", []⟩, ⟨"b", []⟩]
    (List.Perm.swap (Status.resolved "b" .disabled) (.resolved "a" .running) []) with
    ⟨batch, batch', hbatch, hbatch', -, -, hfilter⟩ | ⟨id, id', herror, -⟩ | ⟨ids, herror, -⟩
  · exact ⟨batch, batch', hbatch, hbatch', hfilter (by simp [needed])⟩
  · cases hjoin.symm.trans herror
  · cases hjoin.symm.trans herror

/-! ## 5. Two statuses that disagree -/

/-- An id that stands on the page twice is given the state of the status that arrived last, so its
detectors are kept in one order of arrival and left out in the other. -/
theorem join_heeds_arrival :
    ∃ (page : List Detector) (results results' : List Status) (batch batch' : Batch),
      results.Perm results' ∧ join page results = .ok batch ∧ join page results' = .ok batch' ∧
      (∃ detector ∈ page, batch.stateOf detector ≠ batch'.stateOf detector) ∧
      ∃ predicate, batch.filter predicate ≠ batch'.filter predicate := by
  refine ⟨[⟨"a", []⟩, ⟨"a", []⟩], [.resolved "a" .running, .resolved "a" .disabled],
    [.resolved "a" .disabled, .resolved "a" .running],
    ⟨[⟨"a", []⟩, ⟨"a", []⟩], [("a", .resolved "a" .disabled)]⟩,
    ⟨[⟨"a", []⟩, ⟨"a", []⟩], [("a", .resolved "a" .running)]⟩,
    List.Perm.swap _ _ _, rfl, rfl, ⟨⟨"a", []⟩, List.mem_cons_self, fun h => ?_⟩,
    ⟨some true, none, none⟩, fun h => ?_⟩
  · have hstate : State.disabled = .running := Except.ok.inj h
    cases hstate
  · have hkept : ([] : List Detector) = [⟨"a", []⟩, ⟨"a", []⟩] := Except.ok.inj h
    cases hkept

end Batch

end DetectorSearch
