import DetectorSearch.Catalog
import DetectorSearch.Proofs.Value.Sort

/-!
# What a search of the catalog finds

The hits of a query are the documents that satisfy it. They are brought into an
order that depends on neither end of the window, and the window is cut out last.

Results:
1. `hitsOf_eq_ok`, `hitsOf_error`: the hits, and the document that ends a search.
2. `Ranking`, `ordered_ranks`: the order of the hits.
3. `slice_of_nonneg`: windows that begin at a position of the list.
4. `rankedHits_eq_ok`, `page_eq_ok`, `page_window`: pages of a request, told by its
   hits; `page_found`: nothing else stands on them.
-/

namespace DetectorSearch

variable {documents hits : List Detector} {query : Value} {field : String} {descending : Bool}
  {failure : Failure}

/-! ## 1. Hits -/

/-- Whether a query finds a document: it can be asked of it, and the answer is yes. -/
def Detector.isFound (query : Value) (detector : Detector) : Bool :=
  (Document.satisfies detector.source query).toOption == some true

/-- Whether a query can be asked of every document. -/
def Value.Answers (query : Value) (documents : List Detector) : Prop :=
  ∀ detector ∈ documents, ∃ accepted, Document.satisfies detector.source query = .ok accepted

theorem Detector.isFound_of_ok {detector : Detector} {accepted : Bool}
    (h : Document.satisfies detector.source query = .ok accepted) :
    detector.isFound query = accepted := by
  rw [isFound, h]
  cases accepted <;> rfl

/-- A search of documents finds those that the query finds, if it can be asked of all. -/
theorem hitsOf_eq_ok : hitsOf (Clause.ofValue query) documents = .ok hits ↔
    query.Answers documents ∧ hits = documents.filter (Detector.isFound query) := by
  unfold Value.Answers
  induction documents generalizing hits with
  | nil => simp [hitsOf, eq_comm]
  | cons detector rest ih =>
      rw [hitsOf]
      cases haccepts : (Clause.ofValue query).accepts detector.source with
      | error failure =>
          have hnot : ∀ accepted, Document.satisfies detector.source query ≠ .ok accepted := by
            intro accepted h
            cases haccepts.symm.trans h
          simp [hnot]
      | ok accepted =>
          have hfound := Detector.isFound_of_ok haccepts
          have hasked : ∃ accepted, Document.satisfies detector.source query = .ok accepted :=
            ⟨accepted, haccepts⟩
          cases hrest : hitsOf (Clause.ofValue query) rest with
          | error failure =>
              refine ⟨nofun, fun h => ?_⟩
              cases hrest.symm.trans (ih.2 ⟨(List.forall_mem_cons.1 h.1).2, rfl⟩)
          | ok found =>
              obtain ⟨hanswers, rfl⟩ := ih.1 hrest
              rw [List.forall_mem_cons, List.filter_cons, hfound]
              constructor
              · intro h
                exact ⟨⟨hasked, hanswers⟩, (Except.ok.inj h).symm⟩
              · rintro ⟨-, rfl⟩
                rfl

/-- A search of documents fails as the query does on one of them. -/
theorem hitsOf_error (h : hitsOf (Clause.ofValue query) documents = .error failure) :
    ∃ detector ∈ documents, Document.satisfies detector.source query = .error failure := by
  induction documents with
  | nil => cases h
  | cons detector rest ih =>
      rw [hitsOf] at h
      split at h
      · rename_i hfailed
        cases h
        exact ⟨detector, List.mem_cons_self, hfailed⟩
      · split at h
        · rename_i hrest
          cases h
          obtain ⟨other, hother, hfailed⟩ := ih hrest
          exact ⟨other, List.mem_cons_of_mem detector hother, hfailed⟩
        · cases h

/-! ## 2. Their order -/

/-- The key by which a detector is put into order. -/
def rankKey (field : String) (detector : Detector) : Value :=
  (sortKey field detector).getD .null

/-- Whether one detector may stand before another one in an order. -/
def mayPrecede (field : String) (descending : Bool) (a b : Detector) : Prop :=
  Value.inOrder descending (rankKey field a) (rankKey field b) = true

/-- The hits as an order of what was found: those with a key first, and the others behind them as
they were found. Keys without NaN and objects stand in order, and detectors that stand in order
already, those with equal keys among them, keep their order. -/
structure Ranking (field : String) (descending : Bool) (found hits : List Detector) : Prop where
  perm : hits.Perm found
  keyless : ∃ keyed, hits = keyed ++ found.filter (fun detector => (sortKey field detector).isNone) ∧
    (∀ detector ∈ keyed, (sortKey field detector).isSome = true) ∧
    (Value.areRankable (found.filterMap (sortKey field)) = true →
      keyed.Pairwise (mayPrecede field descending))
  stable : Value.areRankable (found.filterMap (sortKey field)) = true → ∀ ties : List Detector,
    ties.Sublist found → (∀ detector ∈ ties, (sortKey field detector).isSome = true) →
    ties.Pairwise (mayPrecede field descending) → ties.Sublist hits

namespace CatalogLemmas

/-- The keys of the detectors that have one. -/
theorem map_rankKey (field : String) (found : List Detector) :
    (found.filter fun detector => (sortKey field detector).isSome).map (rankKey field) =
      found.filterMap (sortKey field) := by
  induction found with
  | nil => rfl
  | cons detector rest ih =>
      cases hkey : sortKey field detector with
      | none => simp [hkey, ih]
      | some key => simp [rankKey, hkey, ih]

end CatalogLemmas

open CatalogLemmas

theorem ordered_ranks {found : List Detector} (h : ordered field descending found = .ok hits) :
    Ranking field descending found hits := by
  unfold ordered at h
  dsimp only at h
  split at h
  · cases h
  · rename_i keyed hsort
    cases h
    have hperm := Value.sortBy_perm hsort
    have hrank : Value.areRankable (found.filterMap (sortKey field)) = true → Value.areRankable
        ((found.filter fun detector => (sortKey field detector).isSome).map (rankKey field)) =
          true := by
      rw [map_rankKey]
      exact id
    refine ⟨?_, ⟨keyed, rfl, fun detector hdetector => ?_, fun hkeys => ?_⟩, ?_⟩
    · refine (hperm.append_right _).trans ?_
      simp only [← Option.not_isSome]
      exact List.filter_append_perm _ found
    · exact (List.mem_filter.1 (hperm.mem_iff.1 hdetector)).2
    · exact Value.sortBy_inOrder (hrank hkeys) hsort
    · intro hkeys ties hties hkeyed hordered
      have hamong := hties.filter fun detector => (sortKey field detector).isSome
      rw [List.filter_eq_self.2 hkeyed] at hamong
      exact (Value.sortBy_stable (hrank hkeys) hsort hamong hordered).trans
        (List.sublist_append_left keyed _)

/-- Detectors cannot be put into order if the keys of two of them have none. -/
theorem ordered_error {found : List Detector} (h : ordered field descending found = .error failure) :
    failure = .misuse .wrongKind ∧ ∃ a ∈ found, ∃ b ∈ found,
      (sortKey field a).isSome = true ∧ (sortKey field b).isSome = true ∧
      (rankKey field a).relate? .less (rankKey field b) = none := by
  unfold ordered at h
  dsimp only at h
  split at h
  · rename_i hsort
    cases h
    obtain ⟨hfailure, a, ha, b, hb, hnone⟩ := Value.sortBy_error hsort
    obtain ⟨ha, hka⟩ := List.mem_filter.1 ha
    obtain ⟨hb, hkb⟩ := List.mem_filter.1 hb
    exact ⟨hfailure, a, ha, b, hb, hka, hkb, hnone⟩
  · cases h

/-! ## 3. Windows -/

/-- What is left of a list at a position, up to a size. -/
def window {α : Type} (items : List α) (size start : Nat) : List α :=
  (items.drop start).take size

theorem length_window {α : Type} (items : List α) (size start : Nat) :
    (window items size start).length = min size (items.length - start) := by
  rw [window, List.length_take, List.length_drop]

theorem window_sublist {α : Type} (items : List α) (size start : Nat) :
    (window items size start).Sublist items :=
  (List.take_sublist size _).trans (List.drop_sublist start items)

theorem slice_sublist {α : Type} (items : List α) (first last : Int) :
    (slice items first last).Sublist items :=
  (List.drop_sublist _ _).trans (List.take_sublist _ items)

/-- A part that begins at a position of the list is a window. -/
theorem slice_of_nonneg {α : Type} (items : List α) {start size : Int} (hstart : 0 ≤ start)
    (hsize : 0 ≤ size) :
    slice items start (start + size) = window items size.toNat start.toNat := by
  have hfront : ¬ start < 0 := by omega
  have hend : ¬ start + size < 0 := by omega
  have hsum : (start + size).toNat = start.toNat + size.toNat := Int.toNat_add hstart hsize
  simp only [slice, window, hfront, hend, if_false, hsum]
  -- an end behind the last item cuts off nothing
  rw [List.drop_take]
  rcases Nat.le_total start.toNat items.length with hinside | hbehind
  · rw [Nat.min_eq_left hinside]
    refine List.take_eq_take_iff.2 ?_
    rw [List.length_drop]
    omega
  · rw [Nat.min_eq_right hbehind, List.drop_length, List.drop_eq_nil_of_le hbehind,
      List.take_nil, List.take_nil]

/-! ## 4. Pages -/

namespace SearchRequest

variable {request : SearchRequest}

/-- The hits of a request do not depend on its window. -/
theorem rankedHits_window (documents : List Detector) (request : SearchRequest) (start size : Int) :
    ({ request with start, size } : SearchRequest).rankedHits documents =
      request.rankedHits documents :=
  rfl

theorem rankedHits_eq_ok : request.rankedHits documents = .ok hits ↔
    (Value.object request.query).Answers documents ∧
      ordered request.sortField (isDescending request.sortOrder)
        (documents.filter (Detector.isFound (.object request.query))) = .ok hits := by
  unfold rankedHits
  cases hfound : hitsOf (Clause.ofValue (.object request.query)) documents with
  | error failure =>
      have hnot : ¬ (Value.object request.query).Answers documents := fun h => by
        cases hfound.symm.trans (hitsOf_eq_ok.2 ⟨h, rfl⟩)
      simp [hnot]
  | ok found =>
      obtain ⟨hanswers, rfl⟩ := hitsOf_eq_ok.1 hfound
      simp [hanswers]

theorem page_eq_ok {page : Page} : request.page documents = .ok page ↔
    ∃ hits, request.rankedHits documents = .ok hits ∧
      page = ⟨slice hits request.start (request.start + request.size), hits.length⟩ := by
  unfold SearchRequest.page
  cases request.rankedHits documents with
  | error failure => simp
  | ok hits => simp [eq_comm]

/-- A page whose window begins at a position of the hits. -/
theorem page_window (h : request.rankedHits documents = .ok hits) (start size : Nat) :
    ({ request with start, size } : SearchRequest).page documents =
      .ok ⟨window hits size start, hits.length⟩ := by
  rw [page, rankedHits_window, h]
  show Except.ok _ = _
  rw [slice_of_nonneg hits (Int.natCast_nonneg start) (Int.natCast_nonneg size)]
  rfl

/-- What stands on a page was found, and its total counts no more than there is. -/
theorem page_found {page : Page} (h : request.page documents = .ok page) :
    (∀ detector ∈ page.detectors, detector ∈ documents) ∧
      page.detectors.length ≤ documents.length ∧
      ∃ count : Nat, page.total = count ∧ count ≤ documents.length := by
  obtain ⟨hits, hranked, rfl⟩ := page_eq_ok.1 h
  have hperm := (ordered_ranks (rankedHits_eq_ok.1 hranked).2).perm
  have hsub := slice_sublist hits request.start (request.start + request.size)
  have hle : hits.length ≤ documents.length := by
    rw [hperm.length_eq]
    exact List.length_filter_le _ documents
  refine ⟨fun detector hdetector => ?_, hsub.length_le.trans hle, hits.length, rfl, hle⟩
  exact (List.mem_filter.1 (hperm.mem_iff.1 (hsub.mem hdetector))).1

end SearchRequest

end DetectorSearch
