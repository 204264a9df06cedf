import DetectorSearch.Proofs.Catalog
import DetectorSearch.Proofs.Text.Letter

/-!
# The order of the hits

A catalog holds what it began with and what was added to it, whatever was searched
in between. A search finds the documents that its query accepts and sorts them by
a key: texts stand with texts, and numbers and flags with each other. Equal keys
keep the order in which their documents were added, and documents without a key
stand behind the others, in rising and in falling orders alike.

Results:
1. `Catalog.documents_after`: what a catalog holds after some steps.
2. `OneKind.upTo`, `OneKind.not_less_of_equal`: keys of one kind.
3. `ordered_sorted`: hits with such keys can be put into order, and how they stand.
4. `search_sorts`: the pages that a search finds after some steps.
-/

namespace DetectorSearch

/-! ## 1. Additions and searches -/

namespace Catalog

/-- What is done to a catalog: a document is added, or a request is searched. -/
inductive Step where
  | add (detector : Detector)
  | search (request : SearchRequest)

/-- The document that a step adds, if any. -/
def Step.added? : Step → Option Detector
  | add detector => some detector
  | search _ => none

/-- The catalog after a step. -/
def perform (catalog : Catalog) : Step → Catalog
  | .add detector => catalog.add detector
  | .search request => (catalog.search request).2

/-- The catalog after some steps. -/
def after (catalog : Catalog) (steps : List Step) : Catalog :=
  steps.foldl perform catalog

theorem documents_perform (catalog : Catalog) (step : Step) :
    (catalog.perform step).documents = catalog.documents ++ step.added?.toList := by
  cases step with
  | add detector => rfl
  | search request => exact (List.append_nil catalog.documents).symm

/-- Steps add their documents in order, and searches add none. -/
theorem documents_after (catalog : Catalog) (steps : List Step) :
    (catalog.after steps).documents = catalog.documents ++ steps.filterMap Step.added? := by
  induction steps generalizing catalog with
  | nil => exact (List.append_nil catalog.documents).symm
  | cons step rest ih =>
      have hrest : (catalog.after (step :: rest)).documents =
          ((catalog.perform step).after rest).documents := rfl
      rw [hrest, ih, documents_perform, List.append_assoc]
      cases step with
      | add detector => rfl
      | search request => rfl

end Catalog

/-! ## 2. Keys of one kind -/

namespace Value

/-- Whether a key does not come behind another one: texts stand by the numbers of their characters,
numbers and flags by their places on the line of numbers. -/
inductive UpTo : Value → Value → Prop where
  | text {a b : String} (h : Text.codes a ≤ Text.codes b) : UpTo (.text a) (.text b)
  | number {a b : Value} {p q : Place} (ha : a.place? = some p) (hb : b.place? = some q)
      (h : p.le q = true) : UpTo a b

/-- Whether a value is a text. -/
def isText : Value → Bool
  | text _ => true
  | _ => false

/-- Whether a value is a flag, or a number other than NaN. -/
def isNumber (value : Value) : Bool :=
  value.place?.any (· != .nowhere)

/-- Whether keys are all texts, or all numbers and flags. -/
def OneKind (keys : List Value) : Prop :=
  (∀ key ∈ keys, key.isText = true) ∨ ∀ key ∈ keys, key.isNumber = true

instance (keys : List Value) : Decidable (OneKind keys) :=
  inferInstanceAs (Decidable (_ ∨ _))

theorem isText_iff {value : Value} : value.isText = true ↔ ∃ string, value = .text string := by
  cases value <;> simp [isText]

theorem isNumber_iff {value : Value} :
    value.isNumber = true ↔ ∃ place, value.place? = some place ∧ place ≠ .nowhere := by
  rw [isNumber]
  cases value.place? <;> simp

theorem isRankable_of_isNumber {value : Value} (h : value.isNumber = true) :
    value.isRankable = true := by
  cases value with
  | real number => exact h
  | bool | int | null | text => rfl
  | octets | list | object => cases h

namespace OneKind

variable {keys : List Value} {a b key : Value}

theorem isRankable (h : OneKind keys) (hkey : key ∈ keys) : key.isRankable = true := by
  rcases h with htexts | hnumbers
  · obtain ⟨string, rfl⟩ := isText_iff.1 (htexts key hkey)
    rfl
  · exact isRankable_of_isNumber (hnumbers key hkey)

theorem areRankable (h : OneKind keys) : areRankable keys = true :=
  areRankable_iff.2 fun _ hkey => h.isRankable hkey

/-- Two keys of one kind have an order. -/
theorem relate?_isSome (h : OneKind keys) (ha : a ∈ keys) (hb : b ∈ keys) :
    (a.relate? .less b).isSome = true := by
  rcases h with htexts | hnumbers
  · obtain ⟨s, rfl⟩ := isText_iff.1 (htexts a ha)
    obtain ⟨t, rfl⟩ := isText_iff.1 (htexts b hb)
    rfl
  · obtain ⟨p, hp, -⟩ := isNumber_iff.1 (hnumbers a ha)
    obtain ⟨q, hq, -⟩ := isNumber_iff.1 (hnumbers b hb)
    rw [relate?_of_place? hp hq]
    rfl

/-- A key that another one is not before comes up to it. -/
theorem upTo (h : OneKind keys) (ha : a ∈ keys) (hb : b ∈ keys)
    (hnot : b.relate? .less a ≠ some true) : UpTo a b := by
  rcases h with htexts | hnumbers
  · obtain ⟨s, rfl⟩ := isText_iff.1 (htexts a ha)
    obtain ⟨t, rfl⟩ := isText_iff.1 (htexts b hb)
    refine .text (not_lt.1 fun hless => hnot ?_)
    exact congrArg some (decide_eq_true hless)
  · obtain ⟨p, hp, hp'⟩ := isNumber_iff.1 (hnumbers a ha)
    obtain ⟨q, hq, hq'⟩ := isNumber_iff.1 (hnumbers b hb)
    refine .number hp hq (Bool.or_eq_true_iff.2 ?_)
    rw [relate?_of_place? hq hp] at hnot
    rcases Place.lt_or_same_or_lt hp' hq' with hless | hsame | hgreater
    · exact .inl hless
    · exact .inr hsame
    · exact absurd (congrArg some hgreater) hnot

/-- Keys that equal a third one are not before each other. -/
theorem not_less_of_equal (h : OneKind keys) (hkey : key ∈ keys) (ha : a ∈ keys) (hb : b ∈ keys)
    (hequal : key.equal a = true) (hequal' : key.equal b = true) :
    a.relate? .less b ≠ some true := by
  have hstands : a.order? b = key.order? b :=
    (ranks key (h.isRankable hkey)).eq_left a b (h.isRankable ha) (h.isRankable hb)
      (order?_eq_eq.2 hequal)
  rw [Ne, less_iff, hstands, order?_eq_eq.2 hequal']
  exact nofun

end OneKind

end Value

/-! ## 3. Hits in order -/

variable {field sortOrder : String} {found hits keyed : List Detector}

/-- Whether an order of hits is rising: its name is `asc`, in letters of any case. -/
def IsRising (sortOrder : String) : Prop :=
  List.Forall₂ Text.EitherCase sortOrder.toList "asc".toList

theorem isDescending_eq_false_iff : isDescending sortOrder = false ↔ IsRising sortOrder := by
  have hword : Text.IsSmallWord "asc".toList := by decide
  rw [isDescending, bne_eq_false_iff_eq, Text.lowered_eq_iff hword, IsRising]

/-- Whether a detector has a key that equals another one. -/
def Detector.hasKey (field : String) (key : Value) (detector : Detector) : Bool :=
  (sortKey field detector).any key.equal

/-- Whether a detector has no key: the field is absent or null, or lists nothing but nulls. -/
def Detector.lacksKey (field : String) (detector : Detector) : Bool :=
  (Document.values detector.source field).all Value.isNull

/-- What a search makes of the documents that it found: those with a key in the order of their keys,
and behind them those without one. Documents with equal keys, and those without a key, keep the order
in which they were found. -/
structure Sorted (field sortOrder : String) (found hits : List Detector) : Prop where
  perm : hits.Perm found
  keyed : ∃ (keyed : List Detector) (keys : List Value),
    hits = keyed ++ found.filter (Detector.lacksKey field) ∧
    keyed.map (sortKey field) = keys.map some ∧
    (IsRising sortOrder → keys.Pairwise Value.UpTo) ∧
    (¬ IsRising sortOrder → keys.Pairwise fun a b => Value.UpTo b a)
  stable : ∀ key ∈ found.filterMap (sortKey field),
    hits.filter (Detector.hasKey field key) = found.filter (Detector.hasKey field key)

namespace OrderLemmas

theorem isNone_sortKey (field : String) (detector : Detector) :
    (sortKey field detector).isNone = detector.lacksKey field := by
  rw [sortKey, Detector.lacksKey, Bool.eq_iff_iff, Option.isNone_iff_eq_none, List.find?_eq_none,
    List.all_eq_true]
  simp

theorem hasKey_iff {key : Value} {detector : Detector} : detector.hasKey field key = true ↔
    ∃ other, sortKey field detector = some other ∧ key.equal other = true := by
  rw [Detector.hasKey]
  cases sortKey field detector <;> simp

/-- Detectors that all have a key, told by their keys. -/
theorem map_sortKey (h : ∀ detector ∈ keyed, (sortKey field detector).isSome = true) :
    keyed.map (sortKey field) = (keyed.filterMap (sortKey field)).map some := by
  induction keyed with
  | nil => rfl
  | cons detector rest ih =>
      obtain ⟨hdetector, hrest⟩ := List.forall_mem_cons.1 h
      obtain ⟨key, hkey⟩ := Option.isSome_iff_exists.1 hdetector
      rw [List.map_cons, List.filterMap_cons_some hkey, List.map_cons, ih hrest, hkey]

/-- The keys of detectors that stand in order. -/
theorem keys_pairwise {descending : Bool} {R : Value → Value → Prop}
    (h : keyed.Pairwise (mayPrecede field descending))
    (hR : ∀ a ∈ keyed.filterMap (sortKey field), ∀ b ∈ keyed.filterMap (sortKey field),
      Value.inOrder descending a b = true → R a b) :
    (keyed.filterMap (sortKey field)).Pairwise R := by
  rw [List.pairwise_filterMap]
  refine h.imp_of_mem fun {a b} ha hb hprecede x hx y hy => ?_
  rw [mayPrecede, rankKey, rankKey, hx, hy] at hprecede
  exact hR x (List.mem_filterMap.2 ⟨a, ha, hx⟩) y (List.mem_filterMap.2 ⟨b, hb, hy⟩) hprecede

/-- Documents with equal keys may stand as they were found. -/
theorem ties_mayPrecede (hkeys : Value.OneKind (found.filterMap (sortKey field))) {key : Value}
    (hkey : key ∈ found.filterMap (sortKey field)) (descending : Bool) :
    (found.filter (Detector.hasKey field key)).Pairwise (mayPrecede field descending) := by
  have hequal : ∀ detector ∈ found.filter (Detector.hasKey field key),
      rankKey field detector ∈ found.filterMap (sortKey field) ∧
        key.equal (rankKey field detector) = true := by
    intro detector hdetector
    obtain ⟨hfound, hhas⟩ := List.mem_filter.1 hdetector
    obtain ⟨other, hother, hequal⟩ := hasKey_iff.1 hhas
    rw [rankKey, hother, Option.getD_some]
    exact ⟨List.mem_filterMap.2 ⟨detector, hfound, hother⟩, hequal⟩
  refine List.pairwise_of_forall_mem_list fun a ha b hb => ?_
  obtain ⟨hmem, ha⟩ := hequal a ha
  obtain ⟨hmem', hb⟩ := hequal b hb
  unfold mayPrecede Value.inOrder
  cases descending with
  | true => exact bne_iff_ne.2 (hkeys.not_less_of_equal hkey hmem hmem' ha hb)
  | false => exact bne_iff_ne.2 (hkeys.not_less_of_equal hkey hmem' hmem hb ha)

/-- A part of a list that is found in a rearrangement of it as it stands is the part there. -/
theorem filter_eq_of_sublist {p : Detector → Bool} (hperm : hits.Perm found)
    (h : (found.filter p).Sublist hits) : hits.filter p = found.filter p := by
  have hsub : (found.filter p).Sublist (hits.filter p) := by
    have hpart := h.filter p
    rwa [List.filter_filter, funext fun detector => Bool.and_self (p detector)] at hpart
  exact (hsub.eq_of_length (hperm.filter p).length_eq.symm).symm

end OrderLemmas

open OrderLemmas

/-- Detectors in order stand as the order asks. -/
theorem Ranking.sorted (hkeys : Value.OneKind (found.filterMap (sortKey field)))
    (h : Ranking field (isDescending sortOrder) found hits) : Sorted field sortOrder found hits where
  perm := h.perm
  keyed := by
    obtain ⟨keyed, hhits, hsome, hordered⟩ := h.keyless
    have hsub : ∀ key ∈ keyed.filterMap (sortKey field), key ∈ found.filterMap (sortKey field) := by
      intro key hkey
      refine (h.perm.filterMap (sortKey field)).subset ?_
      rw [hhits, List.filterMap_append]
      exact List.mem_append_left _ hkey
    have hpairwise := hordered hkeys.areRankable
    simp only [isNone_sortKey] at hhits
    refine ⟨keyed, keyed.filterMap (sortKey field), hhits, map_sortKey hsome, fun hrising => ?_,
      fun hfalling => ?_⟩
    · rw [isDescending_eq_false_iff.2 hrising] at hpairwise
      refine keys_pairwise hpairwise fun a ha b hb hprecede => ?_
      exact hkeys.upTo (hsub a ha) (hsub b hb) (bne_iff_ne.1 hprecede)
    · rw [← isDescending_eq_false_iff, Bool.not_eq_false] at hfalling
      rw [hfalling] at hpairwise
      refine keys_pairwise hpairwise fun a ha b hb hprecede => ?_
      exact hkeys.upTo (hsub b hb) (hsub a ha) (bne_iff_ne.1 hprecede)
  stable key hkey := by
    refine filter_eq_of_sublist h.perm (h.stable hkeys.areRankable _ List.filter_sublist ?_
      (ties_mayPrecede hkeys hkey _))
    intro detector hdetector
    obtain ⟨other, hother, -⟩ := hasKey_iff.1 (List.mem_filter.1 hdetector).2
    rw [hother]
    rfl

/-- Documents whose keys are of one kind can be put into order. -/
theorem ordered_sorted (hkeys : Value.OneKind (found.filterMap (sortKey field))) :
    ∃ hits, ordered field (isDescending sortOrder) found = .ok hits ∧
      Sorted field sortOrder found hits := by
  cases hordered : ordered field (isDescending sortOrder) found with
  | ok hits => exact ⟨hits, rfl, (ordered_ranks hordered).sorted hkeys⟩
  | error failure =>
      obtain ⟨-, a, ha, b, hb, hka, hkb, hnone⟩ := ordered_error hordered
      have hmem : ∀ detector ∈ found, (sortKey field detector).isSome = true →
          rankKey field detector ∈ found.filterMap (sortKey field) := by
        intro detector hdetector hsome
        obtain ⟨key, hkey⟩ := Option.isSome_iff_exists.1 hsome
        rw [rankKey, hkey, Option.getD_some]
        exact List.mem_filterMap.2 ⟨detector, hdetector, hkey⟩
      have hsome := hkeys.relate?_isSome (hmem a ha hka) (hmem b hb hkb)
      rw [hnone] at hsome
      cases hsome

/-! ## 4. Pages -/

/-- Whatever was added and searched before, a search finds the documents that its query accepts, in
one order that no window changes. Its total is their count, and its page is the part of them that
begins at its start and is as long as its size. Keys that are texts are ordered as they are represented
here, where U+10D800 to U+10DFFF stand for halves of surrogate pairs and not for themselves. -/
theorem search_sorts (documents : List Detector) (steps : List Catalog.Step)
    (request : SearchRequest) {all matching : List Detector}
    (hall : all = documents ++ steps.filterMap Catalog.Step.added?)
    (hanswers : (Value.object request.query).Answers all)
    (hmatching : matching = all.filter (Detector.isFound (.object request.query)))
    (hkeys : Value.OneKind (matching.filterMap (sortKey request.sortField))) :
    ∃ hits, Sorted request.sortField request.sortOrder matching hits ∧
      ∀ size start : Nat,
        (((Catalog.ofDocuments documents).after steps).search { request with size, start }).1 =
          .ok ⟨(hits.drop start).take size, matching.length⟩ := by
  subst hmatching
  obtain ⟨hits, hordered, hsorted⟩ := @ordered_sorted request.sortField request.sortOrder _ hkeys
  refine ⟨hits, hsorted, fun size start => ?_⟩
  have hdocuments : ((Catalog.ofDocuments documents).after steps).documents = all := by
    rw [Catalog.documents_after, hall]
    rfl
  have hpage := SearchRequest.page_window
    (SearchRequest.rankedHits_eq_ok.2 ⟨hanswers, hordered⟩) start size
  rw [Catalog.search, hdocuments, hpage, hsorted.perm.length_eq]
  rfl

/-- A search for all detectors by falling grades. -/
def gradeSearch : SearchRequest :=
  ⟨DetectorFilter.none.toQuery, 20, 0, "info.grade", "Falling"⟩

/-- Two detectors, of which the first one alone has a grade. -/
def gradedPair : List Detector :=
  [⟨"a", [("info", .object [("grade", .int 1)])]⟩, ⟨"b", [("info", .null)]⟩]

/-- A search, and three more detectors: one with the best grade, one with the grade that is there
already, and one without a grade. -/
def gradedSteps : List Catalog.Step :=
  [.search gradeSearch,
   .add ⟨"c", [("info", .object [("grade", .list [.null, .real 2.5])])]⟩,
   .add ⟨"d", [("info", .object [("grade", .bool true)])]⟩,
   .add ⟨"e", [("info", .object [("grade", .list [.null])])]⟩]

/-- All of these detectors. -/
def gradedAll : List Detector :=
  gradedPair ++ gradedSteps.filterMap Catalog.Step.added?

theorem search_sorts_graded :
    ∃ hits, Sorted "info.grade" "Falling" gradedAll hits ∧
      (hits.filter (Detector.hasKey "info.grade" (.int 1))).map Detector.id = ["a", "d"] ∧
      (((Catalog.ofDocuments gradedPair).after gradedSteps).search
        { gradeSearch with size := (2 : Nat), start := (1 : Nat) }).1 =
          .ok ⟨(hits.drop 1).take 2, 5⟩ := by
  have hanswers : (Value.object gradeSearch.query).Answers gradedAll := by
    have htest : (gradedAll.all fun detector =>
        (Document.satisfies detector.source (.object gradeSearch.query)).isOk) = true := by
      decide +kernel
    exact fun detector hdetector => Outcome.isOk_iff.1 (List.all_eq_true.1 htest detector hdetector)
  have hfound : gradedAll.filter (Detector.isFound (.object gradeSearch.query)) = gradedAll :=
    List.filter_eq_self.2 (by decide +kernel)
  obtain ⟨hits, hsorted, hpages⟩ := search_sorts gradedPair gradedSteps gradeSearch rfl hanswers
    hfound.symm (by decide +kernel)
  have hties := hsorted.stable (.int 1) (List.mem_filterMap.2 ⟨_, List.mem_cons_self, rfl⟩)
  exact ⟨hits, hsorted, (congrArg (List.map Detector.id) hties).trans (by decide +kernel),
    hpages 2 1⟩

end DetectorSearch
