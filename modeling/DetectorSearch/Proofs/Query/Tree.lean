import DetectorSearch.Proofs.Query.Meaning

/-!
# Trees of conditions

A query may nest conjunctions to any depth, each with a list of queries that a document
must satisfy and one that it is filtered by. At the leaves stand single conditions. Where
all leaves can be asked of a document, the tree accepts it if and only if every leaf
does. So nothing but the leaves counts: not how they are nested, nor in which list they
stand, nor in which order or how often.

Results:
1. `satisfies_conjunction`: one conjunction, read as the test of its parts.
2. `leafOf_iff`, `isTree_iff`: the leaves of a conjunction are those of its parts.
3. `satisfies_iff_leaves`: a tree and its leaves.
4. `leafOf_of_rearranged`: rearranged trees have the same leaves.
5. `tree_conjoins`: what a tree of conditions accepts.
-/

namespace DetectorSearch

namespace Query

/-! ## Definitions -/

/-- The kinds of single conditions. -/
def leafKinds : List String := ["match_all", "term", "wildcard", "range"]

/-- Whether a query is a clause of one kind with a body, and of no other kind. Further names in it
do not count. -/
def IsClause (query : Value) (kind : String) (body : Value) : Prop :=
  ∃ fields : Fields, query = .object fields ∧ fields.find? kind = some body ∧
    ∀ other ∈ "bool" :: leafKinds, other ≠ kind → fields.find? other = none

/-- Whether a query is a single condition. -/
def IsLeaf (query : Value) : Prop :=
  ∃ kind ∈ leafKinds, ∃ body, IsClause query kind body

/-- Whether there is a list of queries under a name. A list that is absent is empty. -/
def Lists (fields : Fields) (name : String) (queries : List Value) : Prop :=
  fields.find? name = some (.list queries) ∨ fields.find? name = none ∧ queries = []

/-- Whether a query is the conjunction of some parts: those that it must have, and those that it
filters by. -/
def Conjoins (query : Value) (parts : List Value) : Prop :=
  ∃ body must filter, IsClause query "bool" (.object body) ∧ Lists body "must" must ∧
    Lists body "filter" filter ∧ parts = must ++ filter

/-- Whether a query is put together from single conditions by conjunctions. -/
inductive IsTree : Value → Prop where
  | leaf {query : Value} : IsLeaf query → IsTree query
  | bool {query : Value} {parts : List Value} :
      Conjoins query parts → (∀ part ∈ parts, IsTree part) → IsTree query

/-- Whether a single condition stands at a leaf of a query. -/
inductive LeafOf (leaf : Value) : Value → Prop where
  | self : IsLeaf leaf → LeafOf leaf leaf
  | inside {query part : Value} {parts : List Value} :
      Conjoins query parts → part ∈ parts → LeafOf leaf part → LeafOf leaf query

/-- Whether one query is a rearrangement of another.

* `arrange`: the parts of a conjunction stand in other lists, in another order, or more or less
  often.
* `flatten`: the parts of an inner conjunction take its place.
* `within`: one part is rearranged. -/
inductive Rearranged : Value → Value → Prop where
  | same (query : Value) : Rearranged query query
  | back {query other : Value} : Rearranged query other → Rearranged other query
  | further {query other third : Value} :
      Rearranged query other → Rearranged other third → Rearranged query third
  | arrange {query other : Value} {parts others : List Value} :
      Conjoins query parts → Conjoins other others → (∀ part, part ∈ parts ↔ part ∈ others) →
      Rearranged query other
  | flatten {query other inner : Value} {front parts behind : List Value} :
      Conjoins query (front ++ inner :: behind) → Conjoins inner parts →
      Conjoins other (front ++ (parts ++ behind)) → Rearranged query other
  | within {query other part changed : Value} {front behind : List Value} :
      Conjoins query (front ++ part :: behind) → Conjoins other (front ++ changed :: behind) →
      Rearranged part changed → Rearranged query other

/-- An object with one name is a clause of its kind. -/
theorem isClause_single {kind : String} (body : Value) :
    IsClause (DetectorFilter.single kind body) kind body := by
  refine ⟨[(kind, body)], rfl, if_pos rfl, fun other _ hother => ?_⟩
  rw [Keyed.find?, if_neg hother.symm, Keyed.find?]

theorem isLeaf_single {kind : String} (hkind : kind ∈ leafKinds) (body : Value) :
    IsLeaf (DetectorFilter.single kind body) :=
  ⟨kind, hkind, body, isClause_single body⟩

variable {source fields : Fields} {query other leaf : Value} {parts : List Value} {name : String}

/-! ## 1. One conjunction -/

theorem boolIn_eq (fields : Fields) :
    Clause.boolIn fields = (fields.find? "bool").map Clause.boolOf := by
  induction fields with
  | nil => rfl
  | cons field rest ih =>
      rw [Clause.boolIn, Keyed.find?]
      split
      · rfl
      · exact ih

theorem partIn_eq (name : String) (fields : Fields) :
    Clause.partIn name fields = (fields.find? name).elim (.ok []) Clause.clausesOf := by
  induction fields with
  | nil => rfl
  | cons field rest ih =>
      rw [Clause.partIn, Keyed.find?]
      split
      · rfl
      · exact ih

theorem partIn_of_lists (h : Lists fields name parts) :
    Clause.partIn name fields = .ok (parts.map Clause.ofValue) := by
  rw [partIn_eq]
  obtain h | ⟨h, rfl⟩ := h
  · rw [h, Option.elim_some, Clause.clausesOf, Clause.ofEach_eq_map]
  · rw [h, Option.elim_none, List.map_nil]

/-- A conjunction is read as the conjunction of its parts. -/
theorem ofValue_conjunction (h : Conjoins query parts) :
    Clause.ofValue query = .all (parts.map Clause.ofValue) := by
  obtain ⟨body, must, filter, ⟨fields, rfl, hbody, hothers⟩, hmust, hfilter, rfl⟩ := h
  have hfull : fields.isEmpty = false := by
    cases fields with
    | nil => cases hbody
    | cons => rfl
  have hall : Keyed.has "match_all" fields = false := by
    rw [Keyed.has, hothers "match_all" (by decide) (by decide)]
    rfl
  simp only [Clause.ofValue, hfull, hall, boolIn_eq, hbody, Option.map_some, Clause.boolOf,
    partIn_of_lists hmust, partIn_of_lists hfilter, Bool.or_false, Bool.false_eq_true, if_false,
    List.map_append]

theorem satisfies_conjunction (h : Conjoins query parts) : Document.satisfies source query =
    Clause.acceptsAll source (parts.map Clause.ofValue) := by
  rw [Document.satisfies, ofValue_conjunction h, Clause.accepts]

theorem conjunction_true_iff (h : Conjoins query parts) :
    Document.satisfies source query = .ok true ↔
      ∀ part ∈ parts, Document.satisfies source part = .ok true := by
  rw [satisfies_conjunction h, Clause.acceptsAll_eq_true, List.forall_mem_map]
  rfl

/-- A conjunction can be asked of a document if all its parts can. -/
theorem conjunction_answers (h : Conjoins query parts)
    (hparts : ∀ part ∈ parts, ∃ answer, Document.satisfies source part = .ok answer) :
    ∃ answer, Document.satisfies source query = .ok answer := by
  cases hanswer : Document.satisfies source query with
  | ok answer => exact ⟨answer, rfl⟩
  | error failure =>
      rw [satisfies_conjunction h] at hanswer
      obtain ⟨clause, hclause, hfailed⟩ := Clause.acceptsAll_error hanswer
      obtain ⟨part, hpart, rfl⟩ := List.mem_map.1 hclause
      obtain ⟨answer, hanswers⟩ := hparts part hpart
      cases hanswers.symm.trans hfailed

/-! ## 2. Leaves of a conjunction -/

theorem Lists.unique {others : List Value} (h : Lists fields name parts)
    (hothers : Lists fields name others) : parts = others := by
  rcases h with h | ⟨h, rfl⟩ <;> rcases hothers with hothers | ⟨hothers, rfl⟩
  · cases h.symm.trans hothers
    rfl
  · cases h.symm.trans hothers
  · cases h.symm.trans hothers
  · rfl

theorem Conjoins.unique {others : List Value} (h : Conjoins query parts)
    (hothers : Conjoins query others) : parts = others := by
  obtain ⟨body, must, filter, ⟨fields, rfl, hbody, -⟩, hmust, hfilter, rfl⟩ := h
  obtain ⟨body', must', filter', ⟨_, hfields, hbody', -⟩, hmust', hfilter', rfl⟩ := hothers
  obtain rfl := Value.object.inj hfields
  obtain rfl := Value.object.inj (Option.some.inj (hbody.symm.trans hbody'))
  rw [hmust.unique hmust', hfilter.unique hfilter']

theorem Conjoins.not_isLeaf (h : Conjoins query parts) : ¬ IsLeaf query := by
  obtain ⟨body, must, filter, ⟨fields, rfl, hbody, -⟩, -⟩ := h
  rintro ⟨kind, hkind, _, _, hfields, -, hothers⟩
  obtain rfl := Value.object.inj hfields
  have hne : "bool" ≠ kind := fun heq => absurd (heq ▸ hkind) (by decide)
  cases hbody.symm.trans (hothers "bool" List.mem_cons_self hne)

theorem leafOf_iff (h : Conjoins query parts) :
    LeafOf leaf query ↔ ∃ part ∈ parts, LeafOf leaf part := by
  constructor
  · intro hleaf
    cases hleaf with
    | self hself => exact absurd hself h.not_isLeaf
    | inside hparts hpart hinside =>
        obtain rfl := h.unique hparts
        exact ⟨_, hpart, hinside⟩
  · rintro ⟨part, hpart, hinside⟩
    exact .inside h hpart hinside

theorem forall_leafOf {P : Value → Prop} (h : Conjoins query parts) :
    (∀ leaf, LeafOf leaf query → P leaf) ↔ ∀ part ∈ parts, ∀ leaf, LeafOf leaf part → P leaf := by
  simp only [leafOf_iff h, forall_exists_index, and_imp]
  exact forall_comm.trans (forall_congr' fun _ => forall_comm)

theorem leafOf_leaf (h : IsLeaf query) : LeafOf leaf query ↔ leaf = query := by
  constructor
  · intro hleaf
    cases hleaf with
    | self => rfl
    | inside hparts => exact absurd h hparts.not_isLeaf
  · rintro rfl
    exact .self h

theorem isTree_iff (h : Conjoins query parts) : IsTree query ↔ ∀ part ∈ parts, IsTree part := by
  constructor
  · intro htree
    cases htree with
    | leaf hleaf => exact absurd hleaf h.not_isLeaf
    | bool hparts htrees =>
        obtain rfl := h.unique hparts
        exact htrees
  · exact fun htrees => .bool h htrees

/-! ## 3. A tree and its leaves -/

/-- A document satisfies a tree if it satisfies its leaves, also where some of them fail. -/
theorem satisfies_iff_leaves (htree : IsTree query) :
    Document.satisfies source query = .ok true ↔
      ∀ leaf, LeafOf leaf query → Document.satisfies source leaf = .ok true := by
  induction htree with
  | leaf hleaf => simp [leafOf_leaf hleaf]
  | bool hparts htrees ih =>
      rw [conjunction_true_iff hparts, forall_leafOf hparts]
      exact forall₂_congr ih

theorem tree_answers (htree : IsTree query)
    (h : ∀ leaf, LeafOf leaf query → ∃ answer, Document.satisfies source leaf = .ok answer) :
    ∃ answer, Document.satisfies source query = .ok answer := by
  induction htree with
  | leaf hleaf => exact h _ (.self hleaf)
  | bool hparts htrees ih =>
      rw [forall_leafOf hparts] at h
      exact conjunction_answers hparts fun part hpart => ih part hpart (h part hpart)

/-- Trees with the same leaves give the same answer. -/
theorem satisfies_congr (htree : IsTree query) (hother : IsTree other)
    (hleaves : ∀ leaf, LeafOf leaf query ↔ LeafOf leaf other)
    (h : ∀ leaf, LeafOf leaf query → ∃ answer, Document.satisfies source leaf = .ok answer) :
    Document.satisfies source other = Document.satisfies source query := by
  obtain ⟨answer, hanswer⟩ := tree_answers htree h
  obtain ⟨answer', hanswer'⟩ :=
    tree_answers hother fun leaf hleaf => h leaf ((hleaves leaf).2 hleaf)
  have hsame : Document.satisfies source other = .ok true ↔
      Document.satisfies source query = .ok true := by
    rw [satisfies_iff_leaves hother, satisfies_iff_leaves htree]
    exact forall_congr' fun leaf => imp_congr_left (hleaves leaf).symm
  rw [hanswer, hanswer', Except.ok.injEq, Except.ok.injEq] at hsame
  rw [hanswer, hanswer', Bool.eq_iff_iff.2 hsame]

/-! ## 4. Rearranged trees -/

theorem leafOf_of_rearranged (h : Rearranged query other) :
    LeafOf leaf query ↔ LeafOf leaf other := by
  induction h with
  | same => rfl
  | back _ ih => exact ih.symm
  | further _ _ ih ih' => exact ih.trans ih'
  | arrange hparts hothers hmem => simp only [leafOf_iff hparts, leafOf_iff hothers, hmem]
  | flatten hquery hinner hother =>
      simp only [leafOf_iff hquery, leafOf_iff hother, List.mem_append, List.mem_cons, or_and_right,
        exists_or, exists_eq_left, leafOf_iff hinner]
  | within hquery hother _ ih =>
      simp only [leafOf_iff hquery, leafOf_iff hother, List.mem_append, List.mem_cons, or_and_right,
        exists_or, exists_eq_left, ih]

theorem isTree_of_rearranged (h : Rearranged query other) : IsTree query ↔ IsTree other := by
  induction h with
  | same => rfl
  | back _ ih => exact ih.symm
  | further _ _ ih ih' => exact ih.trans ih'
  | arrange hparts hothers hmem => simp only [isTree_iff hparts, isTree_iff hothers, hmem]
  | flatten hquery hinner hother =>
      simp only [isTree_iff hquery, isTree_iff hother, List.forall_mem_append, List.forall_mem_cons,
        isTree_iff hinner]
  | within hquery hother _ ih =>
      simp only [isTree_iff hquery, isTree_iff hother, List.forall_mem_append, List.forall_mem_cons,
        ih]

/-! ## 5. What a tree accepts -/

/-- A tree whose leaves can all be asked of a document accepts it if and only if every leaf does.
Rearranging the tree does not change the answer, and a conjunction of nothing accepts all. -/
theorem tree_conjoins (source : Fields) (query : Value) (htree : IsTree query)
    (h : ∀ leaf, LeafOf leaf query → ∃ answer, Document.satisfies source leaf = .ok answer) :
    (∃ answer, Document.satisfies source query = .ok answer ∧
      (answer = true ↔
        ∀ leaf, LeafOf leaf query → Document.satisfies source leaf = .ok true)) ∧
    (∀ other, Rearranged query other →
      Document.satisfies source other = Document.satisfies source query) ∧
    ∀ empty, Conjoins empty [] → Document.satisfies source empty = .ok true := by
  obtain ⟨answer, hanswer⟩ := tree_answers htree h
  refine ⟨⟨answer, hanswer, ?_⟩, fun other hother => ?_, fun empty hempty => ?_⟩
  · rw [← satisfies_iff_leaves htree, hanswer, Except.ok.injEq]
  · exact satisfies_congr htree ((isTree_of_rearranged hother).1 htree)
      (fun _ => leafOf_of_rearranged hother) h
  · exact (conjunction_true_iff hempty).2 (by simp)

open DetectorFilter (single term)

/-- The condition that a name does not come in front of a letter. -/
def lateName : Value :=
  single "range" (single "name" (single "gte" (.text "d")))

/-- A conjunction of a condition with an inner conjunction and the condition that all meet. -/
def nestedQuery : Value :=
  single "bool" (.object [("filter", .list [
    single "bool" (single "must" (.list [term "name" (.text "front")])),
    single "match_all" (.object [])]), ("must", .list [lateName])])

/-- The same conditions in one list. -/
def flatQuery : Value :=
  single "bool" (single "must" (.list [lateName, term "name" (.text "front"),
    single "match_all" (.object [])]))

theorem tree_conjoins_nested : IsTree nestedQuery ∧
    (∀ leaf, LeafOf leaf nestedQuery → ∃ answer, Document.satisfies
      [("name", .text "front")] leaf = .ok answer) ∧
    Rearranged nestedQuery flatQuery ∧
    Document.satisfies [("name", .text "front")] flatQuery = .ok true := by
  have hinner : Conjoins (single "bool" (single "must" (.list [term "name" (.text "front")])))
      [term "name" (.text "front")] :=
    ⟨_, _, _, isClause_single _, .inl rfl, .inr ⟨rfl, rfl⟩, rfl⟩
  have hnested : Conjoins nestedQuery [lateName, single "bool" (single "must" (.list
      [term "name" (.text "front")])), single "match_all" (.object [])] :=
    ⟨_, _, _, isClause_single _, .inl rfl, .inl rfl, rfl⟩
  have hflat : Conjoins flatQuery [lateName, term "name" (.text "front"),
      single "match_all" (.object [])] :=
    ⟨_, _, _, isClause_single _, .inl rfl, .inr ⟨rfl, rfl⟩, rfl⟩
  have hrearranged : Rearranged nestedQuery flatQuery :=
    @Rearranged.flatten _ _ _ [lateName] _ _ hnested hinner hflat
  have hlate : IsLeaf lateName := isLeaf_single (by decide) _
  have hterm : IsLeaf (term "name" (.text "front")) := isLeaf_single (by decide) _
  have hall : IsLeaf (single "match_all" (.object [])) := isLeaf_single (by decide) _
  have htree : IsTree nestedQuery := by
    simp only [isTree_iff hnested, isTree_iff hinner, List.forall_mem_cons]
    exact ⟨.leaf hlate, ⟨.leaf hterm, by simp⟩, .leaf hall, by simp⟩
  have hleaves : ∀ leaf, LeafOf leaf nestedQuery → ∃ answer, Document.satisfies
      [("name", .text "front")] leaf = .ok answer := by
    simp only [forall_leafOf hnested, forall_leafOf hinner, List.forall_mem_cons,
      leafOf_leaf hlate, leafOf_leaf hterm, leafOf_leaf hall, forall_eq]
    exact ⟨⟨true, rfl⟩, ⟨⟨true, rfl⟩, by simp⟩, ⟨true, rfl⟩, by simp⟩
  obtain ⟨⟨answer, hanswer, -⟩, hsame, -⟩ := tree_conjoins _ nestedQuery htree hleaves
  obtain rfl : answer = true := Except.ok.inj (hanswer.symm.trans rfl)
  exact ⟨htree, hleaves, hrearranged, (hsame flatQuery hrearranged).trans hanswer⟩

end Query

end DetectorSearch
