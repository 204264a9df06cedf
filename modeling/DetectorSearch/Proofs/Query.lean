import DetectorSearch.Query.Clause
import DetectorSearch.Query.Request

/-!
# The query of a filter

The query that a filter makes is read back as a conjunction with one condition for
each axis. Terms and patterns can be asked of every document, so a filter fails on
a document only where an instant is compared with something that is no number.

Results:
1. `ofValue_toQuery`: the conditions that a filter is read as.
2. `acceptsAll_error`, `anyTest_error`, `within_error`: failures of parts.
3. `satisfies_filter_error`: failures of a filter.
-/

namespace DetectorSearch

variable {source : Fields} {failure : Failure}

/-! ## 1. Conditions -/

namespace DetectorFilter

/-- The field that says when a detector was last updated. -/
def updateField : String := "last_update_time"

/-- The condition that a detector was updated at or after an instant. -/
def sinceCondition (epochMillis : Int) : Clause :=
  .all [.range updateField (single "gte" (.int epochMillis))]

/-- The conditions of a filter, one for each axis that is present. -/
def conditions (filter : DetectorFilter) : List Clause :=
  [filter.detectorName.map fun name => .term "name.keyword" (.text name),
   filter.namePattern.map fun pattern => .wildcard "name.keyword" (.text pattern),
   filter.indices.map fun index => .term "indices" (.text index),
   filter.highCardinality.map fun high => .term "detector_type" (.text (detectorType high)),
   filter.lastUpdateTime.map sinceCondition].filterMap id

end DetectorFilter

namespace Clause

theorem ofEach_eq_map (items : List Value) : ofEach items = items.map ofValue := by
  induction items with
  | nil => rfl
  | cons item rest ih => rw [ofEach, ih, List.map_cons]

/-- The query of a filter is the conjunction of its conditions. -/
theorem ofValue_toQuery (filter : DetectorFilter) :
    ofValue (.object filter.toQuery) = .all filter.conditions := by
  have hquery : ofValue (.object filter.toQuery) = .all (ofEach filter.clauses ++ []) := rfl
  rw [hquery, List.append_nil, ofEach_eq_map, DetectorFilter.clauses, List.map_filterMap]
  refine congrArg Clause.all ((List.filterMap_map (f := Option.map ofValue) (g := id)).symm.trans ?_)
  simp only [List.map_cons, List.map_nil, Option.map_map]
  rfl

/-! ## 2. Failures of parts -/

theorem acceptsAll_error {clauses : List Clause} (h : acceptsAll source clauses = .error failure) :
    ∃ clause ∈ clauses, accepts source clause = .error failure := by
  induction clauses with
  | nil => cases h
  | cons clause rest ih =>
      rw [acceptsAll] at h
      split at h
      · obtain ⟨other, hother, hfailed⟩ := ih h
        exact ⟨other, List.mem_cons_of_mem clause hother, hfailed⟩
      · exact ⟨clause, List.mem_cons_self, h⟩

theorem anyTest_error {α : Type} {test : α → Test} {items : List α}
    (h : anyTest test items = .error failure) : ∃ item ∈ items, test item = .error failure := by
  induction items with
  | nil => cases h
  | cons item rest ih =>
      rw [anyTest] at h
      split at h
      · obtain ⟨other, hother, hfailed⟩ := ih h
        exact ⟨other, List.mem_cons_of_mem item hother, hfailed⟩
      · exact ⟨item, List.mem_cons_self, h⟩

theorem fitsPattern_text (pattern : String) (value : Value) :
    ∃ fits, fitsPattern (.text pattern) value = .ok fits := by
  cases value with
  | text string => exact ⟨_, rfl⟩
  | _ => exact ⟨false, rfl⟩

/-- A single bound is asked of every value that is not null. -/
theorem within_single {number : Int} {value : Value} (hvalue : value.isNull = false) :
    within (DetectorFilter.single "gte" (.int number)) value =
      (value.relate? .greaterOrEqual (.int number)).elim (.error (.misuse .wrongKind)) .ok := by
  have hall : within (DetectorFilter.single "gte" (.int number)) value =
      allTests (fun bound => satisfiesBound value [("gte", .int number)] bound.1 bound.2)
        boundNames := by
    cases value with
    | null => cases hvalue
    | _ => rfl
  have hbound : satisfiesBound value [("gte", .int number)] "gte" .greaterOrEqual =
      (value.relate? .greaterOrEqual (.int number)).elim (.error (.misuse .wrongKind)) .ok := by
    rw [satisfiesBound]
    cases h : value.relate? .greaterOrEqual (.int number) <;> simp [Keyed.find?, h]
  rw [hall, boundNames, allTests]
  dsimp only
  rw [hbound]
  cases value.relate? .greaterOrEqual (.int number) with
  | none => rfl
  | some holds => cases holds <;> rfl

theorem within_error {number : Int} {value : Value}
    (h : within (DetectorFilter.single "gte" (.int number)) value = .error failure) :
    failure = .misuse .wrongKind ∧ value.isNull = false ∧
      value.relate? .greaterOrEqual (.int number) = none := by
  cases hnull : value.isNull with
  | true =>
      cases value with
      | null => cases h
      | _ => cases hnull
  | false =>
      rw [within_single hnull] at h
      cases hrelation : value.relate? .greaterOrEqual (.int number) with
      | some holds =>
          rw [hrelation] at h
          cases h
      | none =>
          rw [hrelation] at h
          cases h
          exact ⟨rfl, rfl, rfl⟩

/-! ## 3. Failures of a filter -/

/-- A document whose last update cannot be compared with the instant that a filter asks for. -/
structure Unordered (filter : DetectorFilter) (source : Fields) (since : Int) (value : Value) :
    Prop where
  asked : filter.lastUpdateTime = some since
  held : value ∈ Document.values source DetectorFilter.updateField
  given : value.isNull = false
  unordered : value.relate? .greaterOrEqual (.int since) = none

theorem condition_error {filter : DetectorFilter} {clause : Clause}
    (hclause : clause ∈ filter.conditions) (h : accepts source clause = .error failure) :
    failure = .misuse .wrongKind ∧ ∃ since value, Unordered filter source since value := by
  have hpattern : ∀ field pattern, accepts source (.wildcard field (.text pattern)) ≠
      .error failure := by
    intro field pattern hfailed
    obtain ⟨value, -, hvalue⟩ := anyTest_error hfailed
    obtain ⟨fits, hfits⟩ := fitsPattern_text pattern value
    cases hfits.symm.trans hvalue
  obtain ⟨axis, haxis, hsome⟩ := List.mem_filterMap.1 hclause
  simp only [List.mem_cons, List.not_mem_nil, or_false] at haxis
  -- terms and patterns can be asked of every document, so the axis is the last one
  rcases haxis with rfl | rfl | rfl | rfl | rfl <;>
    obtain ⟨asked, hasked, rfl⟩ := Option.map_eq_some_iff.1 hsome
  · cases h
  · exact absurd h (hpattern _ asked)
  · cases h
  · cases h
  · obtain ⟨range, hrange, hfailed⟩ := acceptsAll_error h
    obtain rfl := List.mem_singleton.1 hrange
    obtain ⟨value, hvalue, hwithin⟩ := anyTest_error hfailed
    obtain ⟨hfailure, hnull, hnone⟩ := within_error hwithin
    exact ⟨hfailure, asked, value, hasked, hvalue, hnull, hnone⟩

end Clause

/-- A filter fails on a document only where it compares an instant with something else. -/
theorem satisfies_filter_error {filter : DetectorFilter}
    (h : Document.satisfies source (.object filter.toQuery) = .error failure) :
    failure = .misuse .wrongKind ∧ ∃ since value, Clause.Unordered filter source since value := by
  rw [Document.satisfies, Clause.ofValue_toQuery] at h
  obtain ⟨clause, hclause, hfailed⟩ := Clause.acceptsAll_error h
  exact Clause.condition_error hclause hfailed

end DetectorSearch
