import DetectorSearch.Proofs.Query
import DetectorSearch.Proofs.Text.Glob
import Mathlib.Data.Int.Order.Basic
import Mathlib.Data.List.Basic

/-!
# What a filter means

A document is accepted by the query of a filter if it meets every axis of the filter
that is present. An axis is read off the values of one field: the items of a list,
or the value itself, or none if the field is absent. The query can be asked of every
document that was last updated at numbers, and every further axis leaves fewer
documents.

Results:
1. `values_of_path`: the values of a field at the top of a document.
2. `acceptsAll_eq_true`, `anyTest_eq_true`: conjunctions, and tests of several values.
3. `accepts_term`, `accepts_wildcard`, `accepts_since`: single conditions.
4. `filter_means`: the documents that a filter accepts.
-/

namespace DetectorSearch

variable {source : Fields} {field : String}

/-! ## 1. Values of a field -/

/-- The values of a field at the top of a document: the items of a list, the value itself if it is
no list, none if the field is absent. -/
def Document.listed (source : Fields) (key : String) : List Value :=
  match source.find? key with
  | some (.list items) => items
  | some value => [value]
  | none => []

theorem Document.values_of_path {key : String} (h : path field = [key]) :
    values source field = listed source key := by
  have hfollow : follow [key] (.object source) = Keyed.find? key source := by
    rw [follow]
    cases Keyed.find? key source <;> rfl
  rw [values, h, hfollow, listed]
  cases Keyed.find? key source with
  | none => rfl
  | some value => cases value <;> rfl

namespace Clause

/-! ## 2. Conjunctions and tests of several values -/

theorem acceptsAll_eq_true {clauses : List Clause} : acceptsAll source clauses = .ok true ↔
    ∀ clause ∈ clauses, accepts source clause = .ok true := by
  induction clauses with
  | nil => simp [acceptsAll]
  | cons clause rest ih =>
      rw [List.forall_mem_cons, ← ih, acceptsAll]
      split
      · rename_i haccepts
        simp [haccepts]
      · rename_i hnot
        exact iff_of_false hnot fun h => hnot h.1

/-- A test that can be made of all values, and succeeds for one of them, succeeds. -/
theorem anyTest_eq_true {α : Type} {test : α → Test} {items : List α}
    (h : ∀ item ∈ items, ∃ answer, test item = .ok answer) :
    anyTest test items = .ok true ↔ ∃ item ∈ items, test item = .ok true := by
  induction items with
  | nil => simp [anyTest]
  | cons item rest ih =>
      obtain ⟨⟨answer, hitem⟩, hrest⟩ := List.forall_mem_cons.1 h
      rw [List.exists_mem_cons_iff, ← ih hrest, anyTest, hitem]
      cases answer <;> simp

/-! ## 3. Single conditions -/

theorem equal_text {string : String} {value : Value} :
    (Value.text string).equal value = true ↔ .text string = value := by
  cases value <;> simp [Value.equal, Value.equalLeaf, Value.place?]

theorem accepts_term {string : String} : accepts source (.term field (.text string)) = .ok true ↔
    .text string ∈ Document.values source field := by
  rw [accepts, Except.ok.injEq, List.any_eq_true]
  simp [equal_text]

/-- A pattern asks for a text that it fits. -/
theorem accepts_wildcard {pattern : String} :
    accepts source (.wildcard field (.text pattern)) = .ok true ↔
      ∃ string, .text string ∈ Document.values source field ∧
        (Text.Glob.read pattern.toList).Takes string.toList := by
  rw [accepts, anyTest_eq_true fun value _ => fitsPattern_text pattern value]
  constructor
  · rintro ⟨value, hvalue, hfits⟩
    cases value with
    | text string => exact ⟨string, hvalue, Text.Glob.accepts_iff_takes.1 (Except.ok.inj hfits)⟩
    | _ => cases hfits
  · rintro ⟨string, hstring, htakes⟩
    exact ⟨.text string, hstring, congrArg Except.ok (Text.Glob.accepts_iff_takes.2 htakes)⟩

theorem relate?_int {value : Value} {place : Place} (h : value.place? = some place) (number : Int) :
    value.relate? .greaterOrEqual (.int number) = some ((Place.ofInt number).le place) := by
  cases value <;> cases h <;> rfl

/-- Whether a value is a number, or a flag counted as one, that is not less than an integer. A
finite real is a multiple of `2 ^ (-1074)`, and is compared with the integer as it is. -/
def AtLeast (number : Int) : Value → Prop
  | .int other => number ≤ other
  | .bool flag => number ≤ if flag then 1 else 0
  | .real real =>
      match Place.ofFloat real with
      | .finite units => number * twoTo 1074 ≤ units
      | .top => True
      | .bottom | .nowhere => False
  | _ => False

theorem ofInt_le_ofInt (number other : Int) :
    (Place.ofInt number).le (.ofInt other) = true ↔ number ≤ other := by
  have hpositive : (0 : Int) < twoTo 1074 := Int.natCast_pos.2 (twoTo_pos 1074)
  exact Place.finite_le.trans (Int.mul_le_mul_iff_of_pos_right hpositive)

/-- A value whose place is not in front of that of an integer is at least the integer. -/
theorem le_place_iff {value : Value} {place : Place} (h : value.place? = some place)
    (number : Int) : (Place.ofInt number).le place = true ↔ AtLeast number value := by
  cases value with
  | int other =>
      obtain rfl := Option.some.inj h
      exact ofInt_le_ofInt number other
  | bool flag =>
      obtain rfl := Option.some.inj h
      exact ofInt_le_ofInt number _
  | real real =>
      obtain rfl := Option.some.inj h
      rw [AtLeast]
      cases Place.ofFloat real with
      | finite units => exact Place.finite_le
      | top => exact iff_of_true rfl trivial
      | bottom | nowhere => exact iff_of_false Bool.false_ne_true id
  | null | text | octets | list | object => cases h

/-- Whether the values of a field are numbers, flags among them, or null. -/
def AreNumbers (values : List Value) : Prop :=
  ∀ value ∈ values, value.isNull = true ∨ value.place?.isSome = true

instance (values : List Value) : Decidable (AreNumbers values) :=
  inferInstanceAs (Decidable (∀ value ∈ values, _))

/-- A number is within a single bound if it is at least that, and null never is. -/
theorem within_number {number : Int} {value : Value}
    (h : value.isNull = true ∨ value.place?.isSome = true) :
    ∃ answer, within (DetectorFilter.single "gte" (.int number)) value = .ok answer ∧
      (answer = true ↔ AtLeast number value) := by
  cases hnull : value.isNull with
  | true =>
      cases value with
      | null => exact ⟨false, rfl, iff_of_false Bool.false_ne_true id⟩
      | _ => cases hnull
  | false =>
      obtain ⟨place, hplace⟩ := Option.isSome_iff_exists.1 (h.resolve_left (by simp [hnull]))
      rw [within_single hnull, relate?_int hplace]
      exact ⟨_, rfl, le_place_iff hplace number⟩

/-- The condition on the last update asks for a number that is at least the instant. -/
theorem accepts_since {number : Int}
    (h : AreNumbers (Document.values source DetectorFilter.updateField)) :
    accepts source (DetectorFilter.sinceCondition number) = .ok true ↔
      ∃ value ∈ Document.values source DetectorFilter.updateField, AtLeast number value := by
  have hanswers : ∀ value ∈ Document.values source DetectorFilter.updateField,
      ∃ answer, within (DetectorFilter.single "gte" (.int number)) value = .ok answer := by
    intro value hvalue
    obtain ⟨answer, hanswer, -⟩ := @within_number number value (h value hvalue)
    exact ⟨answer, hanswer⟩
  have hwithin : ∀ value ∈ Document.values source DetectorFilter.updateField,
      within (DetectorFilter.single "gte" (.int number)) value = .ok true ↔
        AtLeast number value := by
    intro value hvalue
    obtain ⟨answer, hanswer, hleast⟩ := @within_number number value (h value hvalue)
    rw [hanswer, Except.ok.injEq, hleast]
  rw [DetectorFilter.sinceCondition, accepts, acceptsAll_eq_true, List.forall_mem_singleton,
    accepts, anyTest_eq_true hanswers]
  exact exists_congr fun value => and_congr_right fun hvalue => hwithin value hvalue

end Clause

/-! ## 4. Filters -/

namespace DetectorFilter

/-- What a filter asks of a document: something for each axis that is present. -/
structure Meets (filter : DetectorFilter) (source : Fields) : Prop where
  name : ∀ name, filter.detectorName = some name → .text name ∈ Document.listed source "name"
  pattern : ∀ pattern, filter.namePattern = some pattern →
    ∃ string, .text string ∈ Document.listed source "name" ∧
      (Text.Glob.read pattern.toList).Takes string.toList
  indices : ∀ index, filter.indices = some index → .text index ∈ Document.listed source "indices"
  kind : ∀ high, filter.highCardinality = some high →
    .text (if high then "MULTI_ENTITY" else "SINGLE_ENTITY") ∈
      Document.listed source "detector_type"
  since : ∀ since, filter.lastUpdateTime = some since →
    ∃ value ∈ Document.listed source "last_update_time", Clause.AtLeast since value

/-- Whether a filter has every axis that another one has, and maybe more. -/
structure Extends (more filter : DetectorFilter) : Prop where
  name : ∀ name, filter.detectorName = some name → more.detectorName = some name
  pattern : ∀ pattern, filter.namePattern = some pattern → more.namePattern = some pattern
  indices : ∀ index, filter.indices = some index → more.indices = some index
  kind : ∀ high, filter.highCardinality = some high → more.highCardinality = some high
  since : ∀ since, filter.lastUpdateTime = some since → more.lastUpdateTime = some since

variable {filter more : DetectorFilter}

/-- What holds of the conditions of a filter, axis by axis. -/
theorem forall_conditions {P : Clause → Prop} : (∀ clause ∈ filter.conditions, P clause) ↔
    (∀ name, filter.detectorName = some name → P (.term "name.keyword" (.text name))) ∧
    (∀ pattern, filter.namePattern = some pattern →
      P (.wildcard "name.keyword" (.text pattern))) ∧
    (∀ index, filter.indices = some index → P (.term "indices" (.text index))) ∧
    (∀ high, filter.highCardinality = some high →
      P (.term "detector_type" (.text (detectorType high)))) ∧
    ∀ since, filter.lastUpdateTime = some since → P (sinceCondition since) := by
  have haxis : ∀ {α : Type} (axis : Option α) (make : α → Clause),
      (∀ clause, axis.map make = some clause → P clause) ↔
        ∀ asked, axis = some asked → P (make asked) := by
    intro α axis make
    cases axis <;> simp
  simp only [conditions, List.forall_mem_filterMap, List.forall_mem_cons, List.not_mem_nil,
    false_imp_iff, implies_true, and_true, id, haxis]

theorem satisfies_eq_acceptsAll (filter : DetectorFilter) (source : Fields) :
    Document.satisfies source (.object filter.toQuery) =
      Clause.acceptsAll source filter.conditions := by
  rw [Document.satisfies, Clause.ofValue_toQuery, Clause.accepts]

/-- An accepted document is accepted by each filter that asks for less. -/
theorem satisfies_of_extends (hmore : more.Extends filter)
    (h : Document.satisfies source (.object more.toQuery) = .ok true) :
    Document.satisfies source (.object filter.toQuery) = .ok true := by
  -- No numbers are needed: a conjunction that accepts has asked all its conditions.
  rw [satisfies_eq_acceptsAll, Clause.acceptsAll_eq_true, forall_conditions] at h ⊢
  obtain ⟨hname, hpattern, hindices, hkind, hsince⟩ := h
  exact ⟨fun name hasked => hname name (hmore.name name hasked),
    fun pattern hasked => hpattern pattern (hmore.pattern pattern hasked),
    fun index hasked => hindices index (hmore.indices index hasked),
    fun high hasked => hkind high (hmore.kind high hasked),
    fun since hasked => hsince since (hmore.since since hasked)⟩

theorem values_update (source : Fields) :
    Document.values source updateField = Document.listed source "last_update_time" :=
  Document.values_of_path rfl

/-- A document with numbers is accepted by the query of a filter if it meets the axes. -/
theorem satisfies_iff_meets (filter : DetectorFilter)
    (h : Clause.AreNumbers (Document.listed source "last_update_time")) :
    Document.satisfies source (.object filter.toQuery) = .ok true ↔ filter.Meets source := by
  have hname : Document.values source "name.keyword" = Document.listed source "name" :=
    Document.values_of_path rfl
  have hindices : Document.values source "indices" = Document.listed source "indices" :=
    Document.values_of_path rfl
  have hkind : Document.values source "detector_type" = Document.listed source "detector_type" :=
    Document.values_of_path rfl
  rw [satisfies_eq_acceptsAll, Clause.acceptsAll_eq_true, forall_conditions]
  simp only [Clause.accepts_term, Clause.accepts_wildcard,
    Clause.accepts_since (values_update source ▸ h), hname, hindices, hkind, values_update, detectorType]
  constructor
  · rintro ⟨hname, hpattern, hindices, hkind, hsince⟩
    exact ⟨hname, hpattern, hindices, hkind, hsince⟩
  · rintro ⟨hname, hpattern, hindices, hkind, hsince⟩
    exact ⟨hname, hpattern, hindices, hkind, hsince⟩

/-- The query of a filter can be asked of a document with numbers. -/
theorem satisfies_ok (filter : DetectorFilter)
    (h : Clause.AreNumbers (Document.listed source "last_update_time")) :
    ∃ accepted, Document.satisfies source (.object filter.toQuery) = .ok accepted := by
  cases hanswer : Document.satisfies source (.object filter.toQuery) with
  | ok accepted => exact ⟨accepted, rfl⟩
  | error failure =>
      obtain ⟨-, since, value, hunordered⟩ := satisfies_filter_error hanswer
      have hheld : value ∈ Document.listed source "last_update_time" :=
        values_update source ▸ hunordered.held
      rcases h value hheld with hnull | hplace
      · cases hnull.symm.trans hunordered.given
      · obtain ⟨place, hplace⟩ := Option.isSome_iff_exists.1 hplace
        cases (Clause.relate?_int hplace since).symm.trans hunordered.unordered

end DetectorFilter

/-- The query of a filter says of each document that was last updated at numbers whether it meets
the axes of the filter. A filter with more axes accepts no further document. -/
theorem filter_means (filter : DetectorFilter) (source : Fields)
    (h : Clause.AreNumbers (Document.listed source "last_update_time")) :
    (∃ accepted, Document.satisfies source (.object filter.toQuery) = .ok accepted ∧
      (accepted = true ↔ filter.Meets source)) ∧
    ∀ more : DetectorFilter, more.Extends filter →
      Document.satisfies source (.object more.toQuery) = .ok true →
      Document.satisfies source (.object filter.toQuery) = .ok true := by
  obtain ⟨accepted, haccepted⟩ := filter.satisfies_ok h
  have hmeets := filter.satisfies_iff_meets h
  rw [haccepted, Except.ok.injEq] at hmeets
  exact ⟨⟨accepted, haccepted, hmeets⟩, fun more hmore => DetectorFilter.satisfies_of_extends hmore⟩

/-- A document with names in a list, one of them empty, and updates at several times. -/
def renamedDetector : Fields :=
  [("name", .list [.text "front", .text ""]), ("detector_type", .text "SINGLE_ENTITY"),
   ("last_update_time", .list [.null, .real (-0.5), .int 0])]

/-- A filter whose axes ask for an empty name, no high cardinality and the instant zero. -/
def falsyFilter : DetectorFilter :=
  { detectorName := some "", namePattern := some "fr*", indices := none
    highCardinality := some false, lastUpdateTime := some 0 }

theorem filter_means_falsy :
    Clause.AreNumbers (Document.listed renamedDetector "last_update_time") ∧
      falsyFilter.Meets renamedDetector ∧
      ¬ { falsyFilter with indices := some "" }.Meets renamedDetector := by
  have hnumbers : Clause.AreNumbers (Document.listed renamedDetector "last_update_time") := by
    decide +kernel
  have hfound : (Document.satisfies renamedDetector (.object falsyFilter.toQuery)).toOption =
      some true := by
    decide +kernel
  obtain ⟨⟨accepted, haccepted, hmeets⟩, -⟩ := filter_means falsyFilter renamedDetector hnumbers
  rw [haccepted] at hfound
  exact ⟨hnumbers, hmeets.1 (Option.some.inj hfound),
    fun h => List.not_mem_nil (h.indices "" rfl)⟩

end DetectorSearch
