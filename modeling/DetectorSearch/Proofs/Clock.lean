import DetectorSearch.Enrichment.Schedule
import DetectorSearch.Proofs.Decimal.Sum

/-!
# The order of instants

Instants are ordered by their places, which is a total order except for the
instants that are no number: those are before nothing and after nothing.

Results:
1. `not_before_trans`, `before_of_not_before`: the order without those.
2. `earliest?_spec`: the earliest of some instants is one of them, and none of
   them is before it, if the first one is a number.
3. `not_after_before` and `not_before_after`: waiting for nothing or less never
   leads ahead, and any other wait never leads back in time.
-/

namespace DetectorSearch

theorem Place.lt_eq_not_le {a b : Place} (ha : a ≠ nowhere) (hb : b ≠ nowhere) :
    a.lt b = !b.le a := by
  cases hle : b.le a with
  | true => exact not_lt_of_le hle
  | false =>
      rcases lt_or_same_or_lt ha hb with h | h | h
      · exact h
      · obtain ⟨rfl, -⟩ : a = b ∧ a ≠ nowhere := by simpa [same] using h
        simp [le, h] at hle
      · simp [le, h] at hle

namespace Instant

variable {a b c : Instant}

/-! ## 1. Before and the same -/

/-- An instant that stands somewhere on the line of numbers. -/
def IsNumber (a : Instant) : Prop :=
  a.place ≠ .nowhere

@[simp]
theorem before_self (a : Instant) : a.before a = false :=
  Place.lt_irrefl a.place

theorem before_trans (hab : a.before b = true) (hbc : b.before c = true) : a.before c = true :=
  Place.lt_trans hab hbc

theorem not_before_of_before (h : a.before b = true) : b.before a = false := by
  cases hba : b.before a with
  | false => rfl
  | true => exact absurd (before_trans h hba) (by simp)

theorem isNumber_left (h : a.before b = true) : a.IsNumber := by
  intro ha
  simp [before, ha, Place.lt] at h

theorem isNumber_right (h : a.before b = true) : b.IsNumber := by
  intro hb
  cases ha : a.place <;> simp [before, ha, hb, Place.lt] at h

theorem same_iff : a.same b = true ↔ a.place = b.place ∧ a.IsNumber := by
  simp [same, Place.same, IsNumber]

theorem same_self (h : a.IsNumber) : a.same a = true :=
  same_iff.2 ⟨rfl, h⟩

theorem same_symm (h : a.same b = true) : b.same a = true := by
  obtain ⟨hplace, ha⟩ := same_iff.1 h
  exact same_iff.2 ⟨hplace.symm, fun hb => ha (hplace.trans hb)⟩

theorem same_trans (hab : a.same b = true) (hbc : b.same c = true) : a.same c = true := by
  obtain ⟨hab, ha⟩ := same_iff.1 hab
  exact same_iff.2 ⟨hab.trans (same_iff.1 hbc).1, ha⟩

theorem before_congr_left (h : a.same b = true) (c : Instant) : a.before c = b.before c := by
  simp only [before, (same_iff.1 h).1]

theorem before_congr_right (h : a.same b = true) (c : Instant) : c.before a = c.before b := by
  simp only [before, (same_iff.1 h).1]

theorem same_congr_right (h : a.same b = true) (c : Instant) : c.same a = c.same b := by
  simp only [same, (same_iff.1 h).1]

theorem before_or_same_or_before (ha : a.IsNumber) (hb : b.IsNumber) :
    a.before b = true ∨ a.same b = true ∨ b.before a = true :=
  Place.lt_or_same_or_lt ha hb

theorem same_of_not_before (ha : a.IsNumber) (hb : b.IsNumber) (hab : a.before b = false)
    (hba : b.before a = false) : a.same b = true := by
  rcases before_or_same_or_before ha hb with h | h | h
  · simp [h] at hab
  · exact h
  · simp [h] at hba

/-- An instant that is not after another one is before all that comes after that one. -/
theorem before_of_not_before (ha : a.IsNumber) (hba : b.before a = false)
    (hbc : b.before c = true) : a.before c = true := by
  rcases before_or_same_or_before ha (isNumber_left hbc) with h | h | h
  · exact before_trans h hbc
  · rwa [before_congr_left h]
  · simp [h] at hba

theorem not_before_trans (hb : b.IsNumber) (hba : b.before a = false) (hcb : c.before b = false) :
    c.before a = false := by
  cases h : c.before a with
  | false => rfl
  | true =>
      rcases before_or_same_or_before (isNumber_left h) hb with hlt | hsame | hlt
      · simp [hlt] at hcb
      · rw [before_congr_left hsame] at h
        simp [h] at hba
      · simp [before_trans hlt h] at hba

/-! ## 2. The earliest instant -/

theorem earlier_spec (ha : a.IsNumber) :
    (a.earlier b).IsNumber ∧ a.before (a.earlier b) = false ∧ b.before (a.earlier b) = false ∧
      (a.earlier b = a ∨ a.earlier b = b) := by
  unfold earlier
  split
  · next h => exact ⟨isNumber_left h, not_before_of_before h, before_self b, .inr rfl⟩
  · next h => exact ⟨ha, before_self a, by simpa using h, .inl rfl⟩

/-- What is before the earlier of two instants is before both. -/
theorem before_earlier (hb : b.IsNumber) (instant : Instant) :
    instant.before (a.earlier b) = (instant.before a && instant.before b) := by
  rw [Bool.eq_iff_iff, Bool.and_eq_true]
  unfold earlier
  split
  · next h => exact ⟨fun hlt => ⟨before_trans hlt h, hlt⟩, And.right⟩
  · next h =>
      refine ⟨fun hlt => ⟨hlt, ?_⟩, And.left⟩
      rcases before_or_same_or_before hb (isNumber_left hlt) with hle | hsame | hgt
      · exact absurd (before_trans hle hlt) h
      · rw [before_congr_left hsame] at h
        exact absurd hlt h
      · exact hgt

theorem foldl_earlier_spec (instants : List Instant) (ha : a.IsNumber) :
    (instants.foldl earlier a).IsNumber ∧ a.before (instants.foldl earlier a) = false ∧
      (∀ other ∈ instants, other.before (instants.foldl earlier a) = false) ∧
      instants.foldl earlier a ∈ a :: instants := by
  induction instants generalizing a with
  | nil => exact ⟨ha, before_self a, by simp, by simp⟩
  | cons other rest ih =>
      obtain ⟨hnumber, hfirst, hother, hone⟩ := earlier_spec (b := other) ha
      obtain ⟨hfold, hstart, hrest, hmem⟩ := ih hnumber
      rw [List.foldl_cons]
      refine ⟨hfold, not_before_trans hnumber hstart hfirst, ?_, ?_⟩
      · intro x hx
        rcases List.mem_cons.1 hx with rfl | hx
        · exact not_before_trans hnumber hstart hother
        · exact hrest x hx
      · rcases List.mem_cons.1 hmem with h | h
        · rw [h]
          rcases hone with h | h <;> simp [h]
        · simp [h]

/-- The earliest of some instants is one of them, and none of them is before it. -/
theorem earliest?_spec (ha : a.IsNumber) (instants : List Instant) :
    ∃ first, earliest? (a :: instants) = some first ∧ first.IsNumber ∧ first ∈ a :: instants ∧
      ∀ other ∈ a :: instants, other.before first = false := by
  obtain ⟨hnumber, hstart, hrest, hmem⟩ := foldl_earlier_spec instants ha
  refine ⟨_, rfl, hnumber, hmem, ?_⟩
  intro other hother
  rcases List.mem_cons.1 hother with rfl | h
  · exact hstart
  · exact hrest other h

/-! ## 3. Waiting -/

/-- A span that is a number is longer than nothing, or it is nothing or less. -/
theorem isPositive_eq_not_isNothing {span : Seconds}
    (h : Place.ofFloat span.toFloat ≠ .nowhere) : span.isPositive = !span.isNothing :=
  Place.lt_eq_not_le (fun hnowhere => Place.noConfusion hnowhere) h

theorem not_isNothing_of_isPositive {span : Seconds} (h : span.isPositive = true) :
    span.isNothing = false := by
  cases hnothing : span.isNothing with
  | false => rfl
  | true => exact absurd ((Place.not_lt_of_le hnothing).symm.trans h) (by simp)

/-- A wait that is not for nothing or less never leads back in time. -/
theorem not_after_before {span : Seconds} (now : Instant) (h : span.isNothing = false) :
    (now.after span).before now = false := by
  by_cases hspan : Place.ofFloat span.toFloat = .nowhere
  · have hnowhere : (now.after span).place = .nowhere := Place.add_nowhere (.inr hspan)
    simp [before, hnowhere, Place.lt]
  · have hpositive : span.isPositive = true := by
      rw [isPositive_eq_not_isNothing hspan, h, Bool.not_false]
    unfold Seconds.isPositive at hpositive
    exact (Place.add_side now span.toFloat).1 (by simp [Place.le, hpositive])

theorem isNumber_of_after {now : Instant} {span : Seconds} (h : (now.after span).IsNumber) :
    now.IsNumber :=
  fun hnow => h (Place.add_nowhere (.inl hnow))

/-- Waiting for nothing or less never leads ahead. -/
theorem not_before_after {span : Seconds} (now : Instant) (h : span.isNothing = true) :
    now.before (now.after span) = false :=
  (Place.add_side now span.toFloat).2 h

end Instant

end DetectorSearch
