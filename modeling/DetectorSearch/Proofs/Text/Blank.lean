import DetectorSearch.Text.Character
import Mathlib.Data.List.TakeWhile

/-!
# What is left of a text

The characters of a class are cut from both ends of a text. A word without such
characters is left exactly of the texts that have it between some of them.

Results:
1. `trim_spec`: only characters of the class are cut.
2. `trim_eq_iff`: the texts that a word is left of; `trim_eq_self`: the word itself.
3. `trim_of_surrounds`, `map_trim`: changes at the ends, and of the characters.
-/

namespace DetectorSearch.Text

variable {drop : Char → Bool} {s word : List Char}

/-- Whether a text is a word with characters of a class around it. -/
def Surrounds (drop : Char → Bool) (s word : List Char) : Prop :=
  ∃ front back, s = front ++ (word ++ back) ∧ (∀ c ∈ front, drop c = true) ∧
    ∀ c ∈ back, drop c = true

/-- What is cut from a text are characters of the class at its ends. -/
theorem trim_spec (drop : Char → Bool) (s : List Char) : Surrounds drop s (trim drop s) := by
  let rest := s.dropWhile drop
  have hrest : trim drop s ++ (rest.reverse.takeWhile drop).reverse = rest := by
    rw [trim, ← List.reverse_append, List.takeWhile_append_dropWhile, List.reverse_reverse]
  refine ⟨s.takeWhile drop, (rest.reverse.takeWhile drop).reverse, ?_, fun c hc => ?_,
    fun c hc => ?_⟩
  · rw [hrest, List.takeWhile_append_dropWhile]
  · exact List.mem_takeWhile_imp hc
  · exact List.mem_takeWhile_imp (List.mem_reverse.1 hc)

/-- Nothing is cut in front of a character of another class. -/
theorem dropWhile_word {back : List Char} (hword : ∀ c ∈ word, drop c = false)
    (hne : word ≠ []) : (word ++ back).dropWhile drop = word ++ back := by
  cases word with
  | nil => exact absurd rfl hne
  | cons c rest => exact List.dropWhile_cons_of_neg (by simp [hword c])

/-- A word without characters of the class is left of the texts that surround it. -/
theorem trim_eq_iff (hword : ∀ c ∈ word, drop c = false) :
    trim drop s = word ↔ Surrounds drop s word := by
  constructor
  · rintro rfl
    exact trim_spec drop s
  · rintro ⟨front, back, rfl, hfront, hback⟩
    have hreverse : ∀ c ∈ word.reverse, drop c = false := fun c hc =>
      hword c (List.mem_reverse.1 hc)
    have hlast : ∀ c ∈ back.reverse, drop c = true := fun c hc => hback c (List.mem_reverse.1 hc)
    rw [trim, List.dropWhile_append_of_pos hfront]
    by_cases hne : word = []
    · rw [hne, List.nil_append, List.dropWhile_eq_nil_iff.2 hback]
      rfl
    · have hfirst := @dropWhile_word drop word.reverse [] hreverse
        (mt List.reverse_eq_nil_iff.1 hne)
      rw [List.append_nil] at hfirst
      rw [dropWhile_word hword hne, List.reverse_append, List.dropWhile_append_of_pos hlast, hfirst,
        List.reverse_reverse]

theorem trim_eq_self (hword : ∀ c ∈ word, drop c = false) : trim drop word = word :=
  (trim_eq_iff hword).2 ⟨[], [], by simp, by simp, by simp⟩

/-- What stands around a text does not change what is left of it, whatever its own ends are. -/
theorem trim_of_surrounds (h : Surrounds drop s word) : trim drop s = trim drop word := by
  obtain ⟨front, back, rfl, hfront, hback⟩ := h
  have hlast : ∀ c ∈ back.reverse, drop c = true := fun c hc => hback c (List.mem_reverse.1 hc)
  rw [trim, trim, List.dropWhile_append_of_pos hfront, List.dropWhile_append]
  split
  · rename_i hnone
    rw [List.dropWhile_eq_nil_iff.2 hback, List.isEmpty_iff.1 hnone]
  · rw [List.reverse_append, List.dropWhile_append_of_pos hlast]

/-- Characters can be changed before or after the cut if the class cannot tell the change. -/
theorem map_trim {f : Char → Char} (h : ∀ c, drop (f c) = drop c) (s : List Char) :
    (trim drop s).map f = trim drop (s.map f) := by
  have hclass : drop ∘ f = drop := funext h
  simp only [trim, List.dropWhile_map, ← List.map_reverse, hclass]

end DetectorSearch.Text
