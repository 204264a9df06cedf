import DetectorSearch.Proofs.Outcome
import DetectorSearch.Proofs.Value.Order
import DetectorSearch.Value.Sort
import Mathlib.Data.List.Basic

/-!
# Sorting loses nothing, and fails on two keys only

Whether items are sorted by merging or by halving, the result is a permutation of
them, and a sort that fails has met two of them whose keys have no order. Where
neither NaN nor an object is in the keys, the result is in order and stable.

Results:
1. `Halving.sort_perm`, `Halving.sort_error`: sorting by halving with any test.
2. `sortBy_perm`, `sortBy_error`: sorting by a key.
3. `sortBy_inOrder`, `sortBy_stable`: keys without NaN and objects.
-/

namespace DetectorSearch

namespace Value

variable {α : Type} {failure : Failure}

/-! ## 1. Halving -/

namespace Halving

variable {less goesOn : α → α → Outcome Bool} {item last : α}
  {items sorted run others : List α}

theorem takeRun_append (h : takeRun goesOn last items = .ok (run, others)) :
    run ++ others = items := by
  induction items generalizing last run others with
  | nil =>
      cases h
      rfl
  | cons item rest ih =>
      rw [takeRun] at h
      obtain ⟨goes, -, h⟩ := Outcome.bind_eq_ok.1 h
      cases goes with
      | false =>
          cases h
          rfl
      | true =>
          obtain ⟨⟨run', others'⟩, hrest, h⟩ := Outcome.bind_eq_ok.1 h
          cases h
          rw [List.cons_append, ih hrest]

theorem takeRun_error (h : takeRun goesOn last items = .error failure) :
    ∃ a ∈ last :: items, ∃ b ∈ items, goesOn a b = .error failure := by
  induction items generalizing last with
  | nil => cases h
  | cons item rest ih =>
      rw [takeRun] at h
      rcases Outcome.bind_eq_error.1 h with h | ⟨goes, -, h⟩
      · exact ⟨last, List.mem_cons_self, item, List.mem_cons_self, h⟩
      · cases goes with
        | false => cases h
        | true =>
            rcases Outcome.bind_eq_error.1 h with h | ⟨_, -, h⟩
            · obtain ⟨a, ha, b, hb, hfailed⟩ := ih h
              exact ⟨a, List.mem_cons_of_mem last ha, b, List.mem_cons_of_mem item hb, hfailed⟩
            · cases h

theorem firstRun_perm (h : firstRun less items = .ok (run, others)) :
    (run ++ others).Perm items := by
  unfold firstRun at h
  split at h
  · obtain ⟨falls, -, h⟩ := Outcome.bind_eq_ok.1 h
    obtain ⟨⟨run', others'⟩, htake, h⟩ := Outcome.bind_eq_ok.1 h
    have happend := takeRun_append htake
    obtain ⟨rfl, rfl⟩ := Prod.mk.inj (Except.ok.inj h)
    rw [← happend]
    cases falls with
    | false => exact .refl _
    | true => exact (List.reverse_perm _).append_right others'
  · cases h
    rw [List.append_nil]

/-- Two of the items could not be told apart. -/
def Stuck (less : α → α → Outcome Bool) (items : List α) (failure : Failure) : Prop :=
  ∃ a ∈ items, ∃ b ∈ items, less a b = .error failure

theorem firstRun_error (h : firstRun less items = .error failure) : Stuck less items failure := by
  unfold firstRun at h
  split at h
  · rename_i first second rest
    rcases Outcome.bind_eq_error.1 h with h | ⟨falls, -, h⟩
    · exact ⟨second, by simp, first, by simp, h⟩
    · rcases Outcome.bind_eq_error.1 h with h | ⟨_, -, h⟩
      · obtain ⟨a, ha, b, hb, hfailed⟩ := takeRun_error h
        exact ⟨b, by simp [hb], a, List.mem_cons_of_mem first ha, Outcome.map_eq_error.1 hfailed⟩
      · cases h
  · cases h

theorem position_error {first last : Nat}
    (h : position less item sorted first last = .error failure) :
    ∃ other ∈ sorted, less item other = .error failure := by
  -- along the halving: every test is one of the item with a sorted one
  fun_induction position less item sorted first last with
  | case1 | case5 => cases h
  | case2 first last _ middle _ other hother failure' hless =>
      cases h
      exact ⟨other, List.mem_of_getElem? hother, hless⟩
  | case3 _ _ _ _ _ _ _ _ ih => exact ih h
  | case4 _ _ _ _ _ _ _ _ ih => exact ih h

/-- An item that is put into a list stands in it besides the others, wherever it was put. -/
theorem insert_perm (item : α) (sorted : List α) (position : Nat) :
    (sorted.take position ++ item :: sorted.drop position).Perm (item :: sorted) := by
  refine List.perm_middle.trans (.cons item ?_)
  rw [List.take_append_drop]

theorem insertAll_perm {result : List α} (h : insertAll less sorted items = .ok result) :
    result.Perm (sorted ++ items) := by
  induction items generalizing sorted with
  | nil =>
      cases h
      rw [List.append_nil]
  | cons item rest ih =>
      rw [insertAll] at h
      obtain ⟨position, -, h⟩ := Outcome.bind_eq_ok.1 h
      exact (ih h).trans (((insert_perm item sorted position).append_right rest).trans
        List.perm_middle.symm)

theorem insertAll_error (h : insertAll less sorted items = .error failure) :
    Stuck less (sorted ++ items) failure := by
  induction items generalizing sorted with
  | nil => cases h
  | cons item rest ih =>
      rw [insertAll] at h
      rcases Outcome.bind_eq_error.1 h with h | ⟨position, -, h⟩
      · obtain ⟨other, hother, hless⟩ := position_error h
        exact ⟨item, by simp, other, by simp [hother], hless⟩
      · obtain ⟨a, ha, b, hb, hless⟩ := ih h
        have hmem : ∀ {c}, c ∈ sorted.take position ++ item :: sorted.drop position ++ rest →
            c ∈ sorted ++ item :: rest := by
          intro c hc
          exact (((insert_perm item sorted position).append_right rest).trans
            List.perm_middle.symm).mem_iff.1 hc
        exact ⟨a, hmem ha, b, hmem hb, hless⟩

theorem sort_perm (h : sort less items = .ok sorted) : sorted.Perm items := by
  obtain ⟨⟨run, others⟩, hrun, h⟩ := Outcome.bind_eq_ok.1 h
  exact (insertAll_perm h).trans (firstRun_perm hrun)

theorem sort_error (h : sort less items = .error failure) : Stuck less items failure := by
  rcases Outcome.bind_eq_error.1 h with h | ⟨⟨run, others⟩, hrun, h⟩
  · exact firstRun_error h
  · obtain ⟨a, ha, b, hb, hless⟩ := insertAll_error h
    have hperm := firstRun_perm hrun
    exact ⟨a, hperm.mem_iff.1 ha, b, hperm.mem_iff.1 hb, hless⟩

end Halving

/-! ## 2. Sorting by a key -/

variable {key : α → Value} {descending : Bool} {items sorted : List α}

theorem isLess_eq_error {a b : Value} (h : isLess a b = .error failure) :
    failure = .misuse .wrongKind ∧ a.relate? .less b = none := by
  unfold isLess at h
  split at h
  · cases h
  · rename_i hnone
    cases h
    exact ⟨rfl, hnone⟩

theorem sortBy_perm (h : sortBy key descending items = .ok sorted) : sorted.Perm items := by
  unfold sortBy at h
  dsimp only at h
  split at h
  · cases h
    exact .refl items
  · split at h
    · unfold sortByHalving at h
      dsimp only at h
      split at h
      · obtain ⟨reversed, hsort, rfl⟩ := Outcome.map_eq_ok.1 h
        exact (List.reverse_perm reversed).trans
          ((Halving.sort_perm hsort).trans (List.reverse_perm items))
      · exact Halving.sort_perm h
    · split at h
      · cases h
        exact List.mergeSort_perm items _
      · cases h

/-- A sort fails only when it meets two keys without an order. -/
theorem sortBy_error (h : sortBy key descending items = .error failure) :
    failure = .misuse .wrongKind ∧
      ∃ a ∈ items, ∃ b ∈ items, (key a).relate? .less (key b) = none := by
  unfold sortBy at h
  dsimp only at h
  split at h
  · cases h
  · split at h
    · have hstuck : Halving.Stuck (fun a b => isLess (key a) (key b)) items failure := by
        unfold sortByHalving at h
        dsimp only at h
        split at h
        · obtain ⟨a, ha, b, hb, hless⟩ := Halving.sort_error (Outcome.map_eq_error.1 h)
          exact ⟨a, List.mem_reverse.1 ha, b, List.mem_reverse.1 hb, hless⟩
        · exact Halving.sort_error h
      obtain ⟨a, ha, b, hb, hless⟩ := hstuck
      obtain ⟨hfailure, hnone⟩ := isLess_eq_error hless
      exact ⟨hfailure, a, ha, b, hb, hnone⟩
    · split at h
      · cases h
      · rename_i hcomparable
        cases h
        refine ⟨rfl, ?_⟩
        simpa [comparable] using hcomparable

/-! ## 3. Keys that rank -/

namespace SortLemmas

variable {le : α → α → Bool}

/-- An order among the items, and not among all there might be. -/
structure OrderOn (le : α → α → Bool) (items : List α) : Prop where
  trans : ∀ a ∈ items, ∀ b ∈ items, ∀ c ∈ items,
    le a b = true → le b c = true → le a c = true
  total : ∀ a ∈ items, ∀ b ∈ items, (le a b || le b a) = true

theorem mergeSort_attach (le : α → α → Bool) (items : List α) :
    (items.attach.mergeSort fun a b => le a.1 b.1).map Subtype.val = items.mergeSort le := by
  rw [List.map_mergeSort (s := le) fun a _ b _ => rfl, List.attach_map_subtype_val]

theorem mergeSort_pairwise (h : OrderOn le items) :
    (items.mergeSort le).Pairwise fun a b => le a b = true := by
  rw [← mergeSort_attach, List.pairwise_map]
  exact List.pairwise_mergeSort (fun a b c => h.trans a.1 a.2 b.1 b.2 c.1 c.2)
    (fun a b => h.total a.1 a.2 b.1 b.2) items.attach

theorem mergeSort_stable (h : OrderOn le items) {ties : List α} (hties : ties.Sublist items)
    (hle : ties.Pairwise fun a b => le a b = true) : ties.Sublist (items.mergeSort le) := by
  rw [← List.attach_map_subtype_val items] at hties
  obtain ⟨ties', hties', rfl⟩ := List.sublist_map_iff.1 hties
  rw [← mergeSort_attach]
  refine List.Sublist.map Subtype.val (List.sublist_mergeSort ?_ ?_ ?_ hties')
  · exact fun a b c => h.trans a.1 a.2 b.1 b.2 c.1 c.2
  · exact fun a b => h.total a.1 a.2 b.1 b.2
  · exact List.pairwise_map.1 hle

theorem inOrder_orderOn (hrank : areRankable (items.map key) = true)
    (hcomparable : comparable (items.map key) = true) :
    OrderOn (fun a b => inOrder descending (key a) (key b)) items := by
  have hkey : ∀ a ∈ items, (key a).isRankable = true :=
    fun a ha => areRankable_iff.1 hrank (key a) (List.mem_map_of_mem ha)
  have hdefined : ∀ a ∈ items, ∀ b ∈ items, ((key a).relate? .less (key b)).isSome = true := by
    intro a ha b hb
    rw [comparable, List.all_eq_true] at hcomparable
    have hall := hcomparable (key a) (List.mem_map_of_mem ha)
    exact List.all_eq_true.1 hall (key b) (List.mem_map_of_mem hb)
  constructor
  · intro a ha b hb c hc hab hbc
    cases descending with
    | true =>
        simp only [inOrder, if_true, bne_iff_ne] at hab hbc ⊢
        exact not_less_trans (hkey a ha) (hkey b hb) (hkey c hc) (hdefined a ha b hb) hab hbc
    | false =>
        simp only [inOrder, Bool.false_eq_true, if_false, bne_iff_ne] at hab hbc ⊢
        exact not_less_trans (hkey c hc) (hkey b hb) (hkey a ha) (hdefined c hc b hb) hbc hab
  · intro a ha b hb
    have hnot : ∀ {a b}, a ∈ items → b ∈ items → (key a).relate? .less (key b) ≠ some true ∨
        (key b).relate? .less (key a) ≠ some true := by
      intro a b ha hb
      by_cases hless : (key a).relate? .less (key b) = some true
      · exact .inr (less_asymm (hkey a ha) (hkey b hb) hless)
      · exact .inl hless
    cases descending with
    | true => simpa [inOrder] using hnot ha hb
    | false => simpa [inOrder] using hnot hb ha

mutual

theorem holdsNaN_of_isRankable : (a : Value) → a.isRankable = true → a.holdsNaN = false
  | real _, h => by simpa [isRankable, holdsNaN] using h
  | list items, h => anyHoldsNaN_of_areRankable items h
  | null, _ | bool _, _ | int _, _ | text _, _ => rfl

theorem anyHoldsNaN_of_areRankable :
    (items : List Value) → areRankable items = true → anyHoldsNaN items = false
  | [], _ => rfl
  | item :: rest, h => by
      obtain ⟨hitem, hrest⟩ := Bool.and_eq_true_iff.1 h
      rw [anyHoldsNaN, holdsNaN_of_isRankable item hitem, anyHoldsNaN_of_areRankable rest hrest,
        Bool.or_self]

end

/-- Keys that rank are sorted by merging, which a single item does not show. -/
theorem sortBy_cases (hrank : areRankable (items.map key) = true)
    (hsort : sortBy key descending items = .ok sorted) :
    (items.length ≤ 1 ∧ sorted = items) ∨ (comparable (items.map key) = true ∧
      sorted = items.mergeSort fun a b => inOrder descending (key a) (key b)) := by
  unfold sortBy at hsort
  dsimp only at hsort
  split at hsort
  · rename_i hshort
    cases hsort
    exact .inl ⟨hshort, rfl⟩
  · rw [anyHoldsNaN_of_areRankable _ hrank, if_neg Bool.false_ne_true] at hsort
    split at hsort
    · rename_i hcomparable
      cases hsort
      exact .inr ⟨hcomparable, rfl⟩
    · cases hsort

end SortLemmas

open SortLemmas

/-- Keys that rank come out in order. -/
theorem sortBy_inOrder (hrank : areRankable (items.map key) = true)
    (hsort : sortBy key descending items = .ok sorted) :
    sorted.Pairwise fun a b => inOrder descending (key a) (key b) = true := by
  rcases sortBy_cases hrank hsort with ⟨hshort, rfl⟩ | ⟨hcomparable, rfl⟩
  · match sorted, hshort with
    | [], _ => exact .nil
    | [item], _ => exact List.pairwise_singleton _ item
  · exact mergeSort_pairwise (inOrder_orderOn hrank hcomparable)

/-- Items that are in order already stay as they stood, those with equal keys among them. -/
theorem sortBy_stable (hrank : areRankable (items.map key) = true)
    (hsort : sortBy key descending items = .ok sorted) {ties : List α}
    (hties : ties.Sublist items)
    (hordered : ties.Pairwise fun a b => inOrder descending (key a) (key b) = true) :
    ties.Sublist sorted := by
  rcases sortBy_cases hrank hsort with ⟨-, rfl⟩ | ⟨hcomparable, rfl⟩
  · exact hties
  · exact mergeSort_stable (inOrder_orderOn hrank hcomparable) hties hordered

end Value

end DetectorSearch
