import DetectorSearch.Keyed
import Mathlib.Data.List.Nodup

/-!
# Keys and their values

A key that is written once has one value. Where some values are left out, the keys
that are present are the ones that have a value.

Results:
1. `nodup_put`: writing a value keeps keys apart.
2. `find?_isSome_iff`, `find?_of_mem`: what is found under a key; `find?_filter`,
   `find?_forall₂`: what is found where entries are left out or exchanged.
3. `find?_present`: values that may be left out.
-/

namespace DetectorSearch.Keyed

variable {α β : Type} {key : String} {value : α} {entries : Keyed α} {optional : Keyed (Option α)}

/-! ## 1. Keys that are written -/

theorem mem_keys_put {other : String} : other ∈ (put key value entries).map Prod.fst ↔
    other = key ∨ other ∈ entries.map Prod.fst := by
  induction entries with
  | nil => simp [put]
  | cons entry rest ih =>
      by_cases h : entry.1 = key
      · simp [put, h]
      · simp only [put, if_neg h, List.map_cons, List.mem_cons, ih]
        tauto

/-- Writing a value keeps keys apart. -/
theorem nodup_put (h : (entries.map Prod.fst).Nodup) :
    ((put key value entries).map Prod.fst).Nodup := by
  induction entries with
  | nil => simp [put]
  | cons entry rest ih =>
      obtain ⟨hentry, hrest⟩ := List.nodup_cons.1 h
      by_cases hkey : entry.1 = key
      · simpa [put, hkey] using h
      · simp only [put, if_neg hkey, List.map_cons]
        refine List.nodup_cons.2 ⟨fun hmem => ?_, ih hrest⟩
        rcases mem_keys_put.1 hmem with h | h
        · exact hkey h
        · exact hentry h

/-! ## 2. Values that are found -/

theorem find?_isSome_iff : (find? key entries).isSome = true ↔ key ∈ entries.map Prod.fst := by
  induction entries with
  | nil => simp [find?]
  | cons entry rest ih =>
      by_cases h : entry.1 = key
      · simp [find?, h]
      · have hne : ¬ key = entry.1 := fun h' => h h'.symm
        simp only [find?, if_neg h, ih, List.map_cons, List.mem_cons, hne, false_or]

theorem find?_eq_none_iff : find? key entries = none ↔ key ∉ entries.map Prod.fst := by
  rw [← find?_isSome_iff, Bool.not_eq_true, Option.isSome_eq_false_iff, Option.isNone_iff_eq_none]

/-- A key that is written once has the value that stands beside it. -/
theorem find?_of_mem {entry : String × α} (hnodup : (entries.map Prod.fst).Nodup)
    (h : entry ∈ entries) : find? entry.1 entries = some entry.2 := by
  induction entries with
  | nil => simp at h
  | cons head rest ih =>
      obtain ⟨hhead, hrest⟩ := List.nodup_cons.1 hnodup
      rcases List.mem_cons.1 h with rfl | h
      · simp [find?]
      · have hne : ¬ head.1 = entry.1 := fun heq => hhead (heq ▸ List.mem_map_of_mem h)
        rw [find?, if_neg hne, ih hrest h]

theorem find?_map (f : α → β) :
    find? key (entries.map fun entry => (entry.1, f entry.2)) = (find? key entries).map f := by
  induction entries with
  | nil => rfl
  | cons entry rest ih =>
      by_cases h : entry.1 = key
      · simp [find?, h]
      · simp only [List.map_cons, find?, if_neg h, ih]

/-- Where only some entries are kept, a value is found under its key if its entry is one of them. -/
theorem find?_filter (keep : α → Bool) (hnodup : (entries.map Prod.fst).Nodup) :
    find? key (entries.filter fun entry => keep entry.2) = (find? key entries).filter keep := by
  induction entries with
  | nil => rfl
  | cons entry rest ih =>
      obtain ⟨hentry, hrest⟩ := List.nodup_cons.1 hnodup
      obtain ⟨name, value⟩ := entry
      rw [List.filter_cons]
      by_cases h : name = key
      · subst h
        -- The key is not written again, so nothing else is found under it.
        have hnone : find? name rest = none := find?_eq_none_iff.2 hentry
        have hlater : find? name (rest.filter fun entry => keep entry.2) = none := by
          rw [ih hrest, hnone, Option.filter_none]
        rw [find?, if_pos rfl, Option.filter_some]
        dsimp only
        split
        · rw [find?, if_pos rfl]
        · exact hlater
      · rw [find?, if_neg h, ← ih hrest]
        dsimp only
        split
        · rw [find?, if_neg h]
        · rfl

/-- Entries that correspond one by one have corresponding values under each key. -/
theorem find?_forall₂ {R : String → α → β → Prop} {others : Keyed β}
    (h : List.Forall₂ (fun entry other => other.1 = entry.1 ∧ R entry.1 entry.2 other.2)
      entries others) :
    Option.Rel (R key) (find? key entries) (find? key others) := by
  induction h with
  | nil => exact .none
  | @cons entry other rest others hfirst _ ih =>
      obtain ⟨hkey, hvalue⟩ := hfirst
      by_cases hfound : entry.1 = key
      · rw [find?, if_pos hfound, find?, if_pos (hkey.trans hfound)]
        exact .some (hfound ▸ hvalue)
      · rw [find?, if_neg hfound, find?, if_neg (fun heq => hfound (hkey ▸ heq))]
        exact ih

/-! ## 3. Values that may be left out -/

/-- The keys that have a value, with their values. -/
def present (optional : Keyed (Option α)) : Keyed α :=
  optional.filterMap fun entry => entry.2.map (entry.1, ·)

theorem present_append (optional more : Keyed (Option α)) :
    present (optional ++ more) = present optional ++ present more :=
  List.filterMap_append

theorem find?_present (hnodup : (optional.map Prod.fst).Nodup) :
    find? key (present optional) = (find? key optional).join := by
  induction optional with
  | nil => rfl
  | cons entry rest ih =>
      obtain ⟨hentry, hrest⟩ := List.nodup_cons.1 hnodup
      obtain ⟨name, value⟩ := entry
      by_cases h : name = key
      · subst h
        cases value with
        | none =>
            -- The key is not written again, so it is not among the keys behind it either.
            have hnone : find? name rest = none := find?_eq_none_iff.2 hentry
            rw [find?, if_pos rfl, Option.join_some]
            exact (ih hrest).trans (by rw [hnone]; rfl)
        | some value => simp [present, find?]
      · rw [find?, if_neg h, ← ih hrest]
        cases value with
        | none => rfl
        | some value => exact if_neg h

end DetectorSearch.Keyed
