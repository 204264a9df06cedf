import DetectorSearch.CommandLine.Options
import Mathlib.Data.List.Forall2
import Mathlib.Data.List.Perm.Basic
import Mathlib.Data.List.TakeWhile

/-!
# Options that are understood as they are meant

An option with a value is spelled in two words, or in one with an equals sign; an
option that stands alone is its name. Options that are known by their kinds are told
apart again, whatever their values are. Where each option has a slot of its own, the
order in which they are given does not matter.

Results:
1. `splitOption_name`, `splitOption_joined`: the name and the value in a word.
2. `scan_spelled`: the options that are spelled are the options that are understood.
3. `last?_of_slot`, `last?_of_stranger`: what is given in a slot, in any order.
-/

namespace DetectorSearch.CommandLine

variable {name value : String} {known : Keyed OptionKind}

/-! ## 1. Words of an option -/

/-- Whether a word is the bare name of an option: a dash and more, without an equals sign. -/
structure IsName (name : String) : Prop where
  option : isOption name = true
  not_end : name ≠ "--"
  bare : '=' ∉ name.toList

instance (name : String) : Decidable (IsName name) :=
  decidable_of_iff (isOption name = true ∧ name ≠ "--" ∧ '=' ∉ name.toList)
    ⟨fun ⟨option, not_end, bare⟩ => ⟨option, not_end, bare⟩,
      fun ⟨option, not_end, bare⟩ => ⟨option, not_end, bare⟩⟩

theorem IsName.all_bare (h : IsName name) : ∀ c ∈ name.toList, (c != '=') = true := by
  intro c hc
  exact bne_iff_ne.2 fun heq => h.bare (heq ▸ hc)

theorem splitOption_name (h : IsName name) : splitOption name = (name, none) := by
  have hnone : name.toList.dropWhile (· != '=') = [] := List.dropWhile_eq_nil_iff.2 h.all_bare
  rw [splitOption, hnone]

/-- A name with a value behind an equals sign. -/
def joined (name value : String) : String :=
  name ++ "=" ++ value

theorem toList_joined : (joined name value).toList = name.toList ++ '=' :: value.toList := by
  simp [joined]

theorem splitOption_joined (h : IsName name) :
    splitOption (joined name value) = (name, some value) := by
  have hdrop : (joined name value).toList.dropWhile (· != '=') = '=' :: value.toList := by
    rw [toList_joined, List.dropWhile_append_of_pos h.all_bare]
    rfl
  have htake : (joined name value).toList.takeWhile (· != '=') = name.toList := by
    rw [toList_joined, List.takeWhile_append_of_pos h.all_bare]
    simp
  rw [splitOption, hdrop, htake]
  simp

theorem isOption_joined (h : IsName name) : isOption (joined name value) = true := by
  have hname := h.option
  unfold isOption at hname ⊢
  rw [toList_joined]
  split at hname
  · rename_i c rest heq
    rw [heq]
    rfl
  · cases hname

theorem joined_ne_end (h : IsName name) : joined name value ≠ "--" := by
  intro heq
  have hsplit := @splitOption_joined name value h
  rw [heq] at hsplit
  have hend : splitOption "--" = ("--", none) := rfl
  cases hend.symm.trans hsplit

/-! ## 2. Options that are scanned -/

/-- An option as it is meant: its kind, its name and its value. -/
abbrev Meant := OptionKind × String × String

/-- The words that an option is spelled in. -/
inductive Spells : Meant → List String → Prop where
  | apart (name value : String) : Spells (.valued, name, value) [name, value]
  | joined (name value : String) : Spells (.valued, name, value) [CommandLine.joined name value]
  | alone (name : String) : Spells (.alone, name, "") [name]

/-- Whether an option is known by its kind. -/
def Knows (known : Keyed OptionKind) (option : Meant) : Prop :=
  Keyed.find? option.2.1 known = some option.1 ∧ IsName option.2.1

theorem scan_valued (h : Knows known (.valued, name, value)) (rest : List String) :
    scan known false (name :: value :: rest) =
      (scan known false rest).map (·.withOption name value) := by
  obtain ⟨hkind, hname⟩ := h
  rw [scan, if_neg hname.not_end, if_neg (by simp [hname.option])]
  simp only [splitOption_name hname, hkind]

theorem scan_joined (h : Knows known (.valued, name, value)) (rest : List String) :
    scan known false (joined name value :: rest) =
      (scan known false rest).map (·.withOption name value) := by
  obtain ⟨hkind, hname⟩ := h
  rw [scan, if_neg (joined_ne_end hname), if_neg (by simp [isOption_joined hname])]
  simp only [splitOption_joined hname, hkind]

theorem scan_alone (h : Knows known (.alone, name, "")) (rest : List String) :
    scan known false (name :: rest) = (scan known false rest).map (·.withOption name "") := by
  obtain ⟨hkind, hname⟩ := h
  rw [scan, if_neg hname.not_end, if_neg (by simp [hname.option])]
  simp only [splitOption_name hname, hkind]

/-- Options that are known and spelled out are understood as they are meant, and nothing else is. -/
theorem scan_spelled {meant : List Meant} {spelled : List (List String)}
    (hknown : ∀ option ∈ meant, Knows known option) (h : List.Forall₂ Spells meant spelled) :
    scan known false spelled.flatten = .ok ⟨meant.map Prod.snd, []⟩ := by
  -- In each spelling the first words make the first option, and the scan goes on behind them.
  induction h with
  | nil => rw [List.flatten_nil, scan, List.map_nil]
  | @cons option words meant spelled hspells _ ih =>
      obtain ⟨hoption, hrest⟩ := List.forall_mem_cons.1 hknown
      cases hspells with
      | apart name value =>
          show scan known false (name :: value :: spelled.flatten) = _
          rw [scan_valued hoption, ih hrest]
          rfl
      | joined name value =>
          show scan known false (CommandLine.joined name value :: spelled.flatten) = _
          rw [scan_joined hoption, ih hrest]
          rfl
      | alone name =>
          show scan known false (name :: spelled.flatten) = _
          rw [scan_alone hoption, ih hrest]
          rfl

/-! ## 3. Options with slots of their own -/

/-- The names of which a caller gives one at most, their kind, and the option that is given. -/
structure Slot where
  names : List String
  kind : OptionKind
  given : Option (String × String)

namespace Slot

/-- The options that are given in some slots. -/
def meant (slots : List Slot) : List Meant :=
  slots.filterMap fun slot => slot.given.map (slot.kind, ·)

/-- Whether each option is given under a name of its slot. -/
def Fit (slots : List Slot) : Prop :=
  ∀ slot ∈ slots, ∀ option, slot.given = some option → option.1 ∈ slot.names

/-- Whether no name is in two slots. -/
def Apart (slots : List Slot) : Prop :=
  slots.Pairwise fun a b => ∀ name ∈ a.names, name ∉ b.names

variable {slots : List Slot} {slot : Slot} {given : Given} {names : List String}

theorem options_meant : (meant slots).map Prod.snd = slots.filterMap Slot.given := by
  rw [meant, List.map_filterMap]
  refine congrArg (fun f => slots.filterMap f) (funext fun slot => ?_)
  cases slot.given <;> rfl

/-- Options of other slots are not among those with given names. -/
theorem filter_of_disjoint (hfit : Fit slots)
    (h : ∀ slot ∈ slots, ∀ name ∈ names, name ∉ slot.names) :
    (slots.filterMap Slot.given).filter (fun option => names.contains option.1) = [] := by
  rw [List.filter_eq_nil_iff]
  intro option hoption hcontains
  obtain ⟨slot, hslot, hgiven⟩ := List.mem_filterMap.1 hoption
  have hname : option.1 ∈ names := by simpa using hcontains
  exact h slot hslot _ hname (hfit slot hslot option hgiven)

/-- Of the options that are given in slots, the names of one slot find the one that is given there. -/
theorem filter_of_mem (hfit : Fit slots) (hapart : Apart slots) (h : slot ∈ slots) :
    (slots.filterMap Slot.given).filter (fun option => slot.names.contains option.1) =
      slot.given.toList := by
  obtain ⟨before, after, rfl⟩ := List.append_of_mem h
  obtain ⟨-, hafter, hbefore⟩ := List.pairwise_append.1 hapart
  obtain ⟨hslot, -⟩ := List.pairwise_cons.1 hafter
  have hnone {others : List Slot} (hsub : others ⊆ before ++ slot :: after)
      (hdisjoint : ∀ other ∈ others, ∀ name ∈ slot.names, name ∉ other.names) :=
    filter_of_disjoint (fun other hother => hfit other (hsub hother)) hdisjoint
  have hleft := hnone (List.subset_append_left _ _) fun other hother name hname hother' =>
    hbefore other hother slot List.mem_cons_self name hother' hname
  have hright := hnone (fun other hother =>
    List.mem_append_right _ (List.mem_cons_of_mem _ hother)) hslot
  rw [List.filterMap_append, List.filter_append, hleft, List.nil_append, List.filterMap_cons]
  cases hgiven : slot.given with
  | none => exact hright
  | some option =>
      have hname : option.1 ∈ slot.names := hfit slot h option hgiven
      rw [List.filter_cons_of_pos (by simpa using hname), hright]
      rfl

/-- Options that are given in any order are found under the names of their slots. -/
theorem last?_of_slot (hfit : Fit slots) (hapart : Apart slots)
    (hgiven : given.options.Perm (slots.filterMap Slot.given)) (h : slot ∈ slots) :
    given.last? slot.names = slot.given := by
  have hperm := (hgiven.filter fun option => slot.names.contains option.1)
  rw [filter_of_mem hfit hapart h] at hperm
  unfold Given.last?
  cases hslot : slot.given with
  | none =>
      rw [hslot] at hperm
      rw [List.perm_nil.1 hperm]
      rfl
  | some option =>
      rw [hslot] at hperm
      rw [List.perm_singleton.1 hperm]
      rfl

/-- Nothing is found under names that are in no slot. -/
theorem last?_of_stranger (hfit : Fit slots)
    (hgiven : given.options.Perm (slots.filterMap Slot.given))
    (h : ∀ slot ∈ slots, ∀ name ∈ names, name ∉ slot.names) : given.last? names = none := by
  have hperm := (hgiven.filter fun option => names.contains option.1)
  rw [filter_of_disjoint hfit h] at hperm
  unfold Given.last?
  rw [List.perm_nil.1 hperm]
  rfl

end Slot

end DetectorSearch.CommandLine
