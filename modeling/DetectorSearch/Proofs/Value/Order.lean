import DetectorSearch.Value.Order
import Mathlib

/-!
# The order of values

Two values are equal, or one of them comes before the other, or they have no order.
Numbers, texts and lists of them have no order with each other, and lists are told
apart by their first unequal items. Where neither NaN nor an object is met, what is
equal stands at the same place, and what comes before is passed on.

Results:
1. `order?`, `order?_cons`: the three ways in which two values can stand.
2. `Scale.ranks`: values that are placed on a line.
3. `ranks_list`, `ranks`: lists, and all values.
4. `less_asymm`, `not_less_trans`: what follows for the order that sorts.
-/

namespace DetectorSearch

namespace Value

variable {a b c x y : Value} {xs ys zs : List Value}

mutual

/-- Whether neither NaN nor an object is in a value. -/
def isRankable : Value → Bool
  | real number => Place.ofFloat number != .nowhere
  | list items => areRankable items
  | octets _ | object _ => false
  | _ => true

/-- Whether neither NaN nor an object is in some values. -/
def areRankable : List Value → Bool
  | [] => true
  | item :: rest => item.isRankable && areRankable rest

end

theorem areRankable_iff {items : List Value} :
    areRankable items = true ↔ ∀ item ∈ items, item.isRankable = true := by
  induction items with
  | nil => simp [areRankable]
  | cons item rest ih => simp [areRankable, ih]

/-! ## 1. Three ways to stand -/

/-- How two values stand to each other, if at all. -/
def order? (a b : Value) : Option Ordering :=
  if a.equal b then some .eq
  else (a.relate? .less b).map fun less => if less then .lt else .gt

theorem order?_eq_eq : a.order? b = some .eq ↔ a.equal b = true := by
  unfold order?
  cases a.equal b with
  | true => simp
  | false => cases a.relate? .less b with
    | none => simp
    | some less => cases less <;> simp

theorem order?_cons (x y : Value) (xs ys : List Value) :
    (list (x :: xs)).order? (list (y :: ys)) =
      if x.order? y = some .eq then (list xs).order? (list ys) else x.order? y := by
  cases hequal : x.equal y with
  | true =>
      have hitems : (list (x :: xs)).equal (list (y :: ys)) = (list xs).equal (list ys) := by
        simp [equal, equalItems, hequal]
      have hless : (list (x :: xs)).relate? .less (list (y :: ys)) =
          (list xs).relate? .less (list ys) := by
        simp [relate?, relateItems?, hequal]
      rw [if_pos (order?_eq_eq.2 hequal), order?, order?, hitems, hless]
  | false =>
      rw [if_neg (by simp [order?_eq_eq, hequal])]
      simp [order?, equal, equalItems, relate?, relateItems?, hequal]

theorem order?_nil : (list []).order? (list []) = some .eq := by
  simp [order?, equal, equalItems]

theorem order?_nil_cons : (list []).order? (list (y :: ys)) = some .lt := by
  simp [order?, equal, equalItems, relate?, relateItems?, Relation.ofOrder]

theorem order?_cons_nil : (list (x :: xs)).order? (list []) = some .gt := by
  simp [order?, equal, equalItems, relate?, relateItems?, Relation.ofOrder]

/-- A list has no order with anything else. -/
theorem order?_list (b : Value) : (∃ ys, b = list ys) ∨
    ∀ xs, (list xs).order? b = none ∧ b.order? (list xs) = none := by
  cases b with
  | list ys => exact .inl ⟨ys, rfl⟩
  | _ => exact .inr fun xs => by simp [order?, equal, equalLeaf, place?, relate?, relateLeaf?]

/-- How a value stands to others is told by what it equals and by what comes before. -/
structure Ranks (a : Value) : Prop where
  swap : ∀ b, b.isRankable = true → b.order? a = (a.order? b).map Ordering.swap
  eq_left : ∀ b c, b.isRankable = true → c.isRankable = true →
    a.order? b = some .eq → b.order? c = a.order? c
  eq_right : ∀ b c, b.isRankable = true → c.isRankable = true →
    b.order? c = some .eq → a.order? b = a.order? c
  trans : ∀ b c, b.isRankable = true → c.isRankable = true →
    a.order? b = some .lt → b.order? c = some .lt → a.order? c = some .lt

/-! ## 2. Values on a line -/

/-- A line on which some of the values have a place; they have no order with the others. -/
structure Scale {κ : Type} [LinearOrder κ] (place : Value → Option κ) : Prop where
  inside : ∀ {a b : Value} {x y : κ}, place a = some x → place b = some y →
    a.order? b = some (cmp x y)
  outside : ∀ {a b : Value} {x : κ}, place a = some x → place b = none → b.isRankable = true →
    a.order? b = none ∧ b.order? a = none

theorem Scale.ranks {κ : Type} [LinearOrder κ] {place : Value → Option κ} (h : Scale place)
    {p : κ} (ha : place a = some p) : Ranks a where
  swap b hb := by
    cases hplace : place b with
    | none => simp [h.outside ha hplace hb]
    | some q => rw [h.inside hplace ha, h.inside ha hplace, Option.map_some, cmp_swap]
  eq_left b c hb hc hab := by
    cases hplace : place b with
    | none => simp [h.outside ha hplace hb] at hab
    | some q =>
        rw [h.inside ha hplace] at hab
        obtain rfl := (cmp_eq_eq_iff p q).1 (Option.some.inj hab)
        cases hc' : place c with
        | none => rw [(h.outside hplace hc' hc).1, (h.outside ha hc' hc).1]
        | some r => rw [h.inside hplace hc', h.inside ha hc']
  eq_right b c hb hc hbc := by
    cases hb' : place b with
    | none =>
        cases hc' : place c with
        | none => rw [(h.outside ha hb' hb).1, (h.outside ha hc' hc).1]
        | some r => simp [h.outside hc' hb' hb] at hbc
    | some q =>
        cases hc' : place c with
        | none => simp [h.outside hb' hc' hc] at hbc
        | some r =>
            rw [h.inside hb' hc'] at hbc
            obtain rfl := (cmp_eq_eq_iff q r).1 (Option.some.inj hbc)
            rw [h.inside ha hb', h.inside ha hc']
  trans b c hb hc hab hbc := by
    cases hb' : place b with
    | none => simp [h.outside ha hb' hb] at hab
    | some q =>
        cases hc' : place c with
        | none => simp [h.outside hb' hc' hc] at hbc
        | some r =>
            rw [h.inside ha hb'] at hab
            rw [h.inside hb' hc'] at hbc
            have hpq := (cmp_eq_lt_iff p q).1 (Option.some.inj hab)
            have hqr := (cmp_eq_lt_iff q r).1 (Option.some.inj hbc)
            rw [h.inside ha hc', (cmp_eq_lt_iff p r).2 (hpq.trans hqr)]

/-- A place on the line of numbers: the end that it is, or how far from the middle it lies. -/
def line? : Place → Option (List ℤ)
  | .nowhere => none
  | .bottom => some [-1]
  | .finite units => some [0, units]
  | .top => some [1]

/-- Where a number or a flag stands on the line of numbers. -/
def numberPlace (value : Value) : Option (List ℤ) :=
  value.place?.bind line?

/-- The texts stand in the order of their characters. -/
def textPlace : Value → Option (List ℕ)
  | text string => some (Text.codes string)
  | _ => none

/-- Null stands alone. -/
def nullPlace : Value → Option Unit
  | null => some ()
  | _ => none

theorem line?_spec {p q : Place} {x y : List ℤ} (hp : line? p = some x)
    (hq : line? q = some y) : (p.same q = true ↔ x = y) ∧ (p.lt q = true ↔ x < y) := by
  cases p <;> cases hp <;> cases q <;> cases hq <;>
    simp [Place.lt, Place.same, List.cons_lt_cons_iff]

theorem relate?_of_place? {p q : Place} (ha : a.place? = some p) (hb : b.place? = some q) :
    a.relate? .less b = some (p.lt q) := by
  cases a <;> cases b <;> simp_all [place?, relate?, relateLeaf?, Relation.ofPlaces]

theorem equal_of_place? {p q : Place} (ha : a.place? = some p) (hb : b.place? = some q) :
    a.equal b = p.same q := by
  cases a <;> cases b <;> simp_all [place?, equal, equalLeaf]

/-- What is no number has no order with a number. -/
theorem order?_of_place? {p : Place} (ha : a.place? = some p) (hb : b.place? = none) :
    a.order? b = none ∧ b.order? a = none := by
  cases a <;> cases b <;>
    simp_all [place?, order?, equal, equalLeaf, relate?, relateLeaf?]

theorem order?_of_cmp {κ : Type} [LinearOrder κ] {x y : κ} {less : Bool}
    (hequal : a.equal b = true ↔ x = y) (hrelate : a.relate? .less b = some less)
    (hless : less = true ↔ x < y) : a.order? b = some (cmp x y) := by
  rw [order?, hrelate]
  rcases lt_trichotomy x y with hlt | heq | hgt
  · rw [if_neg (mt hequal.1 hlt.ne), hless.2 hlt, (cmp_eq_lt_iff x y).2 hlt]
    rfl
  · rw [if_pos (hequal.2 heq), (cmp_eq_eq_iff x y).2 heq]
  · obtain rfl : less = false := Bool.eq_false_iff.2 (mt hless.1 hgt.not_gt)
    rw [if_neg (mt hequal.1 hgt.ne'), (cmp_eq_gt_iff x y).2 hgt]
    rfl

theorem scale_number : Scale numberPlace where
  inside {a b x y} ha hb := by
    obtain ⟨p, ha, hp⟩ := Option.bind_eq_some_iff.1 ha
    obtain ⟨q, hb, hq⟩ := Option.bind_eq_some_iff.1 hb
    obtain ⟨hequal, hless⟩ := line?_spec hp hq
    rw [← equal_of_place? ha hb] at hequal
    exact order?_of_cmp hequal (relate?_of_place? ha hb) hless
  outside {a b x} ha hb hrank := by
    obtain ⟨p, ha, -⟩ := Option.bind_eq_some_iff.1 ha
    refine order?_of_place? ha ?_
    cases b with
    | real number =>
        have hnumber : Place.ofFloat number ≠ .nowhere := by simpa [isRankable] using hrank
        cases hplace : Place.ofFloat number <;> simp_all [numberPlace, place?, line?]
    | bool | int => cases hb
    | _ => rfl

theorem codeOf_injective : Function.Injective Text.codeOf := by
  intro c d h
  -- the numbers of halves are those that no character has
  have hc : c.toNat < 0xD800 ∨ 0xDFFF < c.toNat ∧ c.toNat < 0x110000 := c.valid
  have hd : d.toNat < 0xD800 ∨ 0xDFFF < d.toNat ∧ d.toNat < 0x110000 := d.valid
  unfold Text.codeOf Text.isHalf at h
  simp only [Bool.and_eq_true, decide_eq_true_eq] at h
  refine Char.ext (UInt32.toNat_inj.1 ?_)
  change c.toNat = d.toNat
  split at h <;> split at h <;> omega

theorem codes_injective : Function.Injective Text.codes :=
  fun _ _ h => String.toList_inj.1 (codeOf_injective.list_map h)

theorem scale_text : Scale textPlace where
  inside {a b x y} ha hb := by
    cases a <;> cases ha
    cases b <;> cases hb
    exact order?_of_cmp (by simp [equal, equalLeaf, codes_injective.eq_iff]) rfl
      decide_eq_true_iff
  outside {a b x} ha hb _ := by
    cases a <;> cases ha
    cases b with
    | text string => cases hb
    | _ => simp [order?, equal, equalLeaf, place?, relate?, relateLeaf?]

theorem scale_null : Scale nullPlace where
  inside {a b x y} ha hb := by
    cases a <;> cases ha
    cases b <;> cases hb
    rfl
  outside {a b x} ha hb _ := by
    cases a <;> cases ha
    cases b with
    | null => cases hb
    | _ => simp [order?, equal, equalLeaf, place?, relate?, relateLeaf?]

/-! ## 3. Lists -/

namespace RankLemmas

section

variable (hitems : ∀ item ∈ xs, Ranks item)

include hitems

theorem swap_items (hys : areRankable ys = true) :
    (list ys).order? (list xs) = ((list xs).order? (list ys)).map Ordering.swap := by
  induction xs generalizing ys with
  | nil =>
      cases ys with
      | nil => rw [order?_nil, Option.map_some, Ordering.swap_eq]
      | cons y ys => rw [order?_nil_cons, order?_cons_nil, Option.map_some, Ordering.swap_lt]
  | cons x xs ih =>
      cases ys with
      | nil => rw [order?_nil_cons, order?_cons_nil, Option.map_some, Ordering.swap_gt]
      | cons y ys =>
          obtain ⟨hx, hxs⟩ := List.forall_mem_cons.1 hitems
          obtain ⟨hy, hys⟩ := Bool.and_eq_true_iff.1 hys
          rw [order?_cons, order?_cons, hx.swap y hy]
          cases horder : x.order? y with
          | none => rfl
          | some order =>
              cases order with
              | eq => simpa using ih hxs hys
              | _ => rfl

theorem eq_left_items (hys : areRankable ys = true) (hzs : areRankable zs = true)
    (h : (list xs).order? (list ys) = some .eq) :
    (list ys).order? (list zs) = (list xs).order? (list zs) := by
  induction xs generalizing ys zs with
  | nil =>
      cases ys with
      | nil => rfl
      | cons y ys => simp [order?_nil_cons] at h
  | cons x xs ih =>
      cases ys with
      | nil => simp [order?_cons_nil] at h
      | cons y ys =>
          obtain ⟨hx, hxs⟩ := List.forall_mem_cons.1 hitems
          obtain ⟨hy, hys⟩ := Bool.and_eq_true_iff.1 hys
          rw [order?_cons] at h
          split at h
          · rename_i heq
            cases zs with
            | nil => rw [order?_cons_nil, order?_cons_nil]
            | cons z zs =>
                obtain ⟨hz, hzs⟩ := Bool.and_eq_true_iff.1 hzs
                rw [order?_cons, order?_cons, hx.eq_left y z hy hz heq, ih hxs hys hzs h]
          · contradiction

theorem eq_right_items (hys : areRankable ys = true) (hzs : areRankable zs = true)
    (h : (list ys).order? (list zs) = some .eq) :
    (list xs).order? (list ys) = (list xs).order? (list zs) := by
  induction xs generalizing ys zs with
  | nil =>
      cases ys <;> cases zs <;>
        simp_all [order?_nil, order?_nil_cons, order?_cons_nil]
  | cons x xs ih =>
      obtain ⟨hx, hxs⟩ := List.forall_mem_cons.1 hitems
      cases ys with
      | nil =>
          cases zs with
          | nil => rfl
          | cons z zs => simp [order?_nil_cons] at h
      | cons y ys =>
          cases zs with
          | nil => simp [order?_cons_nil] at h
          | cons z zs =>
              obtain ⟨hy, hys⟩ := Bool.and_eq_true_iff.1 hys
              obtain ⟨hz, hzs⟩ := Bool.and_eq_true_iff.1 hzs
              rw [order?_cons] at h
              split at h
              · rename_i heq
                rw [order?_cons, order?_cons, hx.eq_right y z hy hz heq, ih hxs hys hzs h]
              · contradiction

theorem trans_items (hys : areRankable ys = true) (hzs : areRankable zs = true)
    (hxy : (list xs).order? (list ys) = some .lt) (hyz : (list ys).order? (list zs) = some .lt) :
    (list xs).order? (list zs) = some .lt := by
  induction xs generalizing ys zs with
  | nil =>
      cases zs with
      | nil => cases ys <;> simp [order?_nil, order?_cons_nil] at hyz
      | cons z zs => exact order?_nil_cons
  | cons x xs ih =>
      cases ys with
      | nil => simp [order?_cons_nil] at hxy
      | cons y ys =>
          cases zs with
          | nil => simp [order?_cons_nil] at hyz
          | cons z zs =>
              obtain ⟨hx, hxs⟩ := List.forall_mem_cons.1 hitems
              obtain ⟨hy, hys⟩ := Bool.and_eq_true_iff.1 hys
              obtain ⟨hz, hzs⟩ := Bool.and_eq_true_iff.1 hzs
              rw [order?_cons] at hxy hyz ⊢
              -- the first unequal items stand in the first pair, in the second, or in both
              split at hxy
              · rename_i heq
                rw [← hx.eq_left y z hy hz heq]
                split at hyz
                · rename_i hyz'
                  rw [if_pos hyz']
                  exact ih hxs hys hzs hxy hyz
                · rename_i hyz'
                  rw [if_neg hyz']
                  exact hyz
              · split at hyz
                · rename_i hyz'
                  rw [← hx.eq_right y z hy hz hyz', hxy, if_neg (by simp)]
                · rw [hx.trans y z hy hz hxy hyz, if_neg (by simp)]

end

theorem ranks_list (hitems : ∀ item ∈ xs, Ranks item) : Ranks (list xs) where
  swap b hb := by
    rcases order?_list b with ⟨ys, rfl⟩ | hnone
    · exact swap_items hitems hb
    · simp [hnone]
  eq_left b c hb hc hab := by
    rcases order?_list b with ⟨ys, rfl⟩ | hnone
    · rcases order?_list c with ⟨zs, rfl⟩ | hnone
      · exact eq_left_items hitems hb hc hab
      · simp [hnone]
    · simp [hnone] at hab
  eq_right b c hb hc hbc := by
    rcases order?_list b with ⟨ys, rfl⟩ | hnone
    · rcases order?_list c with ⟨zs, rfl⟩ | hnone
      · exact eq_right_items hitems hb hc hbc
      · simp [hnone] at hbc
    · rcases order?_list c with ⟨zs, rfl⟩ | hnone'
      · simp [hnone] at hbc
      · simp [hnone, hnone']
  trans b c hb hc hab hbc := by
    rcases order?_list b with ⟨ys, rfl⟩ | hnone
    · rcases order?_list c with ⟨zs, rfl⟩ | hnone
      · exact trans_items hitems hb hc hab hbc
      · simp [hnone] at hbc
    · simp [hnone] at hab

end RankLemmas

open RankLemmas

mutual

/-- Every value without NaN and objects ranks, by the kind that it is of. -/
theorem ranks : (a : Value) → a.isRankable = true → Ranks a
  | null, _ => scale_null.ranks rfl
  | bool _, _ => scale_number.ranks rfl
  | int _, _ => scale_number.ranks rfl
  | real number, h => by
      have hnumber : Place.ofFloat number ≠ .nowhere := by simpa [isRankable] using h
      cases hplace : Place.ofFloat number with
      | nowhere => exact absurd hplace hnumber
      | bottom | finite | top =>
          exact scale_number.ranks (by rw [numberPlace, place?, hplace]; rfl)
  | text _, _ => scale_text.ranks rfl
  | list items, h => ranks_list (ranks_items items h)

theorem ranks_items : (items : List Value) → areRankable items = true → ∀ item ∈ items, Ranks item
  | [], _ => List.forall_mem_nil _
  | item :: rest, h =>
      List.forall_mem_cons.2 ⟨ranks item (Bool.and_eq_true_iff.1 h).1,
        ranks_items rest (Bool.and_eq_true_iff.1 h).2⟩

end

/-! ## 4. The order that sorts -/

theorem relateItems?_of_equal (relation : Relation) (h : equalItems xs ys = true) :
    relateItems? relation xs ys = some (relation.ofOrder 0 0) := by
  induction xs generalizing ys with
  | nil =>
      cases ys with
      | nil => simp [relateItems?]
      | cons y ys => simp [equalItems] at h
  | cons x xs ih =>
      cases ys with
      | nil => simp [equalItems] at h
      | cons y ys =>
          simp only [equalItems, Bool.and_eq_true] at h
          rw [relateItems?, if_pos h.1, ih h.2]

theorem equal_not_less (h : a.equal b = true) : a.relate? .less b ≠ some true := by
  cases hp : a.place? with
  | some p =>
      cases hq : b.place? with
      | some q =>
          rw [equal_of_place? hp hq] at h
          obtain ⟨rfl, -⟩ : p = q ∧ p ≠ .nowhere := by simpa [Place.same] using h
          simp [relate?_of_place? hp hq, Place.lt_irrefl]
      | none =>
          have horder := order?_eq_eq.2 h
          simp [order?_of_place? hp hq] at horder
  | none =>
      cases a <;> cases b <;> simp_all [place?, equal, equalLeaf, relate?, relateLeaf?,
        Relation.ofOrder, relateItems?_of_equal]

theorem less_iff : a.relate? .less b = some true ↔ a.order? b = some .lt := by
  rw [order?]
  constructor
  · intro h
    rw [if_neg fun hequal => equal_not_less hequal h, h]
    rfl
  · intro h
    split at h
    · cases h
    · obtain ⟨less, hless, horder⟩ := Option.map_eq_some_iff.1 h
      cases less with
      | true => exact hless
      | false => cases horder

theorem less_asymm (ha : a.isRankable = true) (hb : b.isRankable = true)
    (h : a.relate? .less b = some true) : b.relate? .less a ≠ some true := by
  rw [Ne, less_iff, (ranks a ha).swap b hb, less_iff.1 h]
  simp

/-- What is not before and what it is not before: with a NaN in the middle this would fail. -/
theorem not_less_trans (ha : a.isRankable = true) (hb : b.isRankable = true)
    (hc : c.isRankable = true) (hdefined : (a.relate? .less b).isSome = true)
    (hab : a.relate? .less b ≠ some true) (hbc : b.relate? .less c ≠ some true) :
    a.relate? .less c ≠ some true := by
  intro hac
  rw [less_iff] at hac
  rw [Ne, less_iff] at hab hbc
  cases horder : a.order? b with
  | none =>
      unfold order? at horder
      split at horder
      · cases horder
      · rw [Option.map_eq_none_iff] at horder
        simp [horder] at hdefined
  | some order =>
      cases order with
      | lt => exact hab horder
      | eq => exact hbc (((ranks a ha).eq_left b c hb hc horder).trans hac)
      | gt =>
          have hba : b.order? a = some .lt := by
            rw [(ranks a ha).swap b hb, horder]
            rfl
          exact hbc ((ranks b hb).trans a c ha hc hba hac)

end Value

end DetectorSearch
