import DetectorSearch.Enrichment.Flight
import DetectorSearch.Proofs.Clock
import Mathlib.Data.List.Sort

/-!
# The order in which lookups end

Lookups that are made together end by their instants. At one instant those that
do not wait end before those that wait one turn, and these before those with a
timer; nothing but the page separates the others.

Results:
1. `head_inOrder`: the first lookup in this order, told by where it stands on
   the page; `EndsFirst.unique`: there is only one such lookup.
2. `getLast_inOrder`: the last lookup in this order is not before any other.
3. `Front`: the lookups that end at one instant are the front of the order of
   all that end before a limit. `Front.filter` finds such a front, `Front.trans`
   puts two of one instant together.
-/

namespace DetectorSearch

/-! ## 1. When a lookup ends -/

/-- The turn in which a lookup ends at its instant. -/
def Due.turn : Due → Nat
  | firstTurn => 0
  | nextTurn => 1
  | atInstant _ => 2

namespace Lookup

/-- The instant at which a lookup ends that was made at the start. One without a timer ends at the
start itself. -/
def dueAt (start : Instant) (lookup : Lookup) : Instant :=
  lookup.due.instant?.getD start

/-- Whether a lookup ends strictly before a limit. -/
def isEarly (start limit : Instant) (lookup : Lookup) : Bool :=
  (lookup.dueAt start).before limit

/-- Whether a lookup ends in a failure, raised or reported. -/
def fails (lookup : Lookup) : Bool :=
  lookup.failure?.isSome

/-- Whether a lookup ends before another one wherever the two stand on the page. -/
def precedes (start : Instant) (a b : Lookup) : Bool :=
  (a.dueAt start).before (b.dueAt start) ||
    (a.dueAt start).same (b.dueAt start) && decide (a.due.turn < b.due.turn)

/-- Whether a lookup ends before another one that stands after it on the page. -/
def NotAfter (start : Instant) (a b : Lookup) : Prop :=
  b.precedes start a = false

instance (start : Instant) : DecidableRel (NotAfter start) :=
  fun a b => inferInstanceAs (Decidable (b.precedes start a = false))

end Lookup

/-- Lookups in the order in which they end: page order where nothing else separates two of them. -/
def inOrder (start : Instant) (lookups : List Lookup) : List Lookup :=
  lookups.insertionSort (Lookup.NotAfter start)

/-- The lookup that ends first among some: it precedes all before it on the page, and none after it
precedes it. -/
def EndsFirst (start : Instant) (lookups : List Lookup) (first : Lookup) : Prop :=
  ∃ earlier later, lookups = earlier ++ first :: later ∧
    (∀ other ∈ earlier, first.precedes start other = true) ∧
    ∀ other ∈ later, other.precedes start first = false

variable {start limit now : Instant} {a b c first : Lookup} {lookups ended waiting : List Lookup}

namespace OrderLemmas

theorem precedes_iff : a.precedes start b = true ↔
    (a.dueAt start).before (b.dueAt start) = true ∨
      (a.dueAt start).same (b.dueAt start) = true ∧ a.due.turn < b.due.turn := by
  simp [Lookup.precedes]

theorem not_precedes_of_precedes (h : a.precedes start b = true) :
    b.precedes start a = false := by
  rw [← Bool.not_eq_true, precedes_iff]
  rcases precedes_iff.1 h with hlt | ⟨hsame, hturn⟩
  · rintro (h' | ⟨h', -⟩)
    · exact Bool.false_ne_true ((Instant.not_before_of_before hlt).symm.trans h')
    · rw [Instant.before_congr_right h', Instant.before_self] at hlt
      exact Bool.false_ne_true hlt
  · rintro (h' | ⟨-, h'⟩)
    · rw [Instant.before_congr_right hsame, Instant.before_self] at h'
      exact Bool.false_ne_true h'
    · exact Nat.lt_asymm hturn h'

theorem not_precedes_trans (hb : (b.dueAt start).IsNumber) (hab : a.precedes start b = false)
    (hbc : b.precedes start c = false) : a.precedes start c = false := by
  rw [← Bool.not_eq_true, precedes_iff] at *
  rintro hac
  have ha : (a.dueAt start).IsNumber := by
    rcases hac with h | ⟨h, -⟩
    · exact Instant.isNumber_left h
    · exact (Instant.same_iff.1 h).2
  -- without the number in the middle this fails: no number is before nothing and after nothing
  rcases Instant.before_or_same_or_before ha hb with h | hsame | h
  · exact hab (.inl h)
  · rcases hac with h | ⟨h, hturn⟩
    · exact hbc (.inl (Instant.before_congr_left hsame _ ▸ h))
    · have hle : ¬ a.due.turn < b.due.turn := fun hlt => hab (.inr ⟨hsame, hlt⟩)
      exact hbc (.inr ⟨Instant.same_trans (Instant.same_symm hsame) h, by omega⟩)
  · rcases hac with h' | ⟨h', -⟩
    · exact hbc (.inl (Instant.before_trans h h'))
    · exact hbc (.inl (Instant.before_congr_right h' _ ▸ h))

theorem not_before_of_not_precedes (h : a.precedes start b = false) :
    (a.dueAt start).before (b.dueAt start) = false := by
  rw [← Bool.not_eq_true] at h ⊢
  exact fun hlt => h (precedes_iff.2 (.inl hlt))

theorem inOrder_cons (a : Lookup) (lookups : List Lookup) :
    inOrder start (a :: lookups) =
      (inOrder start lookups).orderedInsert (Lookup.NotAfter start) a :=
  rfl

theorem mem_inOrder : a ∈ inOrder start lookups ↔ a ∈ lookups :=
  List.mem_insertionSort _

/-- An item that nothing precedes is put at the head. -/
theorem orderedInsert_of_first (h : ∀ b ∈ lookups, b.precedes start a = false) :
    lookups.orderedInsert (Lookup.NotAfter start) a = a :: lookups := by
  cases lookups with
  | nil => rfl
  | cons b rest => exact List.orderedInsert_cons_of_le _ rest (h b (by simp))

/-- An item is put behind all that precede it. -/
theorem orderedInsert_append (h : ∀ b ∈ ended, b.precedes start a = true) :
    (ended ++ lookups).orderedInsert (Lookup.NotAfter start) a =
      ended ++ lookups.orderedInsert (Lookup.NotAfter start) a := by
  induction ended with
  | nil => rfl
  | cons b rest ih =>
      have hb : ¬ Lookup.NotAfter start a b := by simp [Lookup.NotAfter, h b (by simp)]
      rw [List.cons_append, List.orderedInsert_of_not_le _ _ hb,
        ih fun c hc => h c (by simp [hc]), List.cons_append]

/-- What is put into an order leaves it one. -/
theorem orderedInsert_pairwise (hnumber : ∀ b ∈ lookups, (b.dueAt start).IsNumber)
    (h : lookups.Pairwise (Lookup.NotAfter start)) :
    (lookups.orderedInsert (Lookup.NotAfter start) a).Pairwise (Lookup.NotAfter start) := by
  induction lookups with
  | nil => exact List.pairwise_singleton _ a
  | cons b rest ih =>
      obtain ⟨hb, hrest⟩ := List.pairwise_cons.1 h
      cases hba : b.precedes start a with
      | false =>
          rw [List.orderedInsert_cons_of_le (Lookup.NotAfter start) rest hba]
          refine List.pairwise_cons.2 ⟨fun c hc => ?_, h⟩
          rcases List.mem_cons.1 hc with rfl | hc
          · exact hba
          · exact not_precedes_trans (hnumber b (by simp)) (hb c hc) hba
      | true =>
          rw [List.orderedInsert_of_not_le _ _ (by simp [Lookup.NotAfter, hba])]
          refine List.pairwise_cons.2 ⟨fun c hc => ?_, ih (fun c hc => hnumber c (by simp [hc])) hrest⟩
          rcases List.mem_cons.1 ((List.perm_orderedInsert _ a rest).mem_iff.1 hc) with rfl | hc
          · exact not_precedes_of_precedes hba
          · exact hb c hc

end OrderLemmas

open OrderLemmas

namespace Lookup

/-- A service that can wait as long as it wants to comes to its answer. -/
theorem start_eq (now : Instant) (detector : String) {answer : Answer}
    (h : ∀ span ∈ answer.wait, span.toFloat?.isSome = true) :
    Lookup.start now detector answer =
      ⟨detector, Due.ofWait now answer.wait, true, answer.ending⟩ := by
  have hobstacle : answer.obstacle? = none := by
    unfold Answer.obstacle?
    cases hwait : answer.wait with
    | none => rfl
    | some span =>
        have hspan : span.toFloat?.isNone = false := by simpa using h span hwait
        simp [hspan]
  rw [Lookup.start, hobstacle]

/-- A lookup ends when it was made, or after a span that is not nothing or less. -/
theorem dueAt_start (now : Instant) (detector : String) (answer : Answer) :
    (Lookup.start now detector answer).dueAt now = now ∨
      ∃ span, span.isNothing = false ∧
        (Lookup.start now detector answer).dueAt now = now.after span := by
  unfold Lookup.start
  cases answer.obstacle? with
  | some failure => exact .inl rfl
  | none =>
      cases answer.wait with
      | none => exact .inl rfl
      | some span =>
          cases hspan : span.isNothing with
          | true => exact .inl (by simp [dueAt, Due.ofWait, Due.instant?, hspan])
          | false =>
              exact .inr ⟨span, hspan, by simp [dueAt, Due.ofWait, Due.instant?, hspan]⟩

/-- No lookup ends before it was made. -/
theorem dueAt_start_not_before (now : Instant) (detector : String) (answer : Answer) :
    ((Lookup.start now detector answer).dueAt now).before now = false := by
  rcases dueAt_start now detector answer with h | ⟨span, hspan, h⟩
  · rw [h, Instant.before_self]
  · rw [h, Instant.not_after_before now hspan]

/-- A lookup that ends at a number was made at one. -/
theorem isNumber_of_dueAt_start {now : Instant} {detector : String} {answer : Answer}
    (h : ((Lookup.start now detector answer).dueAt now).IsNumber) : now.IsNumber := by
  rcases dueAt_start now detector answer with hdue | ⟨span, -, hdue⟩
  · rwa [hdue] at h
  · rw [hdue] at h
    exact Instant.isNumber_of_after h

end Lookup

theorem inOrder_perm (start : Instant) (lookups : List Lookup) :
    (inOrder start lookups).Perm lookups :=
  List.perm_insertionSort _ lookups

theorem inOrder_pairwise (hnumber : ∀ lookup ∈ lookups, (lookup.dueAt start).IsNumber) :
    (inOrder start lookups).Pairwise (Lookup.NotAfter start) := by
  induction lookups with
  | nil => exact List.Pairwise.nil
  | cons a rest ih =>
      rw [inOrder_cons]
      refine orderedInsert_pairwise (fun b hb => ?_) (ih fun b hb => hnumber b (by simp [hb]))
      exact hnumber b (List.mem_cons_of_mem a (mem_inOrder.1 hb))

/-- The last lookup in the order is not due before any other. -/
theorem getLast_inOrder {last : Lookup}
    (hnumber : ∀ lookup ∈ lookups, (lookup.dueAt start).IsNumber)
    (h : (inOrder start lookups).getLast? = some last) :
    ∀ lookup ∈ lookups, (last.dueAt start).before (lookup.dueAt start) = false := by
  obtain ⟨earlier, horder⟩ := List.getLast?_eq_some_iff.1 h
  have hpairwise := inOrder_pairwise hnumber
  rw [horder] at hpairwise
  intro lookup hlookup
  have hmem : lookup ∈ inOrder start lookups := mem_inOrder.2 hlookup
  rw [horder, List.mem_append, List.mem_singleton] at hmem
  rcases hmem with hmem | rfl
  · exact not_before_of_not_precedes
      ((List.pairwise_append.1 hpairwise).2.2 lookup hmem last (List.mem_singleton_self last))
  · exact Instant.before_self _

namespace EndsFirst

/-- Only one lookup ends first. -/
theorem unique {other : Lookup} (h : EndsFirst start lookups first)
    (h' : EndsFirst start lookups other) : first = other := by
  obtain ⟨earlier, later, heq, hearlier, hlater⟩ := h
  obtain ⟨earlier', later', heq', hearlier', hlater'⟩ := h'
  rcases List.append_eq_append_iff.1 (heq.symm.trans heq') with ⟨middle, hmiddle, htail⟩ |
    ⟨middle, hmiddle, htail⟩
  · cases middle with
    | nil => exact (List.cons.inj htail).1
    | cons head middle =>
        obtain ⟨rfl, rfl⟩ := List.cons.inj htail
        have hprecedes := hearlier' first (by simp [hmiddle])
        simp [hlater other (by simp)] at hprecedes
  · cases middle with
    | nil => exact (List.cons.inj htail).1.symm
    | cons head middle =>
        obtain ⟨rfl, rfl⟩ := List.cons.inj htail
        have hprecedes := hearlier other (by simp [hmiddle])
        simp [hlater' first (by simp)] at hprecedes

/-- A lookup that ends first does so among some of the lookups as well. -/
theorem filter (p : Lookup → Bool) (h : EndsFirst start lookups first) (hfirst : p first = true) :
    EndsFirst start (lookups.filter p) first := by
  obtain ⟨earlier, later, rfl, hearlier, hlater⟩ := h
  refine ⟨earlier.filter p, later.filter p, ?_, fun other hother => ?_, fun other hother => ?_⟩
  · rw [List.filter_append, List.filter_cons_of_pos hfirst]
  · exact hearlier other (List.mem_filter.1 hother).1
  · exact hlater other (List.mem_filter.1 hother).1

/-- No lookup is due before the one that ends first. -/
theorem not_before {other : Lookup} (h : EndsFirst start lookups first) (hother : other ∈ lookups) :
    (other.dueAt start).before (first.dueAt start) = false := by
  obtain ⟨earlier, later, rfl, hearlier, hlater⟩ := h
  rcases List.mem_append.1 hother with hmem | hmem
  · exact not_before_of_not_precedes (not_precedes_of_precedes (hearlier other hmem))
  · rcases List.mem_cons.1 hmem with rfl | hmem
    · exact Instant.before_self _
    · exact not_before_of_not_precedes (hlater other hmem)

theorem mem (h : EndsFirst start lookups first) : first ∈ lookups := by
  obtain ⟨earlier, later, rfl, -⟩ := h
  simp

end EndsFirst

/-- The head of the order is the lookup that ends first. -/
theorem head_inOrder (hnumber : ∀ lookup ∈ lookups, (lookup.dueAt start).IsNumber)
    (h : (inOrder start lookups).head? = some first) : EndsFirst start lookups first := by
  induction lookups generalizing first with
  | nil => simp [inOrder] at h
  | cons a rest ih =>
      rw [inOrder_cons] at h
      cases hrest : inOrder start rest with
      | nil =>
          rw [hrest] at h
          obtain rfl : a = first := by simpa using h
          have hnone : rest = [] := by simpa [hrest] using (inOrder_perm start rest).symm
          exact ⟨[], [], by simp [hnone], by simp, by simp⟩
      | cons b tail =>
          obtain ⟨earlier, later, rfl, hearlier, hlater⟩ :=
            ih (fun c hc => hnumber c (by simp [hc])) (by rw [hrest]; rfl)
          have hb : (b.dueAt start).IsNumber := hnumber b (by simp)
          rw [hrest] at h
          -- the head of the rest stays ahead exactly if it precedes the lookup that is put in
          by_cases hba : b.precedes start a = true
          · rw [List.orderedInsert_of_not_le _ _ (by simp [Lookup.NotAfter, hba])] at h
            obtain rfl : b = first := by simpa using h
            refine ⟨a :: earlier, later, rfl, ?_, hlater⟩
            intro other hother
            rcases List.mem_cons.1 hother with rfl | hother
            · exact hba
            · exact hearlier other hother
          · rw [Bool.not_eq_true] at hba
            rw [List.orderedInsert_cons_of_le (Lookup.NotAfter start) tail hba] at h
            obtain rfl : a = first := by simpa using h
            refine ⟨[], _, rfl, by simp, ?_⟩
            intro other hother
            rcases List.mem_append.1 hother with hother | hother
            · exact not_precedes_trans hb (not_precedes_of_precedes (hearlier other hother)) hba
            · rcases List.mem_cons.1 hother with rfl | hother
              · exact hba
              · exact not_precedes_trans hb (hlater other hother) hba

/-- Lookups that precede all others, and none of which precedes another one of them, are the front
of the order, as they stand on the page. -/
theorem inOrder_split (p : Lookup → Bool)
    (hhere : ∀ a ∈ lookups, ∀ b ∈ lookups, p a = true → p b = true → a.precedes start b = false)
    (hahead : ∀ a ∈ lookups, ∀ b ∈ lookups, p a = true → p b = false → a.precedes start b = true) :
    inOrder start lookups =
      lookups.filter p ++ inOrder start (lookups.filter fun lookup => !p lookup) := by
  induction lookups with
  | nil => rfl
  | cons a rest ih =>
      specialize ih (fun b hb c hc => hhere b (by simp [hb]) c (by simp [hc]))
        (fun b hb c hc => hahead b (by simp [hb]) c (by simp [hc]))
      rw [inOrder_cons, ih]
      cases hp : p a with
      | true =>
          -- nothing precedes it: not its equals behind it on the page, and none of the others
          rw [orderedInsert_of_first, List.filter_cons_of_pos hp,
            List.filter_cons_of_neg (by simp [hp]), List.cons_append]
          intro b hb
          rcases List.mem_append.1 hb with hb | hb
          · obtain ⟨hb, hpb⟩ := List.mem_filter.1 hb
            exact hhere b (by simp [hb]) a (by simp) hpb hp
          · obtain ⟨hb, hpb⟩ := List.mem_filter.1 (mem_inOrder.1 hb)
            exact not_precedes_of_precedes
              (hahead a (by simp) b (by simp [hb]) hp (by simpa using hpb))
      | false =>
          rw [orderedInsert_append, List.filter_cons_of_neg (by simp [hp]),
            List.filter_cons_of_pos (by simp [hp]), inOrder_cons]
          intro b hb
          obtain ⟨hb, hpb⟩ := List.mem_filter.1 hb
          exact hahead b (by simp [hb]) a (by simp) hpb hp

/-! ## 2. The lookups of one instant -/

/-- Some lookups end at an instant while the others go on waiting, and they are the front of the
order of every selection of lookups that end before the limit. -/
structure Front (start limit now : Instant) (lookups ended waiting : List Lookup) : Prop where
  here : ∀ lookup ∈ ended, (lookup.dueAt start).same now = true
  late : (lookups.filter fun lookup => !lookup.isEarly start limit) =
    waiting.filter fun lookup => !lookup.isEarly start limit
  order : ∀ select : Lookup → Bool,
    (∀ lookup, select lookup = true → lookup.isEarly start limit = true) →
      inOrder start (lookups.filter select) =
        ended.filter select ++ inOrder start (waiting.filter select)

namespace Front

/-- Lookups of one instant and one turn are a front if the others that are early come later. -/
theorem filter (p : Lookup → Bool) (turn : Nat) (hnow : now.before limit = true)
    (hhere : ∀ lookup ∈ lookups, p lookup = true →
      (lookup.dueAt start).same now = true ∧ lookup.due.turn = turn)
    (hahead : ∀ lookup ∈ lookups, p lookup = false → lookup.isEarly start limit = true →
      now.before (lookup.dueAt start) = true ∨
        now.same (lookup.dueAt start) = true ∧ turn < lookup.due.turn) :
    Front start limit now lookups (lookups.filter p)
      (lookups.filter fun lookup => !p lookup) where
  here lookup hlookup :=
    (hhere lookup (List.mem_filter.1 hlookup).1 (List.mem_filter.1 hlookup).2).1
  late := by
    rw [List.filter_filter]
    refine List.filter_congr fun lookup hlookup => ?_
    cases hp : p lookup with
    | false => simp
    | true =>
        have hsame := (hhere lookup hlookup hp).1
        simp [Lookup.isEarly, Instant.before_congr_left hsame, hnow]
  order select hselect := by
    rw [inOrder_split p, List.filter_filter, List.filter_filter, List.filter_filter,
      List.filter_filter]
    · simp only [Bool.and_comm]
    · intro a ha b hb hpa hpb
      obtain ⟨hsa, hta⟩ := hhere a (List.mem_filter.1 ha).1 hpa
      obtain ⟨hsb, htb⟩ := hhere b (List.mem_filter.1 hb).1 hpb
      rw [← Bool.not_eq_true, precedes_iff, Instant.before_congr_left hsa,
        ← Instant.before_congr_left hsb]
      simp [hta, htb]
    · intro a ha b hb hpa hpb
      obtain ⟨hsa, hta⟩ := hhere a (List.mem_filter.1 ha).1 hpa
      obtain ⟨hb, hqb⟩ := List.mem_filter.1 hb
      rw [precedes_iff, Instant.before_congr_left hsa, hta]
      rcases hahead b hb hpb (hselect b hqb) with h | ⟨h, hturn⟩
      · exact .inl h
      · exact .inr ⟨Instant.same_trans hsa h, hturn⟩

/-- A front and the next one of the same instant are a front together. -/
theorem trans {ended' waiting' : List Lookup} (h : Front start limit now lookups ended waiting)
    (h' : Front start limit now waiting ended' waiting') :
    Front start limit now lookups (ended ++ ended') waiting' where
  here lookup hlookup := by
    rcases List.mem_append.1 hlookup with hl | hl
    · exact h.here lookup hl
    · exact h'.here lookup hl
  late := h.late.trans h'.late
  order select hselect := by
    rw [h.order select hselect, h'.order select hselect, List.filter_append, List.append_assoc]

end Front

end DetectorSearch
