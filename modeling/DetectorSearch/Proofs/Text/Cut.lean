import Mathlib.Data.List.Infix

/-!
# Texts cut at a mark

A text is cut at every occurrence of a mark, from the left, and what stands behind the
last occurrence can be asked for. A mark can arise where two texts meet, although
neither of them has it. It does not if the second text begins with a character that the
mark has at its start at most.

Results:
1. `Lacks.of_not_mem`, `Lacks.append`: texts without a mark.
2. `cutAt_of_lacks`, `cutAt_mark`: the pieces of a text, up to the first mark.
3. `behindLast?_mark`: what stands behind the last mark.
-/

namespace DetectorSearch.Text

/-- Cuts a text at every occurrence of a mark, from the left. `skip` counts the characters of an
occurrence that are still to be passed over. -/
def cutFrom (mark : List Char) : Nat → List Char → List (List Char)
  | _, [] => [[]]
  | skip + 1, _ :: rest => cutFrom mark skip rest
  | 0, c :: rest =>
      if mark.isPrefixOf (c :: rest) then [] :: cutFrom mark (mark.length - 1) rest
      else (cutFrom mark 0 rest).modifyHead (c :: ·)

/-- The pieces of a text that is cut at every occurrence of a mark. -/
def cutAt (mark s : List Char) : List (List Char) :=
  cutFrom mark 0 s

/-- What stands behind the last occurrence of a mark, nothing if there is none. -/
def behindLast? (mark : List Char) : List Char → Option (List Char)
  | [] => none
  | c :: rest =>
      match behindLast? mark rest with
      | some behind => some behind
      | none => if mark.isPrefixOf (c :: rest) then some ((c :: rest).drop mark.length) else none

/-- Whether a mark occurs nowhere in a text. -/
def Lacks (mark s : List Char) : Prop :=
  ¬ mark <:+: s

instance (mark s : List Char) : Decidable (Lacks mark s) :=
  inferInstanceAs (Decidable (¬ _))

variable {first c : Char} {mark others s front back : List Char}

/-! ## 1. Texts without a mark -/

/-- A text has no mark if it does not even have the first character of the mark. -/
theorem Lacks.of_not_mem (h : first ∉ s) : Lacks (first :: others) s :=
  fun hinside => h (hinside.subset List.mem_cons_self)

theorem lacks_cons : Lacks mark (c :: s) ↔ ¬ mark <+: c :: s ∧ Lacks mark s := by
  rw [Lacks, List.infix_cons_iff, not_or, Lacks]

/-- Characters in front of a text without a mark give it none if a mark does not begin there. -/
theorem Lacks.append_left (hfront : first ∉ front) (h : Lacks (first :: others) s) :
    Lacks (first :: others) (front ++ s) := by
  induction front with
  | nil => exact h
  | cons d front ih =>
      obtain ⟨hd, hrest⟩ := not_or.1 (mt List.mem_cons.2 hfront)
      exact lacks_cons.2 ⟨fun hstart => hd (List.cons_prefix_cons.1 hstart).1, ih hrest⟩

/-- What a text starts with ends in front of a character that it lacks. -/
theorem prefix_of_not_mem (hc : c ∉ s) (h : s <+: front ++ c :: back) : s <+: front := by
  induction front generalizing s with
  | nil =>
      cases s with
      | nil => exact List.nil_prefix
      | cons d s =>
          obtain ⟨rfl, -⟩ := List.cons_prefix_cons.1 h
          exact absurd List.mem_cons_self hc
  | cons d front ih =>
      cases s with
      | nil => exact List.nil_prefix
      | cons e s =>
          obtain ⟨rfl, hs⟩ := List.cons_prefix_cons.1 h
          exact List.cons_prefix_cons.2 ⟨rfl, ih (mt (List.mem_cons_of_mem e) hc) hs⟩

/-- A mark that starts in a text does not reach over its end if the next character is none of the
later ones of the mark. -/
theorem prefix_of_boundary {d : Char} (hc : c ∉ others)
    (h : first :: others <+: d :: (front ++ c :: back)) : first :: others <+: d :: front := by
  obtain ⟨rfl, hothers⟩ := List.cons_prefix_cons.1 h
  exact List.cons_prefix_cons.2 ⟨rfl, prefix_of_not_mem hc hothers⟩

/-- No mark arises where two texts meet if the second one begins with none of the later characters
of the mark. -/
theorem Lacks.append (hc : c ∉ others) (hfront : Lacks (first :: others) front)
    (hback : Lacks (first :: others) (c :: back)) :
    Lacks (first :: others) (front ++ c :: back) := by
  induction front with
  | nil => exact hback
  | cons d front ih =>
      obtain ⟨hstart, hrest⟩ := lacks_cons.1 hfront
      exact lacks_cons.2 ⟨mt (prefix_of_boundary hc) hstart, ih hrest⟩

/-! ## 2. Pieces -/

theorem cutFrom_length (mark passed s : List Char) :
    cutFrom mark passed.length (passed ++ s) = cutAt mark s := by
  induction passed with
  | nil => rfl
  | cons c passed ih => exact ih

theorem cutAt_cons_of_unmarked (h : ¬ mark <+: c :: s) :
    cutAt mark (c :: s) = (cutAt mark s).modifyHead (c :: ·) :=
  if_neg (mt List.isPrefixOf_iff_prefix.1 h)

/-- A text without a mark is one piece. -/
theorem cutAt_of_lacks (h : Lacks mark s) : cutAt mark s = [s] := by
  induction s with
  | nil => rfl
  | cons c s ih =>
      obtain ⟨hstart, hrest⟩ := lacks_cons.1 h
      rw [cutAt_cons_of_unmarked hstart, ih hrest, List.modifyHead_cons]

theorem cutAt_marked (s : List Char) :
    cutAt (first :: others) (first :: others ++ s) = [] :: cutAt (first :: others) s := by
  have hstart : (first :: others).isPrefixOf (first :: others ++ s) = true :=
    List.isPrefixOf_iff_prefix.2 (List.prefix_append _ _)
  rw [← cutFrom_length (first :: others) others s]
  exact if_pos hstart

/-- The first piece of a text ends where the first mark begins. -/
theorem cutAt_mark (hfirst : first ∉ others) (h : Lacks (first :: others) front)
    (back : List Char) : cutAt (first :: others) (front ++ (first :: others ++ back)) =
      front :: cutAt (first :: others) back := by
  induction front with
  | nil => exact cutAt_marked back
  | cons c front ih =>
      obtain ⟨hstart, hrest⟩ := lacks_cons.1 h
      have hnone : ¬ first :: others <+: c :: (front ++ (first :: others ++ back)) :=
        mt (prefix_of_boundary hfirst) hstart
      rw [List.cons_append, cutAt_cons_of_unmarked hnone, ih hrest, List.modifyHead_cons]

example : cutAt ['-', '>'] ['-', '-', '>', 'a', '-', '>', '-', '>'] = [['-'], ['a'], [], []] := by
  decide

/-! ## 3. Behind the last mark -/

theorem behindLast?_of_lacks (h : Lacks mark s) : behindLast? mark s = none := by
  induction s with
  | nil => rfl
  | cons c s ih =>
      obtain ⟨hstart, hrest⟩ := lacks_cons.1 h
      rw [behindLast?, ih hrest]
      exact if_neg (mt List.isPrefixOf_iff_prefix.1 hstart)

/-- A mark is the last one if its first character does not come again. -/
theorem behindLast?_mark (hothers : first ∉ others) (hback : first ∉ back) (front : List Char) :
    behindLast? (first :: others) (front ++ (first :: others ++ back)) = some back := by
  induction front with
  | nil =>
      have hlast : Lacks (first :: others) (others ++ back) :=
        .of_not_mem fun hmem => (List.mem_append.1 hmem).elim hothers hback
      have hstart : (first :: others).isPrefixOf (first :: (others ++ back)) = true :=
        List.isPrefixOf_iff_prefix.2 (List.prefix_append (first :: others) back)
      show behindLast? (first :: others) (first :: (others ++ back)) = some back
      rw [behindLast?, behindLast?_of_lacks hlast, if_pos hstart]
      exact congrArg some List.drop_left
  | cons c front ih => rw [List.cons_append, behindLast?, ih]

example : behindLast? ['-', '>'] ['a', '-', '>', '-', '>', '>'] = some ['>'] := by decide

end DetectorSearch.Text
