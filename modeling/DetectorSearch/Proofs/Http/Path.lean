import DetectorSearch.Http.Address
import DetectorSearch.Proofs.Text.Percent
import Mathlib.Tactic.SplitIfs

/-!
# Paths

A path is a row of segments with slashes between them, and two segments are steps.
A path with a step is resolved to one without any, which stands for fewer
characters. Coding works on each segment by itself: it makes no step and undoes
none.

Results:
1. `segment_induction`: a path segment by segment.
2. `hasStep_slash`, `hasStep_percentEncode`: steps.
3. `hasStep_resolve`, `length_resolve`: what a path is resolved to.
4. `isPathSafe_percentEncode`, `leavesCodes_isPathSafe`: characters of a path.
-/

namespace DetectorSearch.Http.Address

open Text

variable {path segment front rest : List Char} {segments done : List (List Char)}

/-! ## 1. Segments -/

/-- A path is one segment, or a segment with a slash and a path behind it. -/
@[elab_as_elim]
theorem segment_induction {motive : List Char → Prop} (path : List Char)
    (last : ∀ segment, '/' ∉ segment → motive segment)
    (more : ∀ segment rest, '/' ∉ segment → motive rest → motive (segment ++ '/' :: rest)) :
    motive path := by
  have hsuffix (front rest : List Char) (hfront : '/' ∉ front) : motive (front ++ rest) := by
    induction rest generalizing front with
    | nil => exact (List.append_nil front).symm ▸ last front hfront
    | cons c rest ih =>
        by_cases hslash : c = '/'
        · subst hslash
          exact more front rest hfront (ih [] nofun)
        · have hlonger := ih (front ++ [c]) (by simp [hfront, Ne.symm hslash])
          rwa [List.append_assoc] at hlonger
  exact hsuffix [] path nofun

theorem splitOn_segment (h : '/' ∉ segment) : segment.splitOn '/' = [segment] := by
  refine List.splitOnP_eq_singleton fun c hc => ?_
  exact beq_false_of_ne fun hslash => h (hslash ▸ hc)

theorem not_mem_of_mem_splitOn (h : segment ∈ path.splitOn '/') : '/' ∉ segment := by
  induction path using segment_induction with
  | last other hother =>
      rw [splitOn_segment hother, List.mem_singleton] at h
      rwa [h]
  | more other rest hother ih =>
      rw [List.splitOn_append_cons_self_of_not_mem hother] at h
      rcases List.mem_cons.1 h with rfl | hrest
      · exact hother
      · exact ih hrest

/-! ## 2. Steps -/

/-- Whether a segment is a step. -/
def isStep (segment : List Char) : Bool :=
  segment == ['.'] || segment == ['.', '.']

/-- Whether a path has a step. -/
def hasStep (path : List Char) : Bool :=
  (path.splitOn '/').any isStep

/-- Steps stand in front of a slash, or behind it. -/
theorem hasStep_slash (front rest : List Char) :
    hasStep (front ++ '/' :: rest) = (hasStep front || hasStep rest) := by
  unfold hasStep
  rw [List.splitOn_append_cons_self, List.any_append]

theorem hasStep_segment (h : '/' ∉ segment) : hasStep segment = isStep segment := by
  rw [hasStep, splitOn_segment h, List.any_cons, List.any_nil, Bool.or_false]

theorem resolve_eq (path : List Char) : resolve path =
    if hasStep path then List.intercalate ['/'] ((path.splitOn '/').foldl step []).reverse
    else path := by
  have hsteps : ((path.splitOn '/').contains ['.'] || (path.splitOn '/').contains ['.', '.']) =
      hasStep path := by
    rw [Bool.eq_iff_iff]
    simp only [Bool.or_eq_true, List.contains_iff_mem, hasStep, List.any_eq_true, isStep,
      beq_iff_eq]
    constructor
    · rintro (hhere | hup)
      · exact ⟨_, hhere, .inl rfl⟩
      · exact ⟨_, hup, .inr rfl⟩
    · rintro ⟨segment, hsegment, rfl | rfl⟩
      · exact .inl hsegment
      · exact .inr hsegment
  unfold resolve
  dsimp only
  rw [hsteps]

/-- A path without steps is resolved already. -/
theorem resolve_of_not_hasStep (h : hasStep path = false) : resolve path = path := by
  rw [resolve_eq, h, if_neg Bool.false_ne_true]

/-! ## 3. What a path is resolved to -/

theorem mem_step (h : segment ∈ step done front) :
    segment ∈ done ∨ segment = front ∧ isStep segment = false := by
  unfold step at h
  split_ifs at h with hhere hup hroot
  · exact .inl h
  · exact .inl h
  · exact .inl (List.mem_of_mem_drop h)
  · rcases List.mem_cons.1 h with rfl | hdone
    · refine .inr ⟨rfl, ?_⟩
      rw [isStep, beq_false_of_ne hhere, beq_false_of_ne hup, Bool.or_false]
    · exact .inl hdone

/-- What is left of segments are segments that are no steps. -/
theorem mem_foldl_step (h : segment ∈ segments.foldl step done) :
    segment ∈ done ∨ segment ∈ segments ∧ isStep segment = false := by
  induction segments generalizing done with
  | nil => exact .inl h
  | cons front segments ih =>
      rcases ih h with hdone | ⟨hsegments, hstep⟩
      · rcases mem_step hdone with hdone | ⟨rfl, hstep⟩
        · exact .inl hdone
        · exact .inr ⟨List.mem_cons_self, hstep⟩
      · exact .inr ⟨List.mem_cons_of_mem front hsegments, hstep⟩

/-- The segments of a path that is resolved. -/
def settled (path : List Char) : List (List Char) :=
  ((path.splitOn '/').foldl step []).reverse

theorem mem_settled (h : segment ∈ settled path) :
    segment ∈ path.splitOn '/' ∧ isStep segment = false := by
  rcases mem_foldl_step (List.mem_reverse.1 h) with hnone | hsegment
  · cases hnone
  · exact hsegment

/-- A path that is resolved has no steps. -/
theorem hasStep_resolve (path : List Char) : hasStep (resolve path) = false := by
  rw [resolve_eq]
  split
  · show hasStep (List.intercalate ['/'] (settled path)) = false
    by_cases hnil : settled path = []
    · rw [hnil]
      rfl
    · have hslash : ∀ segment ∈ settled path, '/' ∉ segment :=
        fun segment hsegment => not_mem_of_mem_splitOn (mem_settled hsegment).1
      rw [hasStep, List.splitOn_intercalate '/' hslash hnil, List.any_eq_false]
      exact fun segment hsegment => by simp [(mem_settled hsegment).2]
  · rename_i hstep
    exact Bool.eq_false_iff.2 hstep

/-- How many characters segments stand for, with a slash behind each. -/
def weight : List (List Char) → Nat
  | [] => 0
  | segment :: segments => (percentDecode segment).length + 1 + weight segments

theorem weight_cons (segment : List Char) (segments : List (List Char)) :
    weight (segment :: segments) = (percentDecode segment).length + 1 + weight segments :=
  rfl

theorem weight_append (segments behind : List (List Char)) :
    weight (segments ++ behind) = weight segments + weight behind := by
  induction segments with
  | nil => exact (Nat.zero_add _).symm
  | cons segment segments ih =>
      rw [List.cons_append, weight_cons, weight_cons, ih]
      exact (Nat.add_assoc _ _ _).symm

theorem weight_reverse (segments : List (List Char)) : weight segments.reverse = weight segments := by
  induction segments with
  | nil => rfl
  | cons segment segments ih =>
      rw [List.reverse_cons, weight_append, ih, weight_cons]
      exact Nat.add_comm _ _

theorem weight_drop_le (count : Nat) (segments : List (List Char)) :
    weight (segments.drop count) ≤ weight segments := by
  induction segments generalizing count with
  | nil => exact Nat.le_of_eq (congrArg weight List.drop_nil)
  | cons segment segments ih =>
      cases count with
      | zero => exact Nat.le_refl _
      | succ count =>
          rw [List.drop_succ_cons, weight_cons]
          exact Nat.le_trans (ih count) (Nat.le_add_left _ _)

theorem weight_splitOn (path : List Char) :
    weight (path.splitOn '/') = (percentDecode path).length + 1 := by
  induction path using segment_induction with
  | last segment hsegment => rw [splitOn_segment hsegment, weight_cons]; rfl
  | more segment rest hsegment ih =>
      rw [List.splitOn_append_cons_self_of_not_mem hsegment, weight_cons, ih, percentDecode_slash,
        List.length_append, List.length_cons]
      omega

theorem length_intercalate_le (segments : List (List Char)) :
    (percentDecode (List.intercalate ['/'] segments)).length ≤ weight segments := by
  induction segments with
  | nil => exact Nat.le_refl 0
  | cons segment segments ih =>
      cases segments with
      | nil =>
          rw [List.intercalate_singleton, weight_cons]
          omega
      | cons other segments =>
          rw [List.intercalate_cons_cons, List.append_assoc, List.singleton_append,
            percentDecode_slash, List.length_append, List.length_cons, weight_cons]
          omega

/-- A step takes away what it stands for itself, and a segment in front of it at most. -/
theorem weight_step (done : List (List Char)) (segment : List Char) :
    weight (step done segment) ≤ weight done + ((percentDecode segment).length + 1) ∧
      (isStep segment = true →
        weight (step done segment) + 2 ≤ weight done + ((percentDecode segment).length + 1)) := by
  have hdrop := weight_drop_le 1 done
  unfold step
  split_ifs with hhere hup hroot
  · have hlength : (percentDecode segment).length = 1 := by rw [hhere]; decide
    omega
  · have hlength : (percentDecode segment).length = 2 := by rw [hup]; decide
    omega
  · have hlength : (percentDecode segment).length = 2 := by rw [hup]; decide
    omega
  · have hnot : isStep segment = false := by
      rw [isStep, beq_false_of_ne hhere, beq_false_of_ne hup, Bool.or_false]
    rw [hnot, weight_cons]
    exact ⟨by omega, nofun⟩

theorem weight_foldl_step (segments done : List (List Char)) :
    weight (segments.foldl step done) ≤ weight done + weight segments ∧
      (segments.any isStep = true →
        weight (segments.foldl step done) + 2 ≤ weight done + weight segments) := by
  induction segments generalizing done with
  | nil => exact ⟨Nat.le_refl _, nofun⟩
  | cons segment segments ih =>
      obtain ⟨hone, hstep⟩ := weight_step done segment
      obtain ⟨hrest, hsteps⟩ := ih (step done segment)
      rw [List.foldl_cons, weight_cons, List.any_cons, Bool.or_eq_true]
      refine ⟨by omega, ?_⟩
      rintro (hsegment | hsegments)
      · have hfewer := hstep hsegment
        omega
      · have hfewer := hsteps hsegments
        omega

/-- What a path is resolved to stands for no more characters than the path, and for fewer if the path
has a step. -/
theorem length_resolve (path : List Char) :
    (percentDecode (resolve path)).length ≤ (percentDecode path).length ∧
      (hasStep path = true →
        (percentDecode (resolve path)).length < (percentDecode path).length) := by
  cases hstep : hasStep path with
  | false =>
      rw [resolve_of_not_hasStep hstep]
      exact ⟨Nat.le_refl _, nofun⟩
  | true =>
      have hweight := (weight_foldl_step (path.splitOn '/') []).2 hstep
      have hlength := length_intercalate_le (settled path)
      have hnone : weight [] = 0 := rfl
      rw [hnone, weight_splitOn] at hweight
      rw [settled, weight_reverse] at hlength
      rw [resolve_eq, hstep, if_pos rfl]
      omega

/-! ## 4. Characters of a path -/

theorem isHalf_of_isPathSafe {c : Char} (h : isPathSafe c = true) : isHalf c = false := by
  simp only [isPathSafe, isQuerySafe, isVisible, Bool.and_eq_true, decide_eq_true_eq] at h
  simp only [isHalf, Bool.and_eq_false_iff, decide_eq_false_iff_not]
  omega

theorem toNat_lt_of_isHexDigit {c : Char} (h : isHexDigit c = true) : c.toNat < 0x80 := by
  have hle (last : Char) (hlast : last.toNat < 0x80) (hc : c ≤ last) : c.toNat < 0x80 :=
    Nat.lt_of_le_of_lt (Char.le_def.1 hc) hlast
  unfold isHexDigit hexDigit? at h
  split_ifs at h with hdigit hsmall hcapital
  · exact hle '9' (by decide) hdigit.2
  · exact hle 'f' (by decide) hsmall.2
  · exact hle 'F' (by decide) hcapital.2
  · cases h

theorem leavesCodes_isPathSafe : LeavesCodes isPathSafe where
  mark := by decide
  digits c hdigit := by
    have hascii : ∀ code < 0x80, isHexDigit (Char.ofNat code) = true →
        isPathSafe (Char.ofNat code) = true := by
      decide +kernel
    have hsafe := hascii c.toNat (toNat_lt_of_isHexDigit hdigit)
    rw [Char.ofNat_toNat] at hsafe
    exact hsafe hdigit

theorem isPathSafe_of_mem_percentByte {byte : Nat} {c : Char} (hbyte : byte < 256)
    (h : c ∈ percentByte byte) : isPathSafe c = true ∧ c ≠ '/' := by
  have hcapital : ∀ digit < 16, isPathSafe (hexCapital digit) = true ∧ hexCapital digit ≠ '/' := by
    decide
  simp only [percentByte, List.mem_cons, List.not_mem_nil, or_false] at h
  rcases h with rfl | rfl | rfl
  · decide
  · exact hcapital _ (by omega)
  · exact hcapital _ (by omega)

/-- A character of a coded path stands in the path, and is safe there, or in a coded byte. -/
theorem mem_percentEncode {c : Char} (h : c ∈ percentEncode isPathSafe path) :
    isPathSafe c = true ∧ (c ∈ path ∨ c ≠ '/') := by
  obtain ⟨d, hd, hc⟩ := List.mem_flatMap.1 h
  cases hsafe : isPathSafe d with
  | true =>
      rw [hsafe, if_pos rfl, List.mem_singleton] at hc
      subst hc
      exact ⟨hsafe, .inl hd⟩
  | false =>
      rw [hsafe, if_neg Bool.false_ne_true] at hc
      obtain ⟨byte, hbyte, hc⟩ := List.mem_flatMap.1 hc
      exact (isPathSafe_of_mem_percentByte (utf8Bytes_lt d byte hbyte) hc).imp_right .inr

theorem isPathSafe_percentEncode (path : List Char) :
    ∀ c ∈ percentEncode isPathSafe path, isPathSafe c = true :=
  fun _ hc => (mem_percentEncode hc).1

theorem isStep_percentEncode (segment : List Char) :
    isStep (percentEncode isPathSafe segment) = isStep segment := by
  by_cases hsafe : ∀ c ∈ segment, isPathSafe c = true
  · rw [percentEncode_of_safe hsafe]
  · obtain ⟨c, hc⟩ := Classical.not_forall.1 hsafe
    obtain ⟨hmem, hunsafe⟩ := Classical.not_imp.1 hc
    -- a character that is not safe leaves a percent sign behind
    have hmark : '%' ∈ percentEncode isPathSafe segment := by
      obtain ⟨byte, bytes, hbytes⟩ := List.exists_cons_of_ne_nil (Utf8.utf8Bytes_ne_nil c)
      refine List.mem_flatMap.2 ⟨c, hmem, ?_⟩
      rw [if_neg hunsafe, hbytes]
      exact List.mem_cons_self
    have hnot {other : List Char} {d : Char} (hd : d ∈ other) (hdot : d ≠ '.') :
        isStep other = false := by
      refine Bool.eq_false_iff.2 fun hstep => ?_
      simp only [isStep, Bool.or_eq_true, beq_iff_eq] at hstep
      rcases hstep with rfl | rfl
      · exact hdot (by simpa using hd)
      · exact hdot (by simpa using hd)
    have hother : c ≠ '.' := by
      rintro rfl
      exact hunsafe (by decide)
    rw [hnot hmark (by decide), hnot hmem hother]

/-- Coding makes no step and undoes none. -/
theorem hasStep_percentEncode (path : List Char) :
    hasStep (percentEncode isPathSafe path) = hasStep path := by
  have hone {segment : List Char} (h : '/' ∉ segment) :
      hasStep (percentEncode isPathSafe segment) = hasStep segment := by
    have hcoded : '/' ∉ percentEncode isPathSafe segment := fun hslash =>
      (mem_percentEncode hslash).2.elim h (absurd rfl)
    rw [hasStep_segment h, hasStep_segment hcoded, isStep_percentEncode]
  induction path using segment_induction with
  | last segment hsegment => exact hone hsegment
  | more segment rest hsegment ih =>
      have hslash : isPathSafe '/' = true := by decide
      rw [percentEncode_append, percentEncode_cons, if_pos hslash, List.singleton_append,
        hasStep_slash, hasStep_slash, ih, hone hsegment]

end DetectorSearch.Http.Address
