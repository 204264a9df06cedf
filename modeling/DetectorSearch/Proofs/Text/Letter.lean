import DetectorSearch.Text.Letter
import Mathlib.Data.List.Forall2
import Mathlib.Tactic.SplitIfs

/-!
# Words in letters of any case

Orders and states are named by words of ASCII, and what is compared with such a
word is brought into small letters, or into capitals, before. Of the letters
outside of ASCII only three meet one of ASCII then: the sign for kelvin, whose
small letter is a k, the dotless i and the long s, whose capitals are I and S.

Results:
1. `toLower_eq_iff`, `toUpper_eq_iff`: letters of ASCII.
2. `lowered_eq_iff`: a text that is a word in small letters.
3. `capitals_eq_iff`: a text that is a word in capitals.
4. `capitals_eq_of_sameLetters`: texts that differ in the case of letters have the same
   capitals.
-/

namespace DetectorSearch.Text

variable {c letter : Char}

/-! ## 1. Letters of ASCII -/

/-- Whether a character is a letter, in either case. -/
def EitherCase (c letter : Char) : Prop :=
  c = letter.toLower ∨ c = letter.toUpper

instance (c letter : Char) : Decidable (EitherCase c letter) :=
  inferInstanceAs (Decidable (_ ∨ _))

/-- Whether a character is a small letter of ASCII. -/
def IsSmall (c : Char) : Prop :=
  'a' ≤ c ∧ c ≤ 'z'

instance (c : Char) : Decidable (IsSmall c) :=
  inferInstanceAs (Decidable (_ ∧ _))

/-- Whether a character is a capital letter of ASCII. -/
def IsCapital (c : Char) : Prop :=
  'A' ≤ c ∧ c ≤ 'Z'

instance (c : Char) : Decidable (IsCapital c) :=
  inferInstanceAs (Decidable (_ ∧ _))

namespace LetterLemmas

theorem eq_iff_toNat {c d : Char} : c = d ↔ c.toNat = d.toNat :=
  ⟨congrArg Char.toNat, fun h => Char.ext (UInt32.toNat_inj.1 h)⟩

theorem toNat_toLower (c : Char) :
    c.toLower.toNat = if 65 ≤ c.toNat ∧ c.toNat ≤ 90 then c.toNat + 32 else c.toNat := by
  have hcapital : (c.val ≥ 'A'.val ∧ c.val ≤ 'Z'.val) ↔ 65 ≤ c.toNat ∧ c.toNat ≤ 90 := Iff.rfl
  unfold Char.toLower
  split
  · rename_i h
    have hbound : c.val.toNat ≤ 90 := h.2
    rw [if_pos (hcapital.1 h)]
    show (c.val + 32).toNat = c.val.toNat + 32
    rw [UInt32.toNat_add]
    exact Nat.mod_eq_of_lt (show c.val.toNat + 32 < 2 ^ 32 by omega)
  · rename_i h
    rw [if_neg (mt hcapital.2 h)]

theorem toNat_toUpper (c : Char) :
    c.toUpper.toNat = if 97 ≤ c.toNat ∧ c.toNat ≤ 122 then c.toNat - 32 else c.toNat := by
  have hsmall : ('a'.val ≤ c.val ∧ c.val ≤ 'z'.val) ↔ 97 ≤ c.toNat ∧ c.toNat ≤ 122 := Iff.rfl
  unfold Char.toUpper
  split
  · rename_i h
    have hbounds : 97 ≤ c.val.toNat ∧ c.val.toNat ≤ 122 := hsmall.1 h
    -- The way down from the small letters is a way up past the last word.
    have hdown : ('A'.val - 'a'.val : UInt32).toNat = 2 ^ 32 - 32 := by decide
    rw [if_pos (hsmall.1 h)]
    show (c.val + ('A'.val - 'a'.val)).toNat = c.val.toNat - 32
    rw [UInt32.toNat_add, hdown]
    omega
  · rename_i h
    rw [if_neg (mt hsmall.2 h)]

/-- A number that is no code stands for the character zero. -/
theorem toNat_ofNat_cases (n : Nat) : (Char.ofNat n).toNat = n ∨ (Char.ofNat n).toNat = 0 := by
  by_cases h : n.isValidChar
  · exact .inl (congrArg Char.toNat (dif_pos h))
  · exact .inr (congrArg Char.toNat (dif_neg h))

/-- Of the letters that a run brings into small ones, only the sign for kelvin meets ASCII. -/
theorem letterRuns_leave_ascii : (letterRuns.toList.all fun run =>
    run.last < 128 || 128 ≤ (run.first : Int) + run.shift ||
      (run.first == run.last && (run.first : Int) + run.shift == 107)) = true := by
  decide +kernel

end LetterLemmas

open LetterLemmas

theorem toLower_eq_iff (h : IsSmall letter) : c.toLower = letter ↔ EitherCase c letter := by
  have hletter : 97 ≤ letter.toNat ∧ letter.toNat ≤ 122 := h
  simp only [EitherCase, eq_iff_toNat, toNat_toLower, toNat_toUpper]
  split <;> split <;> omega

theorem toUpper_eq_iff (h : IsCapital letter) : c.toUpper = letter ↔ EitherCase c letter := by
  have hletter : 65 ≤ letter.toNat ∧ letter.toNat ≤ 90 := h
  simp only [EitherCase, eq_iff_toNat, toNat_toLower, toNat_toUpper]
  split <;> split <;> omega

/-- A letter of ASCII is one in either case. -/
theorem EitherCase.ascii (h : EitherCase c letter) (hletter : letter.toNat < 128) :
    c.toNat < 128 := by
  simp only [EitherCase, eq_iff_toNat, toNat_toLower, toNat_toUpper] at h
  split at h <;> split at h <;> omega

/-! ## 2. Words in small letters -/

/-- Whether a text is a word in small letters of ASCII. It has no k, which the sign for kelvin would
spell as well. -/
def IsSmallWord (word : List Char) : Prop :=
  ∀ letter ∈ word, IsSmall letter ∧ letter ≠ 'k'

instance (word : List Char) : Decidable (IsSmallWord word) :=
  List.decidableBAll _ word

theorem IsSmall.ascii (h : IsSmall letter) : letter.toNat < 128 :=
  Nat.lt_of_le_of_lt h.2 (by decide)

theorem lowerChar_eq_iff (h : IsSmall letter) (hk : letter ≠ 'k') :
    lowerChar c = letter ↔ EitherCase c letter := by
  by_cases hascii : c.toNat < 128
  · rw [lowerChar, if_pos hascii, toLower_eq_iff h]
  · refine iff_of_false (fun hlower => ?_) fun hcase => hascii (hcase.ascii h.ascii)
    rw [lowerChar, if_neg hascii] at hlower
    split at hlower
    · rename_i run hrun
      have hleave := List.all_eq_true.1 letterRuns_leave_ascii run
        (Array.mem_toList_iff.2 (Array.mem_of_find?_eq_some hrun))
      have hrange := Array.find?_some hrun
      have hbounds : 97 ≤ letter.toNat ∧ letter.toNat ≤ 122 := h
      have hkelvin : letter.toNat ≠ 107 := fun h107 => hk (eq_iff_toNat.2 h107)
      have hsmall := congrArg Char.toNat hlower
      simp only [Bool.and_eq_true, Bool.or_eq_true, decide_eq_true_eq, beq_iff_eq] at hleave hrange
      rcases toNat_ofNat_cases ((c.toNat : Int) + run.shift).toNat with hcode | hcode <;>
        rw [hcode] at hsmall <;> omega
    · exact hascii (hlower ▸ h.ascii)

/-- The small letters of a character with those of the text behind it. -/
theorem lowerChars_cons_eq_iff {before rest word : List Char} (hword : IsSmallWord word) :
    lowerChars before (c :: rest) = word ↔ ∃ letter others, word = letter :: others ∧
      EitherCase c letter ∧ lowerChars (c :: before) rest = others := by
  have hoff {d : Char} (hd : ¬ IsSmall d) : d ∉ word := fun hmem => hd (hword d hmem).1
  have hnone (hc : ¬ c.toNat < 128) : ¬ ∃ letter others, word = letter :: others ∧
      EitherCase c letter ∧ lowerChars (c :: before) rest = others := by
    rintro ⟨letter, others, rfl, hcase, -⟩
    exact hc (hcase.ascii (hword letter List.mem_cons_self).1.ascii)
  rw [lowerChars]
  split
  · rename_i hdotted
    obtain rfl := beq_iff_eq.1 hdotted
    refine iff_of_false (fun h => hoff (d := '\u0307') (by decide) ?_) (hnone (by decide))
    rw [← h]
    simp
  split
  · rename_i hsigma
    obtain rfl := beq_iff_eq.1 hsigma
    refine iff_of_false (fun h => ?_) (hnone (by decide))
    split at h
    · exact hoff (d := '\u03C2') (by decide) (by rw [← h]; simp)
    · exact hoff (d := '\u03C3') (by decide) (by rw [← h]; simp)
  · constructor
    · rintro rfl
      obtain ⟨hsmall, hk⟩ := hword (lowerChar c) (by simp)
      exact ⟨lowerChar c, _, rfl, (lowerChar_eq_iff hsmall hk).1 rfl, rfl⟩
    · rintro ⟨letter, others, rfl, hcase, rfl⟩
      obtain ⟨hsmall, hk⟩ := hword letter (by simp)
      rw [(lowerChar_eq_iff hsmall hk).2 hcase, List.singleton_append]

theorem lowerChars_eq_iff {before s word : List Char} (hword : IsSmallWord word) :
    lowerChars before s = word ↔ List.Forall₂ EitherCase s word := by
  induction s generalizing before word with
  | nil => simp [lowerChars, eq_comm]
  | cons c rest ih =>
      rw [lowerChars_cons_eq_iff hword, List.forall₂_cons_left_iff]
      constructor
      · rintro ⟨letter, others, rfl, hcase, hrest⟩
        exact ⟨letter, others, hcase, (ih (List.forall_mem_cons.1 hword).2).1 hrest, rfl⟩
      · rintro ⟨letter, others, hcase, hrest, rfl⟩
        exact ⟨letter, others, rfl, hcase, (ih (List.forall_mem_cons.1 hword).2).2 hrest⟩

/-- A text in small letters is a word if it spells the word in letters of either case. -/
theorem lowered_eq_iff {s word : String} (hword : IsSmallWord word.toList) :
    lowered s = word ↔ List.Forall₂ EitherCase s.toList word.toList := by
  rw [← @lowerChars_eq_iff [] _ _ hword, lowered, ← String.toList_inj, String.toList_ofList]

/-! ## 3. Words in capitals -/

/-- Whether a text is a word in capitals of ASCII. -/
def IsCapitalWord (word : List Char) : Prop :=
  ∀ letter ∈ word, IsCapital letter

instance (word : List Char) : Decidable (IsCapitalWord word) :=
  List.decidableBAll _ word

/-- Whether a character is a letter in either case, or one of the two letters outside of ASCII that
have its capital. -/
def SameCapital (c letter : Char) : Prop :=
  EitherCase c letter ∨ (c = '\u0131' ∧ letter = 'I') ∨ (c = '\u017F' ∧ letter = 'S')

instance (c letter : Char) : Decidable (SameCapital c letter) :=
  inferInstanceAs (Decidable (_ ∨ _))

theorem IsCapital.ascii (h : IsCapital letter) : letter.toNat < 128 :=
  Nat.lt_of_le_of_lt h.2 (by decide)

theorem capital_eq_iff (h : IsCapital letter) : capital c = letter ↔ SameCapital c letter := by
  have hascii (hcase : EitherCase c letter) : c.toNat < 128 := hcase.ascii h.ascii
  unfold capital SameCapital
  split
  · rename_i hdotless
    obtain rfl := beq_iff_eq.1 hdotless
    simp [mt hascii (by decide), eq_comm]
  split
  · rename_i hlong
    obtain rfl := beq_iff_eq.1 hlong
    simp [mt hascii (by decide), eq_comm]
  · rename_i hdotless hlong
    simp [beq_iff_eq] at hdotless hlong
    simp [toUpper_eq_iff h, hdotless, hlong]

/-- A text in capitals is a word if it spells the word in letters of either case, the dotless i and
the long s among them. -/
theorem capitals_eq_iff {s word : List Char} (hword : IsCapitalWord word) :
    capitals s = word ↔ List.Forall₂ SameCapital s word := by
  induction s generalizing word with
  | nil => simp [capitals, eq_comm]
  | cons c rest ih =>
      cases word with
      | nil => simp [capitals]
      | cons letter others =>
          obtain ⟨hletter, hothers⟩ := List.forall_mem_cons.1 hword
          rw [List.forall₂_cons, ← ih hothers, ← capital_eq_iff hletter]
          exact List.cons_eq_cons

/-! ## 4. Texts in letters of any case -/

/-- Whether two texts differ at most in the case of letters of ASCII. -/
def SameLetters (s t : List Char) : Prop :=
  List.Forall₂ (fun c d => c.toLower = d.toLower) s t

instance (s t : List Char) : Decidable (SameLetters s t) :=
  inferInstanceAs (Decidable (List.Forall₂ _ s t))

theorem toUpper_eq_of_toLower {d : Char} (h : c.toLower = d.toLower) : c.toUpper = d.toUpper := by
  simp only [eq_iff_toNat, toNat_toLower, toNat_toUpper] at h ⊢
  split at h <;> split at h <;> split <;> split <;> omega

/-- No letter of ASCII has a small letter outside of it. -/
theorem eq_of_toLower_eq {d : Char} (h : c.toLower = d.toLower) (hd : 128 ≤ d.toNat) : c = d := by
  simp only [eq_iff_toNat, toNat_toLower] at h ⊢
  split at h <;> split at h <;> omega

theorem capital_eq_of_toLower {d : Char} (h : c.toLower = d.toLower) : capital c = capital d := by
  by_cases hascii : c.toNat < 128 ∧ d.toNat < 128
  · have hplain {e : Char} (he : e.toNat < 128) : capital e = e.toUpper := by
      have hdotless : e ≠ '\u0131' := fun heq => absurd (heq ▸ he) (by decide)
      have hlong : e ≠ '\u017F' := fun heq => absurd (heq ▸ he) (by decide)
      simp [capital, hdotless, hlong]
    rw [hplain hascii.1, hplain hascii.2, toUpper_eq_of_toLower h]
  · rcases Nat.lt_or_ge d.toNat 128 with hd | hd
    · rw [eq_of_toLower_eq h.symm (by omega)]
    · rw [eq_of_toLower_eq h hd]

theorem capitals_eq_of_sameLetters {s t : List Char} (h : SameLetters s t) :
    capitals s = capitals t := by
  induction h with
  | nil => rfl
  | cons hletter _ ih =>
      rw [capitals, capitals, List.map_cons, List.map_cons, capital_eq_of_toLower hletter]
      exact congrArg _ ih

end DetectorSearch.Text
