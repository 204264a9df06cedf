import DetectorSearch.Decimal.Integer
import DetectorSearch.Decimal.Style
import DetectorSearch.Text.Encoding
import Mathlib.Data.List.TakeWhile

/-!
# Texts that have bytes

Only halves of surrogate pairs have no bytes. They lie far outside of ASCII, so
the forms of numbers, which are in ASCII, always have bytes.

Results:
1. `encodeFault?_eq_none_iff`: a text has bytes if and only if it holds no half of
   a surrogate pair.
2. `Ascii`: the decimal forms of integers and of reals are in ASCII.
-/

namespace DetectorSearch

namespace Text

variable {s t : List Char} {c : Char}

/-! ## 1. Texts without halves -/

theorem drop_takeWhile {α : Type} (p : α → Bool) (items : List α) :
    items.drop (items.takeWhile p).length = items.dropWhile p := by
  induction items with
  | nil => rfl
  | cons item rest ih => cases h : p item <;> simp [h, ih]

/-- An encoding has bytes for a text if and only if it refuses no character of it. -/
theorem encodeFaultIn?_eq_none_iff {name reason : String} {isRefused : Char → Bool} :
    encodeFaultIn? name reason isRefused s = none ↔ ∀ c ∈ s, isRefused c = false := by
  unfold encodeFaultIn?
  simp only [drop_takeWhile]
  cases hrest : s.dropWhile fun c => !isRefused c with
  | nil =>
      simpa using List.dropWhile_eq_nil_iff.1 hrest
  | cons c rest =>
      have hrefused : isRefused c = true := by
        have hhead := List.head_dropWhile_not (fun c => !isRefused c) (l := s) (by simp [hrest])
        simpa [hrest] using hhead
      have hmem : c ∈ s := (List.dropWhile_sublist _).subset (hrest ▸ List.mem_cons_self)
      constructor
      · intro h
        rw [List.takeWhile_cons_of_pos hrefused] at h
        cases h
      · intro h
        rw [h c hmem] at hrefused
        cases hrefused

/-- A text has bytes if and only if it holds no half of a surrogate pair. -/
theorem encodeFault?_eq_none_iff : encodeFault? s = none ↔ ∀ c ∈ s, isHalf c = false :=
  encodeFaultIn?_eq_none_iff

/-! ## 2. Texts in ASCII -/

/-- Whether all characters of a text are in ASCII. -/
def Ascii (s : List Char) : Prop :=
  ∀ c ∈ s, c.toNat < 0x80

theorem isHalf_of_ascii (h : c.toNat < 0x80) : isHalf c = false := by
  simp only [isHalf, Bool.and_eq_false_iff, decide_eq_false_iff_not]
  left
  omega

theorem Ascii.noHalf (h : Ascii s) : ∀ c ∈ s, isHalf c = false :=
  fun c hc => isHalf_of_ascii (h c hc)

theorem Ascii.subset (h : Ascii t) (hst : s ⊆ t) : Ascii s :=
  fun c hc => h c (hst hc)

@[simp]
theorem ascii_nil : Ascii [] :=
  List.forall_mem_nil _

@[simp]
theorem ascii_cons : Ascii (c :: s) ↔ c.toNat < 0x80 ∧ Ascii s :=
  List.forall_mem_cons

@[simp]
theorem ascii_append : Ascii (s ++ t) ↔ Ascii s ∧ Ascii t :=
  List.forall_mem_append

theorem ascii_replicate {count : Nat} (h : c.toNat < 0x80) : Ascii (List.replicate count c) :=
  fun _ hc => List.eq_of_mem_replicate hc ▸ h

theorem digitChar_ascii (n : Nat) : n.digitChar.toNat < 0x80 := by
  have hdigits : ∀ digit < 16, digit.digitChar.toNat < 0x80 := by decide
  rcases Nat.lt_or_ge n 16 with h | h
  · exact hdigits n h
  · have hother : n.digitChar = '*' := by
      unfold Nat.digitChar
      repeat rw [if_neg (by omega)]
    rw [hother]
    decide

theorem ascii_toDigits {base : Nat} (hbase : 1 < base) (n : Nat) :
    Ascii (Nat.toDigits base n) := by
  induction n using Nat.strongRecOn with
  | ind n ih =>
      rw [Nat.toDigits_eq_if hbase]
      split
      · simp [digitChar_ascii]
      · have hless : n / base < n := Nat.div_lt_self (by omega) hbase
        simp [ih _ hless, digitChar_ascii]

theorem ascii_hex (width n : Nat) : Ascii (hex width n) := by
  simp only [hex, ascii_append]
  exact ⟨ascii_replicate (by decide), ascii_toDigits (by decide) n⟩

end Text

open Text

theorem ascii_integerChars (n : Int) : Ascii (integerChars n) := by
  unfold integerChars
  split
  · exact ascii_cons.2 ⟨by decide, ascii_toDigits (by decide) _⟩
  · exact ascii_toDigits (by decide) _

namespace NumberStyle

variable {s : List Char}

theorem ascii_trimZeros (h : Ascii s) : Ascii (trimZeros s) := by
  refine h.subset fun c hc => ?_
  have hdropped := List.mem_reverse.1 hc
  exact List.mem_reverse.1 ((List.dropWhile_sublist _).subset hdropped)

theorem ascii_fractionText (h : Ascii s) : Ascii (fractionText s) := by
  unfold fractionText
  split
  · exact ascii_nil
  · exact ascii_cons.2 ⟨by decide, h⟩

theorem ascii_exponentText (exponent : Int) : Ascii (exponentText exponent) := by
  have hdigits : Ascii (Nat.toDigits 10 exponent.natAbs) := ascii_toDigits (by decide) _
  have hsign : (if exponent < 0 then '-' else '+').toNat < 0x80 := by split <;> decide
  refine ascii_cons.2 ⟨by decide, ascii_cons.2 ⟨hsign, ?_⟩⟩
  split
  · exact ascii_cons.2 ⟨by decide, hdigits⟩
  · exact hdigits

theorem ascii_write (style : NumberStyle) (decimal : Digits) : Ascii (style.write decimal) := by
  have hdigits : Ascii (trimZeros (Nat.toDigits 10 decimal.digits)) :=
    ascii_trimZeros (ascii_toDigits (by decide) _)
  have htake (n : Nat) := hdigits.subset (List.take_subset n _)
  have hdrop (n : Nat) := hdigits.subset (List.drop_subset n _)
  have hzeros (n : Nat) : Ascii (List.replicate n '0') := ascii_replicate (by decide)
  unfold write
  dsimp only
  split
  · exact ascii_append.2 ⟨ascii_append.2 ⟨htake _, ascii_fractionText (hdrop _)⟩,
      ascii_exponentText _⟩
  split
  · exact ascii_cons.2 ⟨by decide, ascii_cons.2 ⟨by decide, ascii_append.2 ⟨hzeros _, hdigits⟩⟩⟩
  · refine ascii_append.2 ⟨ascii_append.2 ⟨htake _, hzeros _⟩, ascii_fractionText ?_⟩
    split
    · simp
    · exact hdrop _

theorem ascii_writeFloat (style : NumberStyle) (choose : DoubleFields → Digits) (x : Float) :
    Ascii (style.writeFloat choose x).toList := by
  have hsign : Ascii (if (DoubleFields.ofFloat x).negative then ['-'] else []) := by
    split <;> simp
  have hzero : Ascii ('0' :: (if style.showsPoint then ['.', '0'] else [])) := by
    split <;> simp
  unfold writeFloat
  dsimp only
  split
  · split
    · simp
    · split <;> simp
  split
  · rw [String.toList_ofList]
    exact ascii_append.2 ⟨hsign, hzero⟩
  · rw [String.toList_ofList]
    exact ascii_append.2 ⟨hsign, ascii_write style _⟩

end NumberStyle

theorem ascii_plainText (x : Float) : Ascii (plainText x).toList :=
  NumberStyle.ascii_writeFloat _ _ _

end DetectorSearch
