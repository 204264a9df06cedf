import DetectorSearch.Decimal.Real
import DetectorSearch.Proofs.Text.Blank
import Mathlib.Data.List.Basic

/-!
# Integers that are read back

The decimal form of an integer is a sign and a numeral: digits of ASCII. By the general
rule the integer is read back from it, if it has at most 4300 digits, and else it is not
read at all.

Results:
1. `isNumeral_toDigits`, `asciiNumber_toDigits`: the digits of a number.
2. `trim_integerChars`, `splitSign_integerChars`: a sign and a numeral.
3. `readInteger?_eq`: what is read from the decimal form of an integer.
-/

namespace DetectorSearch

variable {s : List Char} {c : Char}

/-! ## 1. Numerals -/

/-- A numeral: one digit of ASCII, or more. -/
structure IsNumeral (s : List Char) : Prop where
  digits : ∀ c ∈ s, isAsciiDigit c = true
  ne_nil : s ≠ []

theorem isAsciiDigit_iff : isAsciiDigit c = true ↔ 48 ≤ c.toNat ∧ c.toNat ≤ 57 := by
  unfold isAsciiDigit asciiDigit?
  show (if 48 ≤ c.toNat ∧ c.toNat ≤ 57 then some (c.toNat - '0'.toNat) else none).isSome = true ↔ _
  split <;> simp [*]

theorem asciiDigit?_of_isAsciiDigit (h : isAsciiDigit c = true) :
    asciiDigit? c = some (c.toNat - '0'.toNat) := by
  obtain ⟨hlow, hhigh⟩ := isAsciiDigit_iff.1 h
  exact if_pos ⟨hlow, hhigh⟩

theorem isAsciiDigit_of_mem_toDigits {n : Nat} (h : c ∈ Nat.toDigits 10 n) :
    isAsciiDigit c = true := by
  have hdigit := Nat.isDigit_of_mem_toDigits (by decide) (by decide) h
  simp only [Char.isDigit, Bool.and_eq_true, decide_eq_true_eq] at hdigit
  exact isAsciiDigit_iff.2 hdigit

theorem isNumeral_toDigits (n : Nat) : IsNumeral (Nat.toDigits 10 n) where
  digits _ hc := isAsciiDigit_of_mem_toDigits hc
  ne_nil := Nat.toDigits_ne_nil

theorem asciiNumber_of_digits (h : ∀ c ∈ s, isAsciiDigit c = true) :
    asciiNumber s = Nat.ofDigitChars 10 s 0 := by
  suffices hfold : ∀ start : Nat, (asciiDigits s).foldl (fun number digit => 10 * number + digit) start =
      Nat.ofDigitChars 10 s start from hfold 0
  induction s with
  | nil => exact fun _ => rfl
  | cons c rest ih =>
      obtain ⟨hc, hrest⟩ := List.forall_mem_cons.1 h
      intro start
      rw [asciiDigits, List.filterMap_cons, asciiDigit?_of_isAsciiDigit hc]
      exact ih hrest _

theorem asciiNumber_toDigits (n : Nat) : asciiNumber (Nat.toDigits 10 n) = n := by
  rw [asciiNumber_of_digits fun _ hc => isAsciiDigit_of_mem_toDigits hc]
  exact Nat.ofDigitChars_ten_toDigits

/-! ## 2. The decimal form of an integer -/

theorem integerChars_eq (n : Int) : integerChars n =
    if decide (n < 0) then '-' :: Nat.toDigits 10 n.natAbs else Nat.toDigits 10 n.natAbs := by
  unfold integerChars
  simp only [decide_eq_true_eq]

theorem isWhite_of_isAsciiDigit (h : isAsciiDigit c = true) : Text.isWhite c = false := by
  obtain ⟨hlow, hhigh⟩ := isAsciiDigit_iff.1 h
  simp only [Text.isWhite, Bool.or_eq_false_iff, Bool.and_eq_false_iff, decide_eq_false_iff_not,
    beq_eq_false_iff_ne]
  omega

/-- A sign or a digit stands for each character of the decimal form of an integer. -/
theorem mem_integerChars {n : Int} (h : c ∈ integerChars n) : c = '-' ∨ isAsciiDigit c = true := by
  have hdigits := (isNumeral_toDigits n.natAbs).digits
  rw [integerChars_eq] at h
  split at h
  · exact (List.mem_cons.1 h).imp_right (hdigits c)
  · exact .inr (hdigits c h)

theorem signed_natAbs (n : Int) : signed (decide (n < 0)) n.natAbs = n := by
  unfold signed
  by_cases h : n < 0
  · simp only [h, decide_true, if_true]
    omega
  · simp only [h, decide_false, Bool.false_eq_true, if_false]
    omega

/-- Nothing stands around the decimal form of an integer. -/
theorem trim_integerChars (n : Int) : Text.trim Text.isWhite (integerChars n) = integerChars n := by
  refine Text.trim_eq_self fun c hc => ?_
  rcases mem_integerChars hc with rfl | hdigit
  · rfl
  · exact isWhite_of_isAsciiDigit hdigit

/-! ## 3. The general rule -/

theorem integerText?_eq_some {n : Int} (h : n.natAbs < tenTo digitLimit) :
    integerText? n = some (integerText n) := by
  rw [integerText?, if_pos h]

theorem digitValue?_of_isAsciiDigit (h : isAsciiDigit c = true) :
    Text.digitValue? c = some (c.toNat - '0'.toNat) := by
  obtain ⟨hlow, hhigh⟩ := isAsciiDigit_iff.1 h
  have hascii : c.toNat < 128 := by omega
  rw [Text.digitValue?, if_pos hascii]
  exact if_pos ⟨hlow, hhigh⟩

theorem digitIn?_of_isAsciiDigit (h : isAsciiDigit c = true) :
    digitIn? 10 c = some (c.toNat - '0'.toNat) := by
  obtain ⟨hlow, hhigh⟩ := isAsciiDigit_iff.1 h
  have hsame : c.toLower = c := by
    unfold Char.toLower
    rw [dif_neg]
    rintro ⟨hcapital, -⟩
    have h65 : 65 ≤ c.toNat := hcapital
    omega
  have hno : ¬ ('a' ≤ c ∧ c ≤ 'z') := by
    rintro ⟨hsmall, -⟩
    have h97 : 97 ≤ c.toNat := hsmall
    omega
  have hless : c.toNat - '0'.toNat < 10 := by
    have hzero : '0'.toNat = 48 := rfl
    omega
  unfold digitIn?
  simp only [hsame, if_neg hno, digitValue?_of_isAsciiDigit h, Option.filter_some, hless,
    decide_true, if_true]

theorem filterMap_digitValue? (h : ∀ c ∈ s, isAsciiDigit c = true) :
    s.filterMap Text.digitValue? = asciiDigits s := by
  unfold asciiDigits
  refine List.filterMap_congr fun c hc => ?_
  rw [digitValue?_of_isAsciiDigit (h c hc), asciiDigit?_of_isAsciiDigit (h c hc)]

theorem length_asciiDigits (h : ∀ c ∈ s, isAsciiDigit c = true) :
    (asciiDigits s).length = s.length := by
  refine List.filterMap_length_eq_length.2 fun c hc => ?_
  rw [asciiDigit?_of_isAsciiDigit (h c hc)]
  rfl

/-- Digits without underscores are one group. -/
theorem digitGroups?_digits (h : ∀ c ∈ s, isAsciiDigit c = true) {after : Bool}
    (hsome : after = true ∨ s ≠ []) :
    digitGroups? (digitIn? 10) after s = some (asciiDigits s) := by
  induction s generalizing after with
  | nil =>
      obtain rfl := hsome.resolve_right fun hne => hne rfl
      rfl
  | cons c rest ih =>
      obtain ⟨hc, hrest⟩ := List.forall_mem_cons.1 h
      have hmark : (c == '_') = false := by
        rw [beq_eq_false_iff_ne]
        rintro rfl
        exact absurd hc (by decide)
      have hvalue := asciiDigit?_of_isAsciiDigit hc
      simp only [digitGroups?, hmark, Bool.false_eq_true, if_false, digitIn?_of_isAsciiDigit hc,
        ih hrest (.inl rfl), Option.map_some, asciiDigits, List.filterMap_cons, hvalue]

/-- A number in base ten has no mark of its base. -/
theorem withoutBaseMark_ten (s : List Char) : withoutBaseMark 10 s = s := by
  unfold withoutBaseMark
  split
  · exact if_neg (by simp [baseLetter?])
  · rfl

theorem splitSign_integerChars (n : Int) :
    splitSign (integerChars n) = (decide (n < 0), Nat.toDigits 10 n.natAbs) := by
  have hdigits := (isNumeral_toDigits n.natAbs).digits
  rw [integerChars_eq]
  by_cases h : n < 0
  · simp [h, splitSign]
  · simp only [h, decide_false, Bool.false_eq_true, if_false]
    unfold splitSign
    split
    · rename_i rest heq
      exact absurd (hdigits '-' (heq ▸ List.mem_cons_self)) (by decide)
    · rename_i rest heq
      exact absurd (hdigits '+' (heq ▸ List.mem_cons_self)) (by decide)
    · rfl

/-- The decimal form tells the integer. -/
theorem integerChars_injective : Function.Injective integerChars := by
  intro m n h
  have hparts := (splitSign_integerChars m).symm.trans
    ((congrArg splitSign h).trans (splitSign_integerChars n))
  obtain ⟨hsign, hdigits⟩ := Prod.mk.inj hparts
  have hsize : m.natAbs = n.natAbs := by
    rw [← asciiNumber_toDigits m.natAbs, hdigits, asciiNumber_toDigits]
  rw [← signed_natAbs m, hsign, hsize, signed_natAbs]

/-- A number has at most so many digits if it is below that power of ten. -/
theorem length_toDigits_le_iff {n limit : Nat} (hlimit : 0 < limit) :
    (Nat.toDigits 10 n).length ≤ limit ↔ n < tenTo limit :=
  Nat.length_toDigits_le_iff (by decide) hlimit

/-- An integer is read back from its decimal form if it has at most 4300 digits, and else nothing is
read. -/
theorem readInteger?_eq (n : Int) : readInteger? (integerChars n) =
    if n.natAbs < tenTo digitLimit then some n else none := by
  have hnumeral := isNumeral_toDigits n.natAbs
  have hgroups : digitGroups? (digitIn? 10) false (Nat.toDigits 10 n.natAbs) =
      some (asciiDigits (Nat.toDigits 10 n.natAbs)) :=
    digitGroups?_digits hnumeral.digits (.inr hnumeral.ne_nil)
  have hlong : digitLimit < (asciiDigits (Nat.toDigits 10 n.natAbs)).length ↔
      ¬ n.natAbs < tenTo digitLimit := by
    rw [length_asciiDigits hnumeral.digits, ← Nat.not_le, length_toDigits_le_iff (by decide)]
  have hvalue : digitsValueIn 10 (asciiDigits (Nat.toDigits 10 n.natAbs)) = n.natAbs :=
    asciiNumber_toDigits n.natAbs
  unfold readInteger? readIntegerIn? digitsIn?
  rw [trim_integerChars, splitSign_integerChars]
  simp only [withoutBaseMark_ten, hgroups, hlong, true_and, ite_not, hvalue, signed_natAbs]

theorem readInteger?_integerChars {n : Int} (h : n.natAbs < tenTo digitLimit) :
    readInteger? (integerChars n) = some n := by
  rw [readInteger?_eq, if_pos h]

end DetectorSearch
