import DetectorSearch.CommandLine.Console
import DetectorSearch.Proofs.Decimal.Numeral
import DetectorSearch.Text.Encoding
import Mathlib.Data.List.Infix

/-!
# Lines on a console

A line goes to a terminal as it is, and elsewhere without its codes. Taking out codes
leaves a text alone if and only if it holds none. A code does not reach over a character
that cannot stand in one, so what is put around a text to colour it, and the end of its
line, are dealt with by themselves.

Results:
1. `outsideCodes_append`, `plain_red`: codes around a text.
2. `plain_eq_iff`: texts that hold no code.
3. `echo_eq`, `echo_red`: what is written.
4. `standard_integer?`: the integers that the standard console reads.
-/

namespace DetectorSearch.CommandLine.Console

variable {s t : List Char} {c : Char} {count left : Nat} {console : Console}

/-! ## 1. Codes around a text -/

/-- Whether no code reaches over a character. -/
structure Stops (c : Char) : Prop where
  notBracket : c ≠ '['
  notParameter : isParameter c = false
  notLetter : c.isAlpha = false

theorem codeTail?_append (hc : Stops c) : codeTail? (s ++ c :: t) = codeTail? s := by
  induction s with
  | nil => simp [codeTail?, hc.notParameter, hc.notLetter]
  | cons first rest ih => simp [codeTail?, ih]

theorem codeLength?_append (hc : Stops c) (hs : s ≠ []) :
    codeLength? (s ++ c :: t) = codeLength? s := by
  match s, hs with
  | [first], _ =>
      show codeLength? (first :: c :: t) = none
      unfold codeLength?
      split
      · rename_i heq
        exact absurd (List.cons.inj (List.cons.inj heq).2).1 hc.notBracket
      · rfl
  | first :: second :: rest, _ =>
      by_cases hbracket : second = '['
      · subst hbracket
        simp [codeLength?, codeTail?_append hc]
      · simp [codeLength?, hbracket]

theorem codeTail?_le (h : codeTail? s = some count) : count ≤ s.length := by
  induction s generalizing count with
  | nil => cases h
  | cons first rest ih =>
      rw [codeTail?] at h
      split_ifs at h
      · obtain ⟨inner, hinner, rfl⟩ := Option.map_eq_some_iff.1 h
        exact Nat.succ_le_succ (ih hinner)
      · cases h
        exact Nat.succ_le_succ (Nat.zero_le _)

/-- A code has at least its first two characters, and ends within the text. -/
theorem codeLength?_le (h : codeLength? s = some count) : 2 ≤ count ∧ count ≤ s.length := by
  unfold codeLength? at h
  split at h
  · split_ifs at h
    obtain ⟨tail, htail, rfl⟩ := Option.map_eq_some_iff.1 h
    have hle := codeTail?_le htail
    simp only [List.length_cons]
    omega
  · cases h

/-- What stands behind a character that no code reaches over is dealt with by itself. -/
theorem outsideCodes_append (hc : Stops c) (hleft : left ≤ s.length) :
    outsideCodes left (s ++ c :: t) = outsideCodes left s ++ outsideCodes 0 (c :: t) := by
  induction s generalizing left with
  | nil =>
      obtain rfl := Nat.le_zero.1 hleft
      rfl
  | cons first rest ih =>
      cases left with
      | succ left => exact ih (Nat.le_of_succ_le_succ hleft)
      | zero =>
          have hlength := @codeLength?_append (first :: rest) t c hc (List.cons_ne_nil _ _)
          rw [List.cons_append] at hlength ⊢
          rw [outsideCodes, outsideCodes, hlength]
          cases hcode : codeLength? (first :: rest) with
          | none => exact congrArg (first :: ·) (ih (Nat.zero_le _))
          | some length =>
              have hle := (codeLength?_le hcode).2
              rw [List.length_cons] at hle
              exact ih (by omega)

theorem stops_escape : Stops escape :=
  ⟨by decide, by decide, by decide⟩

theorem stops_newline : Stops '\n' :=
  ⟨by decide, by decide, by decide⟩

/-- The end of a line stays. -/
theorem plain_line (text : String) : plain (text ++ "\n") = plain text ++ "\n" := by
  have happend := @outsideCodes_append text.toList [] '\n' 0 stops_newline (Nat.zero_le _)
  rw [plain, String.toList_append]
  exact (congrArg String.ofList happend).trans String.ofList_append

/-- The colour of a text is taken out with its other codes. -/
theorem plain_red (text : String) : plain (red text) = plain text := by
  have happend := @outsideCodes_append text.toList ['[', '0', 'm'] escape 0 stops_escape
    (Nat.zero_le _)
  have hend : outsideCodes 0 [escape, '[', '0', 'm'] = [] := by decide
  rw [hend, List.append_nil] at happend
  have hchars : (red text).toList =
      [escape, '[', '3', '1', 'm'] ++ (text.toList ++ [escape, '[', '0', 'm']) := by
    rw [red, String.toList_append, String.toList_append, List.append_assoc]
    rfl
  rw [plain, hchars]
  -- the code in front has five characters, all of which are passed over
  exact congrArg String.ofList happend

/-! ## 2. Texts without codes -/

/-- Whether a code begins somewhere in a text. -/
def HoldsCode (text : String) : Prop :=
  ∃ rest, rest <:+ text.toList ∧ (codeLength? rest).isSome = true

theorem outsideCodes_sublist (left : Nat) (s : List Char) : (outsideCodes left s).Sublist s := by
  induction s generalizing left with
  | nil => cases left <;> exact .slnil
  | cons first rest ih =>
      cases left with
      | succ left => exact (ih left).cons first
      | zero =>
          rw [outsideCodes]
          split
          · exact (ih _).cons first
          · exact (ih 0).cons_cons first

theorem outsideCodes_eq_iff :
    outsideCodes 0 s = s ↔ ∀ rest, rest <:+ s → codeLength? rest = none := by
  induction s with
  | nil =>
      refine iff_of_true rfl fun rest hrest => ?_
      rw [List.suffix_nil.1 hrest]
      rfl
  | cons first rest ih =>
      have hsuffix : (∀ other, other <:+ first :: rest → codeLength? other = none) ↔
          codeLength? (first :: rest) = none ∧ ∀ other, other <:+ rest → codeLength? other = none := by
        simp only [List.suffix_cons_iff, forall_eq_or_imp]
      rw [hsuffix, outsideCodes]
      cases hcode : codeLength? (first :: rest) with
      | none => simp [ih]
      | some length =>
          refine iff_of_false (fun heq => ?_) fun h => nomatch h.1
          have hle := (outsideCodes_sublist (length - 1) rest).length_le
          dsimp only at heq
          rw [heq, List.length_cons] at hle
          omega

/-- Taking out codes leaves a text alone if and only if it holds none. -/
theorem plain_eq_iff {text : String} : plain text = text ↔ ¬ HoldsCode text := by
  have hchars : plain text = text ↔ outsideCodes 0 text.toList = text.toList := by
    rw [plain, ← String.toList_inj, String.toList_ofList]
  rw [hchars, outsideCodes_eq_iff, HoldsCode]
  simp only [not_exists, not_and, Bool.not_eq_true, Option.isSome_eq_false_iff,
    Option.isNone_iff_eq_none]

/-- A text holds half of a surrogate pair if it does so without its codes. -/
theorem hasHalf_plain {text : String} (h : Text.hasHalf text = false) :
    Text.hasHalf (plain text) = false := by
  simp only [Text.hasHalf, List.any_eq_false, plain, String.toList_ofList] at h ⊢
  exact fun c hc => h c ((outsideCodes_sublist 0 _).mem hc)

theorem hasHalf_red {text : String} (h : Text.hasHalf text = false) :
    Text.hasHalf (red text) = false := by
  have hcolour : Text.hasHalf "\x1b[31m" = false ∧ Text.hasHalf "\x1b[0m" = false := by decide
  unfold Text.hasHalf at *
  rw [red, String.toList_append, String.toList_append, List.any_append, List.any_append,
    hcolour.1, h, hcolour.2]
  rfl

/-- A text in red is another text. -/
theorem red_ne (text : String) : red text ≠ text := by
  intro h
  have hlength := congrArg (fun text => text.toList.length) h
  simp only [red, String.toList_append, List.length_append] at hlength
  have hfront : "\x1b[31m".toList.length = 5 := by decide
  omega

/-! ## 3. Lines that are written -/

/-- A text as it is seen on the console. -/
def shown (console : Console) (text : String) : String :=
  if console.onTerminal then text else plain text

/-- A text about a failure as it is seen on the console. -/
def shownFailure (console : Console) (text : String) : String :=
  if console.onTerminal then red text else plain text

theorem echo_eq (console : Console) (text : String) :
    console.echo text = console.shown text ++ "\n" := by
  unfold echo shown
  split
  · rfl
  · exact plain_line text

theorem echo_red (console : Console) (text : String) :
    console.echo (red text) = console.shownFailure text ++ "\n" := by
  rw [echo_eq, shown, shownFailure, plain_red]

/-- What is seen has bytes if the text has. -/
theorem hasHalf_shown {text : String} (h : Text.hasHalf text = false) :
    Text.hasHalf (console.shown text) = false := by
  unfold shown
  split
  · exact h
  · exact hasHalf_plain h

theorem hasHalf_shownFailure {text : String} (h : Text.hasHalf text = false) :
    Text.hasHalf (console.shownFailure text) = false := by
  unfold shownFailure
  split
  · exact hasHalf_red h
  · exact hasHalf_plain h

/-! ## 4. The standard console -/

/-- The standard console reads an integer from its decimal form if it has at most 4300 digits. -/
theorem standard_integer? (onTerminal : Bool) (number : Int) :
    (standard onTerminal).integer? (integerText number) =
      if number.natAbs < tenTo digitLimit then some number else none := by
  show readInteger? (integerText number).toList = _
  rw [integerText, String.toList_ofList, readInteger?_eq]

end DetectorSearch.CommandLine.Console
