import DetectorSearch.Text.Glob
import Mathlib.Data.List.Forall2

/-!
# What a pattern takes

The rows of a pattern say for each suffix of a text whether the pattern takes it. What they
say is told here without rows: a pattern takes the texts that can be cut into one part for
each of its pieces, any part for a star and one character for every other piece.

Results:
1. `row_cons`: the rows of longer texts extend those of their suffixes.
2. `accepts_nil`, `accepts_star`, `accepts_piece`: one piece of a pattern.
3. `accepts_iff_takes`: the texts that a pattern takes.
4. `takes_read`: patterns without brackets, symbol by symbol; `spelledBy_literal`: patterns
   that take only themselves.
-/

namespace DetectorSearch.Text

/-- Whether a piece of a pattern takes a part of a text. -/
def GlobPiece.Fits : GlobPiece → List Char → Prop
  | .star, _ => True
  | piece, part => ∃ c, part = [c] ∧ piece.takes c = true

namespace Glob

/-- Whether a text can be cut into one part for each piece of a pattern. -/
def Takes (glob : Glob) (s : List Char) : Prop :=
  ∃ parts : List (List Char), s = parts.flatten ∧ List.Forall₂ GlobPiece.Fits glob parts

variable {piece : GlobPiece} {rest glob : Glob} {c : Char} {s : List Char}

/-! ## 1. Rows -/

theorem row_piece (h : piece ≠ .star) : row (piece :: rest) s =
    List.zipWith (fun c b => piece.takes c && b) s (row rest s).tail ++ [false] := by
  cases piece <;> first | rfl | exact absurd rfl h

theorem length_someLater (flags : List Bool) : (someLater flags).length = flags.length := by
  induction flags with
  | nil => rfl
  | cons flag flags ih => rw [someLater, List.length_cons, List.length_cons, ih]

/-- A row has one answer for each suffix, the empty one among them. -/
theorem length_row (glob : Glob) (s : List Char) : (row glob s).length = s.length + 1 := by
  induction glob with
  | nil => simp [row]
  | cons piece rest ih =>
      by_cases hstar : piece = .star
      · subst hstar
        exact (length_someLater _).trans ih
      · rw [row_piece hstar]
        simp [ih]

/-- A row starts with the answer for the whole text. -/
theorem row_eq (glob : Glob) (s : List Char) :
    row glob s = accepts glob s :: (row glob s).tail := by
  rw [accepts]
  cases h : row glob s with
  | nil => exact absurd (congrArg List.length h) (by simp [length_row])
  | cons flag flags => rfl

/-- The row of a text goes on with the row of its suffix. -/
theorem row_cons (glob : Glob) (c : Char) (s : List Char) :
    row glob (c :: s) = accepts glob (c :: s) :: row glob s := by
  suffices h : (row glob (c :: s)).tail = row glob s by rw [row_eq, h]
  -- A row is made of the row of the rest of the pattern, entry by entry, so their tails agree.
  induction glob with
  | nil => rfl
  | cons piece rest ih =>
      by_cases hstar : piece = .star
      · subst hstar
        show (someLater (row rest (c :: s))).tail = someLater (row rest s)
        rw [row_eq rest (c :: s), ih, someLater, List.tail_cons]
      · rw [row_piece hstar, row_piece hstar, ih, row_eq rest s]
        rfl

/-! ## 2. One piece -/

theorem accepts_nil : accepts [] s = true ↔ s = [] := by
  cases s <;> simp [accepts, row]

theorem accepts_piece_nil (h : piece ≠ .star) : accepts (piece :: rest) [] = false := by
  rw [accepts, row_piece h]
  rfl

theorem accepts_piece (h : piece ≠ .star) :
    accepts (piece :: rest) (c :: s) = (piece.takes c && accepts rest s) := by
  rw [accepts, row_piece h, row_cons, List.tail_cons, row_eq rest s]
  rfl

/-- A star takes nothing, or the first character and then more. -/
theorem accepts_star_cons :
    accepts (.star :: rest) (c :: s) = (accepts rest (c :: s) || accepts (.star :: rest) s) := by
  rw [accepts, row, row_cons rest, someLater]
  rfl

theorem accepts_star_nil : accepts (.star :: rest) [] = accepts rest [] := by
  have htail : (row rest []).tail = [] :=
    List.eq_nil_of_length_eq_zero (by rw [List.length_tail, length_row]; rfl)
  rw [accepts, row, row_eq rest [], htail, someLater]
  exact Bool.or_false _

/-- A star takes any characters in front of what the rest takes. -/
theorem accepts_star : accepts (.star :: rest) s = true ↔
    ∃ front back, s = front ++ back ∧ accepts rest back = true := by
  -- The induction is on the text: the star takes its characters one by one.
  induction s with
  | nil =>
      rw [accepts_star_nil]
      constructor
      · exact fun h => ⟨[], [], rfl, h⟩
      · rintro ⟨front, back, hs, h⟩
        rwa [(List.append_eq_nil_iff.1 hs.symm).2] at h
  | cons c s ih =>
      rw [accepts_star_cons, Bool.or_eq_true, ih]
      constructor
      · rintro (h | ⟨front, back, rfl, h⟩)
        · exact ⟨[], c :: s, rfl, h⟩
        · exact ⟨c :: front, back, rfl, h⟩
      · rintro ⟨front, back, hs, h⟩
        rcases List.cons_eq_append_iff.1 hs with ⟨-, rfl⟩ | ⟨front, -, rfl⟩
        · exact .inl h
        · exact .inr ⟨front, back, rfl, h⟩

/-! ## 3. Whole patterns -/

theorem takes_nil : Takes [] s ↔ s = [] := by
  constructor
  · rintro ⟨parts, rfl, hparts⟩
    cases hparts
    rfl
  · exact fun h => ⟨[], h, .nil⟩

theorem takes_cons : Takes (piece :: rest) s ↔
    ∃ front back, s = front ++ back ∧ piece.Fits front ∧ rest.Takes back := by
  constructor
  · rintro ⟨parts, rfl, hparts⟩
    obtain - | ⟨hfront, hback⟩ := hparts
    exact ⟨_, _, rfl, hfront, _, rfl, hback⟩
  · rintro ⟨front, back, rfl, hfront, parts, rfl, hback⟩
    exact ⟨front :: parts, rfl, .cons hfront hback⟩

theorem fits_iff {part : List Char} (h : piece ≠ .star) :
    piece.Fits part ↔ ∃ c, part = [c] ∧ piece.takes c = true := by
  cases piece <;> first | rfl | exact absurd rfl h

/-- A pattern accepts the texts that can be cut into one part for each of its pieces. -/
theorem accepts_iff_takes : accepts glob s = true ↔ glob.Takes s := by
  induction glob generalizing s with
  | nil => rw [accepts_nil, takes_nil]
  | cons piece rest ih =>
      rw [takes_cons]
      by_cases hstar : piece = .star
      · subst hstar
        rw [accepts_star]
        exact exists₂_congr fun front back => by simp [GlobPiece.Fits, ih]
      · cases s with
        | nil =>
            rw [accepts_piece_nil hstar]
            refine iff_of_false Bool.false_ne_true ?_
            rintro ⟨front, back, hs, hfront, -⟩
            obtain ⟨c, rfl, -⟩ := (fits_iff hstar).1 hfront
            cases hs
        | cons c s =>
            rw [accepts_piece hstar, Bool.and_eq_true, ih]
            constructor
            · rintro ⟨htakes, h⟩
              exact ⟨[c], s, rfl, (fits_iff hstar).2 ⟨c, rfl, htakes⟩, h⟩
            · rintro ⟨front, back, hs, hfront, h⟩
              obtain ⟨d, rfl, htakes⟩ := (fits_iff hstar).1 hfront
              obtain ⟨rfl, rfl⟩ := List.cons.inj hs
              exact ⟨htakes, h⟩

/-! ## 4. Patterns without brackets -/

/-- Whether a symbol of a pattern stands for a part of a text: a star for any part, a question mark
for any one character, and every other symbol for itself. -/
inductive StandsFor : Char → List Char → Prop where
  | star (part : List Char) : StandsFor '*' part
  | anyOne (c : Char) : StandsFor '?' [c]
  | itself {symbol : Char} : symbol ≠ '*' → symbol ≠ '?' → StandsFor symbol [symbol]

/-- Whether a text can be cut into one part for each symbol of a pattern. -/
def SpelledBy (pattern s : List Char) : Prop :=
  ∃ parts : List (List Char), s = parts.flatten ∧ List.Forall₂ StandsFor pattern parts

theorem standsFor_literal {symbol : Char} {part : List Char} (hstar : symbol ≠ '*')
    (hany : symbol ≠ '?') : StandsFor symbol part ↔ part = [symbol] := by
  constructor
  · rintro (- | - | -)
    · exact absurd rfl hstar
    · exact absurd rfl hany
    · rfl
  · rintro rfl
    exact .itself hstar hany

/-- The piece of a symbol outside of brackets. -/
def pieceOf (symbol : Char) : GlobPiece :=
  if symbol == '*' then .star else if symbol == '?' then .anyOne else .exactly symbol

theorem fits_pieceOf {symbol : Char} {part : List Char} :
    (pieceOf symbol).Fits part ↔ StandsFor symbol part := by
  by_cases hstar : symbol = '*'
  · subst hstar
    exact iff_of_true trivial (.star part)
  by_cases hany : symbol = '?'
  · subst hany
    constructor
    · rintro ⟨c, rfl, -⟩
      exact .anyOne c
    · rintro (- | c | ⟨-, hne⟩)
      · exact ⟨c, rfl, rfl⟩
      · exact absurd rfl hne
  · have hpiece : pieceOf symbol = .exactly symbol := by simp [pieceOf, hstar, hany]
    rw [hpiece, standsFor_literal hstar hany]
    constructor
    · rintro ⟨c, rfl, hc⟩
      rw [beq_iff_eq.1 hc]
    · rintro rfl
      exact ⟨symbol, rfl, beq_self_eq_true symbol⟩

/-- Without brackets each symbol of a pattern is a piece. -/
theorem read_eq_map {pattern : List Char} (h : '[' ∉ pattern) :
    read pattern = pattern.map pieceOf := by
  rw [read]
  induction pattern with
  | nil => rfl
  | cons symbol pattern ih =>
      obtain ⟨hsymbol, hrest⟩ := not_or.1 (mt List.mem_cons.2 h)
      have hplain : (symbol == '[') = false := beq_eq_false_iff_ne.2 (Ne.symm hsymbol)
      rw [List.length_cons, ofChars, hplain, ih hrest, List.map_cons, pieceOf]
      split
      · rfl
      split <;> rfl

theorem takes_read {pattern : List Char} (h : '[' ∉ pattern) :
    (read pattern).Takes s ↔ SpelledBy pattern s := by
  simp only [Takes, read_eq_map h, List.forall₂_map_left_iff, fits_pieceOf, SpelledBy]

theorem parts_literal {pattern : List Char} {parts : List (List Char)} (hstar : '*' ∉ pattern)
    (hany : '?' ∉ pattern) :
    List.Forall₂ StandsFor pattern parts ↔ parts = pattern.map fun symbol => [symbol] := by
  induction pattern generalizing parts with
  | nil => exact List.forall₂_nil_left_iff
  | cons symbol pattern ih =>
      obtain ⟨hstar, hstars⟩ := not_or.1 (mt List.mem_cons.2 hstar)
      obtain ⟨hany, hanys⟩ := not_or.1 (mt List.mem_cons.2 hany)
      simp only [List.forall₂_cons_left_iff, standsFor_literal (Ne.symm hstar) (Ne.symm hany),
        ih hstars hanys, List.map_cons, exists_and_left, exists_eq_left]

/-- A pattern without special symbols takes only itself. -/
theorem spelledBy_literal {pattern : List Char} (hstar : '*' ∉ pattern) (hany : '?' ∉ pattern) :
    SpelledBy pattern s ↔ s = pattern := by
  simp only [SpelledBy, parts_literal hstar hany, exists_eq_right, ← List.flatMap_def,
    List.flatMap_singleton']

end Glob

end DetectorSearch.Text
