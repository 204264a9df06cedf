import DetectorSearch.Proofs.Decimal.Packing
import Mathlib.Tactic.Linarith
import Mathlib.Tactic.Ring

/-!
# Sums of doubles keep to their side

The sum of two doubles is the exact sum, rounded to 53 digits. Rounding goes to
one of the two neighbours on the grid of the exponent, and every double lies on
that grid or below its full range of digits. So a rounded number stays on its
side of every double (`Between`), whichever neighbour is taken.

Results: `add_side`, a sum with something that is not below zero is not below the
first summand, and a sum with something that is not above zero is not above it;
`add_nowhere`, a sum with something that is no number is none either.
-/

namespace DetectorSearch

open Float.Model Float.Model.UnpackedFloat

namespace Place

/-! ## 1. Rounding -/

/-- A rounded number keeps to its side of every number with at most 53 digits. -/
theorem grid_le {quotient step digits shift : Nat} (hq : 2 ^ 52 ≤ quotient ∨ step = 0)
    (hd : digits < 2 ^ 53) :
    (digits * 2 ^ shift < (quotient + 1) * 2 ^ step → digits * 2 ^ shift ≤ quotient * 2 ^ step) ∧
    (quotient * 2 ^ step < digits * 2 ^ shift →
      (quotient + 1) * 2 ^ step ≤ digits * 2 ^ shift) := by
  by_cases hs : step ≤ shift
  · have hmul : digits * 2 ^ shift = digits * 2 ^ (shift - step) * 2 ^ step := by
      rw [Nat.mul_assoc, ← Nat.pow_add, Nat.sub_add_cancel hs]
    rw [hmul]
    constructor
    · intro h
      exact Nat.mul_le_mul_right _ (Nat.lt_succ_iff.1 (Nat.lt_of_mul_lt_mul_right h))
    · intro h
      exact Nat.mul_le_mul_right _ (Nat.lt_of_mul_lt_mul_right h)
  · have hfull : 2 ^ 52 ≤ quotient := hq.resolve_right (by omega)
    have hlt : digits * 2 ^ shift < quotient * 2 ^ step :=
      calc
        digits * 2 ^ shift < 2 ^ 53 * 2 ^ shift :=
          Nat.mul_lt_mul_of_pos_right hd (Nat.two_pow_pos _)
        _ = 2 ^ 52 * 2 ^ (shift + 1) := by rw [Nat.pow_succ 2 shift]; omega
        _ ≤ 2 ^ 52 * 2 ^ step :=
          Nat.mul_le_mul_left _ (Nat.pow_le_pow_right (by decide) (by omega))
        _ ≤ quotient * 2 ^ step := Nat.mul_le_mul_right _ hfull
    exact ⟨fun _ => hlt.le, fun h => absurd h (by omega)⟩

theorem shiftRight_mantissa (extended : ExtendedMantissa) (count : Nat) :
    (extended >>> count).mantissa = extended.mantissa / 2 ^ count := by
  change (count.repeat ExtendedMantissa.shiftRightOne extended).mantissa = _
  induction count with
  | zero => simp [Nat.repeat]
  | succ count ih =>
      rw [Nat.repeat, ExtendedMantissa.shiftRightOne, ih, Nat.div_div_eq_div_mul, Nat.pow_succ]

theorem roundedMantissa_bounds (extended : ExtendedMantissa) :
    extended.mantissa ≤ extended.roundedMantissa ∧
      extended.roundedMantissa ≤ extended.mantissa + 1 := by
  obtain ⟨mantissa, round, sticky⟩ := extended
  cases round <;> cases sticky <;>
    simp only [ExtendedMantissa.roundedMantissa, ExtendedMantissa.accuracy,
      Accuracy.roundToNearestEven] <;> omega

theorem targetExponent_eq (mantissa : Nat) (exponent : Int) :
    Format.binary64.targetExponent (totalExponent mantissa exponent) =
      max (mantissa.log2 + exponent - 52) (-1074) := by
  simp only [Format.targetExponent, totalExponent, Format.mantissaBits, Format.minExponent]
  omega

theorem shiftToTargetExponent_small {mantissa : Nat} {exponent : Int} (hm : mantissa < 2 ^ 53)
    (he : -1074 ≤ exponent) :
    shiftToTargetExponent Format.binary64 mantissa exponent .exact =
      (⟨mantissa, false, false⟩, exponent) := by
  have hlog : mantissa.log2 ≤ 52 := by
    by_cases h : mantissa = 0
    · rw [h]; decide
    · exact Nat.lt_succ_iff.1 ((Nat.log2_lt h).2 hm)
  have hcount : (Format.binary64.targetExponent (totalExponent mantissa exponent) -
      exponent).toNat = 0 := by
    rw [targetExponent_eq]
    omega
  simp only [shiftToTargetExponent, shiftToExponent, hcount]
  simp [HShiftRight.hShiftRight, Nat.repeat, ExtendedMantissa.ofMantissaAndAccuracy]

theorem shiftToTargetExponent_carry {exponent : Int} (he : -1074 ≤ exponent) :
    shiftToTargetExponent Format.binary64 (2 ^ 53) exponent .exact =
      (⟨2 ^ 52, false, false⟩, exponent + 1) := by
  have hcount : (Format.binary64.targetExponent (totalExponent (2 ^ 53) exponent) -
      exponent).toNat = 1 := by
    rw [targetExponent_eq, Nat.log2_two_pow]
    omega
  simp only [shiftToTargetExponent, shiftToExponent, hcount]
  rfl

/-- A rounded number lies between two neighbours on the grid of its exponent, as the exact number
does. Grids of steps below the whole range of digits are exact. -/
structure Between (exact rounded : Nat) : Prop where
  neighbours : ∃ quotient step, (2 ^ 52 ≤ quotient ∨ step = 0) ∧
    (quotient * 2 ^ step ≤ exact ∧ exact < (quotient + 1) * 2 ^ step) ∧
    quotient * 2 ^ step ≤ rounded ∧ rounded ≤ (quotient + 1) * 2 ^ step

theorem Between.le_of_le {exact rounded digits shift : Nat} (h : Between exact rounded)
    (hd : digits < 2 ^ 53) (hle : digits * 2 ^ shift ≤ exact) : digits * 2 ^ shift ≤ rounded := by
  obtain ⟨quotient, step, hq, ⟨_, hlt⟩, hge, _⟩ := h.neighbours
  exact ((grid_le hq hd).1 (hle.trans_lt hlt)).trans hge

theorem Between.le_of_lt {exact rounded digits shift : Nat} (h : Between exact rounded)
    (hd : digits < 2 ^ 53) (hlt : exact < digits * 2 ^ shift) : rounded ≤ digits * 2 ^ shift := by
  obtain ⟨quotient, step, hq, ⟨hge, _⟩, _, hle⟩ := h.neighbours
  exact hle.trans ((grid_le hq hd).2 (hge.trans_lt hlt))

/-- The carry of a rounded number moves one digit to its exponent, at most. -/
theorem carry_eq (sign : Sign) {mantissa : Nat} {exponent : Int} (pos : 0 < mantissa)
    (hle : mantissa ≤ 2 ^ 53) (hleast : -1074 ≤ exponent)
    (hfull : 2 ^ 52 ≤ mantissa ∨ exponent = -1074) :
    ∃ mantissa' exponent' pos',
      (if h : (shiftToTargetExponent Format.binary64 mantissa exponent .exact).1.mantissa = 0 then
          UnpackedFloat.zero sign
        else .finite sign
          (shiftToTargetExponent Format.binary64 mantissa exponent .exact).1.mantissa
          (shiftToTargetExponent Format.binary64 mantissa exponent .exact).2
          (Nat.pos_of_ne_zero h)) = .finite sign mantissa' exponent' pos' ∧
      Canonical mantissa' exponent' ∧
      mantissa' * 2 ^ (exponent' + 1074).toNat = mantissa * 2 ^ (exponent + 1074).toNat := by
  by_cases hsmall : mantissa < 2 ^ 53
  · refine ⟨mantissa, exponent, pos, ?_, ⟨pos, hsmall, hleast, hfull⟩, rfl⟩
    simp only [shiftToTargetExponent_small hsmall hleast]
    rw [dif_neg pos.ne']
  · obtain rfl : mantissa = 2 ^ 53 := by omega
    refine ⟨2 ^ 52, exponent + 1, by decide, ?_, ⟨by decide, by decide, by omega, .inl le_rfl⟩, ?_⟩
    · simp only [shiftToTargetExponent_carry hleast]
      rw [dif_neg (by decide)]
    · rw [← Nat.pow_add, ← Nat.pow_add]
      congr 1
      omega

/-- Dropping digits of a number gives a canonical one between the neighbours of the exact one. -/
theorem roundWithAccuracy_eq (sign : Sign) {mantissa : Nat} {exponent : Int} (count : Nat)
    (pos : 0 < mantissa) (hleast : -1074 ≤ exponent)
    (hcount : max (mantissa.log2 + exponent - 52) (-1074) = exponent + count) :
    ∃ mantissa' exponent' pos',
      roundWithAccuracy Format.binary64 sign mantissa exponent .exact =
        .finite sign mantissa' exponent' pos' ∧
      Canonical mantissa' exponent' ∧
      Between (mantissa * 2 ^ (exponent + 1074).toNat)
        (mantissa' * 2 ^ (exponent' + 1074).toNat) := by
  have hfirst : shiftToTargetExponent Format.binary64 mantissa exponent .exact =
      ((ExtendedMantissa.mk mantissa false false) >>> count, exponent + count) := by
    have htarget := (targetExponent_eq mantissa exponent).trans hcount
    have htoNat : (exponent + count - exponent).toNat = count := by omega
    simp only [shiftToTargetExponent, shiftToExponent, htarget, htoNat]
    rfl
  obtain ⟨hlow, hhigh⟩ :=
    roundedMantissa_bounds ((ExtendedMantissa.mk mantissa false false) >>> count)
  rw [shiftRight_mantissa] at hlow hhigh
  dsimp only at hlow hhigh
  -- the digits that are kept fill the range, unless the grid is the finest one
  have hkept : mantissa / 2 ^ count < 2 ^ 53 := by
    rw [Nat.div_lt_iff_lt_mul (Nat.two_pow_pos _), ← Nat.pow_add, ← Nat.log2_lt pos.ne']
    omega
  have hfull : 2 ^ 52 ≤ mantissa / 2 ^ count ∨ exponent + count = -1074 := by
    by_cases h : exponent + count = -1074
    · exact .inr h
    · rw [Nat.le_div_iff_mul_le (Nat.two_pow_pos _), ← Nat.pow_add, ← Nat.le_log2 pos.ne']
      omega
  have hpos : 0 < mantissa / 2 ^ count := by
    rcases hfull with h | h
    · omega
    · have : count = 0 := by omega
      subst this
      simpa using pos
  have hexact : mantissa / 2 ^ count * 2 ^ (exponent + count + 1074).toNat ≤
        mantissa * 2 ^ (exponent + 1074).toNat ∧
      mantissa * 2 ^ (exponent + 1074).toNat <
        (mantissa / 2 ^ count + 1) * 2 ^ (exponent + count + 1074).toNat := by
    have hstep : 2 ^ (exponent + count + 1074).toNat =
        2 ^ count * 2 ^ (exponent + 1074).toNat := by
      rw [← Nat.pow_add]
      congr 1
      omega
    rw [hstep, ← Nat.mul_assoc, ← Nat.mul_assoc]
    exact ⟨Nat.mul_le_mul_right _ (Nat.div_mul_le_self _ _),
      Nat.mul_lt_mul_of_pos_right
        ((Nat.lt_mul_div_succ _ (Nat.two_pow_pos count)).trans_eq (Nat.mul_comm _ _))
        (Nat.two_pow_pos _)⟩
  obtain ⟨mantissa', exponent', pos', heq, hcanonical, hvalue⟩ :=
    carry_eq sign (hpos.trans_le hlow) (by omega) (show -1074 ≤ exponent + count by omega)
      (hfull.imp_left hlow.trans')
  refine ⟨mantissa', exponent', pos', ?_, hcanonical, ?_⟩
  · rw [← heq]
    simp only [roundWithAccuracy, hfirst]
  · rw [hvalue]
    exact ⟨mantissa / 2 ^ count, (exponent + count + 1074).toNat, by omega, hexact,
      Nat.mul_le_mul_right _ hlow, Nat.mul_le_mul_right _ hhigh⟩

/-- Rounding a number gives a canonical one between the neighbours of the exact one. -/
theorem round_eq (sign : Sign) {mantissa : Nat} {exponent : Int} (pos : 0 < mantissa)
    (hleast : -1074 ≤ exponent) :
    ∃ mantissa' exponent' pos',
      UnpackedFloat.round Format.binary64 sign mantissa exponent =
        .finite sign mantissa' exponent' pos' ∧
      Canonical mantissa' exponent' ∧
      Between (mantissa * 2 ^ (exponent + 1074).toNat)
        (mantissa' * 2 ^ (exponent' + 1074).toNat) := by
  obtain ⟨extra, hextra⟩ : ∃ extra,
      extra = (exponent - max (mantissa.log2 + exponent - 52) (-1074)).toNat := ⟨_, rfl⟩
  have hdecrease : UnpackedFloat.round Format.binary64 sign mantissa exponent =
      roundWithAccuracy Format.binary64 sign (mantissa * 2 ^ extra) (exponent - extra) .exact := by
    simp only [UnpackedFloat.round, decreaseExponent, targetExponent_eq, ← hextra, Nat.shiftLeft_eq]
  have hlog : (mantissa * 2 ^ extra).log2 = mantissa.log2 + extra := by
    rw [Nat.log2_eq_iff (Nat.mul_pos pos (Nat.two_pow_pos _)).ne', Nat.pow_add, Nat.add_right_comm,
      Nat.pow_add]
    exact ⟨Nat.mul_le_mul_right _ (Nat.log2_self_le pos.ne'),
      Nat.mul_lt_mul_of_pos_right Nat.lt_log2_self (Nat.two_pow_pos _)⟩
  have hvalue : mantissa * 2 ^ extra * 2 ^ (exponent - extra + 1074).toNat =
      mantissa * 2 ^ (exponent + 1074).toNat := by
    rw [Nat.mul_assoc, ← Nat.pow_add]
    congr 2
    omega
  rw [hdecrease, ← hvalue]
  refine roundWithAccuracy_eq sign
    (max (mantissa.log2 + exponent - 52) (-1074) - (exponent - extra)).toNat
    (Nat.mul_pos pos (Nat.two_pow_pos _)) (by omega) ?_
  rw [hlog]
  omega

/-! ## 2. Sums -/

/-- The whole number of smallest doubles that an unpacked finite double stands for. -/
def units (sign : Sign) (mantissa : Nat) (exponent : Int) : Int :=
  sign.apply (mantissa * 2 ^ (exponent + 1074).toNat : Nat)

/-- A canonical number with too large an exponent is above every double. -/
theorem Canonical.lt_of_exponent {mantissa mantissa' : Nat} {exponent exponent' : Int}
    (h : Canonical mantissa exponent) (h' : Canonical mantissa' exponent') (hbound : exponent ≤ 971)
    (hbig : ¬ exponent' ≤ 971) :
    mantissa * 2 ^ (exponent + 1074).toNat < mantissa' * 2 ^ (exponent' + 1074).toNat := by
  have hfull : 2 ^ 52 ≤ mantissa' := h'.full.resolve_right (by omega)
  calc
    mantissa * 2 ^ (exponent + 1074).toNat < 2 ^ 53 * 2 ^ (exponent + 1074).toNat :=
      Nat.mul_lt_mul_of_pos_right h.lt (Nat.two_pow_pos _)
    _ = 2 ^ 52 * 2 ^ ((exponent + 1074).toNat + 1) := by
      rw [Nat.pow_succ 2 (exponent + 1074).toNat]
      omega
    _ ≤ 2 ^ 52 * 2 ^ (exponent' + 1074).toNat :=
      Nat.mul_le_mul_left _ (Nat.pow_le_pow_right (by decide) (by omega))
    _ ≤ mantissa' * 2 ^ (exponent' + 1074).toNat := Nat.mul_le_mul_right _ hfull

/-- A rounded number that is packed stays on its side of every double. -/
theorem ofPacked_side {exact : Nat} {sign' : Sign} {mantissa' : Nat} {exponent' : Int}
    (pos' : 0 < mantissa') (h' : Canonical mantissa' exponent')
    (hbetween : Between exact (mantissa' * 2 ^ (exponent' + 1074).toNat)) {sign : Sign}
    {mantissa : Nat} {exponent : Int} (h : Canonical mantissa exponent) (hbound : exponent ≤ 971) :
    (units sign mantissa exponent < sign'.apply exact →
      (ofPacked (.finite sign' mantissa' exponent' pos')).lt
        (finite (units sign mantissa exponent)) = false) ∧
    (sign'.apply exact < units sign mantissa exponent →
      (finite (units sign mantissa exponent)).lt
        (ofPacked (.finite sign' mantissa' exponent' pos')) = false) := by
  have hle : mantissa * 2 ^ (exponent + 1074).toNat ≤ exact → _ := hbetween.le_of_le h.lt
  have hlt : exact < mantissa * 2 ^ (exponent + 1074).toNat → _ := hbetween.le_of_lt h.lt
  have hover := h.lt_of_exponent h' hbound
  rw [ofPacked_finite pos' h']
  simp only [units, ofUnpacked]
  generalize mantissa * 2 ^ (exponent + 1074).toNat = double at *
  generalize mantissa' * 2 ^ (exponent' + 1074).toNat = rounded at *
  split <;> cases sign <;> cases sign' <;>
    simp only [Sign.apply, infinite, lt] <;> grind

/-- A sum of whole numbers that is cut down to a double stays on its side of every double. -/
theorem normalize_side (total : Int) {least : Int} (hleast : -1074 ≤ least) (sign : Sign)
    {mantissa : Nat} {exponent : Int} (h : Canonical mantissa exponent) (hbound : exponent ≤ 971) :
    (units sign mantissa exponent < total * 2 ^ (least + 1074).toNat →
      (ofPacked (UnpackedFloat.normalize Format.binary64 total least .positive)).lt
        (finite (units sign mantissa exponent)) = false) ∧
    (total * 2 ^ (least + 1074).toNat < units sign mantissa exponent →
      (finite (units sign mantissa exponent)).lt
        (ofPacked (UnpackedFloat.normalize Format.binary64 total least .positive)) = false) := by
  unfold UnpackedFloat.normalize
  rcases lt_trichotomy total 0 with hneg | rfl | hpos
  · obtain ⟨_, _, pos', heq, hcanonical, hbetween⟩ :=
      round_eq .negative (show 0 < (-total).toNat by omega) hleast
    have hvalue : Sign.apply .negative ((-total).toNat * 2 ^ (least + 1074).toNat : Nat) =
        total * 2 ^ (least + 1074).toNat := by
      rw [Sign.apply, Nat.cast_mul, Int.toNat_of_nonneg (by omega), Int.neg_mul, Int.neg_neg]
      norm_cast
    rw [show compare total 0 = .lt from Int.compare_eq_lt.2 hneg]
    dsimp only
    rw [heq, ← hvalue]
    exact ofPacked_side pos' hcanonical hbetween h hbound
  · rw [show compare (0 : Int) 0 = .eq from rfl]
    dsimp only
    rw [ofPacked_zero, Int.zero_mul]
    simp only [lt, decide_eq_false_iff_not]
    omega
  · obtain ⟨_, _, pos', heq, hcanonical, hbetween⟩ :=
      round_eq .positive (show 0 < total.toNat by omega) hleast
    have hvalue : Sign.apply .positive (total.toNat * 2 ^ (least + 1074).toNat : Nat) =
        total * 2 ^ (least + 1074).toNat := by
      rw [Sign.apply, Nat.cast_mul, Int.toNat_of_nonneg hpos.le]
      norm_cast
    rw [show compare total 0 = .gt from Int.compare_eq_gt.2 hpos]
    dsimp only
    rw [heq, ← hvalue]
    exact ofPacked_side pos' hcanonical hbetween h hbound

/-- Aligning the digits of a number at a smaller exponent keeps what it stands for. -/
theorem decreaseExponent_units (sign : Sign) (mantissa : Nat) {exponent least : Int}
    (hle : least ≤ exponent) (hleast : -1074 ≤ least) :
    sign.apply ((decreaseExponent mantissa exponent least).1 : Nat) * 2 ^ (least + 1074).toNat =
      units sign mantissa exponent := by
  have hpow : 2 ^ (exponent + 1074).toNat =
      2 ^ (exponent - least).toNat * 2 ^ (least + 1074).toNat := by
    rw [← Nat.pow_add]
    congr 1
    omega
  simp only [decreaseExponent, units, Nat.shiftLeft_eq, hpow]
  cases sign <;> simp only [Sign.apply] <;> push_cast <;> ring

/-- The sum of two finite doubles is on the side of the first one that the second one points to. -/
theorem add_finite_side (sign₁ sign₂ : Sign) {mantissa₁ mantissa₂ : Nat}
    {exponent₁ exponent₂ : Int} (pos₁ : 0 < mantissa₁) (pos₂ : 0 < mantissa₂)
    (h₁ : Canonical mantissa₁ exponent₁) (h₂ : Canonical mantissa₂ exponent₂)
    (hbound : exponent₁ ≤ 971) {sum : Place}
    (hsum : sum = ofPacked (UnpackedFloat.add Format.binary64
      (.finite sign₁ mantissa₁ exponent₁ pos₁) (.finite sign₂ mantissa₂ exponent₂ pos₂))) :
    (0 < units sign₂ mantissa₂ exponent₂ →
      sum.lt (finite (units sign₁ mantissa₁ exponent₁)) = false) ∧
    (units sign₂ mantissa₂ exponent₂ < 0 →
      (finite (units sign₁ mantissa₁ exponent₁)).lt sum = false) := by
  have hleast : -1074 ≤ min exponent₁ exponent₂ := Int.le_min.2 ⟨h₁.least, h₂.least⟩
  have hside := normalize_side
    (sign₁.apply ((decreaseExponent mantissa₁ exponent₁ (min exponent₁ exponent₂)).1 : Nat) +
      sign₂.apply ((decreaseExponent mantissa₂ exponent₂ (min exponent₁ exponent₂)).1 : Nat))
    hleast sign₁ h₁ hbound
  rw [Int.add_mul, decreaseExponent_units _ _ (Int.min_le_left _ _) hleast,
    decreaseExponent_units _ _ (Int.min_le_right _ _) hleast] at hside
  rw [hsum]
  exact ⟨fun h => hside.1 (by omega), fun h => hside.2 (by omega)⟩

theorem units_ne_zero (sign : Sign) {mantissa : Nat} (exponent : Int) (pos : 0 < mantissa) :
    units sign mantissa exponent ≠ 0 := by
  have h : 0 < mantissa * 2 ^ (exponent + 1074).toNat := Nat.mul_pos pos (Nat.two_pow_pos _)
  cases sign <;> simp only [units, Sign.apply] <;> omega

/-- A double that is unpacked and packed again stands where it stood. -/
theorem ofPacked_unpack {x : Float} {sign : Sign} {mantissa : Nat} {exponent : Int}
    {pos : 0 < mantissa} (h : x.toModel.unpack = .finite sign mantissa exponent pos) :
    ofPacked (.finite sign mantissa exponent pos) = finite (units sign mantissa exponent) := by
  obtain ⟨hcanonical, hbound⟩ := canonical_of_unpack h
  rw [ofPacked_finite pos hcanonical, if_pos hbound]
  rfl

/-- A sum with an infinite double is that double, or none at all. -/
theorem add_infinity (sign : Sign) (span : UnpackedFloat) :
    ofPacked (UnpackedFloat.add Format.binary64 (.infinity sign) span) = nowhere ∨
      ofPacked (UnpackedFloat.add Format.binary64 (.infinity sign) span) = infinite sign := by
  cases span with
  | notANumber => exact .inl ofPacked_notANumber
  | infinity sign' =>
      rw [UnpackedFloat.add]
      split
      · exact .inr (ofPacked_infinity sign)
      · exact .inl ofPacked_notANumber
  | zero | finite => exact .inr (ofPacked_infinity sign)

/-- Zero adds nothing to a double. -/
theorem add_zero_left (sign : Sign) (span : Float) :
    ofPacked (UnpackedFloat.add Format.binary64 (.zero sign) span.toModel.unpack) =
      ofUnpacked span.toModel.unpack := by
  cases hs : span.toModel.unpack with
  | notANumber => exact ofPacked_notANumber
  | infinity sign' =>
      refine (ofPacked_infinity sign').trans ?_
      cases sign' <;> rfl
  | zero sign' =>
      rw [UnpackedFloat.add]
      split <;> exact ofPacked_zero _
  | finite => exact ofPacked_unpack hs

/-- A sum with something that is not below zero is not below the first summand, and a sum with
something that is not above zero is not above it. Rounding does not change that. -/
theorem add_side (x span : Float) :
    ((ofInt 0).le (ofFloat span) = true → (ofFloat (x.add span)).lt (ofFloat x) = false) ∧
    ((ofFloat span).le (ofInt 0) = true → (ofFloat x).lt (ofFloat (x.add span)) = false) := by
  generalize hsum : ofFloat (x.add span) = sum
  change ofPacked
    (UnpackedFloat.add Format.binary64 x.toModel.unpack span.toModel.unpack) = sum at hsum
  rw [ofFloat_eq_ofUnpacked x, ofFloat_eq_ofUnpacked span,
    show ofInt 0 = finite 0 by rw [ofInt, Int.zero_mul]]
  cases hx : x.toModel.unpack with
  | notANumber =>
      have hnowhere : sum = nowhere := by
        rw [← hsum, hx, UnpackedFloat.add, ofPacked_notANumber]
      subst hnowhere
      exact ⟨fun _ => rfl, fun _ => rfl⟩
  | infinity sign =>
      have hend : sum = nowhere ∨ sum = infinite sign := by
        rw [← hsum, hx]
        exact add_infinity sign span.toModel.unpack
      rcases hend with rfl | rfl <;> cases sign <;> exact ⟨fun _ => rfl, fun _ => rfl⟩
  | zero sign =>
      have hspan : sum = ofUnpacked span.toModel.unpack := by
        rw [← hsum, hx, add_zero_left]
      rw [hspan]
      exact ⟨not_lt_of_le, not_lt_of_le⟩
  | finite sign mantissa exponent pos =>
      obtain ⟨hcanonical, hbound⟩ := canonical_of_unpack hx
      rw [hx] at hsum
      cases hs : span.toModel.unpack with
      | notANumber =>
          obtain rfl : nowhere = sum := by
            rw [← hsum, hs]
            exact ofPacked_notANumber.symm
          exact ⟨fun _ => rfl, fun _ => rfl⟩
      | infinity sign' =>
          obtain rfl : infinite sign' = sum := by
            rw [← hsum, hs]
            exact (ofPacked_infinity sign').symm
          cases sign' <;> simp [ofUnpacked, infinite, lt, le, same]
      | zero sign' =>
          obtain rfl : ofUnpacked (.finite sign mantissa exponent pos) = sum := by
            rw [← hsum, hs]
            exact (ofPacked_unpack hx).symm
          exact ⟨fun _ => lt_irrefl _, fun _ => lt_irrefl _⟩
      | finite sign' mantissa' exponent' pos' =>
          -- only here is anything rounded
          rw [hs] at hsum
          obtain ⟨habove, hbelow⟩ := add_finite_side sign sign' pos pos' hcanonical
            (canonical_of_unpack hs).1 hbound hsum.symm
          have hne := units_ne_zero sign' exponent' pos'
          refine ⟨fun h => habove ?_, fun h => hbelow ?_⟩
          · exact lt_of_le_of_ne (finite_le.1 h) hne.symm
          · exact lt_of_le_of_ne (finite_le.1 h) hne

theorem add_nowhere {x span : Float} (h : ofFloat x = nowhere ∨ ofFloat span = nowhere) :
    ofFloat (x.add span) = nowhere := by
  have hnan {y : Float} (hy : ofFloat y = nowhere) : y.toModel.unpack = .notANumber := by
    rw [ofFloat_eq_ofUnpacked] at hy
    cases hs : y.toModel.unpack with
    | notANumber => rfl
    | infinity sign => cases sign <;> simp [hs, ofUnpacked] at hy
    | zero | finite => simp [hs, ofUnpacked] at hy
  change ofPacked
    (UnpackedFloat.add Format.binary64 x.toModel.unpack span.toModel.unpack) = nowhere
  rcases h with hx | hspan
  · rw [hnan hx]
    exact ofPacked_notANumber
  · rw [hnan hspan]
    cases x.toModel.unpack <;> exact ofPacked_notANumber

end Place

end DetectorSearch
