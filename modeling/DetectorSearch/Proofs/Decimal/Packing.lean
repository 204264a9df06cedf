import DetectorSearch.Decimal.Exact
import Mathlib

/-!
# Packed doubles and their places

A double is packed in 64 bits: a sign, an exponent and the digits behind the
first one. Arithmetic unpacks its operands, works on digits and exponents, and
packs the result. A place is read from the bits, so arithmetic is compared with
places through the unpacked form.

Results:
1. `ofFloat_eq_ofUnpacked`: the place read from the bits is the place of the
   unpacked double.
2. `canonical_of_unpack`: an unpacked double has all its 53 digits, unless it
   is among the smallest.
3. `ofPacked_finite`: a canonical double is packed without loss, or as infinite
   when its exponent is too large.
-/

namespace DetectorSearch

open Float.Model Float.Model.UnpackedFloat

namespace Place

/-! ## Definitions -/

/-- The place of an unpacked double. -/
def ofUnpacked : UnpackedFloat → Place
  | .notANumber => nowhere
  | .infinity .negative => bottom
  | .infinity .positive => top
  | .zero _ => finite 0
  | .finite sign mantissa exponent _ =>
      finite (sign.apply (mantissa * 2 ^ (exponent + 1074).toNat : Nat))

/-- The place of an unpacked double after it is packed. -/
def ofPacked (unpacked : UnpackedFloat) : Place :=
  ofFloat (.ofModel (Float.Model.pack unpacked))

/-- The place at the end of the line on the side of a sign. -/
def infinite : Sign → Place
  | .negative => bottom
  | .positive => top

/-- An unpacked double has at most 53 digits, and all of them unless it is among the smallest. -/
structure Canonical (mantissa : Nat) (exponent : Int) : Prop where
  pos : 0 < mantissa
  lt : mantissa < 2 ^ 53
  least : -1074 ≤ exponent
  full : 2 ^ 52 ≤ mantissa ∨ exponent = -1074

namespace PackingLemmas

theorem mantissa_toNat (b : BitVec 64) :
    (@unpackMantissa Format.binary64 b).toNat = b.toNat % 2 ^ 52 := by
  simp [unpackMantissa, BitVec.extractLsb_toNat]

theorem exponent_toNat (b : BitVec 64) :
    (@unpackExponent Format.binary64 b).toNat = b.toNat / 2 ^ 52 % 2 ^ 11 := by
  simp [unpackExponent, BitVec.extractLsb_toNat, Nat.shiftRight_eq_div_pow]

theorem sign_toNat (b : BitVec 64) :
    (@unpackSign Format.binary64 b).toNat = b.toNat / 2 ^ 63 := by
  have := b.isLt
  simp [unpackSign, BitVec.extractLsb_toNat, Nat.shiftRight_eq_div_pow]
  omega

theorem sign_eq (b : BitVec 64) :
    Sign.ofBitVec (@unpackSign Format.binary64 b) =
      if b.toNat / 2 ^ 63 = 1 then .negative else .positive := by
  have h := sign_toNat b
  have hb := b.isLt
  unfold Sign.ofBitVec
  by_cases hs : b.toNat / 2 ^ 63 = 1
  · rw [if_pos hs, if_neg]
    intro he
    rw [he, hs] at h
    exact absurd h (by decide)
  · rw [if_neg hs, if_pos]
    apply BitVec.eq_of_toNat_eq
    rw [h, BitVec.toNat_ofNat]
    omega

theorem toNat_append_one {width : Nat} (b : BitVec width) :
    (1#1 ++ b).toNat = b.toNat + 2 ^ width := by
  rw [BitVec.toNat_append, ← Nat.shiftLeft_add_eq_or_of_lt b.isLt, Nat.shiftLeft_eq, Nat.add_comm]
  simp

theorem sign_packComponents (sign : Sign) (exponent : BitVec 11) (mantissa : BitVec 52) :
    Sign.ofBitVec (@unpackSign Format.binary64
      (packComponents Format.binary64 sign exponent mantissa)) = sign := by
  rw [sign_eq]
  have hm := mantissa.isLt
  have he := exponent.isLt
  have hb : (packComponents Format.binary64 sign exponent mantissa).toNat =
      (sign.toBitVec.toNat * 2 ^ 11 + exponent.toNat) * 2 ^ 52 + mantissa.toNat := by
    rw [packComponents, BitVec.toNat_append, BitVec.toNat_append,
      ← Nat.shiftLeft_add_eq_or_of_lt he, ← Nat.shiftLeft_add_eq_or_of_lt hm, Nat.shiftLeft_eq,
      Nat.shiftLeft_eq]
  rw [hb]
  cases sign
  · have hs : Sign.negative.toBitVec.toNat = 1 := rfl
    rw [if_pos (by omega)]
  · have hs : Sign.positive.toBitVec.toNat = 0 := rfl
    rw [if_neg (by omega)]

end PackingLemmas

open PackingLemmas

/-- What the components of a packed double stand for. All bits of the exponent are set in those that
are not finite, and none in the smallest ones, which have no first digit to add. -/
theorem ofUnpacked_unpack (b : BitVec 64) :
    ofUnpacked (UnpackedFloat.unpack Format.binary64 b) =
      if @unpackExponent Format.binary64 b = -1#11 then
        if @unpackMantissa Format.binary64 b = 0#52 then
          infinite (Sign.ofBitVec (@unpackSign Format.binary64 b))
        else nowhere
      else finite ((Sign.ofBitVec (@unpackSign Format.binary64 b)).apply
        (if @unpackExponent Format.binary64 b = 0#11 then
          (@unpackMantissa Format.binary64 b).toNat
        else ((@unpackMantissa Format.binary64 b).toNat + 2 ^ 52) *
          2 ^ ((@unpackExponent Format.binary64 b).toNat - 1) : Nat)) := by
  unfold UnpackedFloat.unpack
  by_cases hmax : @unpackExponent Format.binary64 b = -1#11
  · rw [if_pos hmax, if_pos hmax]
    by_cases hz : @unpackMantissa Format.binary64 b = 0#52
    · rw [if_pos hz, if_pos hz]
      cases Sign.ofBitVec (@unpackSign Format.binary64 b) <;> rfl
    · rw [if_neg hz, if_neg hz]
      rfl
  · rw [if_neg hmax, if_neg hmax]
    by_cases hzero : @unpackExponent Format.binary64 b = 0#11
    · rw [if_pos hzero, if_pos hzero]
      by_cases hz : @unpackMantissa Format.binary64 b = 0#52
      · rw [dif_pos hz, hz]
        cases Sign.ofBitVec (@unpackSign Format.binary64 b) <;> rfl
      · rw [dif_neg hz, hzero]
        simp [ofUnpacked, Format.exponentBias]
    · have hzero' : (@unpackExponent Format.binary64 b).toNat ≠ 0 :=
        fun h => hzero (BitVec.eq_of_toNat_eq h)
      have hshift : ((@unpackExponent Format.binary64 b).toNat -
          ((Format.binary64.exponentBias : Int) + (52 : Nat)) + 1074).toNat =
          (@unpackExponent Format.binary64 b).toNat - 1 := by
        simp only [Format.exponentBias]
        omega
      rw [if_neg hzero, if_neg hzero]
      simp only [ofUnpacked, hshift, toNat_append_one]

theorem ofFloat_eq_ofUnpacked (x : Float) : ofFloat x = ofUnpacked x.toModel.unpack := by
  have hm := mantissa_toNat x.toModel.toBits.toBitVec
  have he := exponent_toNat x.toModel.toBits.toBitVec
  have hs := sign_eq x.toModel.toBits.toBitVec
  have hbits : x.toBits.toNat = x.toModel.toBits.toBitVec.toNat := rfl
  have htwo : ∀ n, twoTo n = 2 ^ n := fun _ => rfl
  rw [Float.Model.unpack, ofUnpacked_unpack, hs]
  simp only [ofFloat, DoubleFields.ofFloat, DoubleFields.significand, DoubleFields.shift, htwo,
    hbits, ← he, ← hm, decide_eq_true_eq]
  -- the fields are numbers on the left, and bits on the right
  generalize @unpackExponent Format.binary64 x.toModel.toBits.toBitVec = exponent
  generalize @unpackMantissa Format.binary64 x.toModel.toBits.toBitVec = mantissa
  have hmax : exponent = -1#11 ↔ exponent.toNat = 2047 := BitVec.toNat_inj.symm
  have hzero : exponent = 0#11 ↔ exponent.toNat = 0 := BitVec.toNat_inj.symm
  have hempty : mantissa = 0#52 ↔ mantissa.toNat = 0 := BitVec.toNat_inj.symm
  simp only [hmax, hzero, hempty]
  generalize x.toModel.toBits.toBitVec.toNat / 2 ^ 63 = sign
  by_cases hsign : sign = 1
  · rw [if_pos hsign, if_pos hsign, if_pos hsign]
    by_cases h : exponent.toNat = 0 <;> simp [h, infinite, Sign.apply]
  · rw [if_neg hsign, if_neg hsign, if_neg hsign]
    by_cases h : exponent.toNat = 0 <;> simp [h, infinite, Sign.apply]

theorem canonical_of_unpack {x : Float} {sign : Sign} {mantissa : Nat} {exponent : Int}
    {pos : 0 < mantissa} (h : x.toModel.unpack = .finite sign mantissa exponent pos) :
    Canonical mantissa exponent ∧ exponent ≤ 971 := by
  have hm := (@unpackMantissa Format.binary64 x.toModel.toBits.toBitVec).isLt
  have he := (@unpackExponent Format.binary64 x.toModel.toBits.toBitVec).isLt
  unfold Float.Model.unpack UnpackedFloat.unpack at h
  simp only [Format.exponentBias, toNat_append_one] at h hm he
  split at h
  · split at h <;> cases h
  · next hmax =>
    have hmax' : (@unpackExponent Format.binary64 x.toModel.toBits.toBitVec).toNat ≠ 2047 :=
      fun h => hmax (BitVec.eq_of_toNat_eq h)
    split at h
    · next hzero =>
      split at h
      · cases h
      · simp only [UnpackedFloat.finite.injEq, hzero] at h
        obtain ⟨-, rfl, rfl⟩ := h
        exact ⟨⟨pos, by omega, by decide, .inr (by decide)⟩, by decide⟩
    · next hzero =>
      have hzero' : (@unpackExponent Format.binary64 x.toModel.toBits.toBitVec).toNat ≠ 0 :=
        fun h => hzero (BitVec.eq_of_toNat_eq h)
      simp only [UnpackedFloat.finite.injEq] at h
      obtain ⟨-, rfl, rfl⟩ := h
      exact ⟨⟨pos, by omega, by omega, .inl (by omega)⟩, by omega⟩

/-- Packed components hold a finite number unless all bits of the exponent are set. -/
theorem ofUnpacked_unpack_packComponents (sign : Sign) (exponent : BitVec 11)
    (mantissa : BitVec 52) (h : exponent ≠ -1#11) :
    ofUnpacked (UnpackedFloat.unpack Format.binary64
      (packComponents Format.binary64 sign exponent mantissa)) =
      finite (sign.apply (if exponent = 0#11 then mantissa.toNat
        else (mantissa.toNat + 2 ^ 52) * 2 ^ (exponent.toNat - 1) : Nat)) := by
  rw [ofUnpacked_unpack, unpackExponent_packComponents, unpackMantissa_packComponents,
    sign_packComponents, if_neg h]

theorem ofPacked_eq (unpacked : UnpackedFloat) :
    ofPacked unpacked = ofUnpacked (UnpackedFloat.unpack Format.binary64
      (UnpackedFloat.pack Format.binary64 unpacked)) :=
  ofFloat_eq_ofUnpacked _

theorem ofPacked_notANumber : ofPacked .notANumber = nowhere := by
  decide

theorem ofPacked_zero (sign : Sign) : ofPacked (.zero sign) = finite 0 := by
  cases sign <;> decide

theorem ofPacked_infinity (sign : Sign) : ofPacked (.infinity sign) = infinite sign := by
  cases sign <;> decide

/-- A canonical double is packed as it is, or as infinite when its exponent is too large. -/
theorem ofPacked_finite {sign : Sign} {mantissa : Nat} {exponent : Int} (pos : 0 < mantissa)
    (h : Canonical mantissa exponent) :
    ofPacked (.finite sign mantissa exponent pos) =
      if exponent ≤ 971 then ofUnpacked (.finite sign mantissa exponent pos)
      else infinite sign := by
  have hlog : mantissa.log2 + 1 = 53 ↔ 2 ^ 52 ≤ mantissa := by
    rw [← Nat.le_log2 (Nat.ne_of_gt pos)]
    have := (Nat.log2_lt (Nat.ne_of_gt pos)).2 h.lt
    omega
  have hleast := h.least
  have hlt := h.lt
  rw [ofPacked_eq]
  change ofUnpacked (UnpackedFloat.unpack Format.binary64
    (if 2 ^ 11 ≤ (exponent + (1023 : Nat) + (52 : Nat)).toNat + 1 then
      packedInfinity Format.binary64 sign
    else if mantissa.log2 + 1 = 53 then
      packComponents Format.binary64 sign
        (BitVec.ofNat 11 (exponent + (1023 : Nat) + (52 : Nat)).toNat) (BitVec.ofNat 52 mantissa)
    else packComponents Format.binary64 sign 0#11 (BitVec.ofNat 52 mantissa))) = _
  by_cases hbig : exponent ≤ 971
  · rw [if_pos hbig, if_neg (by omega)]
    by_cases hfull : 2 ^ 52 ≤ mantissa
    · have hexponent : (BitVec.ofNat 11 (exponent + (1023 : Nat) + (52 : Nat)).toNat).toNat =
          (exponent + 1074).toNat + 1 := by
        rw [BitVec.toNat_ofNat, Nat.mod_eq_of_lt (by omega)]
        omega
      have hmantissa : (BitVec.ofNat 52 mantissa).toNat + 2 ^ 52 = mantissa := by
        rw [BitVec.toNat_ofNat]
        omega
      have hzero : BitVec.ofNat 11 (exponent + (1023 : Nat) + (52 : Nat)).toNat ≠ 0#11 :=
        fun h => absurd (congrArg BitVec.toNat h) (by rw [hexponent]; simp)
      have hmax : BitVec.ofNat 11 (exponent + (1023 : Nat) + (52 : Nat)).toNat ≠ -1#11 :=
        fun h => absurd (congrArg BitVec.toNat h) (by rw [hexponent]; simp; omega)
      rw [if_pos (hlog.2 hfull), ofUnpacked_unpack_packComponents _ _ _ hmax, if_neg hzero,
        hmantissa, hexponent]
      rfl
    · have hexponent : exponent = -1074 := h.full.resolve_left hfull
      have hmantissa : (BitVec.ofNat 52 mantissa).toNat = mantissa := by
        rw [BitVec.toNat_ofNat, Nat.mod_eq_of_lt (by omega)]
      rw [if_neg (mt hlog.1 hfull), ofUnpacked_unpack_packComponents _ _ _ (by decide), if_pos rfl,
        hmantissa, ofUnpacked, hexponent]
      simp
  · rw [if_neg hbig, if_pos (by omega)]
    exact (ofPacked_eq (.infinity sign)).symm.trans (ofPacked_infinity sign)

end Place

end DetectorSearch
