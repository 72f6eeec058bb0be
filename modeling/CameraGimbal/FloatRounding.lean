/-
This file is a library on rounding in single precision. What an operation computes is the number of
the format that is nearest to the exact result. Two things follow that bounds on a calculation need:
rounding does not cross a number that the format has, and as long as the result is below two to the
number of mantissa bits it moves a number by at most a half.
-/

import CameraGimbal.FloatOrder

namespace SinglePrecision

open Float.Model Float.Model.UnpackedFloat

/-! ### What a mantissa stands for -/

/-- The exact number is the mantissa, or lies below, at or above the middle of the mantissa and the
next one; the two further bits say which. -/
def Stands (extended : ExtendedMantissa) (exact : Rat) : Prop :=
  match extended.roundBit, extended.stickyBit with
  | false, false => exact = extended.mantissa
  | false, true => extended.mantissa < exact ∧ exact < extended.mantissa + 1 / 2
  | true, false => exact = extended.mantissa + 1 / 2
  | true, true => extended.mantissa + 1 / 2 < exact ∧ exact < extended.mantissa + 1

theorem stands_exact (mantissa : Nat) :
    Stands (.ofMantissaAndAccuracy mantissa .exact) mantissa := rfl

variable {extended : ExtendedMantissa} {exact : Rat}

theorem Stands.floor (stands : Stands extended exact) :
    (extended.mantissa : Rat) ≤ exact ∧ exact < extended.mantissa + 1 := by
  obtain ⟨mantissa, roundBit, stickyBit⟩ := extended
  cases roundBit with
  | false =>
    cases stickyBit with
    | false =>
      have same : exact = mantissa := stands
      exact ⟨same.ge, by linarith⟩
    | true =>
      have ⟨above, below⟩ : (mantissa : Rat) < exact ∧ exact < mantissa + 1 / 2 := stands
      exact ⟨above.le, by linarith⟩
  | true =>
    cases stickyBit with
    | false =>
      have same : exact = mantissa + 1 / 2 := stands
      exact ⟨by linarith, by linarith⟩
    | true =>
      have ⟨above, below⟩ : (mantissa : Rat) + 1 / 2 < exact ∧ exact < mantissa + 1 := stands
      exact ⟨by linarith, below⟩

/-- Dropping one bit of the mantissa halves the number. -/
theorem Stands.shiftRightOne (stands : Stands extended exact) :
    Stands extended.shiftRightOne (exact / 2) := by
  obtain ⟨mantissa, roundBit, stickyBit⟩ := extended
  have halves : (mantissa : Rat) =
      2 * (mantissa / 2 : Nat) + bif mantissa % 2 != 0 then 1 else 0 := by
    have split : (mantissa : Rat) = 2 * (mantissa / 2 : Nat) + (mantissa % 2 : Nat) := by
      exact_mod_cast (Nat.div_add_mod mantissa 2).symm
    rcases Nat.mod_two_eq_zero_or_one mantissa with same | same <;> simpa [same] using split
  unfold ExtendedMantissa.shiftRightOne
  generalize (mantissa % 2 != 0) = bit at halves ⊢
  cases bit <;> cases roundBit <;> cases stickyBit <;>
    simp only [Stands, Bool.or_false, Bool.or_true, halves, cond_true, cond_false, add_zero]
      at stands ⊢ <;>
    first
    | linarith only [stands]
    | exact ⟨by linarith only [stands], by linarith only [stands]⟩

theorem Stands.shiftRight (stands : Stands extended exact) (count : Nat) :
    Stands (extended >>> count) (exact / 2 ^ count) := by
  induction count with
  | zero =>
    rw [pow_zero, div_one]
    exact stands
  | succ fewer hypothesis =>
    rw [pow_succ, ← div_div]
    exact hypothesis.shiftRightOne

/-- A natural number that is nearest to an exact number: no other natural number lies between
them, and it is at most a half away. -/
structure Nearest (exact : Rat) (rounded : Nat) : Prop where
  least : ∀ number : Nat, (number : Rat) ≤ exact → number ≤ rounded
  most : ∀ number : Nat, exact ≤ number → rounded ≤ number
  half : |(rounded : Rat) - exact| ≤ 1 / 2

variable {mantissa : Nat}

/-- A number that stays when it is rounded down. -/
theorem nearest_down (least : (mantissa : Rat) ≤ exact) (most : exact ≤ mantissa + 1 / 2) :
    Nearest exact mantissa := by
  refine ⟨fun number below => ?_, fun number above => ?_, ?_⟩
  · have less : (number : Rat) < mantissa + 1 := by linarith
    exact Nat.lt_succ_iff.mp (by exact_mod_cast less)
  · exact_mod_cast least.trans above
  · rw [abs_le]
    exact ⟨by linarith, by linarith⟩

/-- A number that is rounded up. -/
theorem nearest_up (least : (mantissa : Rat) + 1 / 2 ≤ exact) (most : exact < mantissa + 1) :
    Nearest exact (mantissa + 1) := by
  refine ⟨fun number below => ?_, fun number above => ?_, ?_⟩
  · have less : (number : Rat) < mantissa + 1 := by linarith
    exact (Nat.lt_succ_iff.mp (by exact_mod_cast less)).trans (Nat.le_succ _)
  · have less : (mantissa : Rat) < number := by linarith
    exact_mod_cast less
  · push_cast
    rw [abs_le]
    exact ⟨by linarith, by linarith⟩

theorem Stands.nearest (stands : Stands extended exact) :
    Nearest exact extended.roundedMantissa := by
  obtain ⟨mantissa, roundBit, stickyBit⟩ := extended
  cases roundBit with
  | false =>
    cases stickyBit with
    | false =>
      have same : exact = mantissa := stands
      show Nearest exact mantissa
      exact nearest_down same.ge (by linarith)
    | true =>
      have ⟨above, below⟩ : (mantissa : Rat) < exact ∧ exact < mantissa + 1 / 2 := stands
      exact nearest_down above.le below.le
  | true =>
    cases stickyBit with
    | false =>
      -- in the middle the even one of the two is taken
      have same : exact = mantissa + 1 / 2 := stands
      show Nearest exact (mantissa + mantissa % 2)
      rcases Nat.mod_two_eq_zero_or_one mantissa with even | odd
      · rw [even, add_zero]
        exact nearest_down (by linarith) same.le
      · rw [odd]
        exact nearest_up same.ge (by linarith)
    | true =>
      have ⟨above, below⟩ : (mantissa : Rat) + 1 / 2 < exact ∧ exact < mantissa + 1 := stands
      exact nearest_up above.le below

/-! ### The format -/

/-- The exponent that the format gives a mantissa. -/
theorem targetExponent_eq (mantissa : Nat) (exponent : Int) :
    Format.binary32.targetExponent (totalExponent mantissa exponent) =
      max (mantissa.log2 - 23 + exponent) (-149) := by
  show max ((mantissa.log2 : Int) + 1 + exponent - (24 : Nat)) (-149) = _
  congr 1
  omega

theorem shiftToTargetExponent_eq {mantissa : Nat} {exponent place : Int} {accuracy : Accuracy}
    (isPlace : max (mantissa.log2 - 23 + exponent) (-149) = place) (above : exponent ≤ place) :
    shiftToTargetExponent Format.binary32 mantissa exponent accuracy =
      (ExtendedMantissa.ofMantissaAndAccuracy mantissa accuracy >>> (place - exponent).toNat,
        place) := by
  unfold shiftToTargetExponent shiftToExponent
  simp only [targetExponent_eq, isPlace]
  rw [Int.toNat_of_nonneg (by omega)]
  congr 1
  omega

/-- A mantissa and an exponent that a positive number is rounded to. The mantissa may be the first
one that does not fit. -/
structure Fitting (size : Rat) (rounded : Nat) (place : Int) : Prop where
  nonneg : 0 ≤ size
  low : -149 ≤ place
  nearest : Nearest (size / 2 ^ place) rounded
  fits : size / 2 ^ place < 2 ^ 24
  full : place = -149 ∨ 2 ^ 23 ≤ size / 2 ^ place

variable {size : Rat} {rounded : Nat} {place : Int}

theorem Fitting.rounded_le (fitting : Fitting size rounded place) : rounded ≤ 2 ^ 24 :=
  fitting.nearest.most _ (by exact_mod_cast fitting.fits.le)

theorem Fitting.le_rounded (fitting : Fitting size rounded place) :
    place = -149 ∨ 2 ^ 23 ≤ rounded :=
  fitting.full.imp_right fun full => fitting.nearest.least _ (by exact_mod_cast full)

/-- The number with a mantissa and an exponent as they are after rounding. -/
def kept (sign : Sign) (rounded : Nat) (place : Int) : UnpackedFloat :=
  if isZero : rounded = 0 then .zero sign
  else if rounded < 2 ^ 24 then .finite sign rounded place (Nat.pos_of_ne_zero isZero)
  else .finite sign (2 ^ 23) (place + 1) (Nat.two_pow_pos 23)

variable {sign : Sign}

/-- The second shift leaves a mantissa that fits, and drops a zero from one that does not. -/
theorem shift_rounded (fitting : Fitting size rounded place) :
    (if isZero : (shiftToTargetExponent Format.binary32 rounded place .exact).1.mantissa = 0 then
      UnpackedFloat.zero sign else
      .finite sign (shiftToTargetExponent Format.binary32 rounded place .exact).1.mantissa
        (shiftToTargetExponent Format.binary32 rounded place .exact).2
        (Nat.pos_of_ne_zero isZero)) = kept sign rounded place := by
  have low := fitting.low
  by_cases inside : rounded < 2 ^ 24
  · have isPlace : max (rounded.log2 - 23 + place) (-149) = place := by
      by_cases isZero : rounded = 0
      · have least := fitting.le_rounded
        rw [isZero, Nat.log2_zero]
        omega
      · have most : rounded.log2 < 24 := (Nat.log2_lt isZero).mpr inside
        rcases fitting.le_rounded with least | full
        · omega
        · have atLeast : 23 ≤ rounded.log2 := (Nat.le_log2 isZero).mpr full
          omega
    have stays : (ExtendedMantissa.ofMantissaAndAccuracy rounded .exact >>> 0).mantissa =
        rounded := rfl
    simp only [shiftToTargetExponent_eq isPlace le_rfl, Int.sub_self, Int.toNat_zero, stays]
    unfold kept
    simp only [if_pos inside]
  · have isFull : rounded = 2 ^ 24 := by have := fitting.rounded_le; omega
    have isPlace : max ((2 ^ 24).log2 - 23 + place) (-149) = place + 1 := by
      rw [Nat.log2_two_pow]
      omega
    have one : (place + 1 - place).toNat = 1 := by omega
    have halved : (ExtendedMantissa.ofMantissaAndAccuracy (2 ^ 24) .exact >>> 1).mantissa =
        2 ^ 23 := rfl
    rw [isFull]
    simp only [shiftToTargetExponent_eq isPlace (by omega), one, halved]
    rfl

theorem div_zpow_add (exact : Rat) (exponent : Int) (count : Nat) :
    exact * 2 ^ exponent / 2 ^ (exponent + count) = exact / 2 ^ count := by
  have power : (2 : Rat) ^ exponent ≠ 0 := zpow_ne_zero exponent (by norm_num)
  rw [zpow_add₀ (by norm_num), zpow_natCast, mul_comm, mul_div_mul_left _ _ power]

variable {exponent : Int}

/-- The mantissa and the exponent that a number is rounded to, as long as the mantissa has enough
bits for the format. -/
theorem roundWithAccuracy_kept {accuracy : Accuracy} (enough : 2 ^ 23 ≤ mantissa ∨ exponent ≤ -149)
    (stands : Stands (.ofMantissaAndAccuracy mantissa accuracy) exact) (sign : Sign) :
    ∃ rounded place, Fitting (exact * 2 ^ exponent) rounded place ∧
      roundWithAccuracy Format.binary32 sign mantissa exponent accuracy =
        kept sign rounded place := by
  have same : (ExtendedMantissa.ofMantissaAndAccuracy mantissa accuracy).mantissa = mantissa := by
    cases accuracy with
    | exact => rfl
    | inexact order => cases order <;> rfl
  have bits : 2 ^ 23 ≤ mantissa → 23 ≤ mantissa.log2 := fun full =>
    (Nat.le_log2 (by omega)).mpr full
  obtain ⟨count, isCount⟩ : ∃ count : Nat,
      max (mantissa.log2 - 23 + exponent) (-149) = exponent + count :=
    ⟨(max (mantissa.log2 - 23 + exponent) (-149) - exponent).toNat, by omega⟩
  have shifted := @shiftToTargetExponent_eq _ _ _ accuracy isCount (by omega)
  have amount : (exponent + count - exponent).toNat = count := by omega
  rw [amount] at shifted
  have fitting : Fitting (exact * 2 ^ exponent)
      (ExtendedMantissa.ofMantissaAndAccuracy mantissa accuracy >>> count).roundedMantissa
      (exponent + count) := by
    have ⟨least, most⟩ := stands.floor
    rw [same] at least most
    have power : (0 : Rat) < 2 ^ count := pow_pos (by norm_num) count
    have nonneg : 0 ≤ exact * 2 ^ exponent :=
      mul_nonneg ((Nat.cast_nonneg mantissa).trans least) (zpow_nonneg (by norm_num) exponent)
    refine ⟨nonneg, by omega, ?_, ?_, ?_⟩
    · rw [div_zpow_add]
      exact (stands.shiftRight count).nearest
    · have below : mantissa + 1 ≤ 2 ^ (24 + count) :=
        calc mantissa + 1 ≤ 2 ^ (mantissa.log2 + 1) := Nat.lt_log2_self
          _ ≤ 2 ^ (24 + count) := Nat.pow_le_pow_right (by decide) (by omega)
      have belowRat : (mantissa : Rat) + 1 ≤ 2 ^ 24 * 2 ^ count := by
        rw [← pow_add]
        exact_mod_cast below
      rw [div_zpow_add, div_lt_iff₀ power]
      exact most.trans_le belowRat
    · by_cases isLow : exponent + count = -149
      · exact .inl isLow
      · right
        have nonzero : mantissa ≠ 0 := fun isZero => by
          rw [isZero, Nat.log2_zero] at isCount
          rcases enough with full | low
          · omega
          · omega
        have full : 2 ^ (23 + count) ≤ mantissa :=
          calc 2 ^ (23 + count) = 2 ^ mantissa.log2 := by congr 1; omega
            _ ≤ mantissa := Nat.log2_self_le nonzero
        have fullRat : (2 : Rat) ^ 23 * 2 ^ count ≤ mantissa := by
          rw [← pow_add]
          exact_mod_cast full
        rw [div_zpow_add, le_div_iff₀ power]
        exact fullRat.trans least
  refine ⟨_, _, fitting, ?_⟩
  rw [← shift_rounded fitting]
  unfold roundWithAccuracy
  rw [shifted]

/-! ### Packing -/

/-- A number that does not use all bits of its mantissa comes back from its packed form. -/
theorem unpack_pack_subnormal (positive : 0 < mantissa) (small : mantissa < 2 ^ 23) :
    (Float32.Model.pack (.finite sign mantissa (-149) positive)).unpack =
      .finite sign mantissa (-149) positive := by
  have bits : mantissa.log2 < 23 := (Nat.log2_lt positive.ne').mpr small
  have packed : UnpackedFloat.pack Format.binary32 (.finite sign mantissa (-149) positive) =
      packComponents Format.binary32 sign (0#8) (BitVec.ofNat 23 mantissa) := by
    have notNormal : ¬ mantissa.log2 + 1 = 24 := by omega
    exact if_neg notNormal
  have back : (BitVec.ofNat 23 mantissa).toNat = mantissa := by
    rw [BitVec.toNat_ofNat, Nat.mod_eq_of_lt small]
  have nonzero : BitVec.ofNat 23 mantissa ≠ 0#23 := fun same => by
    have values := congrArg BitVec.toNat same
    rw [back] at values
    exact positive.ne' values
  have finite : 0#8 ≠ -1#8 := by decide
  have signBit : Sign.ofBitVec sign.toBitVec = sign := by
    cases sign with
    | positive => rfl
    | negative => rfl
  show UnpackedFloat.unpack Format.binary32 (UnpackedFloat.pack Format.binary32 _) = _
  rw [packed]
  unfold UnpackedFloat.unpack
  simp only [unpackExponent_packComponents, unpackMantissa_packComponents, if_neg finite,
    if_true, dif_neg nonzero, back]
  rw [unpackSign_packComponents, signBit]
  congr 1

theorem unpack_pack_canonical (canonical : Canonical mantissa exponent) :
    (Float32.Model.pack (.finite sign mantissa exponent canonical.positive)).unpack =
      .finite sign mantissa exponent canonical.positive := by
  by_cases full : 2 ^ 23 ≤ mantissa
  · exact unpack_pack canonical.positive full canonical.fits canonical.low canonical.high
  · obtain rfl := canonical.full.resolve_left full
    exact unpack_pack_subnormal canonical.positive (not_le.mp full)

theorem unpack_pack_zero (sign : Sign) : (Float32.Model.pack (.zero sign)).unpack = .zero sign := by
  cases sign with
  | positive => rfl
  | negative => rfl

/-- A number that is too large is packed as infinite. -/
theorem unpack_pack_large (positive : 0 < mantissa) (large : 104 < exponent) :
    (Float32.Model.pack (.finite sign mantissa exponent positive)).unpack = .infinity sign := by
  have packed : UnpackedFloat.pack Format.binary32 (.finite sign mantissa exponent positive) =
      packedInfinity Format.binary32 sign := by
    show (if 2 ^ 8 ≤ (exponent + (127 : Nat) + (23 : Nat)).toNat + 1 then _ else _) = _
    rw [if_pos (by omega)]
  show UnpackedFloat.unpack Format.binary32 (UnpackedFloat.pack Format.binary32 _) = _
  rw [packed]
  cases sign with
  | positive => rfl
  | negative => rfl

/-! ### Signs -/

/-- A size with a sign. -/
def signed (sign : Sign) (size : Rat) : Rat :=
  match sign with
  | .positive => size
  | .negative => -size

theorem signedValue_eq (sign : Sign) (mantissa : Nat) (exponent : Int) :
    signedValue sign mantissa exponent = signed sign (mantissa * 2 ^ exponent) := by
  cases sign with
  | positive => exact signedValue_positive mantissa exponent
  | negative => exact signedValue_negative mantissa exponent

theorem signed_neg (sign : Sign) (size : Rat) : signed (-sign) size = -signed sign size := by
  cases sign with
  | positive => rfl
  | negative => exact (neg_neg size).symm

theorem abs_signed (sign : Sign) (size : Rat) : |signed sign size| = |size| := by
  cases sign with
  | positive => rfl
  | negative => exact abs_neg size

/-- What is known of a number with this unpacked form. -/
theorem of_unpack_finite {x : Float32} {sign : Sign} {mantissa : Nat} {exponent : Int}
    {positive : 0 < mantissa}
    (unpacked : x.toModel.unpack = .finite sign mantissa exponent positive) :
    x.isFinite = true ∧ value x = signed sign (mantissa * 2 ^ exponent) := by
  constructor
  · show x.toModel.unpack.isFinite = true
    rw [unpacked]
    rfl
  · unfold value
    rw [unpacked]
    exact signedValue_eq sign mantissa exponent

variable {x : Float32}

theorem of_unpack_zero (unpacked : x.toModel.unpack = .zero sign) :
    x.isFinite = true ∧ value x = 0 := by
  constructor
  · show x.toModel.unpack.isFinite = true
    rw [unpacked]
    rfl
  · unfold value
    rw [unpacked]

theorem toModel_neg (x : Float32) :
    (-x).toModel.unpack = (Float32.Model.pack x.toModel.unpack.neg).unpack := rfl

/-- Negation is exact. -/
theorem neg_spec (finite : x.isFinite = true) : (-x).isFinite = true ∧ value (-x) = -value x := by
  rcases isFinite_cases finite with ⟨sign, zero, isValue⟩ |
    ⟨sign, mantissa, exponent, positive, unpacked, -⟩
  · have negated : (-x).toModel.unpack = .zero (-sign) := by
      rw [toModel_neg, zero]
      exact unpack_pack_zero (-sign)
    rw [isValue, neg_zero]
    exact of_unpack_zero negated
  · have negated : (-x).toModel.unpack = .finite (-sign) mantissa exponent positive := by
      rw [toModel_neg, unpacked]
      exact unpack_pack_canonical (canonical_of_unpack unpacked)
    rw [(of_unpack_finite unpacked).2, ← signed_neg]
    exact of_unpack_finite negated

variable {y : Float32}

theorem le_iff_value (finiteX : x.isFinite = true) (finiteY : y.isFinite = true) :
    x ≤ y ↔ value x ≤ value y := by
  rw [le_iff, compare_values finiteX finiteY, Option.any_some, Ordering.isLE_iff_ne_gt,
    compare_gt_iff_gt, not_lt]

/-- Infinity is above every finite number. -/
theorem le_infinity (finite : x.isFinite = true)
    (infinite : y.toModel.unpack = .infinity .positive) : x ≤ y := by
  rw [le_iff, infinite]
  rcases isFinite_cases finite with ⟨sign, zero, -⟩ | ⟨sign, _, _, _, unpacked, -⟩
  · rw [zero]
    rfl
  · rw [unpacked]
    cases sign with
    | positive => rfl
    | negative => rfl

theorem infinity_le (infinite : x.toModel.unpack = .infinity .negative)
    (finite : y.isFinite = true) : x ≤ y := by
  rw [le_iff, infinite]
  rcases isFinite_cases finite with ⟨sign, zero, -⟩ | ⟨sign, _, _, _, unpacked, -⟩
  · rw [zero]
    rfl
  · rw [unpacked]
    cases sign with
    | positive => rfl
    | negative => rfl

/-! ### Rounding -/

/-- What a mantissa and an exponent stand for. -/
def keptSize (rounded : Nat) (place : Int) : Rat := rounded * 2 ^ place

theorem large_keptSize (full : 2 ^ 23 ≤ rounded) (large : 104 < place) :
    2 ^ 128 ≤ keptSize rounded place := by
  have fullRat : (2 : Rat) ^ 23 ≤ rounded := by exact_mod_cast full
  have power : (2 : Rat) ^ (105 : Int) ≤ 2 ^ place := zpow_le_zpow_right₀ (by norm_num) large
  calc (2 : Rat) ^ 128 = 2 ^ 23 * 2 ^ (105 : Int) := by norm_num
    _ ≤ keptSize rounded place := mul_le_mul fullRat power (by norm_num) (Nat.cast_nonneg _)

theorem keptSize_nonneg (rounded : Nat) (place : Int) : 0 ≤ keptSize rounded place :=
  mul_nonneg (Nat.cast_nonneg rounded) (zpow_nonneg (by norm_num) place)

section

variable (fitting : Fitting size rounded place)

include fitting

/-- Rounding does not cross a number of the format. -/
theorem Fitting.crosses (canonical : Canonical mantissa exponent) :
    ((mantissa : Rat) * 2 ^ exponent ≤ size → mantissa * 2 ^ exponent ≤ keptSize rounded place) ∧
      (size ≤ mantissa * 2 ^ exponent → keptSize rounded place ≤ mantissa * 2 ^ exponent) := by
  have power : (0 : Rat) < 2 ^ place := zpow_pos (by norm_num) place
  unfold keptSize
  by_cases above : place ≤ exponent
  · -- the number is a multiple of the unit that is rounded to
    obtain ⟨count, rfl⟩ : ∃ count : Nat, exponent = place + count :=
      ⟨(exponent - place).toNat, by omega⟩
    have multiple : (mantissa : Rat) * 2 ^ (place + count) =
        ((mantissa * 2 ^ count : Nat) : Rat) * 2 ^ place := by
      rw [zpow_add₀ (by norm_num), zpow_natCast]
      push_cast
      ring
    rw [multiple]
    constructor
    · intro least
      have kept := fitting.nearest.least _ ((le_div_iff₀ power).mpr least)
      exact mul_le_mul_of_nonneg_right (by exact_mod_cast kept) power.le
    · intro most
      have kept := fitting.nearest.most _ ((div_le_iff₀ power).mpr most)
      exact mul_le_mul_of_nonneg_right (by exact_mod_cast kept) power.le
  · -- the number is below all of those with the exponent that is rounded to
    have notLow : place ≠ -149 := by have := canonical.low; omega
    have full := fitting.le_rounded.resolve_left notLow
    have fullSize := (le_div_iff₀ power).mp (fitting.full.resolve_left notLow)
    have below := size_lt_of_exponent_lt canonical.fits (le_refl (2 ^ 23)) (not_le.mp above)
    push_cast at below
    have fullRat : (2 : Rat) ^ 23 ≤ rounded := by exact_mod_cast full
    have keptSize := mul_le_mul_of_nonneg_right fullRat power.le
    exact ⟨fun _ => by linarith, fun most => by linarith⟩

/-- A size that is too large stays too large. -/
theorem Fitting.large (tooLarge : 2 ^ 128 ≤ size) :
    2 ^ 128 ≤ keptSize rounded place := by
  have power : (0 : Rat) < 2 ^ place := zpow_pos (by norm_num) place
  have fits := (div_lt_iff₀ power).mp fitting.fits
  have above : (104 : Int) < place := by
    refine (zpow_lt_zpow_iff_right₀ (by norm_num : (1 : Rat) < 2)).mp ?_
    have same : (2 : Rat) ^ 128 = 2 ^ 24 * 2 ^ (104 : Int) := by norm_num
    rw [same] at tooLarge
    exact lt_of_mul_lt_mul_left (tooLarge.trans_lt fits) (by norm_num)
  have full := fitting.le_rounded.resolve_left (by omega)
  exact large_keptSize full above

/-- Rounding a size does not cross a number in single precision. -/
theorem Fitting.crosses_value (finite : y.isFinite = true) :
    (value y ≤ size → value y ≤ keptSize rounded place) ∧
      (size ≤ value y → keptSize rounded place ≤ value y) := by
  have nonneg := fitting.nonneg
  have keptNonneg := keptSize_nonneg rounded place
  rcases isFinite_cases finite with ⟨_, _, isValue⟩ | ⟨sign, mantissa, exponent, _, unpacked, -⟩
  · rw [isValue]
    refine ⟨fun _ => keptNonneg, fun most => ?_⟩
    have zero : size = 0 := le_antisymm most nonneg
    have rounded := fitting.nearest.most 0 (by rw [zero, zero_div, Nat.cast_zero])
    unfold keptSize
    rw [Nat.le_zero.mp rounded, Nat.cast_zero, zero_mul]
  · have canonical := canonical_of_unpack unpacked
    rw [(of_unpack_finite unpacked).2]
    cases sign with
    | positive => exact fitting.crosses canonical
    | negative =>
      have positive := canonical.size_pos
      show (-_ ≤ size → -_ ≤ keptSize rounded place) ∧ (size ≤ -_ → keptSize rounded place ≤ -_)
      exact ⟨fun _ => by linarith, fun most => by linarith⟩

/-- What is kept is the rounded number, or infinite when that is too large. -/
theorem Fitting.kept_cases
    (packed : x.toModel.unpack = (Float32.Model.pack (kept sign rounded place)).unpack) :
    (x.isFinite = true ∧ value x = signed sign (keptSize rounded place)) ∨
      (x.toModel.unpack = .infinity sign ∧ 2 ^ 128 ≤ keptSize rounded place) := by
  have low := fitting.low
  have limit := fitting.rounded_le
  unfold kept at packed
  by_cases isZero : rounded = 0
  · rw [dif_pos isZero, unpack_pack_zero] at packed
    have none : keptSize rounded place = 0 := by
      unfold keptSize
      rw [isZero, Nat.cast_zero, zero_mul]
    have signedZero : signed sign 0 = 0 := by
      cases sign with
      | positive => rfl
      | negative => exact neg_zero
    rw [none, signedZero]
    exact .inl (of_unpack_zero packed)
  rw [dif_neg isZero] at packed
  by_cases inside : rounded < 2 ^ 24
  · rw [if_pos inside] at packed
    by_cases large : 104 < place
    · rw [unpack_pack_large _ large] at packed
      have full := fitting.le_rounded.resolve_left (by omega)
      exact .inr ⟨packed, large_keptSize full large⟩
    · have canonical : Canonical rounded place :=
        ⟨Nat.pos_of_ne_zero isZero, inside, fitting.le_rounded.symm, low, not_lt.mp large⟩
      rw [unpack_pack_canonical canonical] at packed
      exact .inl (of_unpack_finite packed)
  · rw [if_neg inside] at packed
    have isFull : rounded = 2 ^ 24 := by omega
    have same : keptSize rounded place = keptSize (2 ^ 23) (place + 1) := by
      unfold keptSize
      rw [isFull, zpow_add_one₀ (by norm_num)]
      push_cast
      ring
    by_cases large : 104 < place + 1
    · rw [unpack_pack_large _ large] at packed
      rw [same]
      exact .inr ⟨packed, large_keptSize le_rfl large⟩
    · have canonical : Canonical (2 ^ 23) (place + 1) :=
        ⟨by norm_num, by norm_num, .inl le_rfl, by omega, not_lt.mp large⟩
      rw [unpack_pack_canonical canonical] at packed
      rw [same]
      exact .inl (of_unpack_finite packed)

end

/-- The number is the exact one after rounding: no finite number lies between them, below two to the
number of mantissa bits they are at most a half apart, and a number that is too large is not
finite. -/
structure Rounding (exact : Rat) (x : Float32) : Prop where
  above : ∀ y : Float32, y.isFinite = true → value y ≤ exact → y ≤ x
  below : ∀ y : Float32, y.isFinite = true → exact ≤ value y → x ≤ y
  half : |exact| < 2 ^ 24 → |value x - exact| ≤ 1 / 2
  large : 2 ^ 128 ≤ |exact| → x.isFinite = false

/-- A number that is finite is not too large. -/
theorem abs_value_lt (finite : x.isFinite = true) : |value x| < 2 ^ 128 := by
  rcases isFinite_cases finite with ⟨_, _, isValue⟩ | ⟨sign, mantissa, exponent, _, unpacked, -⟩
  · rw [isValue]
    norm_num
  · have canonical := canonical_of_unpack unpacked
    have fits : (mantissa : Rat) < 2 ^ 24 := by exact_mod_cast canonical.fits
    have power : (2 : Rat) ^ exponent ≤ 2 ^ (104 : Int) :=
      zpow_le_zpow_right₀ (by norm_num) canonical.high
    rw [(of_unpack_finite unpacked).2, abs_signed, abs_of_pos canonical.size_pos]
    calc (mantissa : Rat) * 2 ^ exponent
        < 2 ^ 24 * 2 ^ (104 : Int) :=
          mul_lt_mul fits power (zpow_pos (by norm_num) exponent) (by norm_num)
      _ = 2 ^ 128 := by norm_num

/-- A number that is exact is rounded. -/
theorem rounding_exact (finite : x.isFinite = true) : Rounding (value x) x where
  above _ finiteY least := (le_iff_value finiteY finite).mpr least
  below _ finiteY most := (le_iff_value finite finiteY).mpr most
  half _ := by
    rw [sub_self, abs_zero]
    norm_num
  large tooLarge := absurd (abs_value_lt finite) (not_lt.mpr tooLarge)

/-- What is kept of a size is rounded. -/
theorem Fitting.rounding (fitting : Fitting size rounded place)
    (packed : x.toModel.unpack = (Float32.Model.pack (kept sign rounded place)).unpack) :
    Rounding (signed sign size) x := by
  rcases fitting.kept_cases packed with ⟨finite, isValue⟩ | ⟨infinite, large⟩
  · refine ⟨fun y finiteY least => ?_, fun y finiteY most => ?_, fun small => ?_,
      fun tooLarge => ?_⟩
    · rw [le_iff_value finiteY finite, isValue]
      cases sign with
      | positive => exact (fitting.crosses_value finiteY).1 least
      | negative =>
        have ⟨finiteNeg, valueNeg⟩ := neg_spec finiteY
        have crossed := (fitting.crosses_value finiteNeg).2
        rw [valueNeg] at crossed
        exact le_neg.mp (crossed (le_neg.mp least))
    · rw [le_iff_value finite finiteY, isValue]
      cases sign with
      | positive => exact (fitting.crosses_value finiteY).2 most
      | negative =>
        have ⟨finiteNeg, valueNeg⟩ := neg_spec finiteY
        have crossed := (fitting.crosses_value finiteNeg).1
        rw [valueNeg] at crossed
        exact neg_le.mp (crossed (neg_le.mp most))
    · have difference : value x - signed sign size =
          signed sign (keptSize rounded place - size) := by
        rw [isValue]
        cases sign with
        | positive => rfl
        | negative =>
          show -_ - -_ = -(_ - _)
          ring
      have power : (0 : Rat) < 2 ^ place := zpow_pos (by norm_num) place
      have unit : (2 : Rat) ^ place ≤ 1 := by
        rcases fitting.full with low | full
        · rw [low]
          norm_num
        · rw [abs_signed, abs_of_nonneg fitting.nonneg] at small
          have scaled := (le_div_iff₀ power).mp full
          have less : (2 : Rat) ^ place < 2 ^ (1 : Int) := by linarith
          have notAbove : place < 1 := (zpow_lt_zpow_iff_right₀ (by norm_num)).mp less
          have atMost : (2 : Rat) ^ place ≤ 2 ^ (0 : Int) :=
            zpow_le_zpow_right₀ (by norm_num) (by omega)
          rwa [zpow_zero] at atMost
      have scaled : keptSize rounded place - size =
          ((rounded : Rat) - size / 2 ^ place) * 2 ^ place := by
        rw [sub_mul, div_mul_cancel₀ _ power.ne']
        rfl
      rw [difference, abs_signed, scaled, abs_mul, abs_of_pos power]
      calc |(rounded : Rat) - size / 2 ^ place| * 2 ^ place
          ≤ 1 / 2 * 1 := mul_le_mul fitting.nearest.half unit power.le (by norm_num)
        _ = 1 / 2 := mul_one _
    · rw [abs_signed, abs_of_nonneg fitting.nonneg] at tooLarge
      have kept := abs_value_lt finite
      rw [isValue, abs_signed, abs_of_nonneg (keptSize_nonneg rounded place)] at kept
      exact absurd kept (not_lt.mpr (fitting.large tooLarge))
  · have beyond {y : Float32} (finiteY : y.isFinite = true) : ¬ size ≤ value y := fun most =>
      absurd ((fitting.crosses_value finiteY).2 most)
        (not_le.mpr (((le_abs_self _).trans_lt (abs_value_lt finiteY)).trans_le large))
    have notSmall : ¬ |signed sign size| < 2 ^ 24 := by
      rw [abs_signed, abs_of_nonneg fitting.nonneg]
      intro small
      have within : size ≤ value (16777216 : Float32) := by
        rw [value_limit.2]
        exact small.le
      exact beyond (by decide) within
    have notFinite : x.isFinite = false := by
      show x.toModel.unpack.isFinite = false
      rw [infinite]
      rfl
    cases sign with
    | positive =>
      exact ⟨fun y finiteY _ => le_infinity finiteY infinite,
        fun y finiteY most => absurd most (beyond finiteY), fun small => absurd small notSmall,
        fun _ => notFinite⟩
    | negative =>
      refine ⟨fun y finiteY least => ?_, fun y finiteY _ => infinity_le infinite finiteY,
        fun small => absurd small notSmall, fun _ => notFinite⟩
      have ⟨finiteNeg, valueNeg⟩ := neg_spec finiteY
      have further := beyond finiteNeg
      rw [valueNeg] at further
      exact absurd (le_neg.mp least) further

end SinglePrecision
