/-
This file is a library on products of positive numbers in single precision. The product is rounded
to the nearest number the format has, so that its integer part, taken by a conversion to an
integer, may lie below that of the exact product. It does not as long as the exact product is below
two to the number of mantissa bits, and beyond that it lies below by at most half the distance of
two neighbouring numbers.
-/

import Mathlib

namespace SinglePrecision

open Float.Model Float.Model.UnpackedFloat

/-- The exact number that a finite value in single precision stands for. -/
def value (x : Float32) : Rat :=
  match x.toModel.unpack with
  | .finite sign mantissa exponent _ => sign.apply mantissa * (2 : Rat) ^ exponent
  | _ => 0

/-- A positive number with all bits of its mantissa in use. -/
structure Normal (x : Float32) (mantissa : Nat) (exponent : Int) : Prop where
  positive : 0 < mantissa
  unpacked : x.toModel.unpack = .finite .positive mantissa exponent positive
  full : 2 ^ 23 ≤ mantissa

variable {x : Float32} {mantissa : Nat} {exponent : Int}

theorem Normal.value (normal : Normal x mantissa exponent) :
    value x = mantissa * (2 : Rat) ^ exponent := by
  rw [SinglePrecision.value, normal.unpacked]
  rfl

/-! ### Rounding a mantissa -/

theorem shift_mantissa (extended : ExtendedMantissa) (count : Nat) :
    (extended >>> count).mantissa = extended.mantissa / 2 ^ count := by
  induction count with
  | zero => exact (Nat.div_one _).symm
  | succ fewer hypothesis =>
    show (extended >>> fewer).mantissa / 2 = _
    rw [hypothesis, Nat.div_div_eq_div_mul, pow_succ]

theorem shift_roundBit (mantissa count : Nat) :
    ((⟨mantissa, false, false⟩ : ExtendedMantissa) >>> (count + 1)).roundBit =
      (mantissa / 2 ^ count % 2 != 0) := by
  show (((⟨mantissa, false, false⟩ : ExtendedMantissa) >>> count).mantissa % 2 != 0) = _
  rw [shift_mantissa]

theorem shift_stickyBit (mantissa count : Nat) :
    ((⟨mantissa, false, false⟩ : ExtendedMantissa) >>> (count + 1)).stickyBit =
      (mantissa % 2 ^ count != 0) := by
  induction count with
  | zero =>
    rw [pow_zero, Nat.mod_one]
    rfl
  | succ fewer hypothesis =>
    show (((⟨mantissa, false, false⟩ : ExtendedMantissa) >>> (fewer + 1)).roundBit ||
      ((⟨mantissa, false, false⟩ : ExtendedMantissa) >>> (fewer + 1)).stickyBit) = _
    rw [hypothesis, shift_roundBit, pow_succ, Nat.mod_mul]
    have bit := Nat.mod_two_eq_zero_or_one (mantissa / 2 ^ fewer)
    rcases bit with zero | one
    · rw [zero, mul_zero, add_zero]
      rfl
    · rw [one, mul_one]
      have nonzero : mantissa % 2 ^ fewer + 2 ^ fewer ≠ 0 := by omega
      rw [bne_iff_ne.mpr nonzero]
      rfl

theorem roundedMantissa_bounds (extended : ExtendedMantissa) :
    extended.mantissa ≤ extended.roundedMantissa ∧
      extended.roundedMantissa ≤ extended.mantissa + 1 := by
  obtain ⟨mantissa, roundBit, stickyBit⟩ := extended
  cases roundBit <;> cases stickyBit <;>
    simp only [ExtendedMantissa.roundedMantissa, ExtendedMantissa.accuracy,
      Accuracy.roundToNearestEven] <;> omega

/-- A mantissa shifted and rounded: between the floor and the next number, and not more than half a
unit below the exact quotient. -/
structure Rounds (mantissa count rounded : Nat) : Prop where
  floor : mantissa / 2 ^ count ≤ rounded
  next : rounded ≤ mantissa / 2 ^ count + 1
  half : mantissa ≤ rounded * 2 ^ count + 2 ^ count / 2

theorem rounds (mantissa count : Nat) :
    Rounds mantissa count
      ((⟨mantissa, false, false⟩ : ExtendedMantissa) >>> count).roundedMantissa := by
  obtain ⟨floor, next⟩ :=
    roundedMantissa_bounds ((⟨mantissa, false, false⟩ : ExtendedMantissa) >>> count)
  rw [shift_mantissa] at floor next
  refine ⟨floor, next, ?_⟩
  cases count with
  | zero =>
    have exact : mantissa / 2 ^ 0 = mantissa := by rw [pow_zero, Nat.div_one]
    have below : mantissa / 2 ^ 0 ≤ _ := floor
    rw [exact] at below
    rw [pow_zero, mul_one]
    exact below.trans (Nat.le_add_right _ _)
  | succ fewer =>
    have split := Nat.div_add_mod mantissa (2 ^ (fewer + 1))
    have tail : mantissa % 2 ^ (fewer + 1) =
        mantissa % 2 ^ fewer + 2 ^ fewer * (mantissa / 2 ^ fewer % 2) := by
      rw [pow_succ, Nat.mod_mul]
    have small : mantissa % 2 ^ fewer < 2 ^ fewer := Nat.mod_lt _ (Nat.two_pow_pos fewer)
    have halved : 2 ^ (fewer + 1) / 2 = 2 ^ fewer := by
      rw [pow_succ, Nat.mul_div_cancel _ (by decide)]
    rw [halved]
    by_cases low : mantissa % 2 ^ (fewer + 1) ≤ 2 ^ fewer
    · have below : mantissa / 2 ^ (fewer + 1) ≤ _ := floor
      have scaled := Nat.mul_le_mul_left (2 ^ (fewer + 1)) below
      rw [mul_comm _ (ExtendedMantissa.roundedMantissa _)] at scaled
      omega
    · -- past the middle both residual bits are set, and the mantissa is rounded up
      have bit : mantissa / 2 ^ fewer % 2 = 1 := by
        rcases Nat.mod_two_eq_zero_or_one (mantissa / 2 ^ fewer) with zero | one
        · rw [zero, mul_zero] at tail
          omega
        · exact one
      have sticky : mantissa % 2 ^ fewer ≠ 0 := by
        rw [bit, mul_one] at tail
        omega
      have up : ((⟨mantissa, false, false⟩ : ExtendedMantissa) >>> (fewer + 1)).roundedMantissa =
          mantissa / 2 ^ (fewer + 1) + 1 := by
        have roundBit := shift_roundBit mantissa fewer
        have stickyBit := shift_stickyBit mantissa fewer
        have shifted := shift_mantissa ⟨mantissa, false, false⟩ (fewer + 1)
        rw [bit] at roundBit
        rw [bne_iff_ne.mpr sticky] at stickyBit
        generalize (⟨mantissa, false, false⟩ : ExtendedMantissa) >>> (fewer + 1) = extended at *
        obtain ⟨quotient, round, rest⟩ := extended
        subst shifted
        cases roundBit
        cases stickyBit
        rfl
      rw [up, add_mul, one_mul, mul_comm]
      have positive : mantissa % 2 ^ (fewer + 1) < 2 ^ (fewer + 1) :=
        Nat.mod_lt _ (Nat.two_pow_pos _)
      omega

/-! ### Numbers as they are kept -/

theorem toNat_implicit (stored : BitVec 23) : (1#1 ++ stored).toNat = 2 ^ 23 + stored.toNat := by
  rw [BitVec.toNat_append, ← Nat.shiftLeft_add_eq_or_of_lt stored.isLt]
  rfl

/-- The numbers a finite value in single precision has. -/
theorem unpack_mantissa {sign : Sign} {positive : 0 < mantissa}
    (unpacked : x.toModel.unpack = .finite sign mantissa exponent positive) :
    mantissa < 2 ^ 24 ∧ (2 ^ 23 ≤ mantissa ∨ exponent = -149) := by
  have bound := (@unpackMantissa Format.binary32 x.toModel.toBits.toBitVec).isLt
  unfold Float32.Model.unpack UnpackedFloat.unpack at unpacked
  dsimp only at unpacked
  split at unpacked
  · split at unpacked <;> cases unpacked
  split at unpacked
  · next isZero =>
    split at unpacked
    · cases unpacked
    · cases unpacked
      exact ⟨bound.trans (by decide), .inr (by rw [isZero]; rfl)⟩
  · cases unpacked
    rw [toNat_implicit]
    change _ < 2 ^ 23 at bound
    omega

theorem append_implicit (full : 2 ^ 23 ≤ mantissa) (fits : mantissa < 2 ^ 24) :
    (1#1 ++ BitVec.ofNat 23 mantissa).toNat = mantissa := by
  rw [toNat_implicit, BitVec.toNat_ofNat]
  omega

/-- A number with all bits of its mantissa in use comes back from its packed form. -/
theorem unpack_pack {sign : Sign} (positive : 0 < mantissa) (full : 2 ^ 23 ≤ mantissa)
    (fits : mantissa < 2 ^ 24) (low : -149 ≤ exponent) (high : exponent ≤ 104) :
    (Float32.Model.pack (.finite sign mantissa exponent positive)).unpack =
      .finite sign mantissa exponent positive := by
  have bits : mantissa.log2 = 23 := (Nat.log2_eq_iff positive.ne').mpr ⟨full, fits⟩
  have biased : ∃ stored : Nat, (stored : Int) = exponent + 150 ∧ stored < 255 ∧ 0 < stored :=
    ⟨(exponent + 150).toNat, by omega, by omega, by omega⟩
  obtain ⟨stored, isStored, below, above⟩ := biased
  have exponentBits : (BitVec.ofNat 8 stored).toNat = stored := by
    rw [BitVec.toNat_ofNat, Nat.mod_eq_of_lt (by omega)]
  have packed : UnpackedFloat.pack Format.binary32 (.finite sign mantissa exponent positive) =
      packComponents Format.binary32 sign (BitVec.ofNat 8 stored) (BitVec.ofNat 23 mantissa) := by
    have sum : (exponent + (127 : Nat) + (23 : Nat)).toNat = stored := by omega
    show (if 2 ^ 8 ≤ (exponent + (127 : Nat) + (23 : Nat)).toNat + 1 then _ else
      if mantissa.log2 + 1 = 24 then packComponents Format.binary32 sign
        (BitVec.ofNat 8 (exponent + (127 : Nat) + (23 : Nat)).toNat) _ else _) = _
    rw [sum, bits, if_neg (by omega), if_pos rfl]
  have finite : BitVec.ofNat 8 stored ≠ -1#8 := fun same => by
    have values := congrArg BitVec.toNat same
    rw [exponentBits] at values
    have largest : (-1#8).toNat = 255 := rfl
    omega
  have isNormal : BitVec.ofNat 8 stored ≠ 0#8 := fun same => by
    have values := congrArg BitVec.toNat same
    rw [exponentBits] at values
    have least : (0#8).toNat = 0 := rfl
    omega
  show UnpackedFloat.unpack Format.binary32 (UnpackedFloat.pack Format.binary32 _) = _
  rw [packed]
  unfold UnpackedFloat.unpack
  simp only [unpackExponent_packComponents, unpackMantissa_packComponents, if_neg finite,
    if_neg isNormal, append_implicit full fits, exponentBits]
  have unbiased : (stored : Int) - ((127 : Nat) + (23 : Nat)) = exponent := by omega
  have signBit : Sign.ofBitVec sign.toBitVec = sign := by
    cases sign with
    | positive => rfl
    | negative => rfl
  rw [unpackSign_packComponents, signBit]
  congr 1

/-! ### Comparisons -/

variable {y : Float32}

theorem lt_iff : x < y ↔ x.toModel.unpack.compare y.toModel.unpack = some .lt := by
  show (decide (x.toModel < y.toModel)) = true ↔ _
  rw [decide_eq_true_iff]
  show (x.toModel.unpack.compare y.toModel.unpack == some .lt) = true ↔ _
  exact beq_iff_eq

theorem le_iff : x ≤ y ↔ (x.toModel.unpack.compare y.toModel.unpack).any (·.isLE) = true := by
  show (decide (x.toModel ≤ y.toModel)) = true ↔ _
  rw [decide_eq_true_iff]
  rfl

/-- Numbers that are not below a number with all bits of its mantissa in use have them in use, and
are at least of its size. -/
theorem Normal.of_not_lt (normal : Normal y mantissa exponent) (range : -149 < exponent)
    (finite : x.isFinite = true) (least : ¬ x < y) :
    ∃ larger place, Normal x larger place ∧ exponent ≤ place := by
  have finiteValue : x.toModel.unpack.isFinite = true := finite
  rw [lt_iff, normal.unpacked] at least
  cases unpacked : x.toModel.unpack with
  | notANumber => rw [unpacked] at finiteValue; cases finiteValue
  | infinity sign => rw [unpacked] at finiteValue; cases finiteValue
  | zero sign => rw [unpacked] at least; exact absurd rfl least
  | finite sign larger place positive =>
    rw [unpacked] at least
    cases sign with
    | negative => exact absurd rfl least
    | positive =>
      have above : exponent ≤ place := by
        refine Int.not_lt.mp fun below => least ?_
        show some ((compare place exponent).then (compare larger mantissa)) = some .lt
        rw [Int.compare_eq_lt.mpr below]
        rfl
      refine ⟨larger, place, ⟨positive, unpacked, ?_⟩, above⟩
      exact (unpack_mantissa unpacked).2.resolve_right (by omega)

theorem Normal.exponent_le {first second : Nat} {left right : Int} (normalX : Normal x first left)
    (normalY : Normal y second right) (most : x ≤ y) : left ≤ right := by
  rw [le_iff, normalX.unpacked, normalY.unpacked] at most
  refine Int.not_lt.mp fun above => ?_
  have greater : (compare left right).then (compare first second) = .gt := by
    rw [Int.compare_eq_gt.mpr above]
    rfl
  have isLE : ((compare left right).then (compare first second)).isLE = true := most
  rw [greater] at isLE
  cases isLE

/-! ### The integer part -/

/-- The integer part of a mantissa times a power of two. -/
def truncation (mantissa : Nat) (exponent : Int) : Nat :=
  mantissa * 2 ^ exponent.toNat / 2 ^ (-exponent).toNat

section

variable (mantissa : Nat) (exponent : Int)

theorem roundToInt_positive :
    roundToInt .positive mantissa exponent = truncation mantissa exponent := by
  show ((((ExtendedMantissa.ofMantissaAndAccuracy (mantissa <<< (exponent - 0).toNat) .exact) >>>
    (0 - (exponent - (exponent - 0).toNat)).toNat).mantissa : Nat) : Int) = _
  rw [shift_mantissa, Int.sub_zero]
  have right : (0 - (exponent - exponent.toNat)).toNat = (-exponent).toNat := by omega
  show ((mantissa <<< exponent.toNat / 2 ^ _ : Nat) : Int) = _
  rw [right, Nat.shiftLeft_eq]
  rfl

theorem floor_truncation :
    ⌊(mantissa : Rat) * (2 : Rat) ^ exponent⌋ = truncation mantissa exponent := by
  obtain ⟨size, rfl | rfl⟩ := exponent.eq_nat_or_neg
  · have left : ((size : Int)).toNat = size := rfl
    have right : (-(size : Int)).toNat = 0 := by omega
    rw [truncation, left, right, pow_zero, Nat.div_one, zpow_natCast]
    have cast : (mantissa : Rat) * 2 ^ size = ((mantissa * 2 ^ size : Nat) : Rat) := by
      push_cast
      rfl
    rw [cast, Int.floor_natCast]
  · have left : (-(size : Int)).toNat = 0 := by omega
    have right : (-(-(size : Int))).toNat = size := by omega
    rw [truncation, left, right, pow_zero, mul_one, zpow_neg, zpow_natCast]
    have cast : (mantissa : Rat) * (2 ^ size)⁻¹ = (mantissa : Rat) / ((2 ^ size : Nat) : Rat) := by
      push_cast
      rw [div_eq_mul_inv]
    rw [cast, Rat.floor_natCast_div_natCast]
    rfl

theorem truncation_succ :
    truncation mantissa (exponent + 1) = truncation (2 * mantissa) exponent := by
  have same : (mantissa : Rat) * 2 ^ (exponent + 1) =
      ((2 * mantissa : Nat) : Rat) * 2 ^ exponent := by
    rw [zpow_add_one₀ (by norm_num)]
    push_cast
    ring
  have floors := congrArg Int.floor same
  rw [floor_truncation, floor_truncation] at floors
  exact Int.ofNat_inj.mp floors

end

/-! ### Rounding a product -/

section

variable {count : Nat} (bits : mantissa.log2 = 23 + count) (low : -149 ≤ exponent + count)

include bits low

theorem shiftToTarget :
    shiftToTargetExponent Format.binary32 mantissa exponent .exact =
      ((⟨mantissa, false, false⟩ : ExtendedMantissa) >>> count, exponent + count) := by
  have amount : (Format.binary32.targetExponent (totalExponent mantissa exponent) -
      exponent).toNat = count := by
    show (max ((mantissa.log2 : Int) + 1 + exponent - (24 : Nat)) (-149) - exponent).toNat = count
    rw [bits]
    omega
  unfold shiftToTargetExponent shiftToExponent
  simp only [amount]
  rfl

/-- The number a mantissa is rounded to, as long as it is not too small for the format. -/
theorem round_normal :
    ∃ rounded, Rounds mantissa count rounded ∧ rounded ≤ 2 ^ 24 ∧
      ∃ kept place, ∃ positive : 0 < kept,
        roundWithAccuracy Format.binary32 .positive mantissa exponent .exact =
          .finite .positive kept place positive ∧
        2 ^ 23 ≤ kept ∧ kept < 2 ^ 24 ∧ exponent + count ≤ place ∧
        place ≤ exponent + count + 1 ∧
        truncation kept place = truncation rounded (exponent + count) := by
  have isRounded := rounds mantissa count
  generalize isShifted : (⟨mantissa, false, false⟩ : ExtendedMantissa) >>> count = shifted
    at isRounded
  have nonzero : mantissa ≠ 0 := fun zero => by
    rw [zero, Nat.log2_zero] at bits
    omega
  have range := (Nat.log2_eq_iff nonzero).mp bits
  have least : 2 ^ 23 ≤ mantissa / 2 ^ count :=
    (Nat.le_div_iff_mul_le (Nat.two_pow_pos count)).mpr (by rw [← pow_add]; exact range.1)
  have most : mantissa / 2 ^ count < 2 ^ 24 := by
    refine (Nat.div_lt_iff_lt_mul (Nat.two_pow_pos count)).mpr ?_
    have total : 24 + count = 23 + count + 1 := by omega
    rw [← pow_add, total]
    exact range.2
  have full : 2 ^ 23 ≤ shifted.roundedMantissa := least.trans isRounded.floor
  have fits : shifted.roundedMantissa ≤ 2 ^ 24 := isRounded.next.trans most
  refine ⟨shifted.roundedMantissa, isRounded, fits, ?_⟩
  by_cases inside : shifted.roundedMantissa < 2 ^ 24
  · have again : shifted.roundedMantissa.log2 = 23 + 0 :=
      (Nat.log2_eq_iff (by omega)).mpr ⟨full, inside⟩
    refine ⟨shifted.roundedMantissa, exponent + count, by omega, ?_, full, inside, by omega,
      by omega, rfl⟩
    unfold roundWithAccuracy
    rw [shiftToTarget bits low, isShifted]
    simp only
    rw [shiftToTarget again (by omega)]
    have exact : ((⟨shifted.roundedMantissa, false, false⟩ : ExtendedMantissa) >>> 0).mantissa =
        shifted.roundedMantissa := rfl
    simp only [exact]
    rw [dif_neg (by omega)]
    congr 1
    omega
  · -- all bits were set, and rounding up has carried into the next power of two
    have isFull : shifted.roundedMantissa = 2 ^ 24 := by omega
    have again : shifted.roundedMantissa.log2 = 23 + 1 := by rw [isFull, Nat.log2_two_pow]
    refine ⟨2 ^ 23, exponent + count + 1, by decide, ?_, le_rfl, by decide, by omega, le_rfl, ?_⟩
    · unfold roundWithAccuracy
      rw [shiftToTarget bits low, isShifted]
      simp only
      rw [shiftToTarget again (by omega), isFull]
      rfl
    · rw [truncation_succ, isFull]
      rfl

end

theorem truncation_rounded {count rounded : Nat} (isRounded : Rounds mantissa count rounded)
    {slack : Nat} (small : exponent + count ≤ slack) :
    truncation mantissa exponent ≤ truncation rounded (exponent + count) + 2 ^ slack / 2 := by
  obtain ⟨place, isPlace⟩ : ∃ place, exponent + count = place := ⟨_, rfl⟩
  rw [isPlace] at small ⊢
  by_cases whole : place ≤ 0
  · -- the rounded number still has the unit, and the floor is not rounded away
    have left : exponent.toNat = 0 := by omega
    have same : (-exponent).toNat = count + (-place).toNat := by omega
    have flat : place.toNat = 0 := by omega
    refine le_trans ?_ (Nat.le_add_right _ _)
    rw [truncation, truncation, left, flat, same, pow_zero, mul_one, mul_one,
      pow_add, ← Nat.div_div_eq_div_mul]
    exact Nat.div_le_div_right isRounded.floor
  · have right : (-place).toNat = 0 := by omega
    have smaller : 2 ^ place.toNat / 2 ≤ 2 ^ slack / 2 :=
      Nat.div_le_div_right (Nat.pow_le_pow_right (by decide) (by omega))
    refine le_trans ?_ (Nat.add_le_add_left smaller _)
    rw [truncation, truncation, right, pow_zero, Nat.div_one]
    refine Nat.div_le_of_le_mul ?_
    -- both sides times the power of two that the exponent divides by
    have balance : 2 ^ count * 2 ^ exponent.toNat = 2 ^ (-exponent).toNat * 2 ^ place.toNat := by
      rw [← pow_add, ← pow_add]
      congr 1
      omega
    obtain ⟨below, isBelow⟩ : ∃ below, place.toNat = below + 1 := ⟨place.toNat - 1, by omega⟩
    have halved : 2 ^ (below + 1) / 2 = 2 ^ below := by
      rw [pow_succ, Nat.mul_div_cancel _ (by decide)]
    have half : 2 ^ count / 2 * 2 ^ exponent.toNat ≤ 2 ^ (-exponent).toNat * 2 ^ below := by
      refine Nat.le_of_mul_le_mul_left ?_ (show 0 < 2 by decide)
      calc 2 * (2 ^ count / 2 * 2 ^ exponent.toNat)
          = 2 * (2 ^ count / 2) * 2 ^ exponent.toNat := (mul_assoc _ _ _).symm
        _ ≤ 2 ^ count * 2 ^ exponent.toNat := Nat.mul_le_mul_right _ (Nat.mul_div_le (2 ^ count) 2)
        _ = 2 * (2 ^ (-exponent).toNat * 2 ^ below) := by
          rw [balance, isBelow, pow_succ]
          ring
    calc mantissa * 2 ^ exponent.toNat
        ≤ (rounded * 2 ^ count + 2 ^ count / 2) * 2 ^ exponent.toNat :=
          Nat.mul_le_mul_right _ isRounded.half
      _ = rounded * (2 ^ count * 2 ^ exponent.toNat) + 2 ^ count / 2 * 2 ^ exponent.toNat := by
          rw [add_mul, mul_assoc]
      _ ≤ rounded * (2 ^ (-exponent).toNat * 2 ^ place.toNat) +
            2 ^ (-exponent).toNat * 2 ^ below := by
          rw [balance]
          exact Nat.add_le_add_left half _
      _ = 2 ^ (-exponent).toNat * (rounded * 2 ^ place.toNat + 2 ^ place.toNat / 2) := by
          rw [isBelow, halved]
          ring

/-- The product of two positive numbers, as it is kept and converted to an integer, lies below the
integer part of the exact product by at most half the distance of the numbers around it. -/
theorem floor_mul_le {first second : Nat} {left right : Int} (normalX : Normal x first left)
    (normalY : Normal y second right) {slack : Nat} (small : value x * value y < 2 ^ (24 + slack))
    (fits : slack < 40) : ⌊value x * value y⌋ ≤ ((x * y).toUInt64.toNat + 2 ^ slack / 2 : Nat) := by
  have product : value x * value y = (first * second : Nat) * (2 : Rat) ^ (left + right) := by
    rw [normalX.value, normalY.value, zpow_add₀ (by norm_num)]
    push_cast
    ring
  rw [product] at small ⊢
  rw [floor_truncation]
  obtain ⟨positiveX, unpackedX, fullX⟩ := normalX
  obtain ⟨positiveY, unpackedY, fullY⟩ := normalY
  have multiplied : (x * y).toUInt64 = (UnpackedFloat.toUInt64 (Float32.Model.pack
      (roundWithAccuracy Format.binary32 .positive (first * second) (left + right)
        .exact)).unpack) := by
    show (UnpackedFloat.toUInt64 (Float32.Model.pack (UnpackedFloat.mul Format.binary32
      x.toModel.unpack y.toModel.unpack)).unpack) = _
    rw [unpackedX, unpackedY]
    rfl
  rw [multiplied]
  generalize isMantissa : first * second = mantissa at *
  generalize left + right = exponent at *
  have large : 2 ^ 46 ≤ mantissa := by
    have split : (2 : Nat) ^ 46 = 2 ^ 23 * 2 ^ 23 := rfl
    rw [← isMantissa, split]
    exact Nat.mul_le_mul fullX fullY
  by_cases none : truncation mantissa exponent = 0
  · rw [none]
    exact Int.natCast_nonneg _
  have nonzero : mantissa ≠ 0 := by omega
  have bits : 46 ≤ mantissa.log2 := (Nat.le_log2 nonzero).mpr large
  obtain ⟨count, isCount⟩ : ∃ count, mantissa.log2 = 23 + count := ⟨mantissa.log2 - 23, by omega⟩
  obtain ⟨least, most⟩ := (Nat.log2_eq_iff nonzero).mp isCount
  have unit : (0 : Rat) < 2 := by norm_num
  have power : (0 : Rat) < (2 : Rat) ^ exponent := zpow_pos unit exponent
  have low : (0 : Int) < (23 + count + 1 : Nat) + exponent := by
    have some : (1 : Int) ≤ ⌊(mantissa : Rat) * (2 : Rat) ^ exponent⌋ := by
      rw [floor_truncation]
      omega
    have one : (1 : Rat) ≤ mantissa * (2 : Rat) ^ exponent := by exact_mod_cast Int.le_floor.mp some
    have below : (mantissa : Rat) < (2 : Rat) ^ (23 + count + 1) := by exact_mod_cast most
    have within := one.trans_lt (mul_lt_mul_of_pos_right below power)
    rw [← zpow_natCast, ← zpow_add₀ unit.ne', ← zpow_zero (2 : Rat)] at within
    exact (zpow_lt_zpow_iff_right₀ (by norm_num)).mp within
  have high : ((23 + count : Nat) : Int) + exponent < (24 + slack : Nat) := by
    have above : (2 : Rat) ^ (23 + count) ≤ mantissa := by exact_mod_cast least
    have within := (mul_le_mul_of_nonneg_right above power.le).trans_lt small
    rw [← zpow_natCast, ← zpow_add₀ unit.ne', ← zpow_natCast] at within
    exact (zpow_lt_zpow_iff_right₀ (by norm_num)).mp within
  have notSmall : -149 ≤ exponent + count := by omega
  obtain ⟨rounded, isRounded, roundedFits, kept, place, positive, isKept, full, inside, placeLow,
    placeHigh, truncated⟩ := round_normal isCount notSmall
  rw [isKept, unpack_pack positive full inside (by omega) (by omega)]
  have converted : (UnpackedFloat.toUInt64 (.finite .positive kept place positive)).toNat =
      truncation rounded (exponent + count) := by
    have bounded : truncation rounded (exponent + count) < 2 ^ 64 := by
      have room : 2 ^ (exponent + count).toNat ≤ 2 ^ 39 :=
        Nat.pow_le_pow_right (by decide) (by omega)
      calc truncation rounded (exponent + count)
          ≤ rounded * 2 ^ (exponent + count).toNat := Nat.div_le_self _ _
        _ ≤ 2 ^ 24 * 2 ^ 39 := Nat.mul_le_mul roundedFits room
        _ < 2 ^ 64 := by decide
    show (UInt64.ofNatClamp (roundToInt .positive kept place).toNat).toNat = _
    rw [roundToInt_positive, Int.toNat_natCast, truncated]
    exact UInt64.toNat_ofNatClamp_of_lt bounded
  rw [converted]
  exact Int.ofNat_le.mpr (truncation_rounded isRounded (by omega))

end SinglePrecision
