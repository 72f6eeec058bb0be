/-
This file is a library on arithmetic in single precision. Sums, differences, products and quotients
of finite numbers are the exact ones after rounding, and so is the conversion of an integer. From
this follow bounds on calculations.
-/

import CameraGimbal.FloatRounding

namespace SinglePrecision

open Float.Model Float.Model.UnpackedFloat

/-! ### Results that are rounded -/

variable {x : Float32}

theorem rounding_of_kept {sign : Sign} {mantissa : Nat} {exponent : Int} {accuracy : Accuracy}
    {exact : Rat} (packed : x.toModel.unpack = (Float32.Model.pack
      (roundWithAccuracy Format.binary32 sign mantissa exponent accuracy)).unpack)
    (enough : 2 ^ 23 ≤ mantissa ∨ exponent ≤ -149)
    (stands : Stands (.ofMantissaAndAccuracy mantissa accuracy) exact) :
    Rounding (signed sign (exact * 2 ^ exponent)) x := by
  obtain ⟨rounded, place, fitting, isKept⟩ := roundWithAccuracy_kept enough stands sign
  rw [isKept] at packed
  exact fitting.rounding packed

/-- Giving a mantissa more bits does not change the number. -/
theorem shiftLeft_size (mantissa count : Nat) (exponent : Int) :
    ((mantissa <<< count : Nat) : Rat) * 2 ^ (exponent - count) = mantissa * 2 ^ exponent := by
  rw [Nat.shiftLeft_eq, zpow_sub₀ (by norm_num), zpow_natCast]
  push_cast
  field_simp

/-- The mantissa gets as many bits as are asked for. -/
theorem le_shiftLeft {mantissa count bits : Nat} (positive : 0 < mantissa)
    (enough : bits ≤ mantissa.log2 + count) : 2 ^ bits ≤ mantissa <<< count :=
  calc 2 ^ bits ≤ 2 ^ (mantissa.log2 + count) := Nat.pow_le_pow_right (by decide) enough
    _ = 2 ^ mantissa.log2 * 2 ^ count := pow_add ..
    _ ≤ mantissa * 2 ^ count := Nat.mul_le_mul_right _ (Nat.log2_self_le positive.ne')
    _ = mantissa <<< count := (Nat.shiftLeft_eq ..).symm

theorem rounding_round {sign : Sign} {mantissa : Nat} {exponent : Int} (positive : 0 < mantissa)
    (packed : x.toModel.unpack =
      (Float32.Model.pack (UnpackedFloat.round Format.binary32 sign mantissa exponent)).unpack) :
    Rounding (signed sign (mantissa * 2 ^ exponent)) x := by
  generalize isCount :
    (exponent - Format.binary32.targetExponent (totalExponent mantissa exponent)).toNat = count
  rw [targetExponent_eq] at isCount
  have shifted : UnpackedFloat.round Format.binary32 sign mantissa exponent =
      roundWithAccuracy Format.binary32 sign (mantissa <<< count) (exponent - count) .exact := by
    unfold UnpackedFloat.round decreaseExponent
    simp only [targetExponent_eq, isCount]
  have enough : 2 ^ 23 ≤ mantissa <<< count ∨ exponent - count ≤ -149 := by
    by_cases low : exponent - count ≤ -149
    · exact .inr low
    · exact .inl (le_shiftLeft positive (by omega))
  rw [shifted] at packed
  have rounding := rounding_of_kept packed enough (stands_exact _)
  rwa [shiftLeft_size] at rounding

/-- An integer times a power of two. -/
theorem rounding_normalize {x : Float32} {mantissa exponent : Int} {zeroSign : Sign}
    (packed : x.toModel.unpack = (Float32.Model.pack
      (UnpackedFloat.normalize Format.binary32 mantissa exponent zeroSign)).unpack) :
    Rounding (mantissa * 2 ^ exponent) x := by
  unfold UnpackedFloat.normalize at packed
  rcases lt_trichotomy mantissa 0 with negative | rfl | positive
  · rw [compare_lt_iff_lt.mpr negative] at packed
    have rounding := rounding_round (by omega) packed
    have size : (((-mantissa).toNat : Nat) : Rat) = -mantissa := by
      exact_mod_cast Int.toNat_of_nonneg (by omega : 0 ≤ -mantissa)
    rw [size] at rounding
    have same : signed .negative (-mantissa * 2 ^ exponent) = (mantissa : Rat) * 2 ^ exponent := by
      show -_ = _
      ring
    rwa [same] at rounding
  · rw [compare_eq_iff_eq.mpr rfl] at packed
    have ⟨finiteX, isValue⟩ := of_unpack_zero (packed.trans (unpack_pack_zero zeroSign))
    have rounding := rounding_exact finiteX
    rw [isValue] at rounding
    rwa [Int.cast_zero, zero_mul]
  · rw [compare_gt_iff_gt.mpr positive] at packed
    have rounding := rounding_round (by omega) packed
    have size : ((mantissa.toNat : Nat) : Rat) = mantissa := by
      exact_mod_cast Int.toNat_of_nonneg positive.le
    rwa [size] at rounding

/-! ### Operations -/

variable (first second : Sign)

theorem signed_mul (left right : Rat) :
    signed (first * second) (left * right) = signed first left * signed second right := by
  cases first with
  | positive =>
    cases second with
    | positive => rfl
    | negative => exact neg_mul_eq_mul_neg left right
  | negative =>
    cases second with
    | positive => exact neg_mul_eq_neg_mul left right
    | negative => exact (neg_mul_neg left right).symm

/-- A result that is zero as it should be. -/
theorem rounding_zero {sign : Sign}
    (packed : x.toModel.unpack = (Float32.Model.pack (.zero sign)).unpack) : Rounding 0 x := by
  have ⟨finiteX, isValue⟩ := of_unpack_zero (packed.trans (unpack_pack_zero sign))
  have rounding := rounding_exact finiteX
  rwa [isValue] at rounding

variable {y : Float32}

theorem mul_rounding (finiteX : x.isFinite = true) (finiteY : y.isFinite = true) :
    Rounding (value x * value y) (x * y) := by
  have packed : (x * y).toModel.unpack = (Float32.Model.pack
    (UnpackedFloat.mul Format.binary32 x.toModel.unpack y.toModel.unpack)).unpack := rfl
  rcases isFinite_cases finiteX with ⟨signX, zeroX, valueX⟩ |
    ⟨signX, first, left, positiveX, unpackedX, -⟩
  · rw [valueX, zero_mul]
    rcases isFinite_cases finiteY with ⟨signY, zeroY, -⟩ | ⟨signY, _, _, _, unpackedY, -⟩
    · rw [zeroX, zeroY] at packed
      exact rounding_zero packed
    · rw [zeroX, unpackedY] at packed
      exact rounding_zero packed
  · rcases isFinite_cases finiteY with ⟨signY, zeroY, valueY⟩ |
      ⟨signY, second, right, positiveY, unpackedY, -⟩
    · rw [unpackedX, zeroY] at packed
      rw [valueY, mul_zero]
      exact rounding_zero packed
    · have canonicalX := canonical_of_unpack unpackedX
      have canonicalY := canonical_of_unpack unpackedY
      have enough : 2 ^ 23 ≤ first * second ∨ left + right ≤ -149 := by
        rcases canonicalX.full with full | low
        · exact .inl (full.trans (Nat.le_mul_of_pos_right first positiveY))
        · rcases canonicalY.full with full | lowY
          · exact .inl (full.trans (Nat.le_mul_of_pos_left second positiveX))
          · exact .inr (by omega)
      have product : ((first * second : Nat) : Rat) * 2 ^ (left + right) =
          first * 2 ^ left * (second * 2 ^ right) := by
        rw [zpow_add₀ (by norm_num)]
        push_cast
        ring
      rw [unpackedX, unpackedY] at packed
      have rounding := rounding_of_kept packed enough (stands_exact _)
      rwa [product, signed_mul, ← (of_unpack_finite unpackedX).2,
        ← (of_unpack_finite unpackedY).2] at rounding

/-- A number that is packed again. -/
theorem rounding_repack (finiteY : y.isFinite = true)
    (packed : x.toModel.unpack = (Float32.Model.pack y.toModel.unpack).unpack) :
    Rounding (value y) x := by
  have same : x.toModel.unpack = y.toModel.unpack := by
    rw [packed]
    rcases isFinite_cases finiteY with ⟨sign, zero, -⟩ | ⟨_, _, _, _, unpacked, -⟩
    · rw [zero, unpack_pack_zero]
    · rw [unpacked, unpack_pack_canonical (canonical_of_unpack unpacked)]
  have finiteX : x.isFinite = true := by
    show x.toModel.unpack.isFinite = true
    rw [same]
    exact finiteY
  have sameValue : value x = value y := by
    unfold value
    rw [same]
  rw [← sameValue]
  exact rounding_exact finiteX

/-- A mantissa with a sign, at an exponent that is not larger. -/
theorem signed_decrease (sign : Sign) (mantissa : Nat) {exponent target : Int}
    (below : target ≤ exponent) :
    (sign.apply (mantissa <<< (exponent - target).toNat : Nat) : Rat) * 2 ^ target =
      signed sign (mantissa * 2 ^ exponent) := by
  obtain ⟨count, rfl⟩ : ∃ count : Nat, target = exponent - count :=
    ⟨(exponent - target).toNat, by omega⟩
  have amount : (exponent - (exponent - count)).toNat = count := by omega
  rw [amount, ← shiftLeft_size mantissa count exponent, ← signedValue_eq]
  rfl

theorem add_zeros :
    UnpackedFloat.add Format.binary32 (.zero first) (.zero second) =
      .zero (if first == second then first else .positive) := by
  cases first <;> cases second <;> rfl

theorem add_rounding (finiteX : x.isFinite = true) (finiteY : y.isFinite = true) :
    Rounding (value x + value y) (x + y) := by
  have packed : (x + y).toModel.unpack = (Float32.Model.pack
    (UnpackedFloat.add Format.binary32 x.toModel.unpack y.toModel.unpack)).unpack := rfl
  rcases isFinite_cases finiteX with ⟨signX, zeroX, valueX⟩ |
    ⟨signX, first, left, positiveX, unpackedX, -⟩
  · rw [valueX, zero_add]
    rcases isFinite_cases finiteY with ⟨signY, zeroY, valueY⟩ | ⟨signY, _, _, _, unpackedY, -⟩
    · rw [zeroX, zeroY, add_zeros] at packed
      rw [valueY]
      exact rounding_zero packed
    · refine rounding_repack finiteY ?_
      rw [packed, zeroX, unpackedY]
      rfl
  · rcases isFinite_cases finiteY with ⟨signY, zeroY, valueY⟩ |
      ⟨signY, second, right, positiveY, unpackedY, -⟩
    · rw [valueY, add_zero]
      refine rounding_repack finiteX ?_
      rw [packed, unpackedX, zeroY]
      rfl
    · rw [unpackedX, unpackedY] at packed
      have rounding := rounding_normalize packed
      rwa [Int.cast_add, add_mul, signed_decrease signX first (min_le_left left right),
        signed_decrease signY second (min_le_right left right), ← (of_unpack_finite unpackedX).2,
        ← (of_unpack_finite unpackedY).2] at rounding

/-- The difference is the sum with the negated number. -/
theorem sub_unpacked (first second : UnpackedFloat) :
    UnpackedFloat.sub Format.binary32 first second =
      UnpackedFloat.add Format.binary32 first second.neg := by
  cases first with
  | notANumber => rfl
  | infinity sign => cases second <;> rfl
  | zero sign => cases second <;> rfl
  | finite sign mantissa exponent positive =>
    cases second with
    | notANumber => rfl
    | infinity other => rfl
    | zero other => rfl
    | finite other mantissa' exponent' positive' =>
      cases other with
      | positive => rfl
      | negative =>
        show UnpackedFloat.normalize _ (_ - -_) _ _ = UnpackedFloat.normalize _ (_ + _) _ _
        rw [Int.sub_neg]
        rfl

theorem sub_rounding (finiteX : x.isFinite = true) (finiteY : y.isFinite = true) :
    Rounding (value x - value y) (x - y) := by
  have ⟨finiteNeg, valueNeg⟩ := neg_spec finiteY
  have negated : (-y).toModel.unpack = y.toModel.unpack.neg := by
    rw [toModel_neg]
    rcases isFinite_cases finiteY with ⟨sign, zero, -⟩ | ⟨_, _, _, _, unpacked, -⟩
    · rw [zero]
      exact unpack_pack_zero (-sign)
    · rw [unpacked]
      exact unpack_pack_canonical (canonical_of_unpack unpacked)
  have same : x - y = x + -y := by
    refine congrArg Float32.ofModel ?_
    show Float32.Model.pack (UnpackedFloat.sub Format.binary32 x.toModel.unpack y.toModel.unpack) =
      Float32.Model.pack (UnpackedFloat.add Format.binary32 x.toModel.unpack (-y).toModel.unpack)
    rw [negated, sub_unpacked]
  rw [same, sub_eq_add_neg, ← valueNeg]
  exact add_rounding finiteX finiteNeg

theorem ofInt_rounding (number : Int) : Rounding number (.ofModel (.ofInt number)) := by
  have rounding := @rounding_normalize (.ofModel (.ofInt number)) number 0 .positive rfl
  rwa [zpow_zero, mul_one] at rounding

/-! ### Quotients -/

/-- The exact quotient lies where the accuracy says. -/
theorem stands_fraction {divisor : Nat} (positive : 0 < divisor) (dividend : Nat) :
    Stands (.ofMantissaAndAccuracy (dividend / divisor)
      (accuracyOfFraction (dividend % divisor) divisor)) (dividend / divisor : Rat) := by
  have divisorPos : (0 : Rat) < divisor := by exact_mod_cast positive
  have split : (dividend : Rat) = divisor * (dividend / divisor : Nat) +
      (dividend % divisor : Nat) := by
    exact_mod_cast (Nat.div_add_mod dividend divisor).symm
  have less : ((dividend % divisor : Nat) : Rat) < divisor := by
    exact_mod_cast Nat.mod_lt dividend positive
  have quotient : (dividend / divisor : Rat) = (dividend / divisor : Nat) +
      (dividend % divisor : Nat) / divisor := by
    rw [split]
    field_simp
  rw [quotient]
  generalize (dividend / divisor : Nat) = whole
  generalize dividend % divisor = rest at less
  unfold accuracyOfFraction
  by_cases none : rest = 0
  · rw [if_pos none, none, Nat.cast_zero, zero_div, add_zero]
    rfl
  · have some : (0 : Rat) < rest := by exact_mod_cast Nat.pos_of_ne_zero none
    have fraction := div_pos some divisorPos
    rw [if_neg none]
    rcases lt_trichotomy (2 * rest) divisor with below | middle | beyond
    · have half : (rest : Rat) / divisor < 1 / 2 := by
        rw [div_lt_div_iff₀ divisorPos (by norm_num), one_mul]
        exact_mod_cast (mul_comm rest 2).trans_lt below
      rw [compare_lt_iff_lt.mpr below]
      exact ⟨lt_add_of_pos_right _ fraction, (add_lt_add_iff_left _).mpr half⟩
    · have half : (rest : Rat) / divisor = 1 / 2 := by
        rw [div_eq_div_iff divisorPos.ne' (by norm_num), one_mul]
        exact_mod_cast (mul_comm rest 2).trans middle
      rw [compare_eq_iff_eq.mpr middle]
      exact congrArg (_ + ·) half
    · have half : 1 / 2 < (rest : Rat) / divisor := by
        rw [div_lt_div_iff₀ (by norm_num) divisorPos, one_mul]
        exact_mod_cast beyond.trans_eq (mul_comm 2 rest)
      have one : (rest : Rat) / divisor < 1 := (div_lt_one divisorPos).mpr less
      rw [compare_gt_iff_gt.mpr beyond]
      exact ⟨(add_lt_add_iff_left _).mpr half, (add_lt_add_iff_left _).mpr one⟩

theorem signed_div (left right : Rat) :
    signed (first / second) (left / right) = signed first left / signed second right := by
  cases first with
  | positive =>
    cases second with
    | positive => rfl
    | negative => exact (div_neg left).symm
  | negative =>
    cases second with
    | positive => exact (neg_div right left).symm
    | negative => exact (neg_div_neg_eq left right).symm

theorem div_rounding (finiteX : x.isFinite = true) (finiteY : y.isFinite = true)
    (nonzero : value y ≠ 0) : Rounding (value x / value y) (x / y) := by
  have packed : (x / y).toModel.unpack = (Float32.Model.pack
    (UnpackedFloat.div Format.binary32 x.toModel.unpack y.toModel.unpack)).unpack := rfl
  rcases isFinite_cases finiteY with ⟨_, _, valueY⟩ |
    ⟨signY, second, right, positiveY, unpackedY, -⟩
  · exact absurd valueY nonzero
  rcases isFinite_cases finiteX with ⟨signX, zeroX, valueX⟩ |
    ⟨signX, first, left, positiveX, unpackedX, -⟩
  · rw [valueX, zero_div]
    rw [zeroX, unpackedY] at packed
    exact rounding_zero packed
  · rw [unpackedX, unpackedY] at packed
    generalize isTarget : min (left - right) (Format.binary32.targetExponent
      (totalExponent first left - totalExponent second right)) = target
    have isBound : target = min (left - right)
        (max (first.log2 + left - second.log2 - right - 24) (-149)) := by
      rw [← isTarget]
      show min _ (max ((first.log2 : Int) + 1 + left - (second.log2 + 1 + right) - (24 : Nat))
        (-149)) = _
      congr 2
      omega
    have divided : UnpackedFloat.div Format.binary32 (.finite signX first left positiveX)
        (.finite signY second right positiveY) =
        roundWithAccuracy Format.binary32 (signX / signY)
          (first <<< (left - right - target).toNat / second) target
          (accuracyOfFraction (first <<< (left - right - target).toNat % second) second) := by
      rw [← isTarget]
      rfl
    generalize isCount : (left - right - target).toNat = count at divided
    have enough : 2 ^ 23 ≤ first <<< count / second ∨ target ≤ -149 := by
      by_cases low : target ≤ -149
      · exact .inr low
      · left
        rw [Nat.le_div_iff_mul_le positiveY]
        calc 2 ^ 23 * second
            ≤ 2 ^ 23 * 2 ^ (second.log2 + 1) := Nat.mul_le_mul_left _ Nat.lt_log2_self.le
          _ = 2 ^ (24 + second.log2) := by rw [← pow_add]; congr 1; omega
          _ ≤ first <<< count := le_shiftLeft positiveX (by omega)
    have quotient : ((first <<< count : Nat) : Rat) / second * 2 ^ target =
        first * 2 ^ left / (second * 2 ^ right) := by
      have exponent : left = target + count + right := by omega
      rw [exponent, Nat.shiftLeft_eq, zpow_add₀ (by norm_num), zpow_add₀ (by norm_num),
        zpow_natCast]
      push_cast
      field_simp
    rw [divided] at packed
    have rounding := rounding_of_kept packed enough (stands_fraction positiveY _)
    rwa [quotient, signed_div, ← (of_unpack_finite unpackedX).2,
      ← (of_unpack_finite unpackedY).2] at rounding

/-! ### Square roots -/

/-- Some number lies where an accuracy says. -/
theorem exists_stands (mantissa : Nat) (accuracy : Accuracy) :
    ∃ exact : Rat, mantissa ≤ exact ∧ Stands (.ofMantissaAndAccuracy mantissa accuracy) exact := by
  cases accuracy with
  | exact => exact ⟨mantissa, le_rfl, rfl⟩
  | inexact order =>
    cases order with
    | lt =>
      refine ⟨mantissa + 1 / 4, by linarith, ?_⟩
      show (mantissa : Rat) < _ ∧ _ < (mantissa : Rat) + 1 / 2
      exact ⟨by linarith, by linarith⟩
    | eq => exact ⟨mantissa + 1 / 2, by linarith, rfl⟩
    | gt =>
      refine ⟨mantissa + 3 / 4, by linarith, ?_⟩
      show (mantissa : Rat) + 1 / 2 < _ ∧ _ < (mantissa : Rat) + 1
      exact ⟨by linarith, by linarith⟩

/-- The square root is a number after rounding that is not below a power of two whose square is not
above the number under the root. -/
theorem sqrt_rounding (finiteX : x.isFinite = true) (positive : 0 < value x) :
    ∃ exact : Rat, Rounding exact x.sqrt ∧
      ∀ power : Int, 2 ^ (2 * power) ≤ value x → 2 ^ power ≤ exact := by
  have packed : x.sqrt.toModel.unpack = (Float32.Model.pack
    (UnpackedFloat.sqrt Format.binary32 x.toModel.unpack)).unpack := rfl
  rcases isFinite_cases finiteX with ⟨_, _, isValue⟩ |
    ⟨sign, mantissa, exponent, mantissaPos, unpacked, -⟩
  · exact absurd isValue positive.ne'
  have isValue := (of_unpack_finite unpacked).2
  have size := (canonical_of_unpack unpacked).size_pos
  cases sign with
  | negative =>
    have negative : value x = -_ := isValue
    exact absurd positive (by linarith)
  | positive =>
    have same : value x = mantissa * 2 ^ exponent := isValue
    rw [unpacked] at packed
    generalize isTarget : min (exponent.ediv 2) (Format.binary32.targetExponent
      ((totalExponent mantissa exponent + 1).ediv 2)) = target
    have isBound : target = min (exponent / 2)
        (max ((mantissa.log2 + 1 + exponent + 1) / 2 - 24) (-149)) := by
      rw [← isTarget]
      rfl
    generalize isCount : (exponent - 2 * target).toNat = count
    generalize isRoot : Nat.sqrt (mantissa <<< count) = root
    have rooted : ∃ accuracy, UnpackedFloat.sqrt Format.binary32
        (.finite .positive mantissa exponent mantissaPos) =
          roundWithAccuracy Format.binary32 .positive root target accuracy := by
      rw [← isRoot, ← isCount, ← isTarget]
      exact ⟨_, rfl⟩
    obtain ⟨accuracy, isRooted⟩ := rooted
    obtain ⟨exact, least, stands⟩ := exists_stands root accuracy
    rw [isRooted] at packed
    have enough : 2 ^ 23 ≤ root ∨ target ≤ -149 := by
      by_cases low : target ≤ -149
      · exact .inr low
      · have squared : 2 ^ 46 ≤ mantissa <<< count := le_shiftLeft mantissaPos (by omega)
        rw [← isRoot]
        exact .inl (Nat.le_sqrt.mpr squared)
    refine ⟨exact * 2 ^ target, rounding_of_kept packed enough stands, fun power isSquare => ?_⟩
    have unit : (0 : Rat) < 2 ^ target := zpow_pos (by norm_num) target
    have rootLe : (root : Rat) * 2 ^ target ≤ exact * 2 ^ target :=
      mul_le_mul_of_nonneg_right least unit.le
    refine le_trans ?_ rootLe
    by_cases above : target ≤ power
    · obtain ⟨more, rfl⟩ : ∃ more : Nat, power = target + more := ⟨(power - target).toNat, by omega⟩
      have isExponent : exponent = 2 * target + count := by omega
      have twice : 2 * (target + more) = 2 * target + (more + more : Nat) := by omega
      rw [same, isExponent, twice, zpow_add₀ (by norm_num), zpow_add₀ (by norm_num),
        zpow_natCast, zpow_natCast, mul_left_comm] at isSquare
      have scaled : (2 : Rat) ^ (more + more) ≤ mantissa * 2 ^ count :=
        le_of_mul_le_mul_left isSquare (zpow_pos (by norm_num) (2 * target))
      have inRoot : 2 ^ more ≤ root := by
        rw [← isRoot, Nat.le_sqrt, ← pow_add, Nat.shiftLeft_eq]
        exact_mod_cast scaled
      have inRootRat : (2 : Rat) ^ more ≤ root := by exact_mod_cast inRoot
      rw [zpow_add₀ (by norm_num), zpow_natCast, mul_comm]
      exact mul_le_mul_of_nonneg_right inRootRat unit.le
    · have one : 1 ≤ root := by
        rw [← isRoot, Nat.le_sqrt, Nat.shiftLeft_eq]
        exact Nat.mul_pos mantissaPos (Nat.two_pow_pos count)
      have oneRat : (1 : Rat) ≤ root := by exact_mod_cast one
      calc (2 : Rat) ^ power ≤ 2 ^ target := zpow_le_zpow_right₀ (by norm_num) (not_le.mp above).le
        _ = 1 * 2 ^ target := (one_mul _).symm
        _ ≤ root * 2 ^ target := mul_le_mul_of_nonneg_right oneRat unit.le

end SinglePrecision
