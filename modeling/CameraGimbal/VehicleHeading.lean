/-
This file proves that the heading of a gimbal state that is taken is between minus pi and pi. The
quaternion is scaled by its length, and each of its parts is at most twice the length as it is
computed, so that the angle is taken of two numbers.
-/

import CameraGimbal.HeadingWrap

namespace Vehicle

open SinglePrecision

/-! ### The length -/

variable {q : Fin 4 → Float32}

theorem squares_spec (finite : ∀ i, (q i).isFinite = true) (finiteSum : (squares q).isFinite = true)
    (i : Fin 4) : (q i * q i).isFinite = true ∧ value (q i * q i) ≤ value (squares q) := by
  unfold squares at finiteSum ⊢
  have ⟨finiteThird, finite3⟩ := isFinite_of_add finiteSum
  have ⟨finiteSecond, finite2⟩ := isFinite_of_add finiteThird
  have ⟨finiteFirst, finite1⟩ := isFinite_of_add finiteSecond
  have ⟨_, finite0⟩ := isFinite_of_add finiteFirst
  have nonneg0 := square_nonneg (finite 0) finite0
  have ⟨atLeast0, first⟩ := le_add finiteFirst value_zero.2.ge nonneg0
  have nonnegFirst := nonneg0.trans first
  have ⟨second, at1⟩ := le_add finiteSecond nonnegFirst (square_nonneg (finite 1) finite1)
  have nonnegSecond := nonnegFirst.trans second
  have ⟨third, at2⟩ := le_add finiteThird nonnegSecond (square_nonneg (finite 2) finite2)
  have nonnegThird := nonnegSecond.trans third
  have ⟨fourth, at3⟩ := le_add finiteSum nonnegThird (square_nonneg (finite 3) finite3)
  match i with
  | 0 => exact ⟨finite0, ((first.trans second).trans third).trans fourth⟩
  | 1 => exact ⟨finite1, (at1.trans third).trans fourth⟩
  | 2 => exact ⟨finite2, at2.trans fourth⟩
  | 3 => exact ⟨finite3, at3⟩

theorem part_within (finite : ∀ i, (q i).isFinite = true) (finiteSum : (squares q).isFinite = true)
    (long : ¬ squares q < 0.000001) (i : Fin 4) : Within (q i / (squares q).sqrt) 2 := by
  have ⟨finiteSquare, least⟩ := squares_spec finite finiteSum i
  by_cases large : (2 : Rat) ^ (-74 : Int) ≤ |value (q i)|
  · have positive : 0 < |value (q i)| := (zpow_pos (by norm_num) _).trans_le large
    obtain ⟨power, above, below⟩ := exists_mem_Ico_zpow positive (by norm_num : (1 : Rat) < 2)
    have low : -74 < power + 1 := (zpow_lt_zpow_iff_right₀ (by norm_num)).mp (large.trans_lt below)
    have square : (2 : Rat) ^ (2 * power) ≤ value (q i) * value (q i) := by
      rw [two_mul, zpow_add₀ (by norm_num), ← abs_mul_abs_self (value (q i))]
      exact mul_self_le_mul_self (zpow_pos (by norm_num) power).le above
    have rounding := mul_rounding (finite i) (finite i)
    have high : power < 64 := by
      by_contra beyond
      have tooLarge : (2 : Rat) ^ (128 : Int) ≤ 2 ^ (2 * power) :=
        zpow_le_zpow_right₀ (by norm_num) (by omega)
      have infinite := rounding.large ((tooLarge.trans square).trans (le_abs_self _))
      rw [infinite] at finiteSquare
      cases finiteSquare
    obtain ⟨y, finiteY, isPower⟩ := @exists_power (2 * power) (by omega) (by omega)
    have kept := (le_iff_value finiteY finiteSquare).mp
      (rounding.above y finiteY (isPower.trans_le square))
    rw [isPower] at kept
    exact div_sqrt_within (finite i) finiteSum below.le (kept.trans least) (by omega) (by omega)
  · -- a part that is very small is small beside the least length that is accepted
    have ⟨finiteLeast, leastLength⟩ : (0.000001 : Float32).isFinite = true ∧
        (2 : Rat) ^ (-20 : Int) ≤ value 0.000001 := by decide +kernel
    rw [lt_iff_value finiteSum finiteLeast, not_lt] at long
    have small : |value (q i)| ≤ 2 ^ ((-10 : Int) + 1) :=
      (not_le.mp large).le.trans (zpow_le_zpow_right₀ (by norm_num) (by norm_num))
    exact @div_sqrt_within _ _ (-10) (finite i) finiteSum small (leastLength.trans long)
      (by norm_num) (by norm_num)

theorem normalized_within {scaled : Fin 4 → Float32} (isScaled : normalized q = some scaled)
    (i : Fin 4) : Within (scaled i) 2 := by
  unfold normalized at isScaled
  split at isScaled
  · cases isScaled
  next passed =>
  split at isScaled
  · cases isScaled
  next accepted =>
  cases isScaled
  simp only [List.any_eq_true, Bool.not_eq_true', not_exists, not_and, Bool.not_eq_false] at passed
  simp only [Bool.or_eq_true, Bool.not_eq_true', not_or, Bool.not_eq_false,
    decide_eq_true_eq] at accepted
  exact part_within (fun j => passed j (List.mem_finRange j)) accepted.1 accepted.2 i

/-! ### The heading -/

/-- What is documented of `atan2f`: of two numbers it gives an angle between minus pi and pi. -/
def Trigonometry.Documented (trigonometry : Trigonometry) : Prop :=
  ∀ y x : Float32, y.isNaN = false → x.isNaN = false →
    Within (trigonometry.atan2f y x) (value piF)

theorem twice_within {a b c d : Float32} (withinA : Within a 2) (withinB : Within b 2)
    (withinC : Within c 2) (withinD : Within d 2) : Within (2 * (a * b + c * d)) 16 := by
  have two : Within 2 2 := ⟨value_two.1, by rw [value_two.2]; norm_num⟩
  have first := withinA.mul withinB value_four.1 (by rw [value_four.2]; norm_num)
  have second := withinC.mul withinD value_four.1 (by rw [value_four.2]; norm_num)
  have sum := first.add second value_eight.1 (by rw [value_four.2, value_eight.2]; norm_num)
  have twice := two.mul sum value_sixteen.1 (by rw [value_eight.2, value_sixteen.2]; norm_num)
  rwa [value_sixteen.2] at twice

theorem heading_within {trigonometry : Trigonometry} (documented : trigonometry.Documented)
    (within : ∀ i, Within (q i) 2) : Within (quaternionToEuler trigonometry q).2.2 (value piF) := by
  have one : Within 1 1 := ⟨value_one.1, by rw [value_one.2]; norm_num⟩
  have first := twice_within (within 0) (within 3) (within 1) (within 2)
  have second := one.sub (twice_within (within 2) (within 2) (within 3) (within 3))
    value_thirtyTwo.1 (by rw [value_thirtyTwo.2]; norm_num)
  exact documented _ _ (not_isNaN first.finite) (not_isNaN second.finite)

theorem isFinite_orZero (rate : Float32) : (if rate.isFinite then rate else 0).isFinite = true := by
  split
  · next finite => exact finite
  · exact value_zero.1

theorem AutopilotState.yawRate_isFinite (state : AutopilotState) : state.yawRate.isFinite = true :=
  isFinite_orZero _

end Vehicle
