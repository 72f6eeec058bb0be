/-
This file proves that the loops of `wrap_pi_f` end for an angle below two to the number of mantissa
bits, and that the heading that is predicted from a gimbal state is such an angle when the heading
of the state and a quarter of its rate make one.
-/

import CameraGimbal.FloatBounds
import CameraGimbal.VehicleTelemetry

namespace Vehicle

open SinglePrecision

/-! ### The loops -/

theorem value_constants :
    (piF.isFinite = true ∧ value piF = 13176795 / 4194304) ∧
      ((2 * piF).isFinite = true ∧ value (2 * piF) = 13176795 / 2097152) ∧
      ((predictionMs * 0.001).isFinite = true ∧ value (predictionMs * 0.001) = 1 / 4) := by
  decide +kernel

theorem value_piF : piF.isFinite = true ∧ value piF = 13176795 / 4194304 := value_constants.1

theorem value_twoPi : (2 * piF).isFinite = true ∧ value (2 * piF) = 13176795 / 2097152 :=
  value_constants.2.1

theorem value_quarter :
    (predictionMs * 0.001).isFinite = true ∧ value (predictionMs * 0.001) = 1 / 4 :=
  value_constants.2.2

/-- A number that is small enough for the loops. -/
structure Wraps (angle : Float32) : Prop where
  finite : angle.isFinite = true
  small : |value angle| < 2 ^ 24

variable {angle : Float32}

theorem wraps_of_rounding {exact : Rat} (rounding : Rounding exact angle)
    (small : |exact| < 2 ^ 24 - 1 / 2) : Wraps angle ∧ |value angle - exact| ≤ 1 / 2 := by
  have isLimit := value_limit.2
  have inside : |exact| < 2 ^ 24 := small.trans (by norm_num)
  have near := rounding.half inside
  have finite := (rounding.within (by decide) (inside.le.trans_eq isLimit.symm)).finite
  refine ⟨⟨finite, ?_⟩, near⟩
  calc |value angle| = |(value angle - exact) + exact| := by rw [sub_add_cancel]
    _ ≤ |value angle - exact| + |exact| := abs_add_le _ _
    _ < 2 ^ 24 := by linarith

theorem down_step (wraps : Wraps angle) (above : piF < angle) :
    Wraps (angle - 2 * piF) ∧ value (angle - 2 * piF) ≤ value angle - 5 := by
  rw [lt_iff_value value_piF.1 wraps.finite, value_piF.2] at above
  have rounding := sub_rounding wraps.finite value_twoPi.1
  rw [value_twoPi.2] at rounding
  have most := (abs_lt.mp wraps.small).2
  have ⟨next, near⟩ := wraps_of_rounding rounding
    (abs_lt.mpr ⟨by linarith only [above], by linarith only [most]⟩)
  exact ⟨next, by linarith only [(abs_le.mp near).2]⟩

theorem up_step (wraps : Wraps angle) (below : angle < -piF) :
    Wraps (angle + 2 * piF) ∧ value angle + 5 ≤ value (angle + 2 * piF) := by
  have ⟨finiteNeg, valueNeg⟩ := neg_spec value_piF.1
  rw [lt_iff_value wraps.finite finiteNeg, valueNeg, value_piF.2] at below
  have rounding := add_rounding wraps.finite value_twoPi.1
  rw [value_twoPi.2] at rounding
  have least := (abs_lt.mp wraps.small).1
  have ⟨next, near⟩ := wraps_of_rounding rounding
    (abs_lt.mpr ⟨by linarith only [least], by linarith only [below]⟩)
  exact ⟨next, by linarith only [(abs_le.mp near).1]⟩

theorem wrapDown_ends {rounds : Nat} (wraps : Wraps angle) (enough : value angle ≤ 3 + 5 * rounds) :
    ∃ wrapped, wrapDown rounds angle = some wrapped ∧ Wraps wrapped := by
  induction rounds generalizing angle with
  | zero =>
    have notAbove : ¬ piF < angle := by
      rw [lt_iff_value value_piF.1 wraps.finite, value_piF.2]
      push_cast at enough
      linarith only [enough]
    exact ⟨angle, if_neg notAbove, wraps⟩
  | succ fewer hypothesis =>
    by_cases above : piF < angle
    · obtain ⟨next, lower⟩ := down_step wraps above
      push_cast at enough
      obtain ⟨wrapped, ends, wrapsToo⟩ := hypothesis next (by linarith only [enough, lower])
      refine ⟨wrapped, ?_, wrapsToo⟩
      rw [wrapDown, if_pos above, ends]
    · exact ⟨angle, if_neg above, wraps⟩

theorem wrapUp_ends {rounds : Nat} (wraps : Wraps angle)
    (enough : -(3 + 5 * rounds) ≤ value angle) : (wrapUp rounds angle).isSome = true := by
  induction rounds generalizing angle with
  | zero =>
    have notBelow : ¬ angle < -piF := by
      have ⟨finiteNeg, valueNeg⟩ := neg_spec value_piF.1
      rw [lt_iff_value wraps.finite finiteNeg, valueNeg, value_piF.2]
      push_cast at enough
      linarith only [enough]
    rw [wrapUp, if_neg notBelow]
    rfl
  | succ fewer hypothesis =>
    by_cases below : angle < -piF
    · obtain ⟨next, higher⟩ := up_step wraps below
      push_cast at enough
      rw [wrapUp, if_pos below]
      exact hypothesis next (by linarith only [enough, higher])
    · rw [wrapUp, if_neg below]
      rfl

theorem wrapPiF_isSome (wraps : Wraps angle) : ∃ rounds, (wrapPiF rounds angle).isSome = true := by
  obtain ⟨rounds, enough⟩ : ∃ rounds : Nat, (2 : Rat) ^ 24 ≤ 3 + 5 * rounds :=
    ⟨4194304, by norm_num⟩
  obtain ⟨wrapped, ends, wrapsToo⟩ :=
    wrapDown_ends wraps ((abs_lt.mp wraps.small).2.le.trans enough)
  refine ⟨rounds, ?_⟩
  unfold wrapPiF
  rw [ends, Option.bind_some]
  exact wrapUp_ends wrapsToo ((neg_le_neg enough).trans (abs_lt.mp wrapsToo.small).1.le)

/-- `current_vehicle_attitude` ends when its loops do. -/
theorem currentVehicleAttitude_isSome {state : State} {now : UInt64}
    (ends : ∀ argument, wrapArgument state now = some argument →
      ∃ rounds, (wrapPiF rounds argument).isSome = true) :
    ∃ rounds, (currentVehicleAttitude rounds state now).isSome = true := by
  cases kept : state.attitude with
  | none =>
    refine ⟨0, ?_⟩
    rw [currentVehicleAttitude, kept]
    rfl
  | some attitude =>
    cases isArgument : wrapArgument state now with
    | none =>
      refine ⟨0, ?_⟩
      rw [currentVehicleAttitude, kept, isArgument]
      rfl
    | some argument =>
      obtain ⟨rounds, ends⟩ := ends argument isArgument
      refine ⟨rounds, ?_⟩
      rw [currentVehicleAttitude, kept, isArgument]
      exact Option.isSome_map.trans ends

theorem wrapDown_of_stays (above : piF < angle) (stays : angle - 2 * piF = angle) (rounds : Nat) :
    wrapDown rounds angle = none := by
  induction rounds with
  | zero => exact if_pos above
  | succ fewer hypothesis => rw [wrapDown, if_pos above, stays, hypothesis]

/-! ### The argument -/

theorem not_isNaN {x : Float32} (finite : x.isFinite = true) : x.isNaN = false := by
  show x.toModel.unpack.isNaN = false
  rcases isFinite_cases finite with ⟨_, zero, -⟩ | ⟨_, _, _, _, unpacked, -⟩
  · rw [zero]
    rfl
  · rw [unpacked]
    rfl

theorem elapsed_spec {attitude : Attitude} {now : UInt64}
    (fresh : ¬ attitudeTimeoutMs < now - attitude.updatedMs) :
    (elapsed attitude now).isFinite = true ∧ 0 ≤ value (elapsed attitude now) ∧
      value (elapsed attitude now) ≤ 1 / 4 := by
  have few : (now - attitude.updatedMs).toNat ≤ 1000 := by
    have bound := UInt64.le_iff_toNat_le.mp (UInt64.not_lt.mp fresh)
    exact bound
  unfold elapsed
  generalize (now - attitude.updatedMs).toNat = milliseconds at few
  have fewRat : (milliseconds : Rat) ≤ 1000 := by exact_mod_cast few
  have isInt : ((milliseconds : Int) : Rat) = milliseconds := Int.cast_natCast _
  have rounded : Rounding (milliseconds : Int) (ofInt milliseconds) := ofInt_rounding milliseconds
  obtain ⟨finite, least, most⟩ := rounded.between value_zero.1 value_thousand.1
    (by rw [value_zero.2, isInt]; exact Nat.cast_nonneg _)
    (by rw [value_thousand.2, isInt]; exact fewRat)
  rw [value_zero.2] at least
  rw [value_thousand.2] at most
  have divided := div_rounding finite value_thousand.1 (by rw [value_thousand.2]; norm_num)
  rw [value_thousand.2] at divided
  obtain ⟨finiteSeconds, leastSeconds, -⟩ := divided.between value_zero.1 value_one.1
    (by rw [value_zero.2]; exact div_nonneg least (by norm_num))
    (by rw [value_one.2]; exact (div_le_one (by norm_num)).mpr most)
  rw [value_zero.2] at leastSeconds
  unfold fminf
  rw [not_isNaN finiteSeconds, not_isNaN value_quarter.1]
  simp only [Bool.false_eq_true, if_false]
  split
  · rw [value_quarter.2]
    exact ⟨value_quarter.1, by norm_num, le_rfl⟩
  · next notLess =>
    rw [lt_iff_value value_quarter.1 finiteSeconds, value_quarter.2, not_lt] at notLess
    exact ⟨finiteSeconds, leastSeconds, notLess⟩

theorem exists_quarter {x : Float32} (finite : x.isFinite = true) (large : 1 ≤ |value x|) :
    ∃ y : Float32, y.isFinite = true ∧ value y = value x / 4 := by
  rcases isFinite_cases finite with ⟨_, _, isValue⟩ | ⟨sign, mantissa, exponent, _, unpacked, -⟩
  · rw [isValue, abs_zero] at large
    exact absurd large (by norm_num)
  · have canonical := canonical_of_unpack unpacked
    have isValue := (of_unpack_finite unpacked).2
    rw [isValue, abs_signed, abs_of_pos canonical.size_pos] at large
    have notLow : -24 < exponent := by
      refine (zpow_lt_zpow_iff_right₀ (by norm_num : (1 : Rat) < 2)).mp ?_
      have fits : (mantissa : Rat) < 2 ^ 24 := by exact_mod_cast canonical.fits
      have below := large.trans_lt
        (mul_lt_mul_of_pos_right fits (zpow_pos (by norm_num : (0 : Rat) < 2) exponent))
      rw [zpow_neg, inv_lt_iff_one_lt_mul₀ (by norm_num), mul_comm]
      exact below
    have quarter : Canonical mantissa (exponent - 2) :=
      { positive := canonical.positive
        fits := canonical.fits
        full := .inl (canonical.full.resolve_right (by omega))
        low := by omega
        high := by have := canonical.high; omega }
    refine ⟨.ofModel (.pack (.finite sign mantissa (exponent - 2) quarter.positive)), ?_⟩
    have spec := @of_unpack_finite _ sign _ _ _ (unpack_pack_canonical quarter)
    refine ⟨spec.1, spec.2.trans ?_⟩
    have scaled : (mantissa : Rat) * 2 ^ (exponent - 2) = mantissa * 2 ^ exponent / 4 := by
      rw [zpow_sub₀ (by norm_num)]
      ring
    rw [scaled, isValue]
    cases sign with
    | positive => rfl
    | negative => exact (neg_div 4 _).symm

/-- The heading and a quarter of the rate make an angle that the loops can wrap. -/
structure Attitude.Calm (attitude : Attitude) : Prop where
  heading : Within attitude.yaw (value piF)
  finiteRate : attitude.yawRate.isFinite = true
  small : |value attitude.yaw + value attitude.yawRate / 4| < 2 ^ 24 - 1 / 2

theorem turn_spec {rate time : Float32} (finite : rate.isFinite = true)
    (finiteTime : time.isFinite = true) (least : 0 ≤ value time) (most : value time ≤ 1 / 4) :
    (rate * time).isFinite = true ∧
      (|value (rate * time)| ≤ 1 ∨
        (0 ≤ value (rate * time) ∧ value (rate * time) ≤ value rate / 4) ∨
        (value rate / 4 ≤ value (rate * time) ∧ value (rate * time) ≤ 0)) := by
  have rounding := mul_rounding finite finiteTime
  have product : |value rate * value time| ≤ |value rate| * (1 / 4) := by
    rw [abs_mul, abs_of_nonneg least]
    exact mul_le_mul_of_nonneg_left most (abs_nonneg _)
  by_cases large : 1 ≤ |value rate|
  · obtain ⟨y, finiteY, isQuarter⟩ := exists_quarter finite large
    rcases le_total 0 (value rate) with nonneg | nonpos
    · obtain ⟨finiteTurn, above, below⟩ := rounding.between value_zero.1 finiteY
        (by rw [value_zero.2]; exact mul_nonneg nonneg least)
        (by rw [isQuarter]; linarith only [mul_le_mul_of_nonneg_left most nonneg])
      rw [value_zero.2] at above
      rw [isQuarter] at below
      exact ⟨finiteTurn, .inr (.inl ⟨above, below⟩)⟩
    · obtain ⟨finiteTurn, above, below⟩ := rounding.between finiteY value_zero.1
        (by rw [isQuarter]; linarith only [mul_le_mul_of_nonpos_left most nonpos])
        (by rw [value_zero.2]; exact mul_nonpos_of_nonpos_of_nonneg nonpos least)
      rw [value_zero.2] at below
      rw [isQuarter] at above
      exact ⟨finiteTurn, .inr (.inr ⟨above, below⟩)⟩
  · have within := rounding.within value_one.1
      (by rw [value_one.2]; linarith only [product, not_le.mp large])
    rw [value_one.2] at within
    exact ⟨within.finite, .inl within.size⟩

theorem Attitude.Calm.wraps {attitude : Attitude} (calm : attitude.Calm) {now : UInt64}
    (fresh : ¬ attitudeTimeoutMs < now - attitude.updatedMs) :
    Wraps (attitude.yaw + attitude.yawRate * elapsed attitude now) := by
  obtain ⟨finiteTime, least, most⟩ := elapsed_spec fresh
  obtain ⟨finiteTurn, turn⟩ := turn_spec calm.finiteRate finiteTime least most
  obtain ⟨leastYaw, mostYaw⟩ := abs_le.mp calm.heading.size
  obtain ⟨leastSum, mostSum⟩ := abs_lt.mp calm.small
  rw [value_piF.2] at leastYaw mostYaw
  refine (wraps_of_rounding (add_rounding calm.heading.finite finiteTurn) (abs_lt.mpr ?_)).1
  rcases turn with tiny | ⟨above, below⟩ | ⟨above, below⟩
  · obtain ⟨leastTurn, mostTurn⟩ := abs_le.mp tiny
    exact ⟨by linarith only [leastYaw, leastTurn], by linarith only [mostYaw, mostTurn]⟩
  · exact ⟨by linarith only [leastYaw, above], by linarith only [mostSum, below]⟩
  · exact ⟨by linarith only [leastSum, above], by linarith only [mostYaw, below]⟩

end Vehicle
