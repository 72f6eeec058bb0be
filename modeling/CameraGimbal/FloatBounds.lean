/-
This file is a library of bounds on calculations in single precision: sums and products of numbers
within bounds are within bounds themselves, a sum is not below either of two numbers that are not
negative, and a number is at most twice the square root of what its square does not exceed.
-/

import CameraGimbal.FloatArithmetic

namespace SinglePrecision

open Float.Model Float.Model.UnpackedFloat

/-! ### Finite results -/

variable {x y : Float32}

/-- A number above a finite one is finite or infinite. -/
theorem le_cases (finiteX : x.isFinite = true) (most : x ≤ y) :
    (y.isFinite = true ∧ value x ≤ value y) ∨ y.toModel.unpack = .infinity .positive := by
  cases unpacked : y.toModel.unpack with
  | notANumber =>
    rw [le_iff, unpacked] at most
    rcases isFinite_cases finiteX with ⟨_, zero, -⟩ | ⟨_, _, _, _, isUnpacked, -⟩
    · rw [zero] at most
      cases most
    · rw [isUnpacked] at most
      cases most
  | infinity sign =>
    cases sign with
    | positive => exact .inr rfl
    | negative =>
      rw [le_iff, unpacked] at most
      rcases isFinite_cases finiteX with ⟨_, zero, -⟩ | ⟨sign, _, _, _, isUnpacked, -⟩
      · rw [zero] at most
        cases most
      · rw [isUnpacked] at most
        cases sign <;> cases most
  | zero sign =>
    have finiteY := (of_unpack_zero unpacked).1
    exact .inl ⟨finiteY, (le_iff_value finiteX finiteY).mp most⟩
  | finite sign mantissa exponent positive =>
    have finiteY := (of_unpack_finite unpacked).1
    exact .inl ⟨finiteY, (le_iff_value finiteX finiteY).mp most⟩

/-- An infinite number is not below a finite one. -/
theorem not_infinity_le (infinite : x.toModel.unpack = .infinity .positive)
    (finiteY : y.isFinite = true) : ¬ x ≤ y := by
  intro most
  rw [le_iff, infinite] at most
  rcases isFinite_cases finiteY with ⟨_, zero, -⟩ | ⟨sign, _, _, _, isUnpacked, -⟩
  · rw [zero] at most
    cases most
  · rw [isUnpacked] at most
    cases sign <;> cases most

/-- A result between two finite numbers. -/
theorem Rounding.between {exact : Rat} {x y z : Float32} (rounding : Rounding exact x)
    (finiteY : y.isFinite = true) (finiteZ : z.isFinite = true) (least : value y ≤ exact)
    (most : exact ≤ value z) : x.isFinite = true ∧ value y ≤ value x ∧ value x ≤ value z := by
  have above := rounding.above y finiteY least
  have below := rounding.below z finiteZ most
  rcases le_cases finiteY above with ⟨finiteX, isAbove⟩ | infinite
  · exact ⟨finiteX, isAbove, (le_iff_value finiteX finiteZ).mp below⟩
  · exact absurd below (not_infinity_le infinite finiteZ)

/-- A finite number that is not too large. -/
structure Within (x : Float32) (bound : Rat) : Prop where
  finite : x.isFinite = true
  size : |value x| ≤ bound

theorem Rounding.within {exact : Rat} (rounding : Rounding exact x)
    (finiteY : y.isFinite = true) (small : |exact| ≤ value y) : Within x (value y) := by
  have ⟨finiteNeg, valueNeg⟩ := neg_spec finiteY
  obtain ⟨least, most⟩ := abs_le.mp small
  have ⟨finiteX, above, below⟩ := rounding.between finiteNeg finiteY (valueNeg.trans_le least) most
  rw [valueNeg] at above
  exact ⟨finiteX, abs_le.mpr ⟨above, below⟩⟩

section Bounds

variable {x y z : Float32} {first second : Rat}

section

variable (withinX : Within x first) (withinY : Within y second) (finiteZ : z.isFinite = true)

include withinX withinY finiteZ

theorem Within.mul (fits : first * second ≤ value z) : Within (x * y) (value z) := by
  refine (mul_rounding withinX.finite withinY.finite).within finiteZ ?_
  rw [abs_mul]
  exact (mul_le_mul withinX.size withinY.size (abs_nonneg _)
    ((abs_nonneg _).trans withinX.size)).trans fits

theorem Within.add (fits : first + second ≤ value z) : Within (x + y) (value z) :=
  (add_rounding withinX.finite withinY.finite).within finiteZ
    ((abs_add_le _ _).trans ((add_le_add withinX.size withinY.size).trans fits))

theorem Within.sub (fits : first + second ≤ value z) : Within (x - y) (value z) :=
  (sub_rounding withinX.finite withinY.finite).within finiteZ
    ((abs_sub _ _).trans ((add_le_add withinX.size withinY.size).trans fits))

end

end Bounds

/-! ### Finite arguments -/

/-- Packing does not make a number finite. -/
theorem isFinite_of_pack {unpacked : UnpackedFloat}
    (finitePacked : (Float32.Model.pack unpacked).unpack.isFinite = true) :
    unpacked.isFinite = true := by
  cases unpacked with
  | notANumber => cases finitePacked
  | infinity sign => cases sign <;> cases finitePacked
  | zero sign => rfl
  | finite sign mantissa exponent positive => rfl

/-- A sum that is finite is one of finite numbers. -/
theorem isFinite_of_add (finiteSum : (x + y).isFinite = true) :
    x.isFinite = true ∧ y.isFinite = true := by
  have unpackedSum : (UnpackedFloat.add Format.binary32 x.toModel.unpack
    y.toModel.unpack).isFinite = true := isFinite_of_pack finiteSum
  show x.toModel.unpack.isFinite = true ∧ y.toModel.unpack.isFinite = true
  cases unpackedX : x.toModel.unpack with
  | notANumber =>
    rw [unpackedX] at unpackedSum
    cases unpackedSum
  | infinity sign =>
    rw [unpackedX] at unpackedSum
    cases unpackedY : y.toModel.unpack with
    | infinity other =>
      rw [unpackedY] at unpackedSum
      cases sign <;> cases other <;> cases unpackedSum
    | _ =>
      rw [unpackedY] at unpackedSum
      cases unpackedSum
  | _ =>
    rw [unpackedX] at unpackedSum
    cases unpackedY : y.toModel.unpack with
    | notANumber =>
      rw [unpackedY] at unpackedSum
      cases unpackedSum
    | infinity other =>
      rw [unpackedY] at unpackedSum
      cases unpackedSum
    | _ => exact ⟨rfl, rfl⟩

/-- A sum is not below either of two numbers that are not negative. -/
theorem le_add (finiteSum : (x + y).isFinite = true) (nonnegX : 0 ≤ value x)
    (nonnegY : 0 ≤ value y) : value x ≤ value (x + y) ∧ value y ≤ value (x + y) := by
  have ⟨finiteX, finiteY⟩ := isFinite_of_add finiteSum
  have rounding := add_rounding finiteX finiteY
  have aboveX := rounding.above x finiteX (le_add_of_nonneg_right nonnegY)
  have aboveY := rounding.above y finiteY (le_add_of_nonneg_left nonnegX)
  exact ⟨(le_iff_value finiteX finiteSum).mp aboveX, (le_iff_value finiteY finiteSum).mp aboveY⟩

/-- A square is not negative. -/
theorem square_nonneg {x : Float32} (finiteX : x.isFinite = true)
    (finiteSquare : (x * x).isFinite = true) : 0 ≤ value (x * x) := by
  have isZero : value 0 = 0 := by decide
  have above := (mul_rounding finiteX finiteX).above 0 (by decide)
    (isZero.trans_le (mul_self_nonneg _))
  have least := (le_iff_value (by decide) finiteSquare).mp above
  rwa [isZero] at least

/-! ### Powers of two -/

/-- The format has the powers of two in its range. -/
theorem exists_power {power : Int} (low : -149 ≤ power) (high : power ≤ 127) :
    ∃ x : Float32, x.isFinite = true ∧ value x = 2 ^ power := by
  have packed {mantissa : Nat} {exponent : Int} (canonical : Canonical mantissa exponent)
      (same : (mantissa : Rat) * 2 ^ exponent = 2 ^ power) :
      ∃ x : Float32, x.isFinite = true ∧ value x = 2 ^ power := by
    refine ⟨.ofModel (.pack (.finite .positive mantissa exponent canonical.positive)), ?_⟩
    rw [← same]
    exact @of_unpack_finite _ .positive _ _ _ (unpack_pack_canonical canonical)
  by_cases small : power < -126
  · obtain ⟨count, isCount⟩ : ∃ count : Nat, power = -149 + count := ⟨(power + 149).toNat, by omega⟩
    have fits : 2 ^ count < 2 ^ 24 := Nat.pow_lt_pow_right (by decide) (by omega)
    refine @packed (2 ^ count) (-149) ⟨Nat.two_pow_pos count, fits, .inr rfl, le_rfl, by decide⟩ ?_
    rw [isCount, zpow_add₀ (by norm_num), zpow_natCast, mul_comm]
    push_cast
    rfl
  · refine @packed (2 ^ 23) (power - 23)
      ⟨Nat.two_pow_pos 23, by decide, .inl le_rfl, by omega, by omega⟩ ?_
    rw [zpow_sub₀ (by norm_num)]
    push_cast
    field_simp

/-- A number is at most twice the square root of what its square does not exceed. -/
theorem div_sqrt_within {x n : Float32} {power : Int} (finiteX : x.isFinite = true)
    (finiteN : n.isFinite = true) (small : |value x| ≤ 2 ^ (power + 1))
    (isSquare : 2 ^ (2 * power) ≤ value n) (low : -149 ≤ power) (high : power ≤ 127) :
    Within (x / n.sqrt) 2 := by
  have unit : (0 : Rat) < 2 ^ power := zpow_pos (by norm_num) power
  have positive : 0 < value n := (zpow_pos (by norm_num) (2 * power)).trans_le isSquare
  obtain ⟨exact, rounding, least⟩ := sqrt_rounding finiteN positive
  obtain ⟨y, finiteY, isPower⟩ := exists_power low high
  have isTwo := value_two.2
  have above := rounding.above y finiteY (isPower.trans_le (least power isSquare))
  rcases le_cases finiteY above with ⟨finiteRoot, isAbove⟩ | infinite
  · rw [isPower] at isAbove
    have rootPos := unit.trans_le isAbove
    rw [← isTwo]
    refine (div_rounding finiteX finiteRoot rootPos.ne').within (by decide) ?_
    rw [isTwo, abs_div, abs_of_pos rootPos, div_le_iff₀ rootPos]
    calc |value x| ≤ 2 ^ (power + 1) := small
      _ = 2 * 2 ^ power := by rw [zpow_add_one₀ (by norm_num), mul_comm]
      _ ≤ 2 * value n.sqrt := mul_le_mul_of_nonneg_left isAbove (by norm_num)
  · -- a root that is too large leaves nothing of the number
    have packed : (x / n.sqrt).toModel.unpack = (Float32.Model.pack
      (UnpackedFloat.div Format.binary32 x.toModel.unpack n.sqrt.toModel.unpack)).unpack := rfl
    rw [infinite] at packed
    have zero : ∃ sign, (x / n.sqrt).toModel.unpack = .zero sign := by
      rcases isFinite_cases finiteX with ⟨sign, isZero, -⟩ | ⟨sign, _, _, _, unpacked, -⟩
      · rw [isZero] at packed
        exact ⟨_, packed.trans (unpack_pack_zero _)⟩
      · rw [unpacked] at packed
        exact ⟨_, packed.trans (unpack_pack_zero _)⟩
    obtain ⟨sign, isZero⟩ := zero
    have ⟨finiteQuotient, isValue⟩ := of_unpack_zero isZero
    refine ⟨finiteQuotient, ?_⟩
    rw [isValue, abs_zero]
    norm_num

end SinglePrecision
