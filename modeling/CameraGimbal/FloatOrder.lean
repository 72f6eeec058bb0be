/-
This file is a library on the order of the numbers in single precision, and on their conversion to
integers. Finite numbers compare as the exact numbers they stand for, and a conversion has a result
when the number is finite and its integer part is one of the type; otherwise the language does not
say what it gives.
-/

import CameraGimbal.SinglePrecision

namespace SinglePrecision

open Float.Model Float.Model.UnpackedFloat Option

/-! ### Finite numbers -/

/-- The size of a number with its sign. -/
def signedValue (sign : Sign) (mantissa : Nat) (exponent : Int) : Rat :=
  sign.apply mantissa * (2 : Rat) ^ exponent

variable {x : Float32}

theorem isFinite_cases (finite : x.isFinite = true) :
    (∃ sign, x.toModel.unpack = .zero sign ∧ value x = 0) ∨
      ∃ sign mantissa exponent, ∃ positive : 0 < mantissa,
        x.toModel.unpack = .finite sign mantissa exponent positive ∧
          value x = signedValue sign mantissa exponent := by
  have finiteValue : x.toModel.unpack.isFinite = true := finite
  unfold value
  cases unpacked : x.toModel.unpack with
  | notANumber => rw [unpacked] at finiteValue; cases finiteValue
  | infinity sign => rw [unpacked] at finiteValue; cases finiteValue
  | zero sign => exact .inl ⟨sign, rfl, rfl⟩
  | finite sign mantissa exponent positive =>
    exact .inr ⟨sign, mantissa, exponent, positive, rfl, rfl⟩

variable {mantissa : Nat} {exponent : Int}

theorem unpack_exponent {sign : Sign} {positive : 0 < mantissa}
    (unpacked : x.toModel.unpack = .finite sign mantissa exponent positive) :
    -149 ≤ exponent ∧ exponent ≤ 104 := by
  have bound := (@unpackExponent Format.binary32 x.toModel.toBits.toBitVec).isLt
  unfold Float32.Model.unpack UnpackedFloat.unpack at unpacked
  dsimp only at unpacked
  split at unpacked
  · split at unpacked <;> cases unpacked
  next notLast =>
  split at unpacked
  · next isZero =>
    split at unpacked
    · cases unpacked
    · cases unpacked
      rw [isZero]
      decide
  · next notZero =>
    cases unpacked
    have above : (@unpackExponent Format.binary32 x.toModel.toBits.toBitVec).toNat ≠ 0 :=
      fun isZero => notZero (BitVec.eq_of_toNat_eq isZero)
    have below : (@unpackExponent Format.binary32 x.toModel.toBits.toBitVec).toNat ≠ 255 :=
      fun isLast => notLast (BitVec.eq_of_toNat_eq isLast)
    change _ < 2 ^ 8 at bound
    change -149 ≤ (_ : Int) - ((127 : Nat) + (23 : Nat)) ∧
      (_ : Int) - ((127 : Nat) + (23 : Nat)) ≤ 104
    omega

/-- The numbers that a finite value is kept with. -/
structure Canonical (mantissa : Nat) (exponent : Int) : Prop where
  positive : 0 < mantissa
  fits : mantissa < 2 ^ 24
  full : 2 ^ 23 ≤ mantissa ∨ exponent = -149
  low : -149 ≤ exponent
  high : exponent ≤ 104

theorem canonical_of_unpack {sign : Sign} {positive : 0 < mantissa}
    (unpacked : x.toModel.unpack = .finite sign mantissa exponent positive) :
    Canonical mantissa exponent :=
  have ⟨fits, full⟩ := unpack_mantissa unpacked
  have ⟨low, high⟩ := unpack_exponent unpacked
  ⟨positive, fits, full, low, high⟩

/-! ### Comparing -/

/-- The larger exponent decides, because the mantissa below it has all its bits. -/
theorem size_lt_of_exponent_lt {first second : Nat} {left right : Int} (fits : first < 2 ^ 24)
    (full : 2 ^ 23 ≤ second) (less : left < right) :
    (first : Rat) * 2 ^ left < second * 2 ^ right := by
  have unit : (0 : Rat) < 2 := by norm_num
  have fitsRat : (first : Rat) < 2 ^ 24 := by exact_mod_cast fits
  have fullRat : (2 : Rat) ^ 23 ≤ second := by exact_mod_cast full
  calc (first : Rat) * 2 ^ left
      < 2 ^ 24 * 2 ^ left := mul_lt_mul_of_pos_right fitsRat (zpow_pos unit left)
    _ = 2 ^ 23 * 2 ^ (left + 1) := by rw [zpow_add_one₀ unit.ne']; ring
    _ ≤ 2 ^ 23 * 2 ^ right :=
      mul_le_mul_of_nonneg_left (zpow_le_zpow_right₀ (by norm_num) less) (by norm_num)
    _ ≤ second * 2 ^ right := mul_le_mul_of_nonneg_right fullRat (zpow_pos unit right).le

theorem compare_sizes {first second : Nat} {left right : Int} (canonical : Canonical first left)
    (other : Canonical second right) :
    (compare left right).then (compare first second) =
      compare ((first : Rat) * 2 ^ left) (second * 2 ^ right) := by
  rcases lt_trichotomy left right with less | rfl | greater
  · have full := other.full.resolve_right (by have := canonical.low; omega)
    rw [compare_lt_iff_lt.mpr less,
      compare_lt_iff_lt.mpr (size_lt_of_exponent_lt canonical.fits full less)]
    rfl
  · have power : (0 : Rat) < 2 ^ left := zpow_pos (by norm_num) left
    rw [compare_eq_iff_eq.mpr (rfl : left = left)]
    rcases lt_trichotomy first second with less | rfl | greater
    · have lessRat : (first : Rat) < second := by exact_mod_cast less
      rw [compare_lt_iff_lt.mpr less, compare_lt_iff_lt.mpr (mul_lt_mul_of_pos_right lessRat power)]
      rfl
    · rw [compare_eq_iff_eq.mpr (rfl : first = first),
        compare_eq_iff_eq.mpr (rfl : (first : Rat) * 2 ^ left = _)]
      rfl
    · have greaterRat : (second : Rat) < first := by exact_mod_cast greater
      rw [compare_gt_iff_gt.mpr greater,
        compare_gt_iff_gt.mpr (mul_lt_mul_of_pos_right greaterRat power)]
      rfl
  · have full := canonical.full.resolve_right (by have := other.low; omega)
    rw [compare_gt_iff_gt.mpr greater,
      compare_gt_iff_gt.mpr (size_lt_of_exponent_lt other.fits full greater)]
    rfl

theorem signedValue_positive (mantissa : Nat) (exponent : Int) :
    signedValue .positive mantissa exponent = mantissa * (2 : Rat) ^ exponent := rfl

theorem signedValue_negative (mantissa : Nat) (exponent : Int) :
    signedValue .negative mantissa exponent = -(mantissa * (2 : Rat) ^ exponent) := by
  show ((-(mantissa : Int) : Int) : Rat) * 2 ^ exponent = _
  push_cast
  ring

theorem Canonical.size_pos
    (canonical : Canonical mantissa exponent) : 0 < (mantissa : Rat) * 2 ^ exponent :=
  mul_pos (by exact_mod_cast canonical.positive) (zpow_pos (by norm_num) exponent)

theorem swap_compare (first second : Rat) :
    (compare first second).swap = compare (-first) (-second) := by
  rcases lt_trichotomy first second with less | rfl | greater
  · rw [compare_lt_iff_lt.mpr less, compare_gt_iff_gt.mpr (neg_lt_neg less)]
    rfl
  · rw [compare_eq_iff_eq.mpr rfl, compare_eq_iff_eq.mpr rfl]
    rfl
  · rw [compare_gt_iff_gt.mpr greater, compare_lt_iff_lt.mpr (neg_lt_neg greater)]
    rfl

section

variable {y : Float32} (finiteX : x.isFinite = true) (finiteY : y.isFinite = true)

include finiteX finiteY

/-- Finite numbers compare as the numbers they stand for. -/
theorem compare_values :
    x.toModel.unpack.compare y.toModel.unpack = some (compare (value x) (value y)) := by
  rcases isFinite_cases finiteX with ⟨signX, zeroX, valueX⟩ |
    ⟨signX, first, left, positiveX, unpackedX, valueX⟩
  · rcases isFinite_cases finiteY with ⟨signY, zeroY, valueY⟩ |
      ⟨signY, second, right, positiveY, unpackedY, valueY⟩
    · rw [zeroX, zeroY, valueX, valueY]
      rfl
    · have size := (canonical_of_unpack unpackedY).size_pos
      rw [zeroX, unpackedY, valueX, valueY]
      cases signY with
      | positive => rw [signedValue_positive, compare_lt_iff_lt.mpr size]; rfl
      | negative => rw [signedValue_negative, compare_gt_iff_gt.mpr (neg_neg_of_pos size)]; rfl
  · have canonicalX := canonical_of_unpack unpackedX
    have sizeX := canonicalX.size_pos
    rcases isFinite_cases finiteY with ⟨signY, zeroY, valueY⟩ |
      ⟨signY, second, right, positiveY, unpackedY, valueY⟩
    · rw [unpackedX, zeroY, valueX, valueY]
      cases signX with
      | positive => rw [signedValue_positive, compare_gt_iff_gt.mpr sizeX]; rfl
      | negative => rw [signedValue_negative, compare_lt_iff_lt.mpr (neg_neg_of_pos sizeX)]; rfl
    · have canonicalY := canonical_of_unpack unpackedY
      have sizeY := canonicalY.size_pos
      rw [unpackedX, unpackedY, valueX, valueY]
      cases signX with
      | positive =>
        cases signY with
        | positive => exact congrArg some (compare_sizes canonicalX canonicalY)
        | negative =>
          rw [signedValue_positive, signedValue_negative,
            compare_gt_iff_gt.mpr ((neg_neg_of_pos sizeY).trans sizeX)]
          rfl
      | negative =>
        cases signY with
        | positive =>
          rw [signedValue_positive, signedValue_negative,
            compare_lt_iff_lt.mpr ((neg_neg_of_pos sizeX).trans sizeY)]
          rfl
        | negative =>
          rw [signedValue_negative, signedValue_negative]
          show some ((compare left right).then (compare first second)).swap = _
          rw [compare_sizes canonicalX canonicalY, swap_compare]

theorem lt_iff_value :
    x < y ↔ value x < value y := by
  rw [lt_iff, compare_values finiteX finiteY, some_inj, compare_lt_iff_lt]

theorem beq_iff_value :
    (x == y) = true ↔ value x = value y := by
  show (x.toModel.unpack.compare y.toModel.unpack == some .eq) = true ↔ _
  rw [beq_iff_eq, compare_values finiteX finiteY, some_inj, compare_eq_iff_eq]

end

/-! ### Conversions to integers -/

/-- The integer part of a number that is finite. -/
def truncated (x : Float32) : Option Int :=
  match x.toModel.unpack with
  | .zero _ => some 0
  | .finite sign mantissa exponent _ => some (roundToInt sign mantissa exponent)
  | _ => none

/-- The conversion to an integer type with these bounds, where the language says what it gives. -/
def convert (low high : Int) (x : Float32) : Option Int :=
  (truncated x).filter fun number => low ≤ number && number ≤ high

/-- The number is finite, and its integer part lies between the bounds. -/
def Converts (low high : Int) (x : Float32) : Prop :=
  ∃ number, truncated x = some number ∧ low ≤ number ∧ number ≤ high

instance (low high : Int) (x : Float32) : Decidable (Converts low high x) :=
  decidable_of_iff (∃ number ∈ (truncated x), low ≤ number ∧ number ≤ high) Iff.rfl

theorem convert_eq_some {low high : Int} {number : Int} :
    convert low high x = some number ↔
      truncated x = some number ∧ low ≤ number ∧ number ≤ high := by
  unfold convert
  rw [filter_eq_some_iff]
  simp only [Bool.and_eq_true, decide_eq_true_eq]

theorem convert_isSome {low high : Int} :
    (convert low high x).isSome = true ↔ Converts low high x := by
  rw [isSome_iff_exists]
  simp only [convert_eq_some, Converts]

/-- The integer part of a number that is not negative. -/
theorem truncated_of_nonneg (finite : x.isFinite = true) (least : 0 ≤ value x) :
    truncated x = some ⌊value x⌋ := by
  rcases isFinite_cases finite with ⟨sign, zero, isValue⟩ |
    ⟨sign, mantissa, exponent, positive, unpacked, isValue⟩
  · unfold truncated
    rw [zero, isValue]
    rfl
  · have size := (canonical_of_unpack unpacked).size_pos
    unfold truncated
    rw [unpacked, isValue]
    cases sign with
    | positive =>
      rw [signedValue_positive, floor_truncation]
      exact congrArg some (roundToInt_positive mantissa exponent)
    | negative =>
      rw [isValue, signedValue_negative] at least
      exact absurd size (by linarith only [least])

/-! ### Literals -/

/-- The literals that numbers are compared with are the numbers that they name. -/
theorem value_literals :
    ((0 : Float32).isFinite = true ∧ value 0 = 0) ∧
    ((1 : Float32).isFinite = true ∧ value 1 = 1) ∧ ((2 : Float32).isFinite = true ∧ value 2 = 2) ∧
    ((4 : Float32).isFinite = true ∧ value 4 = 4) ∧ ((8 : Float32).isFinite = true ∧ value 8 = 8) ∧
    ((16 : Float32).isFinite = true ∧ value 16 = 16) ∧
    ((32 : Float32).isFinite = true ∧ value 32 = 32) ∧
    ((1000 : Float32).isFinite = true ∧ value 1000 = 1000) ∧
    ((16777216 : Float32).isFinite = true ∧ value 16777216 = 2 ^ 24) := by
  decide +kernel

theorem value_zero : (0 : Float32).isFinite = true ∧ value 0 = 0 := value_literals.1

theorem value_one : (1 : Float32).isFinite = true ∧ value 1 = 1 := value_literals.2.1

theorem value_two : (2 : Float32).isFinite = true ∧ value 2 = 2 := value_literals.2.2.1

theorem value_four : (4 : Float32).isFinite = true ∧ value 4 = 4 := value_literals.2.2.2.1

theorem value_eight : (8 : Float32).isFinite = true ∧ value 8 = 8 := value_literals.2.2.2.2.1

theorem value_sixteen : (16 : Float32).isFinite = true ∧ value 16 = 16 := value_literals.2.2.2.2.2.1

theorem value_thirtyTwo : (32 : Float32).isFinite = true ∧ value 32 = 32 :=
  value_literals.2.2.2.2.2.2.1

theorem value_thousand : (1000 : Float32).isFinite = true ∧ value 1000 = 1000 :=
  value_literals.2.2.2.2.2.2.2.1

theorem value_limit : (16777216 : Float32).isFinite = true ∧ value 16777216 = 2 ^ 24 :=
  value_literals.2.2.2.2.2.2.2.2

end SinglePrecision
