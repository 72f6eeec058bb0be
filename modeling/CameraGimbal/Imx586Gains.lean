/-
This file is about the conversion of the analogue gain. From a request of unity on, it gives the
smallest gain of the sensor that is not below the request; below unity the subtraction wraps around,
and the request gets the largest gain.
-/

import CameraGimbal.Imx586
import Mathlib.Tactic.Linarith

namespace Imx586

def code (request : UInt32) : UInt32 := (againCalc request 0).2

def gain (request : UInt32) : UInt32 := (againCalc request 0).1

/-- The gain that a code stands for. -/
def gainOf (code : Nat) : Nat := 1048576 / (1024 - code)

/-- The conversion of a request is safe, keeps the order with every larger one, clamps at both ends,
and between them gives the smallest gain that is not below the request and has the same code. -/
structure Converts (request : UInt32) : Prop where
  inside : 112 ≤ code request ∧ code request ≤ 1008 ∧ 1024 - code request ≠ 0
  monotone : ∀ larger, request ≤ larger → code request ≤ code larger ∧ gain request ≤ gain larger
  below : request.toNat < gainOf 112 → code request = 112
  above : gainOf 1008 < request.toNat → code request = 1008
  enough : gainOf 112 ≤ request.toNat → request.toNat ≤ gainOf 1008 →
    request.toNat ≤ (gain request).toNat
  smallest : gainOf 112 ≤ request.toNat → request.toNat ≤ gainOf 1008 →
    ∀ other, 112 ≤ other → other ≤ 1008 → request.toNat ≤ gainOf other →
      (gain request).toNat ≤ gainOf other
  again : gainOf 112 ≤ request.toNat → request.toNat ≤ gainOf 1008 →
    code (gain request) = code request

/-- The code of a request of at least unity. -/
def clampedCode (request : Nat) : Nat := max 112 (min 1008 (1024 - 1048576 / request))

theorem clampedCode_bounds (request : Nat) :
    112 ≤ clampedCode request ∧ clampedCode request ≤ 1008 := by
  unfold clampedCode
  omega

variable {request : UInt32}

theorem code_toNat (unity : 1024 ≤ request.toNat) :
    (code request).toNat = clampedCode request.toNat := by
  have nonzero : request ≠ 0 := by
    rintro rfl
    exact absurd unity (by decide)
  have quotient : 1048576 / request.toNat ≤ 1024 :=
    (Nat.div_le_div_left unity (by decide)).trans (by decide)
  have plain : (1024 - 1048576 / request).toNat = 1024 - 1048576 / request.toNat := by
    rw [UInt32.toNat_sub_of_le _ _ (UInt32.le_iff_toNat_le.mpr ?_)]
    · rw [UInt32.toNat_div]
      rfl
    · rw [UInt32.toNat_div]
      exact quotient
  unfold code againCalc clampedCode
  rw [if_neg nonzero]
  simp only [UInt32.lt_iff_toNat_lt, plain]
  have small : (112 : UInt32).toNat = 112 := rfl
  have large : (1008 : UInt32).toNat = 1008 := rfl
  rw [small, large]
  split
  · rw [small]
    omega
  · split
    · rw [large]
      omega
    · rw [plain]
      omega

theorem code_wraps (nonzero : request ≠ 0) (below : request.toNat < 1024) :
    code request = 1008 := by
  have positive : 0 < request.toNat := by
    rcases Nat.eq_zero_or_pos request.toNat with zero | positive
    · exact absurd (UInt32.toNat_inj.mp zero) nonzero
    · exact positive
  have atLeast : 1025 ≤ 1048576 / request.toNat := by
    rw [Nat.le_div_iff_mul_le positive]
    omega
  have atMost : 1048576 / request.toNat ≤ 1048576 := Nat.div_le_self _ _
  have wrapped : (1024 - 1048576 / request).toNat =
      4294967296 + 1024 - 1048576 / request.toNat := by
    rw [UInt32.toNat_sub, UInt32.toNat_div]
    show (4294967296 - 1048576 / request.toNat + 1024) % 4294967296 = _
    omega
  unfold code againCalc
  rw [if_neg nonzero]
  simp only [UInt32.lt_iff_toNat_lt, wrapped]
  have small : (112 : UInt32).toNat = 112 := rfl
  have large : (1008 : UInt32).toNat = 1008 := rfl
  rw [small, large, if_neg (by omega), if_pos (by omega)]

theorem divisor_toNat {code : UInt32} (most : code.toNat ≤ 1008) :
    (1024 - code).toNat = 1024 - code.toNat := by
  have below : code.toNat ≤ (1024 : UInt32).toNat := by
    show code.toNat ≤ 1024
    omega
  exact UInt32.toNat_sub_of_le _ _ (UInt32.le_iff_toNat_le.mpr below)

theorem gain_toNat (nonzero : request ≠ 0) (most : (code request).toNat ≤ 1008) :
    (gain request).toNat = gainOf (code request).toNat := by
  have isGain : gain request = 1048576 / (1024 - code request) := by
    unfold gain code againCalc
    rw [if_neg nonzero]
  rw [isGain, UInt32.toNat_div, divisor_toNat most]
  rfl

/-! ### Codes and gains -/

theorem gainOf_mono {first second : Nat} (order : first ≤ second) (most : second ≤ 1008) :
    gainOf first ≤ gainOf second :=
  Nat.div_le_div_left (by omega) (by omega)

theorem clampedCode_mono {smaller larger : Nat} (positive : 0 < smaller)
    (order : smaller ≤ larger) : clampedCode smaller ≤ clampedCode larger := by
  have quotient : 1048576 / larger ≤ 1048576 / smaller := Nat.div_le_div_left order positive
  unfold clampedCode
  omega

theorem clampedCode_below {request : Nat} (unity : 1024 ≤ request)
    (below : request < gainOf 112) : clampedCode request = 112 := by
  have atMost : request ≤ 1148 := Nat.lt_succ_iff.mp below
  have quotient : 913 ≤ 1048576 / request := (Nat.le_div_iff_mul_le (by omega)).mpr (by omega)
  unfold clampedCode
  omega

theorem clampedCode_above {request : Nat} (above : gainOf 1008 < request) :
    clampedCode request = 1008 := by
  have atLeast : 65537 ≤ request := above
  have quotient : 1048576 / request < 16 := Nat.div_lt_of_lt_mul (by omega)
  unfold clampedCode
  omega

/-- Between the ends the code is what the quotient leaves of unity. -/
theorem clampedCode_within {request : Nat} (least : gainOf 112 ≤ request)
    (most : request ≤ gainOf 1008) :
    16 ≤ 1048576 / request ∧ 1048576 / request ≤ 912 ∧
      clampedCode request = 1024 - 1048576 / request := by
  have atLeast : 1149 ≤ request := least
  have atMost : request ≤ 65536 := most
  have low : 16 ≤ 1048576 / request := (Nat.le_div_iff_mul_le (by omega)).mpr (by omega)
  have high : 1048576 / request < 913 := Nat.div_lt_of_lt_mul (by omega)
  unfold clampedCode
  omega

theorem div_div_self {divisor : Nat} (positive : 0 < divisor) (small : divisor ≤ 912) :
    1048576 / (1048576 / divisor) = divisor := by
  have large : 1149 ≤ 1048576 / divisor := (Nat.le_div_iff_mul_le positive).mpr (by omega)
  have split := Nat.div_add_mod 1048576 divisor
  have rest := Nat.mod_lt 1048576 positive
  refine Nat.div_eq_of_lt_le (Nat.mul_div_le _ _) ?_
  rw [Nat.succ_mul]
  omega

theorem gain_within (least : gainOf 112 ≤ request.toNat) (most : request.toNat ≤ gainOf 1008) :
    (gain request).toNat = 1048576 / (1048576 / request.toNat) := by
  have unity : 1024 ≤ request.toNat := le_trans (by decide) least
  have nonzero : request ≠ 0 := by
    rintro rfl
    exact absurd unity (by decide)
  obtain ⟨low, high, isCode⟩ := clampedCode_within least most
  rw [gain_toNat nonzero (by rw [code_toNat unity]; exact (clampedCode_bounds _).2),
    code_toNat unity, isCode]
  unfold gainOf
  congr 1
  omega

/-- A request is converted as it should be if and only if it is at least unity. -/
theorem againCalc_converts_iff {request : UInt32} (nonzero : request ≠ 0) :
    Converts request ↔ 1024 ≤ request := by
  constructor
  · intro converts
    rw [UInt32.le_iff_toNat_le]
    by_contra below
    have small : request.toNat < 1024 := not_le.mp below
    have least := converts.below (small.trans (by decide))
    rw [code_wraps nonzero small] at least
    exact absurd least (by decide)
  · intro atLeast
    have unity : 1024 ≤ request.toNat := UInt32.le_iff_toNat_le.mp atLeast
    have isCode := code_toNat unity
    obtain ⟨least, most⟩ := clampedCode_bounds request.toNat
    have isGain := gain_toNat nonzero (by omega)
    refine ⟨⟨?_, ?_, ?_⟩, fun larger order => ?_, fun below => ?_, fun above => ?_,
      fun low high => ?_, fun low high other first last fits => ?_, fun low high => ?_⟩
    · exact UInt32.le_iff_toNat_le.mpr (isCode ▸ least)
    · exact UInt32.le_iff_toNat_le.mpr (isCode ▸ most)
    · intro zero
      have divisor := divisor_toNat (isCode ▸ most)
      rw [zero, isCode] at divisor
      change 0 = _ at divisor
      omega
    · have inOrder := UInt32.le_iff_toNat_le.mp order
      have isLarger := code_toNat (unity.trans inOrder)
      have codes : (code request).toNat ≤ (code larger).toNat := by
        rw [isCode, isLarger]
        exact clampedCode_mono (by omega) inOrder
      have largerMost : (code larger).toNat ≤ 1008 := isLarger ▸ (clampedCode_bounds _).2
      have largerNonzero : larger ≠ 0 := by
        rintro rfl
        exact absurd (unity.trans inOrder) (by decide)
      refine ⟨UInt32.le_iff_toNat_le.mpr codes, UInt32.le_iff_toNat_le.mpr ?_⟩
      rw [isGain, gain_toNat largerNonzero largerMost]
      exact gainOf_mono codes largerMost
    · exact UInt32.toNat_inj.mp (isCode.trans (clampedCode_below unity below))
    · exact UInt32.toNat_inj.mp (isCode.trans (clampedCode_above above))
    · have positive := clampedCode_within low high
      rw [gain_within low high, Nat.le_div_iff_mul_le (by omega)]
      exact Nat.mul_div_le _ _
    · rw [gain_within low high]
      have atMost : 1024 - other ≤ 1048576 / request.toNat := by
        rw [Nat.le_div_iff_mul_le (by omega), mul_comm]
        exact (Nat.le_div_iff_mul_le (by omega)).mp fits
      exact Nat.div_le_div_left atMost (by omega)
    · obtain ⟨first, last, isWithin⟩ := clampedCode_within low high
      have back := div_div_self (by omega) last
      have gainUnity : 1024 ≤ (gain request).toNat := by
        rw [gain_within low high]
        exact (Nat.le_div_iff_mul_le (by omega)).mpr (by omega)
      have clamped : clampedCode (gain request).toNat = clampedCode request.toNat := by
        rw [gain_within low high, isWithin]
        unfold clampedCode
        rw [back]
        omega
      exact UInt32.toNat_inj.mp ((code_toNat gainUnity).trans (clamped.trans isCode.symm))

/-- The largest request of the automatic exposure. -/
theorem againCalc_converts_iff_largest : Converts 65535 ↔ 1024 ≤ (65535 : UInt32) :=
  againCalc_converts_iff (by decide)

/-- Half of unity gets the largest gain. -/
theorem halfUnity_largest : ¬ ∀ request, request ≠ 0 → Converts request := by
  intro converts
  have least := (converts 512 (by decide)).below (by decide)
  exact absurd least (by decide)

end Imx586
