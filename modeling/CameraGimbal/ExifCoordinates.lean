/-
This file is about the coordinates in photos. Degrees and minutes are exact, and the seconds are cut
to a ten thousandth of a second, which a coordinate in units of 1e-7 degrees is a multiple of only
when it is one of five units. What is cut is less than half a unit, so a tag tells its coordinate.
-/

import CameraGimbal.Exif
import Mathlib.Data.Rat.Floor

namespace Exif

def ratio (pair : UInt32 × UInt32) : Rat := (pair.1.toNat : Rat) / pair.2.toNat

/-- The degrees that the three pairs of a coordinate stand for. -/
def pairDegrees : List (UInt32 × UInt32) → Rat
  | [degrees, minutes, seconds] => ratio degrees + ratio minutes / 60 + ratio seconds / 3600
  | _ => 0

/-- The degrees that a photo has for a coordinate, without their sign. -/
def tagDegrees (valueE7 : Int32) : Rat := pairDegrees (coordinatePairs valueE7)

/-- The sign of a coordinate, which is a tag of its own, and its pairs. -/
def coordinateTags (valueE7 : Int32) : Bool × List (UInt32 × UInt32) :=
  (decide (valueE7.toInt < 0), coordinatePairs valueE7)

/-- A coordinate is exactly what its pairs say, in whole degrees and minutes below their ends, no
other coordinate has its tags, and the nearest coordinate to them is the one. -/
structure Tells (valueE7 : Int32) : Prop where
  exact : tagDegrees valueE7 = (valueE7.toInt.natAbs : Rat) / 10 ^ 7
  inside : ∃ degrees minutes seconds : UInt32,
    coordinatePairs valueE7 = [(degrees, 1), (minutes, 1), (seconds, 10000)] ∧
      degrees.toNat = valueE7.toInt.natAbs / 10 ^ 7 ∧ minutes.toNat < 60 ∧
      ratio (seconds, 10000) < 60
  distinct : ∀ other, coordinateTags other = coordinateTags valueE7 → other = valueE7
  nearest : round (tagDegrees valueE7 * 10 ^ 7) = valueE7.toInt.natAbs

/-! ### What is cut -/

/-- What is left of the seconds, in units of 1e-7 degrees. -/
def minutesRest (total : Nat) : Nat := total % 10000000 * 60 % 10000000

variable (valueE7 : Int32)

theorem natAbs_le : valueE7.toInt.natAbs ≤ 2147483648 := by
  have least := valueE7.le_toInt
  have most := valueE7.toInt_lt
  omega

theorem ofNat_toNat {number : Nat} (small : number < 4294967296) :
    (UInt32.ofNat number).toNat = number :=
  UInt32.toNat_ofNat_of_lt' small

theorem tagDegrees_eq :
    tagDegrees valueE7 = (valueE7.toInt.natAbs : Rat) / 10 ^ 7 -
      (minutesRest valueE7.toInt.natAbs * 3 % 50 : Nat) / 1800000000 := by
  have bound := natAbs_le valueE7
  unfold tagDegrees coordinatePairs pairDegrees ratio minutesRest
  generalize valueE7.toInt.natAbs = total at bound ⊢
  dsimp only
  rw [ofNat_toNat (by omega), ofNat_toNat (by omega), ofNat_toNat (by omega)]
  have one : (1 : UInt32).toNat = 1 := rfl
  have scale : (10000 : UInt32).toNat = 10000 := rfl
  rw [one, scale]
  have whole : (total : Rat) = 10000000 * (total / 10000000 : Nat) + (total % 10000000 : Nat) := by
    exact_mod_cast (Nat.div_add_mod total 10000000).symm
  have parts : ((total % 10000000 : Nat) : Rat) * 60 =
      10000000 * (total % 10000000 * 60 / 10000000 : Nat) +
        (total % 10000000 * 60 % 10000000 : Nat) := by
    exact_mod_cast (Nat.div_add_mod (total % 10000000 * 60) 10000000).symm
  have cut : ((total % 10000000 * 60 % 10000000 : Nat) : Rat) * 3 =
      50 * (total % 10000000 * 60 % 10000000 * 60 / 1000 : Nat) +
        (total % 10000000 * 60 % 10000000 * 3 % 50 : Nat) := by
    have same : total % 10000000 * 60 % 10000000 * 3 =
        50 * (total % 10000000 * 60 % 10000000 * 60 / 1000) +
          total % 10000000 * 60 % 10000000 * 3 % 50 := by
      omega
    exact_mod_cast same
  linarith only [whole, parts, cut]

theorem cut_eq_zero_iff (total : Nat) : minutesRest total * 3 % 50 = 0 ↔ total % 5 = 0 := by
  unfold minutesRest
  omega

theorem tagDegrees_exact_iff :
    tagDegrees valueE7 = (valueE7.toInt.natAbs : Rat) / 10 ^ 7 ↔ valueE7.toInt % 5 = 0 := by
  have same : valueE7.toInt.natAbs % 5 = 0 ↔ valueE7.toInt % 5 = 0 := by omega
  rw [tagDegrees_eq, ← same, ← cut_eq_zero_iff, sub_eq_self,
    div_eq_zero_iff, or_iff_left (by norm_num)]
  exact Nat.cast_eq_zero

theorem round_tagDegrees :
    round (tagDegrees valueE7 * 10 ^ 7) = valueE7.toInt.natAbs := by
  rw [round_eq, Int.floor_eq_iff, tagDegrees_eq]
  have small : minutesRest valueE7.toInt.natAbs * 3 % 50 < 50 := Nat.mod_lt _ (by decide)
  generalize minutesRest valueE7.toInt.natAbs * 3 % 50 = cut at small ⊢
  have most : (cut : Rat) < 50 := by exact_mod_cast small
  have least : (0 : Rat) ≤ cut := Nat.cast_nonneg cut
  rw [Int.cast_natCast]
  constructor <;> linarith only [most, least]

theorem coordinateTags_injective : Function.Injective coordinateTags := by
  intro first second same
  obtain ⟨signs, pairs⟩ := Prod.mk.inj same
  have sizes : first.toInt.natAbs = second.toInt.natAbs := by
    have rounded := round_tagDegrees first
    rw [tagDegrees, pairs] at rounded
    exact_mod_cast rounded.symm.trans (round_tagDegrees second)
  have sides : first.toInt < 0 ↔ second.toInt < 0 := decide_eq_decide.mp signs
  exact Int32.toInt_inj.mp (by omega)

/-- A photo says a coordinate exactly if and only if it is a multiple of five units. -/
theorem tells_iff (valueE7 : Int32) : Tells valueE7 ↔ valueE7.toInt % 5 = 0 := by
  constructor
  · intro tells
    exact (tagDegrees_exact_iff valueE7).mp tells.exact
  · intro five
    have bound := natAbs_le valueE7
    refine ⟨(tagDegrees_exact_iff valueE7).mpr five, ⟨_, _, _, rfl, ?_, ?_, ?_⟩,
      fun other same => coordinateTags_injective same, round_tagDegrees valueE7⟩
    · rw [ofNat_toNat (by omega)]
      norm_num
    · rw [ofNat_toNat (by omega)]
      omega
    · have small : valueE7.toInt.natAbs % 10000000 * 60 % 10000000 * 60 / 1000 < 600000 := by
        omega
      have scale : (10000 : UInt32).toNat = 10000 := rfl
      rw [ratio, scale, ofNat_toNat (by omega), div_lt_iff₀ (by norm_num)]
      exact_mod_cast small

/-- One unit north of the equator is cut to 0.0003 seconds. -/
theorem oneUnit_cut : ¬ ∀ valueE7, Tells valueE7 := by
  intro tells
  exact absurd ((tagDegrees_exact_iff 1).mp (tells 1).exact) (by decide)

end Exif
