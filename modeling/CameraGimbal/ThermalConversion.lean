/-
This file models the conversion of the thermal picture from YUYV to NV12, as it is and rotated by
half a turn, and proves that the second is the rotation of the first: the luma plane pixel by pixel,
and the chroma plane by pairs of U and V.

The functions are modelled as the writes that they make. An index within a row of the source is an
unsigned int, in both of them.
-/

import CameraGimbal.PlaneWrites

namespace ThermalConversion

open PlaneWrites List

/-! ### The functions -/

/-- A byte of a row of the picture. -/
def input (source : Nat → UInt8) (width : UInt32) (row : Nat) (index : UInt32) : UInt8 :=
  source (row * width.toNat * 2 + index.toNat)

/-- The values of a loop variable with step two, below a limit. -/
def evens (limit : Nat) : List Nat := (List.range ((limit + 1) / 2)).map (2 * ·)

/-- The sizes of the rows of the two planes. -/
structure Strides where
  y : Nat
  uv : Nat

/-- What is written to the two planes. -/
structure Planes where
  y : List (Write UInt8)
  uv : List (Write UInt8)

/-- `ca_mt11_yuyv_to_nv12`. -/
def yuyvToNv12 (source : Nat → UInt8) (width height : UInt32) (strides : Strides) : Planes :=
  { y := (List.range height.toNat).flatMap fun row =>
      (evens width.toNat).flatMap fun column =>
        [{ offset := row * strides.y + column
           value := input source width row (UInt32.ofNat column * 2) },
         { offset := row * strides.y + (column + 1)
           value := input source width row (UInt32.ofNat column * 2 + 2) }]
    uv := (evens height.toNat).flatMap fun row =>
      (evens width.toNat).flatMap fun column =>
        [{ offset := row / 2 * strides.uv + column
           value := input source width row (UInt32.ofNat column * 2 + 1) },
         { offset := row / 2 * strides.uv + (column + 1)
           value := input source width row (UInt32.ofNat column * 2 + 3) }] }

/-- `ca_mt11_yuyv_to_nv12_rotated_180`. -/
def yuyvToNv12Rotated180 (source : Nat → UInt8) (width height : UInt32) (strides : Strides) :
    Planes :=
  { y := (List.range height.toNat).flatMap fun row =>
      (List.range width.toNat).map fun column =>
        { offset := (height.toNat - 1 - row) * strides.y + (width.toNat - 1 - column)
          value := input source width row (UInt32.ofNat column * 2) }
    uv := (evens height.toNat).flatMap fun row =>
      (evens width.toNat).flatMap fun column =>
        let destination := width.toNat - 2 - column
        [{ offset := (height.toNat / 2 - 1 - row / 2) * strides.uv + destination
           value := input source width row (UInt32.ofNat column * 2 + 1) },
         { offset := (height.toNat / 2 - 1 - row / 2) * strides.uv + (destination + 1)
           value := input source width row (UInt32.ofNat column * 2 + 3) }] }

/-! ### The writes pixel by pixel -/

section

variable {limit : Nat} (even : limit % 2 = 0)

include even

theorem evens_even :
    evens limit = (range (limit / 2)).map (2 * ·) := by
  unfold evens
  rw [show (limit + 1) / 2 = limit / 2 by omega]

theorem flatMap_pairs {pair : Nat → List (Write UInt8)}
    {part : Nat → Write UInt8} (parts : ∀ value, value % 2 = 0 → value + 2 ≤ limit →
      pair value = [part value, part (value + 1)]) :
    (evens limit).flatMap pair = (range limit).map part := by
  have whole : 2 * (limit / 2) = limit := by omega
  have split : (evens limit).flatMap pair =
      (evens limit).flatMap fun value => [part value, part (value + 1)] := by
    refine flatMap_congr fun value member => ?_
    rw [evens_even even] at member
    obtain ⟨half, inside, rfl⟩ := mem_map.mp member
    rw [mem_range] at inside
    exact parts _ (Nat.mul_mod_right 2 half) (by omega)
  rw [split, evens_even even, flatMap_evens, whole]

theorem flatMap_rows (row : Nat → List (Write UInt8)) :
    (evens limit).flatMap row = (range (limit / 2)).flatMap fun half => row (2 * half) := by
  rw [evens_even even, flatMap_map]

end

theorem index_succ (column : Nat) (part : UInt32) :
    UInt32.ofNat (column + 1) * 2 + part = UInt32.ofNat column * 2 + (2 + part) := by
  rw [UInt32.ofNat_add, UInt32.add_mul, UInt32.add_assoc]
  rfl

/-- The column that a column of the chroma plane is rotated to: the pairs are reversed, and each
pair stays as it is. -/
def pairOf (width column : Nat) : Nat :=
  if column % 2 = 0 then width - 2 - column else width - column

theorem pairOf_succ {width column : Nat} (even : column % 2 = 0) (inside : column + 2 ≤ width) :
    pairOf width (column + 1) = width - 2 - column + 1 := by
  unfold pairOf
  rw [if_neg (by omega)]
  omega

theorem reorders_pairOf {width : Nat} (even : width % 2 = 0) : Reorders width (pairOf width) := by
  intro column inside
  unfold pairOf
  by_cases first : column % 2 = 0
  · have same : (width - 2 - column) % 2 = 0 := by omega
    rw [if_pos first, if_pos same]
    omega
  · have other : (width - column) % 2 ≠ 0 := by omega
    rw [if_neg first, if_neg other]
    omega

section Writes

variable (source : Nat → UInt8) {width height : UInt32} (strides : Strides)

def luma (width : UInt32) (row column : Nat) : UInt8 :=
  input source width row (UInt32.ofNat column * 2)

/-- The chroma of a pixel of every second row. -/
def chroma (width : UInt32) (row column : Nat) : UInt8 :=
  input source width (2 * row) (UInt32.ofNat column * 2 + 1)

theorem plain_y (even : width.toNat % 2 = 0) :
    (yuyvToNv12 source width height strides).y =
      picture height.toNat width.toNat (fun row column => id row * strides.y + id column)
        (luma source width) := by
  refine congrArg (flatMap · _) (funext fun row => ?_)
  refine flatMap_pairs even fun column _ _ => ?_
  have next := index_succ column 0
  rw [UInt32.add_zero] at next
  simp only [luma, next]
  rfl

theorem plain_uv (evenWidth : width.toNat % 2 = 0) (evenHeight : height.toNat % 2 = 0) :
    (yuyvToNv12 source width height strides).uv =
      picture (height.toNat / 2) width.toNat
        (fun row column => id row * strides.uv + id column) (chroma source width) := by
  refine (flatMap_rows evenHeight _).trans ?_
  refine congrArg (flatMap · _) (funext fun row => ?_)
  refine flatMap_pairs evenWidth fun column _ _ => ?_
  have half : 2 * row / 2 = row := Nat.mul_div_cancel_left row (by decide)
  simp only [chroma, index_succ column 1, half]
  rfl

theorem rotated_y :
    (yuyvToNv12Rotated180 source width height strides).y =
      picture height.toNat width.toNat
        (fun row column => (height.toNat - 1 - row) * strides.y + (width.toNat - 1 - column))
        (luma source width) := rfl

theorem rotated_uv (evenWidth : width.toNat % 2 = 0) (evenHeight : height.toNat % 2 = 0) :
    (yuyvToNv12Rotated180 source width height strides).uv =
      picture (height.toNat / 2) width.toNat
        (fun row column => (height.toNat / 2 - 1 - row) * strides.uv + pairOf width.toNat column)
        (chroma source width) := by
  refine (flatMap_rows evenHeight _).trans ?_
  refine congrArg (flatMap · _) (funext fun row => ?_)
  refine flatMap_pairs evenWidth fun column even inside => ?_
  have half : 2 * row / 2 = row := Nat.mul_div_cancel_left row (by decide)
  have first : pairOf width.toNat column = width.toNat - 2 - column := if_pos even
  simp only [chroma, index_succ column 1, half, first, pairOf_succ even inside]
  rfl

end Writes

/-! ### The rotation -/

/-- The rows of both planes have room for the picture. -/
structure Strides.Fit (strides : Strides) (width : UInt32) : Prop where
  y : width.toNat ≤ strides.y
  uv : width.toNat ≤ strides.uv

/-- Both functions write every pixel once and nothing else, and behind the rotated conversion the
planes have, in their rows, what they have behind the plain one half a turn away. -/
structure Rotates (source : Nat → UInt8) (width height : UInt32) (plain rotated : Strides) :
    Prop where
  plainY : Covers height.toNat width.toNat plain.y (yuyvToNv12 source width height plain).y
  plainUv : Covers (height.toNat / 2) width.toNat plain.uv
    (yuyvToNv12 source width height plain).uv
  rotatedY : Covers height.toNat width.toNat rotated.y
    (yuyvToNv12Rotated180 source width height rotated).y
  rotatedUv : Covers (height.toNat / 2) width.toNat rotated.uv
    (yuyvToNv12Rotated180 source width height rotated).uv
  luma : ∀ y other row column, row < height.toNat → column < width.toNat →
    after (yuyvToNv12Rotated180 source width height rotated).y y (row * rotated.y + column) =
      after (yuyvToNv12 source width height plain).y other
        ((height.toNat - 1 - row) * plain.y + (width.toNat - 1 - column))
  chroma : ∀ uv other row pair, row < height.toNat / 2 → pair < width.toNat / 2 → ∀ part < 2,
    after (yuyvToNv12Rotated180 source width height rotated).uv uv
        (row * rotated.uv + (2 * pair + part)) =
      after (yuyvToNv12 source width height plain).uv other
        ((height.toNat / 2 - 1 - row) * plain.uv + (2 * (width.toNat / 2 - 1 - pair) + part))

theorem conversion_rotates (source : Nat → UInt8) {width height : UInt32}
    (evenWidth : width.toNat % 2 = 0) (evenHeight : height.toNat % 2 = 0) {plain rotated : Strides}
    (plainFit : plain.Fit width) (rotatedFit : rotated.Fit width) :
    Rotates source width height plain rotated := by
  have rows := reorders_reverse height.toNat
  have columns := reorders_reverse width.toNat
  have halfRows := reorders_reverse (height.toNat / 2)
  have pairs := reorders_pairOf evenWidth
  have rowsId := reorders_id height.toNat
  have columnsId := reorders_id width.toNat
  have halfRowsId := reorders_id (height.toNat / 2)
  constructor
  · rw [plain_y source plain evenWidth]
    exact covers_picture plainFit.y rowsId columnsId _
  · rw [plain_uv source plain evenWidth evenHeight]
    exact covers_picture plainFit.uv halfRowsId columnsId _
  · rw [rotated_y]
    exact covers_picture rotatedFit.y rows columns _
  · rw [rotated_uv source rotated evenWidth evenHeight]
    exact covers_picture rotatedFit.uv halfRows pairs _
  · intro y other row column rowInside columnInside
    have rowBack := (rows row rowInside).1
    have columnBack := (columns column columnInside).1
    rw [plain_y source plain evenWidth, rotated_y,
      after_picture rotatedFit.y rows columns y rowInside columnInside,
      after_picture plainFit.y rowsId columnsId other rowBack columnBack]
    rfl
  · intro uv other row pair rowInside pairInside part small
    have rowBack := (halfRows row rowInside).1
    have rotatedPair : pairOf width.toNat (2 * pair + part) =
        2 * (width.toNat / 2 - 1 - pair) + part := by
      unfold pairOf
      split <;> omega
    rw [plain_uv source plain evenWidth evenHeight, rotated_uv source rotated evenWidth evenHeight,
      after_picture rotatedFit.uv halfRows pairs uv rowInside (by omega),
      after_picture plainFit.uv halfRowsId columnsId other rowBack (by omega), rotatedPair]
    rfl

theorem conversion_rotates_four :
    Rotates (fun offset => UInt8.ofNat offset) 4 2 { y := 6, uv := 6 } { y := 4, uv := 8 } :=
  conversion_rotates _ (by decide) (by decide) ⟨by decide, by decide⟩ ⟨by decide, by decide⟩

end ThermalConversion
