/-
This file is about the joint coordinates of the gimbal: the mapping between the angles of the wire
and the canonical ones, in exact arithmetic. A mapping is a signed permutation and an offset, and
the angles are wrapped behind it. The two directions of a mapping take each other back up to full
turns, and the round trip of a command through the vendor server and the backend is one of these.

Arrays are places in memory, so an output may overlap the input.
-/

import CameraGimbal.Config
import CameraGimbal.Siyi
import Mathlib.Algebra.BigOperators.Fin
import Mathlib.Data.Rat.Floor
import Mathlib.Tactic.FinCases

namespace GimbalTransform

open Config (Target)
open Siyi (getU16le)

/-- Three floats in the order roll, pitch, yaw. -/
abbrev Joints := Fin 3 → ℚ

/-- `struct apcam_gimbal_transform`. -/
structure Transform where
  matrix : Fin 9 → ℚ
  offset : Joints

/-- The place of an entry, `3 * row + col`. -/
def entry (row col : Fin 3) : Fin 9 := ⟨3 * row + col, by omega⟩

/-! ### Loops -/

/-- A `while` loop ends: it takes some rounds while its test holds, and then the test fails. -/
def LoopEnds {α : Type} (test : α → Prop) (body : α → α) (start final : α) : Prop :=
  ∃ rounds, (∀ earlier < rounds, test (body^[earlier] start)) ∧
    ¬ test (body^[rounds] start) ∧ body^[rounds] start = final

section Loop

variable {α : Type} {test : α → Prop} {body : α → α} {start final : α}

theorem LoopEnds.stop (fails : ¬ test start) : LoopEnds test body start start :=
  ⟨0, fun _ before => absurd before (Nat.not_lt_zero _), fails, rfl⟩

theorem LoopEnds.next (holds : test start) (ends : LoopEnds test body (body start) final) :
    LoopEnds test body start final := by
  obtain ⟨rounds, passes, fails, isFinal⟩ := ends
  refine ⟨rounds + 1, fun earlier before => ?_, ?_, ?_⟩
  · cases earlier with
    | zero => exact holds
    | succ earlier => exact passes earlier (Nat.lt_of_succ_lt_succ before)
  · rwa [Function.iterate_succ_apply]
  · rwa [Function.iterate_succ_apply]

theorem LoopEnds.invariant (ends : LoopEnds test body start final) (kept : α → Prop)
    (first : kept start) (round : ∀ value, test value → kept value → kept (body value)) :
    kept final := by
  obtain ⟨rounds, passes, -, rfl⟩ := ends
  induction rounds with
  | zero => exact first
  | succ rounds hypothesis =>
    rw [Function.iterate_succ_apply']
    exact round _ (passes rounds (Nat.lt_succ_self _))
      (hypothesis fun earlier before => passes earlier (before.trans (Nat.lt_succ_self _)))

theorem LoopEnds.fails (ends : LoopEnds test body start final) : ¬ test final := by
  obtain ⟨rounds, -, fails, rfl⟩ := ends
  exact fails

end Loop

/-! ### Wrapping -/

theorem ceil_sub_one_lt {turns : ℚ} (above : 1 < turns) : ⌈turns - 1⌉₊ < ⌈turns⌉₊ := by
  rw [Nat.ceil_sub_one]
  exact Nat.sub_lt (Nat.ceil_pos.mpr (zero_lt_one.trans above)) one_pos

/-- `while (v > 180.0f) v -= 360.0f`. -/
def wrapDown (v : ℚ) : ℚ :=
  if 180 < v then wrapDown (v - 360) else v
  termination_by ⌈(v + 180) / 360⌉₊
  decreasing_by
    have step : (v - 360 + 180) / 360 = (v + 180) / 360 - 1 := by ring
    rw [step]
    exact ceil_sub_one_lt (by linarith)

/-- `while (v < -180.0f) v += 360.0f`. -/
def wrapUp (v : ℚ) : ℚ :=
  if v < -180 then wrapUp (v + 360) else v
  termination_by ⌈(180 - v) / 360⌉₊
  decreasing_by
    have step : (180 - (v + 360)) / 360 = (180 - v) / 360 - 1 := by ring
    rw [step]
    exact ceil_sub_one_lt (by linarith)

def apcamWrapDegrees (v : ℚ) : ℚ := wrapUp (wrapDown v)

/-! ### Mapping -/

/-- `result` of `apcam_transform`. -/
def transformed (t : Transform) (rates : Bool) (input : Joints) : Joints := fun row =>
  let v := Fin.foldl 3 (fun v col => v + t.matrix (entry row col) * input col)
    (if rates then 0 else t.offset row)
  if rates then v else apcamWrapDegrees v

/-- `result` of `apcam_inverse_transform`. -/
def inverseTransformed (t : Transform) (rates : Bool) (input : Joints) : Joints := fun row =>
  let v := Fin.foldl 3 (fun v col =>
    v + t.matrix (entry col row) * (input col - if rates then 0 else t.offset col)) 0
  if rates then v else apcamWrapDegrees v

/-- The floats in memory, by their addresses. -/
abbrev Memory := ℕ → ℚ

/-- The array at an address. -/
def load (memory : Memory) (array : ℕ) : Joints := fun i => memory (array + i)

/-- `for (i = 0; i < 3; i++) output[i] = result[i]`. -/
def store (memory : Memory) (output : ℕ) (result : Joints) : Memory :=
  Fin.foldl 3 (fun memory i => Function.update memory (output + i) (result i)) memory

def apcamTransform (t : Transform) (input output : ℕ) (rates : Bool) (memory : Memory) : Memory :=
  store memory output (transformed t rates (load memory input))

def apcamInverseTransform (t : Transform) (input output : ℕ) (rates : Bool) (memory : Memory) :
    Memory :=
  store memory output (inverseTransformed t rates (load memory input))

/-! ### The tables of the targets -/

inductive Channel where
  | feedback | privateFeedback | angleCommand | rateCommand

/-- A matrix that keeps the joints, with the signs of roll, pitch and yaw. -/
def diagonal (roll pitch yaw : ℚ) : Fin 9 → ℚ := ![roll, 0, 0, 0, pitch, 0, 0, 0, yaw]

def apcamFeedback : Target → Bool → Transform
  | .mt11, _ => ⟨diagonal 1 1 (-1), ![0, 0, 0]⟩
  | .zr10, false => ⟨diagonal 1 1 (-1), ![0, 0, 0]⟩
  | .zr10, true => ⟨diagonal 1 (-1) (-1), ![0, 180, 0]⟩
  | .a8, false => ⟨diagonal 1 1 (-1), ![0, 0, 0]⟩
  | .a8, true => ⟨diagonal 1 (-1) 1, ![0, 180, 0]⟩
  | .z1mini, _ => ⟨diagonal 1 1 1, ![0, 0, 0]⟩

def apcamPrivateFeedback : Target → Bool → Transform
  | .mt11, _ => ⟨diagonal 1 1 1, ![0, 0, 0]⟩
  | .zr10, false => ⟨diagonal 1 1 1, ![0, 0, 0]⟩
  | .zr10, true => ⟨diagonal 1 (-1) 1, ![0, 180, 0]⟩
  | .a8, false => ⟨diagonal 1 1 1, ![0, 0, 0]⟩
  | .a8, true => ⟨diagonal 1 (-1) 1, ![0, 180, 0]⟩
  | .z1mini, _ => ⟨diagonal 1 1 1, ![0, 0, 0]⟩

/-- `apcam_angle_command`. The inverted A8 has both axes the other way. -/
def apcamAngleCommand : Target → Bool → Transform
  | .mt11, _ => ⟨diagonal 1 1 (-1), ![0, 0, 0]⟩
  | .zr10, _ => ⟨diagonal 1 1 (-1), ![0, 0, 0]⟩
  | .a8, false => ⟨diagonal 1 1 (-1), ![0, 0, 0]⟩
  | .a8, true => ⟨diagonal 1 (-1) 1, ![0, 0, 0]⟩
  | .z1mini, _ => ⟨diagonal 1 1 1, ![0, 0, 0]⟩

def apcamRateCommand : Target → Bool → Transform
  | _, _ => ⟨diagonal 1 1 1, ![0, 0, 0]⟩

def table : Channel → Target → Bool → Transform
  | .feedback => apcamFeedback
  | .privateFeedback => apcamPrivateFeedback
  | .angleCommand => apcamAngleCommand
  | .rateCommand => apcamRateCommand

/-! ### A command of the vendor's protocol -/

def packetAngles (data : Bytes) : Joints := fun i =>
  (getU16le data (5 + 2 * i)).toInt16.toInt / 100

/-- The array `command` of the server: the angles of a packet, mapped in place. -/
def serverCommand (t : Transform) (data : Bytes) : Joints :=
  load (apcamInverseTransform t 0 0 false (store (fun _ => 0) 0 (packetAngles data))) 0

/-- The array of the backend, mapped in place. -/
def backendCommand (t : Transform) (angles : Joints) : Joints :=
  load (apcamTransform t 0 0 false (store (fun _ => 0) 0 angles)) 0

def pitchMin : Target → ℚ := fun _ => -90

def pitchMax : Target → ℚ
  | .a8 => 25
  | .zr10 => 25
  | .mt11 => 30
  | .z1mini => 30

def yawMax : Target → ℚ
  | .a8 => 135
  | .zr10 => 135
  | .mt11 => 180
  | .z1mini => 180

def yawMin (target : Target) : ℚ := -yawMax target

/-- The pitch and the yaw that `ca_backend_set_gimbal_angles` is given, within the limits of the
target. The roll is the backend's own. -/
def backendAngles (target : Target) (roll : ℚ) (command : Joints) : Joints :=
  ![roll, min (pitchMax target) (max (pitchMin target) (command 1)),
    min (yawMax target) (max (yawMin target) (command 2))]

/-! ### Signed permutations -/

abbrev IsSign (sign : ℚ) : Prop := sign = 1 ∨ sign = -1

/-- The matrix sends each row to one joint, with a sign. -/
structure Signing (t : Transform) where
  joint : Equiv.Perm (Fin 3)
  sign : Fin 3 → ℚ
  isSign : ∀ row, IsSign (sign row)
  matrix : ∀ row col, t.matrix (entry row col) = if joint row = col then sign row else 0

/-- A matrix that keeps the joints is a signed permutation. -/
def diagonalSigning {t : Transform} {signs : Joints} (areSigns : ∀ row, IsSign (signs row))
    (isDiagonal : t.matrix = diagonal (signs 0) (signs 1) (signs 2)) : Signing t where
  joint := Equiv.refl _
  sign := signs
  isSign := areSigns
  matrix row col := by
    rw [isDiagonal]
    fin_cases row <;> fin_cases col <;> rfl

theorem table_signing (channel : Channel) (target : Target) (inverted : Bool) :
    ∃ signing : Signing (table channel target inverted), ∀ row, signing.joint row = row := by
  obtain ⟨roll, pitch, yaw, isDiagonal, rollSign, pitchSign, yawSign⟩ :
      ∃ roll pitch yaw, (table channel target inverted).matrix = diagonal roll pitch yaw ∧
        IsSign roll ∧ IsSign pitch ∧ IsSign yaw := by
    cases channel <;> cases target <;> cases inverted <;>
      exact ⟨_, _, _, rfl, by simp [IsSign], by simp [IsSign], by simp [IsSign]⟩
  have areSigns : ∀ row, IsSign (![roll, pitch, yaw] row) := by
    intro row
    fin_cases row
    · exact rollSign
    · exact pitchSign
    · exact yawSign
  exact ⟨diagonalSigning areSigns isDiagonal, fun row => rfl⟩

theorem foldl_add_eq_sum {count : ℕ} (f : Fin count → ℚ) (start : ℚ) :
    Fin.foldl count (fun v col => v + f col) start = start + ∑ col, f col := by
  induction count generalizing start with
  | zero => simp
  | succ count hypothesis =>
    rw [Fin.foldl_succ, hypothesis, Fin.sum_univ_succ, add_assoc]

section

variable {t : Transform} (signing : Signing t) (rates : Bool) (input : Joints) (row : Fin 3)

include signing

theorem transformed_row :
    transformed t rates input row =
      let v := (if rates then 0 else t.offset row) + signing.sign row * input (signing.joint row)
      if rates then v else apcamWrapDegrees v := by
  have product : ∑ col, t.matrix (entry row col) * input col =
      signing.sign row * input (signing.joint row) := by
    simp only [signing.matrix, ite_mul, zero_mul]
    rw [Finset.sum_ite_eq, if_pos (Finset.mem_univ _)]
  unfold transformed
  rw [foldl_add_eq_sum, product]

theorem inverseTransformed_row :
    inverseTransformed t rates input (signing.joint row) =
      let v := signing.sign row * (input row - if rates then 0 else t.offset row)
      if rates then v else apcamWrapDegrees v := by
  have product : ∑ col, t.matrix (entry col (signing.joint row)) *
        (input col - if rates then 0 else t.offset col) =
      signing.sign row * (input row - if rates then 0 else t.offset row) := by
    simp only [signing.matrix, EmbeddingLike.apply_eq_iff_eq, ite_mul, zero_mul]
    rw [Finset.sum_ite_eq', if_pos (Finset.mem_univ _)]
  unfold inverseTransformed
  rw [foldl_add_eq_sum, product, zero_add]

end

/-! ### There and back -/

/-- The same angle up to full turns, in the half turns about zero. -/
structure Wrapped (angle result : ℚ) : Prop where
  same : result ≡ angle [PMOD 360]
  least : -180 ≤ result
  most : result ≤ 180

variable (v : ℚ)

theorem wrapDown_ends : LoopEnds (180 < ·) (· - 360) v (wrapDown v) := by
  induction v using wrapDown.induct with
  | case1 v above hypothesis =>
    rw [wrapDown, if_pos above]
    exact hypothesis.next above
  | case2 v inside =>
    rw [wrapDown, if_neg inside]
    exact .stop inside

theorem wrapUp_ends : LoopEnds (· < -180) (· + 360) v (wrapUp v) := by
  induction v using wrapUp.induct with
  | case1 v below hypothesis =>
    rw [wrapUp, if_pos below]
    exact hypothesis.next below
  | case2 v inside =>
    rw [wrapUp, if_neg inside]
    exact .stop inside

theorem sub_turn : v - 360 ≡ v [PMOD 360] :=
  AddCommGroup.modEq_iff_zsmul'.mpr ⟨1, by ring⟩

theorem add_turn : v + 360 ≡ v [PMOD 360] :=
  AddCommGroup.modEq_iff_zsmul'.mpr ⟨-1, by ring⟩

theorem wrapped_wrapDegrees : Wrapped v (apcamWrapDegrees v) := by
  have down := wrapDown_ends v
  have up := wrapUp_ends (wrapDown v)
  have sameDown : wrapDown v ≡ v [PMOD 360] :=
    down.invariant (· ≡ v [PMOD 360]) (AddCommGroup.modEq_refl v)
      fun value _ same => (sub_turn value).trans same
  have sameUp : wrapUp (wrapDown v) ≡ wrapDown v [PMOD 360] :=
    up.invariant (· ≡ wrapDown v [PMOD 360]) (AddCommGroup.modEq_refl _)
      fun value _ same => (add_turn value).trans same
  refine ⟨sameUp.trans sameDown, not_lt.mp up.fails, ?_⟩
  -- a round upwards starts below the lower end, so it does not pass the upper one
  exact up.invariant (· ≤ 180) (not_lt.mp down.fails) fun value below _ => by linarith

theorem Wrapped.of_same {angle other result : ℚ} (wrapped : Wrapped angle result)
    (same : angle ≡ other [PMOD 360]) : Wrapped other result :=
  ⟨wrapped.same.trans same, wrapped.least, wrapped.most⟩

section Sign

variable {sign : ℚ} (isSign : IsSign sign)
include isSign

theorem sign_mul_sign (angle : ℚ) : sign * (sign * angle) = angle := by
  obtain rfl | rfl := isSign <;> simp

theorem sign_mul_same {first second : ℚ} (same : first ≡ second [PMOD 360]) :
    sign * first ≡ sign * second [PMOD 360] := by
  obtain rfl | rfl := isSign
  · simpa using same
  · simpa using AddCommGroup.neg_modEq_neg.mpr same

end Sign

section Signed

variable {t : Transform} (signing : Signing t)
include signing

theorem inverse_transformed (input : Joints) (joint : Fin 3) :
    Wrapped (input joint) (inverseTransformed t false (transformed t false input) joint) := by
  obtain ⟨row, rfl⟩ := signing.joint.surjective joint
  rw [inverseTransformed_row signing, transformed_row signing]
  refine (wrapped_wrapDegrees _).of_same ?_
  -- the offset that was added before the wrap is taken off behind it
  have outer := (wrapped_wrapDegrees (t.offset row +
    signing.sign row * input (signing.joint row))).same.sub_right (t.offset row)
  rw [add_sub_cancel_left] at outer
  have turned := sign_mul_same (signing.isSign row) outer
  rwa [sign_mul_sign (signing.isSign row)] at turned

theorem transformed_inverse (input : Joints) (row : Fin 3) :
    Wrapped (input row) (transformed t false (inverseTransformed t false input) row) := by
  rw [transformed_row signing, inverseTransformed_row signing]
  refine (wrapped_wrapDegrees _).of_same ?_
  have turned := sign_mul_same (signing.isSign row) (wrapped_wrapDegrees
    (signing.sign row * (input row - t.offset row))).same
  rw [sign_mul_sign (signing.isSign row)] at turned
  have shifted := turned.add_left (t.offset row)
  rwa [add_sub_cancel] at shifted

theorem inverse_transformed_rates (input : Joints) :
    inverseTransformed t true (transformed t true input) = input := by
  funext joint
  obtain ⟨row, rfl⟩ := signing.joint.surjective joint
  rw [inverseTransformed_row signing, transformed_row signing]
  simp [sign_mul_sign (signing.isSign row)]

theorem transformed_inverse_rates (input : Joints) :
    transformed t true (inverseTransformed t true input) = input := by
  funext row
  rw [transformed_row signing, inverseTransformed_row signing]
  simp [sign_mul_sign (signing.isSign row)]

end Signed

/-! ### Arrays -/

@[simp]
theorem load_store (memory : Memory) (output : ℕ) (result : Joints) :
    load (store memory output result) output = result := by
  funext i
  fin_cases i <;> simp [load, store, Fin.foldl_succ]

/-- A mapping and its inverse take each other back, wherever their arrays are. -/
structure Invertible (t : Transform) : Prop where
  inverse_of_transform : ∀ memory input middle output joint,
    Wrapped (load memory input joint)
      (load (apcamInverseTransform t middle output false
        (apcamTransform t input middle false memory)) output joint)
  transform_of_inverse : ∀ memory input middle output joint,
    Wrapped (load memory input joint)
      (load (apcamTransform t middle output false
        (apcamInverseTransform t input middle false memory)) output joint)
  inverse_of_transform_rates : ∀ memory input middle output,
    load (apcamInverseTransform t middle output true
      (apcamTransform t input middle true memory)) output = load memory input
  transform_of_inverse_rates : ∀ memory input middle output,
    load (apcamTransform t middle output true
      (apcamInverseTransform t input middle true memory)) output = load memory input
  wire : ∀ data joint,
    Wrapped (packetAngles data joint) (backendCommand t (serverCommand t data) joint)

theorem Signing.invertible {t : Transform} (signing : Signing t) : Invertible t where
  inverse_of_transform memory input middle output joint := by
    unfold apcamInverseTransform apcamTransform
    rw [load_store, load_store]
    exact inverse_transformed signing _ joint
  transform_of_inverse memory input middle output joint := by
    unfold apcamInverseTransform apcamTransform
    rw [load_store, load_store]
    exact transformed_inverse signing _ joint
  inverse_of_transform_rates memory input middle output := by
    unfold apcamInverseTransform apcamTransform
    rw [load_store, load_store]
    exact inverse_transformed_rates signing _
  transform_of_inverse_rates memory input middle output := by
    unfold apcamInverseTransform apcamTransform
    rw [load_store, load_store]
    exact transformed_inverse_rates signing _
  wire data joint := by
    unfold backendCommand serverCommand apcamInverseTransform apcamTransform
    rw [load_store, load_store, load_store, load_store]
    exact transformed_inverse signing _ joint

theorem transformed_congr {t : Transform} (signing : Signing t) (rates : Bool)
    {first second : Joints} {row : Fin 3}
    (agree : first (signing.joint row) = second (signing.joint row)) :
    transformed t rates first row = transformed t rates second row := by
  rw [transformed_row signing, transformed_row signing, agree]

theorem forwarded (target : Target) (inverted : Bool) (roll : ℚ) (data : Bytes) {joint : Fin 3}
    (inside : backendAngles target roll
        (serverCommand (apcamAngleCommand target inverted) data) joint =
      serverCommand (apcamAngleCommand target inverted) data joint) :
    Wrapped (packetAngles data joint)
      (backendCommand (apcamAngleCommand target inverted) (backendAngles target roll
        (serverCommand (apcamAngleCommand target inverted) data)) joint) := by
  obtain ⟨signing, keeps⟩ : ∃ signing : Signing (apcamAngleCommand target inverted),
      ∀ row, signing.joint row = row := table_signing .angleCommand target inverted
  have wire := signing.invertible.wire data joint
  rw [← keeps joint] at inside
  unfold backendCommand apcamTransform at wire ⊢
  rw [load_store, load_store] at wire ⊢
  rwa [transformed_congr signing false inside]

/-- The mapping of coordinates is invertible: for every mapping that is a signed permutation, as
each table of a target is; both loops of the wrapping end; and the pitch and the yaw of a vendor's
command come back from the backend, which has a roll of its own. -/
theorem coordinates_invertible :
    (∀ t (_ : Signing t), Invertible t) ∧
    (∀ channel target inverted, Nonempty (Signing (table channel target inverted))) ∧
    (∀ v, ∃ middle, LoopEnds (180 < ·) (· - 360) v middle ∧
      LoopEnds (· < -180) (· + 360) middle (apcamWrapDegrees v)) ∧
    (∀ target inverted roll data joint,
      backendAngles target roll (serverCommand (apcamAngleCommand target inverted) data) joint =
        serverCommand (apcamAngleCommand target inverted) data joint →
      Wrapped (packetAngles data joint)
        (backendCommand (apcamAngleCommand target inverted) (backendAngles target roll
          (serverCommand (apcamAngleCommand target inverted) data)) joint)) := by
  refine ⟨fun t signing => signing.invertible, fun channel target inverted => ?_,
    fun v => ⟨wrapDown v, wrapDown_ends v, wrapUp_ends _⟩,
    fun target inverted roll data joint => forwarded target inverted roll data⟩
  obtain ⟨signing, -⟩ := table_signing channel target inverted
  exact ⟨signing⟩

end GimbalTransform
