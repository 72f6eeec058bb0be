/-
This file is a library on checksums that take one symbol after another. Where a step can be undone
and tells all symbols apart, a change of one symbol changes the checksum, wherever it is and however
long the data. Several rounds of a shift register can also be looked up in a table.
-/

import Mathlib.Data.List.Basic
import Mathlib.Logic.Function.Iterate

namespace Checksum

open List Function

variable {State Symbol : Type} {step : State → Symbol → State}

/-- A step can be undone, and tells all symbols apart. -/
structure Separates (step : State → Symbol → State) : Prop where
  state : ∀ symbol, Function.Injective fun state => step state symbol
  symbol : ∀ state, Function.Injective (step state)

/-- A step that runs some rounds over what the symbol was mixed into. -/
theorem foldl_rounds_injective {round : State → State} (undone : Injective round)
    (rounds : List Nat) : Injective fun state =>
      rounds.foldl (fun state _ => round state) state := by
  induction rounds with
  | nil => exact fun _ _ same => same
  | cons _ rest hypothesis => exact hypothesis.comp undone

theorem foldl_injective (separates : Separates step) (data : List Symbol) :
    Injective fun state => data.foldl step state := by
  induction data with
  | nil => exact fun _ _ same => same
  | cons symbol rest hypothesis =>
    exact hypothesis.comp (separates.state symbol)

/-- The checksum finds a change of one symbol. -/
theorem foldl_set_ne (separates : Separates step) (state : State) {data : List Symbol} {index : Nat}
    (inside : index < data.length) {changed : Symbol} (differs : data[index] ≠ changed) :
    (data.set index changed).foldl step state ≠ data.foldl step state := by
  induction data generalizing state index with
  | nil => exact absurd inside (Nat.not_lt_zero index)
  | cons symbol rest hypothesis =>
    cases index with
    | zero =>
      rw [set_cons_zero, foldl_cons, foldl_cons]
      exact fun same => differs (separates.symbol state (foldl_injective separates rest same)).symm
    | succ index =>
      rw [set_cons_succ, foldl_cons, foldl_cons]
      exact hypothesis _ (Nat.lt_of_succ_lt_succ inside) differs

/-! ### Shift registers -/

section Registers

variable {width : Nat}

/-- A register that is shifted up, and into which the bit that falls out is fed back. -/
def shiftUp (polynomial register : BitVec (width + 1)) : BitVec (width + 1) :=
  register <<< 1 ^^^ if register.getLsbD width then polynomial else 0

/-- A register that is shifted down. -/
def shiftDown (polynomial register : BitVec (width + 1)) : BitVec (width + 1) :=
  register >>> 1 ^^^ if register.getLsbD 0 then polynomial else 0

/-- The bit that fell out is the bit that came in. -/
theorem shiftUp_injective {polynomial : BitVec (width + 1)}
    (fedBack : polynomial.getLsbD 0 = true) : Injective (shiftUp polynomial) := by
  intro first second same
  have out (register : BitVec (width + 1)) :
      (shiftUp polynomial register).getLsbD 0 = register.getLsbD width := by
    unfold shiftUp
    cases register.getLsbD width <;> simp [fedBack]
  have top : first.getLsbD width = second.getLsbD width := by rw [← out first, same, out second]
  have shifted : first <<< 1 = second <<< 1 := by
    unfold shiftUp at same
    rw [top] at same
    exact (BitVec.xor_left_inj _).mp same
  refine BitVec.eq_of_getLsbD_eq fun index inside => ?_
  rcases Nat.lt_succ_iff_lt_or_eq.mp inside with below | rfl
  · have bit := congrArg (·.getLsbD (index + 1)) shifted
    simpa only [BitVec.getLsbD_shiftLeft, Nat.add_lt_add_iff_right, below, decide_true,
      Nat.lt_add_left_iff_pos, Nat.add_sub_cancel, Nat.not_lt.mpr (Nat.le_add_left 1 index),
      decide_false, Bool.not_false, Bool.true_and] using bit
  · exact top

theorem shiftDown_injective {polynomial : BitVec (width + 1)}
    (fedBack : polynomial.getLsbD width = true) : Injective (shiftDown polynomial) := by
  intro first second same
  have out (register : BitVec (width + 1)) :
      (shiftDown polynomial register).getLsbD width = register.getLsbD 0 := by
    have outside : register.getLsbD (1 + width) = false :=
      BitVec.getLsbD_of_ge register _ (by omega)
    unfold shiftDown
    rw [BitVec.getLsbD_xor, BitVec.getLsbD_ushiftRight, outside, Bool.false_xor]
    cases register.getLsbD 0
    · exact BitVec.getLsbD_zero
    · exact fedBack
  have bottom : first.getLsbD 0 = second.getLsbD 0 := by rw [← out first, same, out second]
  have shifted : first >>> 1 = second >>> 1 := by
    unfold shiftDown at same
    rw [bottom] at same
    exact (BitVec.xor_left_inj _).mp same
  refine BitVec.eq_of_getLsbD_eq fun index inside => ?_
  cases index with
  | zero => exact bottom
  | succ index =>
    have bit := congrArg (·.getLsbD index) shifted
    simpa [BitVec.getLsbD_ushiftRight, Nat.add_comm] using bit

/-- A round is linear. -/
theorem shiftDown_xor (polynomial first second : BitVec (width + 1)) :
    shiftDown polynomial (first ^^^ second) =
      shiftDown polynomial first ^^^ shiftDown polynomial second := by
  have fedBack : (if first.getLsbD 0 ^^ second.getLsbD 0 then polynomial else 0) =
      (if first.getLsbD 0 then polynomial else 0) ^^^
        (if second.getLsbD 0 then polynomial else 0) := by
    cases first.getLsbD 0 <;> cases second.getLsbD 0 <;> simp
  unfold shiftDown
  rw [BitVec.ushiftRight_xor_distrib, BitVec.getLsbD_xor, fedBack]
  ac_rfl

theorem rounds_xor (polynomial : BitVec (width + 1)) (count : Nat)
    (first second : BitVec (width + 1)) :
    (shiftDown polynomial)^[count] (first ^^^ second) =
      (shiftDown polynomial)^[count] first ^^^ (shiftDown polynomial)^[count] second := by
  induction count generalizing first second with
  | zero => rfl
  | succ count hypothesis =>
    rw [iterate_succ_apply, shiftDown_xor, hypothesis]
    rfl

/-- Nothing is fed back while zeros fall out. -/
theorem rounds_shifted (polynomial register : BitVec (width + 1)) {place count : Nat}
    (within : place ≤ count) :
    (shiftDown polynomial)^[place] (register >>> count <<< place) = register >>> count := by
  induction place with
  | zero => exact BitVec.shiftLeft_zero _
  | succ place hypothesis =>
    have round : shiftDown polynomial (register >>> count <<< (place + 1)) =
        register >>> count <<< place := by
      have zero : (register >>> count <<< (place + 1)).getLsbD 0 = false := by
        rw [BitVec.getLsbD_shiftLeft, decide_eq_true (Nat.succ_pos place)]
        simp only [Bool.not_true, Bool.and_false, Bool.false_and]
      unfold shiftDown
      rw [zero, if_neg Bool.false_ne_true]
      refine (BitVec.xor_zero).trans ?_
      refine BitVec.eq_of_getLsbD_eq fun index inside => ?_
      simp only [BitVec.getLsbD_ushiftRight, BitVec.getLsbD_shiftLeft]
      by_cases last : index = width
      · have outside : register.getLsbD (count + (width - place)) = false :=
          BitVec.getLsbD_of_ge _ _ (by omega)
        rw [last, outside, decide_eq_false (by omega : ¬ 1 + width < width + 1)]
        simp only [Bool.false_and, Bool.and_false]
      · rw [decide_eq_true (by omega : 1 + index < width + 1), decide_eq_true inside,
          show 1 + index - (place + 1) = index - place by omega,
          decide_eq_decide.mpr (by omega : 1 + index < place + 1 ↔ index < place)]
    rw [iterate_succ_apply, round, hypothesis (by omega)]

/-- Some rounds depend on the bits that fall out; the others are only moved. -/
theorem rounds_split (polynomial register : BitVec (width + 1)) (count : Nat) :
    (shiftDown polynomial)^[count] register =
      (shiftDown polynomial)^[count] (register ^^^ register >>> count <<< count) ^^^
        register >>> count := by
  have whole : register =
      (register ^^^ register >>> count <<< count) ^^^ register >>> count <<< count := by
    rw [BitVec.xor_assoc, BitVec.xor_self, BitVec.xor_zero]
  conv_lhs => rw [whole]
  rw [rounds_xor, rounds_shifted polynomial register (Nat.le_refl count)]

end Registers

end Checksum
