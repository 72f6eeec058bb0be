/-
This file is a library on the cells of a device that are written one after another until a write
fails, and on runs of calls that do so: whether the device shows, after each call that succeeds,
what was last asked of it with success.
-/

import Mathlib.Data.List.Basic

namespace Sweep

open List

variable {Cell : Type}

/-! ### Cells -/

/-- The cells are written from a number on. A write says what is in the cell behind it, and whether
it succeeded; the number of the one that failed is given. -/
def sweep (write : Nat → Cell → Cell × Bool) : Nat → List Cell → List Cell × Option Nat
  | _, [] => ([], none)
  | number, cell :: later =>
    if (write number cell).2 then
      ((write number cell).1 :: (sweep write (number + 1) later).1,
        (sweep write (number + 1) later).2)
    else ((write number cell).1 :: later, some number)

variable {write : Nat → Cell → Cell × Bool} {number : Nat} {cell : Cell}

theorem sweep_fails (fails : (write number cell).2 = false) (later : List Cell) :
    sweep write number (cell :: later) = ((write number cell).1 :: later, some number) := by
  rw [sweep, if_neg (by rw [fails]; exact Bool.false_ne_true)]

theorem sweep_succeeds (succeeds : (write number cell).2 = true) (later : List Cell) :
    sweep write number (cell :: later) =
      ((write number cell).1 :: (sweep write (number + 1) later).1,
        (sweep write (number + 1) later).2) := by
  rw [sweep, if_pos succeeds]

theorem length_sweep (write : Nat → Cell → Cell × Bool) (number : Nat) (cells : List Cell) :
    (sweep write number cells).1.length = cells.length := by
  induction cells generalizing number with
  | nil => rfl
  | cons cell later hypothesis =>
    cases succeeds : (write number cell).2 with
    | false => rw [sweep_fails succeeds]; rfl
    | true =>
      rw [sweep_succeeds succeeds]
      exact congrArg (· + 1) (hypothesis (number + 1))

/-- Every cell is written when no write fails. -/
theorem sweep_written {P : Cell → Prop}
    (writes : ∀ number cell, (write number cell).2 = true → P (write number cell).1)
    {cells : List Cell} (complete : (sweep write number cells).2 = none) :
    ∀ cell ∈ (sweep write number cells).1, P cell := by
  induction cells generalizing number with
  | nil => exact nofun
  | cons cell later hypothesis =>
    cases succeeds : (write number cell).2 with
    | false =>
      rw [sweep_fails succeeds] at complete
      cases complete
    | true =>
      rw [sweep_succeeds succeeds] at complete ⊢
      exact forall_mem_cons.mpr ⟨writes number cell succeeds, hypothesis complete⟩

/-- Where the success of a write depends on its number only, no write fails when all of them
succeed. -/
theorem sweep_complete {succeeds : Nat → Bool}
    (given : ∀ number cell, (write number cell).2 = succeeds number) (number : Nat)
    (cells : List Cell) :
    (sweep write number cells).2.isNone = (range' number cells.length).all succeeds := by
  induction cells generalizing number with
  | nil => rfl
  | cons cell later hypothesis =>
    rw [length_cons, range'_succ, all_cons]
    cases success : (write number cell).2 with
    | false =>
      rw [sweep_fails success, ← given number cell, success]
      rfl
    | true =>
      rw [sweep_succeeds success, ← given number cell, success, Bool.true_and]
      exact hypothesis (number + 1)

/-- Where a write puts a value there or does nothing, a cell holds the value when the write of no
cell up to it fails. -/
theorem sweep_reached {succeeds : Nat → Bool} {value : Cell}
    (given : ∀ number cell,
      write number cell = if succeeds number then (value, true) else (cell, false))
    (number count : Nat) (cells : Nat → Cell) :
    (sweep write number ((range' number count).map cells)).1 =
      (range' number count).map fun reached =>
        if (range' number (reached + 1 - number)).all succeeds then value
        else cells reached := by
  induction count generalizing number with
  | zero => rfl
  | succ count hypothesis =>
    rw [range'_succ, map_cons, map_cons]
    have split : ∀ reached ∈ range' (number + 1) count,
        (range' number (reached + 1 - number)).all succeeds =
          (succeeds number && (range' (number + 1) (reached + 1 - (number + 1))).all succeeds) := by
      intro reached member
      rw [mem_range'_1] at member
      rw [show reached + 1 - number = reached + 1 - (number + 1) + 1 by omega,
        range'_succ, all_cons]
    have head : (range' number (number + 1 - number)).all succeeds = succeeds number := by
      rw [Nat.add_sub_cancel_left, range'_one, all_cons, all_nil, Bool.and_true]
    rw [head]
    cases success : succeeds number with
    | false =>
      have fails : (write number (cells number)).2 = false := by
        rw [given, success]
        rfl
      rw [sweep_fails fails, given, success]
      refine congrArg _ (map_congr_left fun reached member => ?_)
      rw [split reached member, success]
      rfl
    | true =>
      have writes : (write number (cells number)).2 = true := by
        rw [given, success]
        rfl
      rw [sweep_succeeds writes, given, success, hypothesis]
      refine congrArg _ (map_congr_left fun reached member => ?_)
      rw [split reached member, success, Bool.true_and]

/-- Where a write that fails does nothing, the cells from the one that failed on are as before. -/
theorem sweep_behind (keeps : ∀ number cell, (write number cell).2 = false →
    (write number cell).1 = cell) {cells : List Cell} {failed : Nat}
    (fails : (sweep write number cells).2 = some failed) :
    number ≤ failed ∧
      (sweep write number cells).1.drop (failed - number) = cells.drop (failed - number) := by
  induction cells generalizing number with
  | nil => cases fails
  | cons cell later hypothesis =>
    cases success : (write number cell).2 with
    | false =>
      rw [sweep_fails success] at fails ⊢
      obtain rfl := Option.some.inj fails
      rw [keeps number cell success]
      exact ⟨Nat.le_refl _, rfl⟩
    | true =>
      rw [sweep_succeeds success] at fails ⊢
      obtain ⟨after, same⟩ := hypothesis fails
      have count : failed - number = failed - (number + 1) + 1 := by omega
      rw [count, drop_succ_cons, drop_succ_cons]
      exact ⟨Nat.le_of_succ_le after, same⟩

/-! ### Runs -/

variable {State Call Wanted : Type}

/-- In a run of calls, after each one that succeeds, the state shows what was asked for by the calls
that succeeded. -/
def Shows (step : State → Call → State × Bool) (asks : Call → Wanted → Wanted)
    (shows : State → Wanted → Prop) : State → Wanted → List Call → Prop
  | _, _, [] => True
  | s, last, call :: later =>
    ((step s call).2 = true → shows (step s call).1 (asks call last)) ∧
      Shows step asks shows (step s call).1 (if (step s call).2 then asks call last else last) later

/-- A run shows what was asked for when an invariant carries it from call to call. -/
theorem shows_of_invariant {step : State → Call → State × Bool} {asks : Call → Wanted → Wanted}
    {shows : State → Wanted → Prop} (invariant : State → Wanted → Prop)
    (keeps : ∀ s last call, invariant s last →
      invariant (step s call).1 (if (step s call).2 then asks call last else last))
    (given : ∀ s last, invariant s last → shows s last) (calls : List Call) {s : State}
    {last : Wanted} (holds : invariant s last) : Shows step asks shows s last calls := by
  induction calls generalizing s last with
  | nil => exact trivial
  | cons call later hypothesis =>
    have after := keeps s last call holds
    refine ⟨fun succeeds => ?_, hypothesis after⟩
    rw [if_pos succeeds] at after
    exact given _ _ after

end Sweep
