/-
This file is a library on picking moments out of a list of readings of a clock, each not before
the one picked last allows. Taking every reading as soon as it is allowed keeps the picked moments
apart, and with a clock that does not go back no other choice that is kept apart picks more.
-/

import Mathlib.Order.Lattice
import Mathlib.Data.List.Basic

namespace Pacing

variable {Time : Type} [LinearOrder Time] {due : Time → Time}

/-- The readings taken when each is taken as soon as the one before it allows. -/
def paced (due : Time → Time) (earliest : Time) : List Time → List Time
  | [] => []
  | now :: later =>
    if earliest ≤ now then now :: paced due (due now) later else paced due earliest later

/-- The first moment is not before the earliest, and each not before the last one allows. -/
def Spaced (due : Time → Time) (earliest : Time) : List Time → Prop
  | [] => True
  | now :: later => earliest ≤ now ∧ Spaced due (due now) later

theorem paced_early {earliest now : Time} (early : ¬ earliest ≤ now) (later : List Time) :
    paced due earliest (now :: later) = paced due earliest later := by
  rw [paced, if_neg early]

theorem paced_due {earliest now : Time} (isDue : earliest ≤ now) (later : List Time) :
    paced due earliest (now :: later) = now :: paced due (due now) later := by
  rw [paced, if_pos isDue]

theorem paced_spaced (earliest : Time) (readings : List Time) :
    Spaced due earliest (paced due earliest readings) := by
  induction readings generalizing earliest with
  | nil => trivial
  | cons now later hypothesis =>
    by_cases isDue : earliest ≤ now
    · rw [paced_due isDue]
      exact ⟨isDue, hypothesis (due now)⟩
    · rw [paced_early isDue]
      exact hypothesis earliest

theorem Spaced.take {earliest : Time} {moments : List Time} (spaced : Spaced due earliest moments)
    (count : Nat) : Spaced due earliest (moments.take count) := by
  induction moments generalizing earliest count with
  | nil => rw [List.take_nil]; trivial
  | cons now later hypothesis =>
    cases count with
    | zero => trivial
    | succ fewer => exact ⟨spaced.1, hypothesis spaced.2 fewer⟩

/-- Taking each reading as soon as it is allowed stays ahead of every other choice. -/
theorem length_le_paced (monotone : Monotone due) {earliest start : Time} (ahead : earliest ≤ start)
    {readings chosen : List Time} (sorted : readings.Pairwise (· ≤ ·))
    (among : chosen.Sublist readings) (spaced : Spaced due start chosen) :
    chosen.length ≤ (paced due earliest readings).length := by
  induction readings generalizing earliest start chosen with
  | nil => rw [List.sublist_nil.mp among]; exact le_refl 0
  | cons now later hypothesis =>
    obtain ⟨first, others⟩ := List.pairwise_cons.mp sorted
    by_cases isDue : earliest ≤ now
    · rw [paced_due isDue]
      cases chosen with
      | nil => exact Nat.zero_le _
      | cons picked rest =>
        -- whichever reading is picked first, `now` is not after it
        have behind : now ≤ picked ∧ rest.Sublist later := by
          cases among with
          | cons _ skipped =>
            exact ⟨first picked (skipped.subset List.mem_cons_self),
              (List.sublist_cons_self picked rest).trans skipped⟩
          | cons_cons _ taken => exact ⟨le_rfl, taken⟩
        exact Nat.succ_le_succ (hypothesis (monotone behind.1) others behind.2 spaced.2)
    · rw [paced_early isDue]
      cases among with
      | cons _ skipped => exact hypothesis ahead others skipped spaced
      | cons_cons _ taken => exact absurd (ahead.trans spaced.1) isDue

end Pacing
