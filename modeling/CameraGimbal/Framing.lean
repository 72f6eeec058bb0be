/-
This file is a library on framing a byte stream.

A receiver keeps the bytes it has not consumed yet. At the head of them it
either waits for more, drops one byte, or takes a whole frame. A format is such
a verdict that looks no further than it must: once it stops waiting, more bytes
do not change it. The greedy scan of a stream then does not depend on how the
stream was cut into reads, and a receiver that interleaves reading with
consuming stays in step with the scan of everything it has received.
-/

import Mathlib.Data.List.Infix

namespace Framing

open List

/-- What a receiver does with the bytes at the head of its buffer: wait for more of them,
drop the first one, or take the first `total` of them as a frame. -/
inductive Verdict where
  | wait
  | skip
  | frame (total : Nat)
  deriving DecidableEq, Repr

/-- A frame format: a verdict on the buffered bytes that consumes something unless it waits,
and that more bytes do not revise. -/
structure Format (Symbol : Type) where
  verdict : List Symbol → Verdict
  skip_nonempty : ∀ {buffered}, verdict buffered = .skip → buffered ≠ []
  frame_pos : ∀ {buffered total}, verdict buffered = .frame total → 0 < total
  frame_le : ∀ {buffered total}, verdict buffered = .frame total → total ≤ buffered.length
  stable : ∀ {buffered} (later), verdict buffered ≠ .wait →
    verdict (buffered ++ later) = verdict buffered

variable {Symbol : Type} (format : Format Symbol)

/-- The greedy scan from left to right: the frames taken, and the bytes left waiting. -/
def scan (bytes : List Symbol) : List (List Symbol) × List Symbol :=
  match _verdict : format.verdict bytes with
  | .wait => ([], bytes)
  | .skip => scan bytes.tail
  | .frame total =>
    let later := scan (bytes.drop total)
    (bytes.take total :: later.1, later.2)
termination_by bytes.length
decreasing_by
  · have := List.length_pos_iff.mpr (format.skip_nonempty _verdict)
    simp only [List.length_tail]
    omega
  · have := format.frame_pos _verdict
    have := format.frame_le _verdict
    simp only [List.length_drop]
    omega

/-! ### The scan follows the verdict -/

variable {format} {bytes : List Symbol}

theorem scan_of_wait (verdict : format.verdict bytes = .wait) :
    scan format bytes = ([], bytes) := by
  rw [scan]
  split <;> simp_all

theorem scan_of_skip (verdict : format.verdict bytes = .skip) :
    scan format bytes = scan format bytes.tail := by
  rw [scan]
  split <;> simp_all

theorem scan_of_frame {total : Nat} (verdict : format.verdict bytes = .frame total) :
    scan format bytes =
      (bytes.take total :: (scan format (bytes.drop total)).1,
        (scan format (bytes.drop total)).2) := by
  rw [scan]
  split <;> simp_all

/-- Where no frame starts at the first byte, the scan stops or goes on with the second one. -/
theorem scan_of_not_frame (none : ∀ total, format.verdict bytes ≠ .frame total) :
    (scan format bytes).1 = [] ∨ (scan format bytes).1 = (scan format bytes.tail).1 := by
  cases verdict : format.verdict bytes with
  | wait =>
    left
    rw [scan_of_wait verdict]
  | skip =>
    right
    rw [scan_of_skip verdict]
  | frame total => exact absurd verdict (none total)

/-- The bytes the scan leaves are a suffix of the stream. -/
theorem scan_suffix (bytes : List Symbol) : (scan format bytes).2 <:+ bytes := by
  induction bytes using scan.induct format with
  | case1 bytes verdict =>
    rw [scan_of_wait verdict]
  | case2 bytes verdict hypothesis =>
    rw [scan_of_skip verdict]
    exact hypothesis.trans (tail_suffix bytes)
  | case3 bytes total verdict hypothesis =>
    rw [scan_of_frame verdict]
    exact hypothesis.trans (drop_suffix total bytes)

/-- The scan stops at bytes that wait for more. -/
theorem scan_waits (bytes : List Symbol) : format.verdict (scan format bytes).2 = .wait := by
  induction bytes using scan.induct format with
  | case1 bytes verdict =>
    rw [scan_of_wait verdict]
    exact verdict
  | case2 bytes verdict hypothesis =>
    rw [scan_of_skip verdict]
    exact hypothesis
  | case3 bytes total verdict hypothesis =>
    rw [scan_of_frame verdict]
    exact hypothesis

/-- Scanning a stream in two reads: what the first read leaves is scanned again, in front of
the second. -/
theorem scan_append (bytes later : List Symbol) :
    scan format (bytes ++ later) =
      ((scan format bytes).1 ++ (scan format ((scan format bytes).2 ++ later)).1,
        (scan format ((scan format bytes).2 ++ later)).2) := by
  induction bytes using scan.induct format with
  | case1 bytes verdict =>
    rw [scan_of_wait verdict, nil_append]
  | case2 bytes verdict hypothesis =>
    have grown : format.verdict (bytes ++ later) = .skip := by
      rw [format.stable later (by simp [verdict]), verdict]
    rw [scan_of_skip grown, scan_of_skip verdict, ← hypothesis,
      tail_append_of_ne_nil (format.skip_nonempty verdict)]
  | case3 bytes total verdict hypothesis =>
    have grown : format.verdict (bytes ++ later) = .frame total := by
      rw [format.stable later (by simp [verdict]), verdict]
    have enough := format.frame_le verdict
    rw [scan_of_frame grown, scan_of_frame verdict, take_append_of_le_length enough,
      drop_append_of_le_length enough, hypothesis, cons_append]

/-! ### A receiver in step with the scan -/

variable (format) in
/-- A receiver that has received `received`, has taken `frames` and still holds `buffered` is
in step: consuming what it holds completes the scan of everything received. -/
def InStep (received : List Symbol) (frames : List (List Symbol)) (buffered : List Symbol) :
    Prop :=
  scan format received =
    (frames ++ (scan format buffered).1, (scan format buffered).2)

variable {received buffered : List Symbol} {frames : List (List Symbol)}

theorem InStep.start : InStep format [] [] [] := rfl

/-- Reading more bytes keeps a receiver in step. -/
theorem InStep.receive (step : InStep format received frames buffered) (later : List Symbol) :
    InStep format (received ++ later) frames (buffered ++ later) := by
  unfold InStep at step ⊢
  rw [scan_append received, step, scan_append buffered, append_assoc]

/-- Dropping a byte the verdict drops keeps a receiver in step. -/
theorem InStep.skip (step : InStep format received frames buffered)
    (verdict : format.verdict buffered = .skip) : InStep format received frames buffered.tail := by
  unfold InStep at step ⊢
  rw [step, scan_of_skip verdict]

/-- Taking the frame the verdict finds keeps a receiver in step. -/
theorem InStep.take {total : Nat} (step : InStep format received frames buffered)
    (verdict : format.verdict buffered = .frame total) :
    InStep format received (frames ++ [buffered.take total]) (buffered.drop total) := by
  unfold InStep at step ⊢
  rw [step, scan_of_frame verdict, append_assoc, singleton_append]

/-- A receiver in step that waits has taken the frames of everything received. -/
theorem InStep.done (step : InStep format received frames buffered)
    (verdict : format.verdict buffered = .wait) : scan format received = (frames, buffered) := by
  unfold InStep at step
  rw [step, scan_of_wait verdict, append_nil]

end Framing
