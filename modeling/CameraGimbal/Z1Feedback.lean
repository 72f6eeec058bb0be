/-
This file is about the scanner of the Z1-Mini, which finds the feedback frames of the motor
controller in what is read from the UART. A byte is put behind the window, and the window is shifted
for as long as it cannot become a frame.

However the stream is cut into reads, the frames found are those of a greedy scan that tests windows
of 26 bytes, and the window never grows beyond its array.
-/

import CameraGimbal.Siyi

namespace Z1Control

open Framing List Bool
open Siyi (byteAt crc16)

/-! ### The scanner -/

/-- The size of `rx`. -/
def frameSize : Nat := 26

/-- The condition of the inner loop of `ca_backend_handle_fd`, on a window that is not empty. -/
def misplaced (rx : Bytes) : Bool :=
  byteAt rx 0 != 0xb5 || (decide (1 < rx.length) && byteAt rx 1 != 0x9a) ||
    (rx.length == frameSize && crc16 rx != 0)

/-- The inner loop: `memmove` by one byte, again and again. -/
def shiftOut : Bytes → Bytes
  | [] => []
  | first :: rest => if misplaced (first :: rest) then shiftOut rest else first :: rest

/-- One byte of a read: the window, and the frame when it is one; none when the byte would be stored
behind the end of `rx`. -/
def receive (rx : Bytes) (byte : UInt8) : Option (Bytes × Option Bytes) :=
  if rx.length < frameSize then
    let shifted := shiftOut (rx ++ [byte])
    if shifted.length = frameSize then some ([], some shifted) else some (shifted, none)
  else none

/-! ### The greedy scan -/

/-- What is done with the bytes from a position on: wait for a whole window, take one that starts
with the sync bytes and has a CRC of zero, and go on one byte further behind any other. -/
def windowVerdict (data : Bytes) : Verdict :=
  if data.length < frameSize then .wait
  else if byteAt data 0 = 0xb5 ∧ byteAt data 1 = 0x9a ∧ crc16 (data.take frameSize) = 0 then
    .frame frameSize
  else .skip

/-- The same, but a byte that no frame starts with is skipped before the window is whole. -/
def eagerVerdict (data : Bytes) : Verdict :=
  if data = [] then .wait
  else if byteAt data 0 ≠ 0xb5 ∨ 1 < data.length ∧ byteAt data 1 ≠ 0x9a then .skip
  else if data.length < frameSize then .wait
  else if crc16 (data.take frameSize) = 0 then .frame frameSize
  else .skip

variable {data : Bytes}

theorem windowVerdict_frame {total : Nat} (found : windowVerdict data = .frame total) :
    total = frameSize ∧ total ≤ data.length := by
  unfold windowVerdict at found
  split at found
  · cases found
  next whole =>
  split at found
  · cases found
    exact ⟨rfl, Nat.le_of_not_lt whole⟩
  · cases found

theorem eagerVerdict_frame {total : Nat} (found : eagerVerdict data = .frame total) :
    total = frameSize ∧ total ≤ data.length := by
  unfold eagerVerdict at found
  split at found
  · cases found
  split at found
  · cases found
  split at found
  · cases found
  next whole =>
  split at found
  · cases found
    exact ⟨rfl, Nat.le_of_not_lt whole⟩
  · cases found

theorem length_lt_of_wait (waits : eagerVerdict data = .wait) : data.length < frameSize := by
  unfold eagerVerdict at waits
  split at waits
  · next empty =>
    rw [empty]
    decide
  split at waits
  · cases waits
  split at waits
  · assumption
  split at waits <;> cases waits

def windowFormat : Format UInt8 where
  verdict := windowVerdict
  skip_nonempty := by
    rintro data skips rfl
    cases skips
  frame_pos := by
    intro data total found
    rw [(windowVerdict_frame found).1]
    decide
  frame_le := fun found => (windowVerdict_frame found).2
  stable := by
    intro data later decided
    have size : frameSize = 26 := rfl
    unfold windowVerdict at decided ⊢
    by_cases short : data.length < frameSize
    · exact absurd (if_pos short) decided
    rw [if_neg short, if_neg (by rw [List.length_append]; omega),
      Siyi.byteAt_append later (by omega), Siyi.byteAt_append later (by omega),
      List.take_append_of_le_length (by omega)]

/-- The scanner as a frame format. -/
def eagerFormat : Format UInt8 where
  verdict := eagerVerdict
  skip_nonempty := by
    rintro data skips rfl
    cases skips
  frame_pos := by
    intro data total found
    rw [(eagerVerdict_frame found).1]
    decide
  frame_le := fun found => (eagerVerdict_frame found).2
  stable := by
    intro data later decided
    have length : (data ++ later).length = data.length + later.length := List.length_append
    unfold eagerVerdict at decided ⊢
    by_cases empty : data = []
    · exact absurd (if_pos empty) decided
    have positive := List.length_pos_iff.mpr empty
    have grown : data ++ later ≠ [] := fun nothing => empty (List.append_eq_nil_iff.mp nothing).1
    rw [if_neg empty] at decided ⊢
    rw [if_neg grown, Siyi.byteAt_append later positive]
    by_cases first : byteAt data 0 = 0xb5
    · by_cases single : data.length = 1
      · have long : frameSize = 26 := rfl
        rw [if_neg fun bad => bad.elim (fun other => other first) fun both => by omega,
          if_pos (by omega)] at decided
        exact absurd rfl decided
      rw [Siyi.byteAt_append later (by omega)]
      by_cases second : byteAt data 1 = 0x9a
      · have header (count : Nat) : ¬ (byteAt data 0 ≠ 0xb5 ∨ 1 < count ∧ byteAt data 1 ≠ 0x9a) :=
          fun bad => bad.elim (fun other => other first) fun both => both.2 second
        rw [if_neg (header _)] at decided
        rw [if_neg (header _), if_neg (header _)]
        by_cases short : data.length < frameSize
        · exact absurd (if_pos short) decided
        rw [if_neg short, if_neg (by omega), List.take_append_of_le_length (by omega)]
      · rw [if_pos (.inr ⟨by omega, second⟩), if_pos (.inr ⟨by omega, second⟩)]
    · rw [if_pos (.inl first), if_pos (.inl first)]

theorem eagerVerdict_eq (whole : ¬ data.length < frameSize) :
    eagerVerdict data = windowVerdict data := by
  have size : frameSize = 26 := rfl
  have nonempty : data ≠ [] := fun empty => by
    rw [empty] at whole
    exact whole (by decide)
  unfold eagerVerdict windowVerdict
  rw [if_neg nonempty, if_neg whole, if_neg whole]
  by_cases first : byteAt data 0 = 0xb5
  · by_cases second : byteAt data 1 = 0x9a
    · rw [if_neg fun bad => bad.elim (fun other => other first) fun both => both.2 second]
      by_cases checked : crc16 (data.take frameSize) = 0
      · rw [if_pos checked, if_pos ⟨first, second, checked⟩]
      · rw [if_neg checked, if_neg fun all => checked all.2.2]
    · rw [if_pos (.inr ⟨by omega, second⟩), if_neg fun all => second all.2.1]
  · rw [if_pos (.inl first), if_neg fun all => first all.1]

theorem scan_of_short (short : data.length < frameSize) : (scan eagerFormat data).1 = [] := by
  induction data using scan.induct eagerFormat with
  | case1 data waits => rw [scan_of_wait waits]
  | case2 data skips hypothesis =>
    rw [scan_of_skip skips]
    refine hypothesis (lt_of_le_of_lt ?_ short)
    rw [length_tail]
    exact Nat.sub_le _ _
  | case3 data total found =>
    obtain ⟨whole, enough⟩ := eagerVerdict_frame found
    omega

theorem scan_eager (data : Bytes) :
    (scan eagerFormat data).1 = (scan windowFormat data).1 := by
  induction data using scan.induct windowFormat with
  | case1 data waits =>
    have short : data.length < frameSize := by
      by_contra whole
      have decided : windowVerdict data = .wait := waits
      unfold windowVerdict at decided
      rw [if_neg whole] at decided
      split at decided <;> cases decided
    rw [scan_of_wait waits, scan_of_short short]
  | case2 data skips hypothesis =>
    have whole : ¬ data.length < frameSize := fun short => by
      have decided : windowVerdict data = .skip := skips
      rw [windowVerdict, if_pos short] at decided
      cases decided
    rw [scan_of_skip skips, scan_of_skip ((eagerVerdict_eq whole).trans skips)]
    exact hypothesis
  | case3 data total found hypothesis =>
    obtain ⟨size, enough⟩ := windowVerdict_frame found
    have whole : ¬ data.length < frameSize := by omega
    rw [scan_of_frame found, scan_of_frame ((eagerVerdict_eq whole).trans found), hypothesis]

/-! ### The scanner follows the scan -/

variable {rx : Bytes}

theorem misplaced_iff (nonempty : rx ≠ []) (fits : rx.length ≤ frameSize) :
    misplaced rx = true ↔ eagerVerdict rx = .skip := by
  unfold misplaced eagerVerdict
  rw [if_neg nonempty, or_eq_true, or_eq_true, and_eq_true, and_eq_true,
    bne_iff_ne, bne_iff_ne, bne_iff_ne, decide_eq_true_eq, beq_iff_eq]
  by_cases header : byteAt rx 0 ≠ 0xb5 ∨ 1 < rx.length ∧ byteAt rx 1 ≠ 0x9a
  · rw [if_pos header]
    exact iff_of_true (.inl header) rfl
  rw [if_neg header]
  by_cases short : rx.length < frameSize
  · rw [if_pos short]
    refine iff_of_false (fun any => any.elim header fun whole => ?_) nofun
    exact absurd whole.1 short.ne
  have size : rx.length = frameSize := Nat.le_antisymm fits (Nat.le_of_not_lt short)
  have all : rx.take frameSize = rx := take_of_length_le fits
  rw [if_neg short, all]
  by_cases checked : crc16 rx = 0
  · rw [if_pos checked]
    exact iff_of_false (fun any => any.elim header fun bad => bad.2 checked) nofun
  · rw [if_neg checked]
    exact iff_of_true (.inr ⟨size, checked⟩) rfl

theorem shiftOut_ends (rx : Bytes) :
    shiftOut rx <:+ rx ∧ (shiftOut rx = [] ∨ misplaced (shiftOut rx) = false) := by
  induction rx with
  | nil => exact ⟨suffix_rfl, .inl rfl⟩
  | cons first rest hypothesis =>
    rw [shiftOut]
    split
    · exact ⟨hypothesis.1.trans (suffix_cons first rest), hypothesis.2⟩
    · next placed => exact ⟨suffix_rfl, .inr (eq_false_iff.mpr placed)⟩

theorem windowVerdict_shiftOut (whole : (shiftOut rx).length = frameSize) :
    windowVerdict (shiftOut rx) = .frame frameSize := by
  have nonempty : shiftOut rx ≠ [] := fun empty => by
    rw [empty] at whole
    cases whole
  have placed : ¬ misplaced (shiftOut rx) = true :=
    eq_false_iff.mp ((shiftOut_ends rx).2.resolve_left nonempty)
  have kept := mt (misplaced_iff nonempty whole.le).mpr placed
  rw [eagerVerdict_eq whole.not_lt] at kept
  unfold windowVerdict at kept ⊢
  rw [if_neg whole.not_lt] at kept ⊢
  split
  · rfl
  · next none => exact absurd (if_neg none) kept

theorem receive_found {next frame : Bytes} {byte : UInt8}
    (taken : receive rx byte = some (next, some frame)) :
    windowVerdict frame = .frame frameSize := by
  unfold receive at taken
  dsimp only at taken
  split at taken
  · split at taken
    · next whole =>
      obtain ⟨-, rfl⟩ := Prod.mk.inj (Option.some.inj taken) |>.imp_right Option.some.inj
      exact windowVerdict_shiftOut whole
    · cases taken
  · cases taken

variable {received : Bytes} {frames : List (Bytes)}

theorem shiftOut_inStep (step : InStep eagerFormat received frames rx)
    (fits : rx.length ≤ frameSize) : InStep eagerFormat received frames (shiftOut rx) := by
  induction rx with
  | nil => exact step
  | cons first rest hypothesis =>
    rw [shiftOut]
    split
    · next bad =>
      have skips := (misplaced_iff (cons_ne_nil first rest) fits).mp bad
      exact hypothesis (step.skip skips) ((Nat.le_succ _).trans fits)
    · exact step

/-- The scanner has found the frames of the scan of what it received, and holds what the scan
left. -/
def Follows (rx : Bytes) (frames : List Bytes) (received : Bytes) : Prop :=
  scan eagerFormat received = (frames, rx)

theorem Follows.length_lt (follows : Follows rx frames received) : rx.length < frameSize := by
  have waits : eagerVerdict (scan eagerFormat received).2 = .wait :=
    @scan_waits _ eagerFormat received
  rw [follows] at waits
  exact length_lt_of_wait waits

theorem receive_follows (follows : Follows rx frames received) (byte : UInt8) :
    ∃ next frame, receive rx byte = some (next, frame) ∧
      Follows next (frames ++ frame.toList) (received ++ [byte]) := by
  have room := follows.length_lt
  have fits : (rx ++ [byte]).length ≤ frameSize := by
    rw [length_append, length_singleton]
    exact room
  have waits : eagerVerdict rx = .wait := by
    have ends : eagerVerdict (scan eagerFormat received).2 = .wait :=
      @scan_waits _ eagerFormat received
    rwa [follows] at ends
  have start : InStep eagerFormat received frames rx := by
    unfold InStep
    rw [follows, scan_of_wait waits, append_nil]
  have shifted := shiftOut_inStep (start.receive [byte]) fits
  obtain ⟨suffix, ends⟩ := shiftOut_ends (rx ++ [byte])
  have within := suffix.length_le.trans fits
  unfold receive
  rw [if_pos room]
  by_cases whole : (shiftOut (rx ++ [byte])).length = frameSize
  · have found : eagerVerdict (shiftOut (rx ++ [byte])) = .frame frameSize :=
      (eagerVerdict_eq whole.not_lt).trans (windowVerdict_shiftOut whole)
    refine ⟨[], some (shiftOut (rx ++ [byte])), if_pos whole, ?_⟩
    have taken := shifted.take found
    rw [take_of_length_le within, drop_of_length_le within] at taken
    exact taken.done rfl
  · refine ⟨shiftOut (rx ++ [byte]), none, if_neg whole, ?_⟩
    rw [Option.toList_none, append_nil]
    refine shifted.done ?_
    show eagerVerdict (shiftOut (rx ++ [byte])) = .wait
    rcases ends with empty | placed
    · rw [empty]
      rfl
    · by_cases empty : shiftOut (rx ++ [byte]) = []
      · rw [empty]
        rfl
      have kept := mt (misplaced_iff empty within).mpr (eq_false_iff.mp placed)
      have short : (shiftOut (rx ++ [byte])).length < frameSize := by omega
      unfold eagerVerdict at kept ⊢
      rw [if_neg empty] at kept ⊢
      split at kept
      · exact absurd rfl kept
      · next header => rw [if_neg header, if_pos short]

theorem Follows.start : Follows [] [] [] := scan_of_wait rfl

end Z1Control
