/-
This file is about the SEI unit that carries the telemetry of a video frame: `ca_video_metadata_sei`
writes it byte by byte into a buffer, and gives up when the buffer is full.

Whatever the telemetry text is, what a decoder finds behind the start code is protected against
start codes, and holds the text as it was given.
-/

import CameraGimbal.EmulationPrevention
import CameraGimbal.VideoMetadata

namespace VideoMetadata

open EmulationPrevention List
open SupportVideo

/-! ### The writer -/

/-- The loop that writes the message behind what is written, with the number of zeros written last:
what is in the buffer when it ends, and whether all of the message is. -/
def writeMessage (capacity : Nat) (written : Bytes) (zeros : Nat) :
    Bytes → Bytes × Bool
  | [] => (written, true)
  | byte :: rest =>
    if zeros = 2 ∧ byte ≤ 3 then
      if written.length = capacity then (written, false)
      else if (written ++ [3]).length = capacity then (written ++ [3], false)
      else writeMessage capacity (written ++ [3] ++ [byte]) (after 0 byte) rest
    else if written.length = capacity then (written, false)
    else writeMessage capacity (written ++ [byte]) (after zeros byte) rest

/-- `ca_video_metadata_sei`: what it has written into the buffer, from the start on, and what it
returns. -/
def writeSei (codec : Codec) (json : Bytes) (capacity : Nat) : Bytes × Nat :=
  if json.length = 0 ∨ jsonMax ≤ json.length then ([], 0)
  else if capacity < 6 then ([], 0)
  else
    let message := writeMessage capacity (seiHeader codec) 0 (rbsp json)
    (message.1, if message.2 then message.1.length else 0)

/-- The header of the SEI unit without the start code. -/
def nalHeader (codec : Codec) : Bytes := (seiHeader codec).drop 4

/-- The whole unit, behind its start code. -/
def encoding (codec : Codec) (json : Bytes) : Bytes :=
  [0, 0, 0, 1] ++ prevent 0 (nalHeader codec ++ rbsp json)

/-- A size as bytes of 255, as long as it is at least that, and the rest. -/
def FfCoded (coded : Bytes) (size : Nat) : Prop :=
  ∃ whole last, coded = List.replicate whole 255 ++ [last] ∧ last < 255 ∧
    255 * whole + last.toNat = size

/-! ### What is written -/

theorem ffCoded_payloadSize (size : Nat) : FfCoded (payloadSize size) size := by
  have small : size % 255 < 255 := Nat.mod_lt _ (by decide)
  have rest : (UInt8.ofNat (size % 255)).toNat = size % 255 := by
    rw [UInt8.toNat_ofNat']
    omega
  refine ⟨size / 255, UInt8.ofNat (size % 255), rfl, ?_, ?_⟩
  · rw [UInt8.lt_iff_toNat_lt, rest]
    exact small
  · rw [rest]
    exact Nat.div_add_mod size 255

theorem writeMessage_spec (capacity : Nat) (message : Bytes) {written : Bytes}
    (zeros : Nat) (room : written.length ≤ capacity) :
    (writeMessage capacity written zeros message).1.length ≤ capacity ∧
      if (written ++ prevent zeros message).length ≤ capacity then
        writeMessage capacity written zeros message = (written ++ prevent zeros message, true)
      else (writeMessage capacity written zeros message).2 = false := by
  induction message generalizing written zeros with
  | nil =>
    rw [writeMessage, prevent, append_nil, if_pos room]
    exact ⟨room, rfl⟩
  | cons byte rest hypothesis =>
    rw [writeMessage, prevent]
    by_cases prevented : zeros = 2 ∧ byte ≤ 3
    · rw [if_pos prevented, if_pos prevented]
      split
      · next full =>
        refine ⟨room, ?_⟩
        rw [if_neg (by simp only [length_append, length_cons]; omega)]
      split
      · next full =>
        refine ⟨full.le, ?_⟩
        simp only [length_append, length_singleton] at full
        rw [if_neg (by simp only [length_append, length_cons]; omega)]
      next some more =>
      have grown : (written ++ [3] ++ [byte]).length ≤ capacity := by
        simp only [length_append, length_singleton] at more ⊢
        omega
      have both : written ++ 3 :: byte :: prevent (after 0 byte) rest =
          written ++ [3] ++ [byte] ++ prevent (after 0 byte) rest := by
        rw [append_cons, append_cons]
      rw [both]
      exact hypothesis (after 0 byte) grown
    · rw [if_neg prevented, if_neg prevented]
      split
      · next full =>
        refine ⟨room, ?_⟩
        rw [if_neg (by simp only [length_append, length_cons]; omega)]
      next some =>
      have grown : (written ++ [byte]).length ≤ capacity := by
        rw [length_append, length_singleton]
        omega
      have one : written ++ byte :: prevent (after zeros byte) rest =
          written ++ [byte] ++ prevent (after zeros byte) rest := append_cons _ _ _
      rw [one]
      exact hypothesis (after zeros byte) grown

theorem escape_eq (capacity : Nat) (message written : Bytes) (zeros : Nat) :
    escape capacity written zeros message =
      if (writeMessage capacity written zeros message).2 then
        some (writeMessage capacity written zeros message).1
      else none := by
  induction message generalizing written zeros with
  | nil => rfl
  | cons byte rest hypothesis =>
    rw [escape, writeMessage]
    by_cases prevented : zeros = 2 ∧ byte ≤ 3
    · rw [if_pos prevented, if_pos prevented, if_pos prevented]
      by_cases full : written.length = capacity
      · rw [if_pos (.inl ⟨prevented, full⟩), if_pos full]
        rfl
      by_cases more : (written ++ [3]).length = capacity
      · rw [if_pos (.inr more), if_neg full, if_pos more]
        rfl
      · rw [if_neg (not_or.mpr ⟨fun both => full both.2, more⟩), if_neg full, if_neg more]
        exact hypothesis _ _
    · rw [if_neg prevented, if_neg prevented, if_neg prevented]
      by_cases full : written.length = capacity
      · rw [if_pos (.inr full), if_pos full]
        rfl
      · rw [if_neg (not_or.mpr ⟨fun both => prevented both.1, full⟩), if_neg full]
        exact hypothesis _ _

theorem seiHeader_length_le (codec : Codec) : (seiHeader codec).length ≤ 6 := by
  cases codec <;> decide

theorem encoding_eq (codec : Codec) (json : Bytes) :
    encoding codec json = seiHeader codec ++ prevent 0 (rbsp json) := by
  have header : seiHeader codec = [0, 0, 0, 1] ++ nalHeader codec := by cases codec <;> rfl
  have nonzero : ∀ byte ∈ nalHeader codec, byte ≠ 0 := by
    cases codec <;> simp [nalHeader, seiHeader]
  unfold encoding
  rw [prevent_append _ nonzero, header, append_assoc]

theorem six_le_encoding (codec : Codec) (json : Bytes) : 6 ≤ (encoding codec json).length := by
  have message := length_le_prevent 0 (nalHeader codec ++ rbsp json)
  simp only [encoding, rbsp, length_append, length_cons] at message ⊢
  omega

section

variable (codec : Codec) {json : Bytes} (some : 0 < json.length)
  (short : json.length < jsonMax) (capacity : Nat)

include some short

theorem writeSei_spec :
    (writeSei codec json capacity).1.length ≤ capacity ∧
      if (encoding codec json).length ≤ capacity then
        writeSei codec json capacity = (encoding codec json, (encoding codec json).length)
      else (writeSei codec json capacity).2 = 0 := by
  have long := six_le_encoding codec json
  unfold writeSei
  rw [if_neg (not_or.mpr ⟨some.ne', not_le.mpr short⟩)]
  split
  · next tiny =>
    rw [if_neg (by omega)]
    exact ⟨Nat.zero_le _, rfl⟩
  · next room =>
    obtain ⟨bounded, complete⟩ := writeMessage_spec capacity (rbsp json) 0
      ((seiHeader_length_le codec).trans (not_lt.mp room))
    refine ⟨bounded, ?_⟩
    rw [← encoding_eq] at complete
    dsimp only
    split at complete
    · next fits => rw [if_pos fits, complete]; rfl
    · next full => rw [if_neg full, complete]; rfl

theorem videoMetadataSei_eq :
    videoMetadataSei codec json capacity =
      if (encoding codec json).length ≤ capacity then .some (encoding codec json) else none := by
  have long := six_le_encoding codec json
  unfold videoMetadataSei
  by_cases tiny : capacity < 6
  · rw [if_pos (.inr (.inr tiny)), if_neg (by omega)]
  have called : ¬ (json.length = 0 ∨ jsonMax ≤ json.length ∨ capacity < 6) :=
    not_or.mpr ⟨some.ne', not_or.mpr ⟨not_le.mpr short, tiny⟩⟩
  have complete := (writeMessage_spec capacity (rbsp json) 0
    ((seiHeader_length_le codec).trans (not_lt.mp tiny))).2
  rw [← encoding_eq] at complete
  rw [if_neg called, escape_eq]
  split at complete
  · next fits => rw [if_pos fits, complete]; rfl
  · next full => rw [if_neg full, complete]; rfl

end

/-! ### What a decoder finds -/

/-- What is returned is the length of a unit of which a decoder finds the header, the type of the
payload, its size, the identifier and the text behind the start code; and it is returned whenever
the buffer is large enough. -/
theorem sei_transparent (codec : Codec) {json : Bytes} (some : 0 < json.length)
    (short : json.length < jsonMax) (capacity : Nat) :
    (writeSei codec json capacity).1.length ≤ capacity ∧
      ((writeSei codec json capacity).2 ≠ 0 →
        (writeSei codec json capacity).2 = (writeSei codec json capacity).1.length ∧
        ∃ unit coded, (writeSei codec json capacity).1 = [0, 0, 0, 1] ++ unit ∧
          ¬ [0, 0, 1] <:+: unit ∧ Protected unit ∧ FfCoded coded (16 + json.length) ∧
          remove 0 unit = nalHeader codec ++ 5 :: (coded ++ uuid ++ json ++ [0x80])) ∧
      ((writeSei codec json capacity).2 = 0 ↔ capacity < (encoding codec json).length) := by
  obtain ⟨bounded, complete⟩ := writeSei_spec codec some short capacity
  have nonempty : (encoding codec json).length ≠ 0 := Nat.succ_ne_zero _
  refine ⟨bounded, ?_, ?_⟩
  · intro returned
    split at complete
    · next fits =>
      rw [complete]
      refine ⟨rfl, prevent 0 (nalHeader codec ++ rbsp json), payloadSize (16 + json.length), rfl,
        (protected_prevent _).noStartCode, protected_prevent _, ffCoded_payloadSize _, ?_⟩
      exact remove_prevent _ (Nat.zero_le 2)
    · exact absurd complete returned
  · split at complete
    · next fits =>
      rw [complete]
      exact iff_of_false nonempty (not_lt.mpr fits)
    · next full => exact iff_of_true complete (not_le.mp full)

theorem sei_transparent_braces :
    (writeSei .h264 [0x7b, 0x7d] 64).1.length ≤ 64 ∧
      ((writeSei .h264 [0x7b, 0x7d] 64).2 ≠ 0 →
        (writeSei .h264 [0x7b, 0x7d] 64).2 = (writeSei .h264 [0x7b, 0x7d] 64).1.length ∧
        ∃ unit coded, (writeSei .h264 [0x7b, 0x7d] 64).1 = [0, 0, 0, 1] ++ unit ∧
          ¬ [0, 0, 1] <:+: unit ∧ Protected unit ∧ FfCoded coded 18 ∧
          remove 0 unit = [6, 5] ++ (coded ++ uuid ++ [0x7b, 0x7d] ++ [0x80])) ∧
      ((writeSei .h264 [0x7b, 0x7d] 64).2 = 0 ↔ 64 < (encoding .h264 [0x7b, 0x7d]).length) :=
  sei_transparent .h264 (by decide) (by decide) 64

end VideoMetadata
