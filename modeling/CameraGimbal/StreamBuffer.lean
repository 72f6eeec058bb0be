/-
This file is a library on a stream that arrives in pieces and is written to memory: what a caller
of `recv` is answered, the ways to split a stream into answers, and writes that are refused when
they leave the memory.
-/

import Mathlib.Data.List.Basic

namespace StreamBuffer

open List

variable {Byte : Type}

/-! ### Memory -/

/-- A write to memory, which has to stay inside. -/
def store (memory : List Byte) (offset : Nat) (content : List Byte) : Option (List Byte) :=
  if offset + content.length ≤ memory.length then
    some (memory.take offset ++ (content ++ memory.drop (offset + content.length)))
  else none

section

variable {memory content : List Byte} {offset : Nat}
  (fits : offset + content.length ≤ memory.length)

include fits

theorem store_of_le :
    store memory offset content =
      some (memory.take offset ++ (content ++ memory.drop (offset + content.length))) :=
  if_pos fits

/-- A write inside the memory changes the bytes it is for, and none before them. -/
theorem exists_store :
    ∃ stored, store memory offset content = some stored ∧ stored.length = memory.length ∧
      stored.take (offset + content.length) = memory.take offset ++ content := by
  have start : (memory.take offset).length = offset := length_take_of_le (by omega)
  refine ⟨_, store_of_le fits, ?_, ?_⟩
  · rw [length_append, length_append, length_drop, start]
    omega
  · rw [← append_assoc]
    exact take_left' (by rw [length_append, start])

end

/-- A write behind some bytes that are followed by what the memory was filled with. -/
theorem store_image {written content : List Byte} {filler : Byte} {size : Nat}
    (fits : written.length + content.length ≤ size) :
    store (written ++ replicate (size - written.length) filler) written.length content =
      some (written ++ content ++ replicate (size - (written ++ content).length) filler) := by
  have inside : written.length + content.length ≤
      (written ++ replicate (size - written.length) filler).length := by
    rw [length_append, length_replicate]
    omega
  rw [store_of_le inside, take_left, append_assoc, drop_length_add_append,
    drop_replicate, length_append, Nat.sub_add_eq]

/-! ### Answers -/

/-- What a call of `recv` gives: it is interrupted, it fails, or there are bytes. No bytes at all
are the end of the stream. -/
inductive Answer (Byte : Type) where
  | interrupted
  | failed
  | received (chunk : List Byte)

/-- The answers bring these bytes, split in some way. -/
inductive Brings : List Byte → List (Answer Byte) → Prop where
  | nil : Brings [] []
  | interrupted {stream : List Byte} {answers : List (Answer Byte)} :
      Brings stream answers → Brings stream (.interrupted :: answers)
  | received {chunk stream : List Byte} {answers : List (Answer Byte)} :
      chunk ≠ [] → Brings stream answers → Brings (chunk ++ stream) (.received chunk :: answers)

/-- What comes next, when a call took no more than so many bytes. -/
def leftover (room : Nat) (chunk : List Byte) (answers : List (Answer Byte)) :
    List (Answer Byte) :=
  if chunk.length ≤ room then answers else .received (chunk.drop room) :: answers

theorem Brings.leftover {stream : List Byte} {answers : List (Answer Byte)}
    (brings : Brings stream answers) (room : Nat) (chunk : List Byte) :
    Brings (chunk.drop room ++ stream) (leftover room chunk answers) := by
  unfold StreamBuffer.leftover
  split
  · next all =>
    rw [drop_eq_nil_of_le all]
    exact brings
  · next more => exact .received (fun none => more (drop_eq_nil_iff.mp none)) brings

theorem leftover_append (room : Nat) (chunk : List Byte) (answers later : List (Answer Byte)) :
    leftover room chunk (answers ++ later) = leftover room chunk answers ++ later := by
  unfold leftover
  split
  · rfl
  · rfl

/-- A call that is not interrupted. -/
def Answer.isResponse : Answer Byte → Bool
  | .interrupted => false
  | _ => true

/-- The calls that are not interrupted. -/
def responses (answers : List (Answer Byte)) : Nat := answers.countP Answer.isResponse

theorem responses_leftover (room : Nat) (chunk : List Byte) (answers : List (Answer Byte)) :
    responses answers ≤ responses (leftover room chunk answers) := by
  unfold leftover
  split
  · exact Nat.le_refl _
  · exact (sublist_cons_self _ answers).countP_le

end StreamBuffer
