/-
This file is a library on emulation prevention in the byte streams of video codecs: a byte 3 is put
in wherever two zeros are followed by a byte that is not larger, so that neither a start code nor
anything that could be taken for an inserted byte is left, and a reader takes the inserted bytes out
again. Both sides count the zeros that stand directly in front of the next byte.
-/

import CameraGimbal.Bytes
import Mathlib.Data.List.Infix

namespace EmulationPrevention

open List

/-- The zeros in front of the next byte, behind one more byte. -/
def after (zeros : Nat) (byte : UInt8) : Nat := if byte = 0 then zeros + 1 else 0

/-- The bytes with those put in that prevent an emulation. -/
def prevent : Nat → Bytes → Bytes
  | _, [] => []
  | zeros, byte :: rest =>
    if zeros = 2 ∧ byte ≤ 3 then 3 :: byte :: prevent (after 0 byte) rest
    else byte :: prevent (after zeros byte) rest

/-- The bytes without those that were put in. -/
def remove : Nat → Bytes → Bytes
  | _, [] => []
  | zeros, byte :: rest =>
    if 2 ≤ zeros ∧ byte = 3 then remove 0 rest else byte :: remove (after zeros byte) rest

/-- Of the bytes that two zeros stand in front of, none is smaller than 3, and a 3 is one that was
put in: a byte of at most 3 follows it. -/
def Protected (bytes : Bytes) : Prop :=
  ∀ before byte later, bytes = before ++ 0 :: 0 :: byte :: later → byte ≤ 3 →
    byte = 3 ∧ ∃ next ∈ later.head?, next ≤ 3

variable {zeros : Nat}

theorem after_le {byte : UInt8} (few : zeros ≤ 2)
    (free : ¬ (zeros = 2 ∧ byte ≤ 3)) : after zeros byte ≤ 2 := by
  unfold after
  split
  · next zero =>
    have notTwo : zeros ≠ 2 := fun two => free ⟨two, by rw [zero]; decide⟩
    omega
  · exact Nat.zero_le _

theorem after_zero_le (byte : UInt8) : after 0 byte ≤ 2 := by
  unfold after
  split <;> omega

/-- A reader gets back what was written. -/
theorem remove_prevent (bytes : Bytes) (few : zeros ≤ 2) :
    remove zeros (prevent zeros bytes) = bytes := by
  induction bytes generalizing zeros with
  | nil => rfl
  | cons byte rest hypothesis =>
    rw [prevent]
    split
    · next prevented =>
      rw [remove, if_pos ⟨prevented.1.ge, rfl⟩, remove,
        if_neg fun both => absurd both.1 (by decide), hypothesis (after_zero_le byte)]
    · next free =>
      have kept : ¬ (2 ≤ zeros ∧ byte = 3) := fun ⟨two, three⟩ =>
        free ⟨le_antisymm few two, by rw [three]; decide⟩
      rw [remove, if_neg kept, hypothesis (after_le few free)]

section

variable (zeros : Nat) (bytes : Bytes)

/-- Nothing is left out. -/
theorem length_le_prevent :
    bytes.length ≤ (prevent zeros bytes).length := by
  induction bytes generalizing zeros with
  | nil => exact Nat.zero_le _
  | cons byte rest hypothesis =>
    rw [prevent]
    split
    · have kept := hypothesis (after 0 byte)
      simp only [length_cons]
      omega
    · exact Nat.succ_le_succ (hypothesis (after zeros byte))

/-- A byte is put in behind every two zeros at most. -/
theorem length_prevent_le :
    2 * (prevent zeros bytes).length ≤ 3 * bytes.length + zeros := by
  induction bytes generalizing zeros with
  | nil => exact Nat.zero_le _
  | cons byte rest hypothesis =>
    have next (zeros : Nat) : after zeros byte ≤ zeros + 1 := by
      unfold after
      split <;> omega
    rw [prevent]
    split
    · next prevented =>
      have grown := hypothesis (after 0 byte)
      have few := next 0
      simp only [length_cons]
      omega
    · have grown := hypothesis (after zeros byte)
      have few := next zeros
      simp only [length_cons]
      omega

/-- Bytes that are not zero go in front as they are. -/
theorem prevent_append {first : Bytes} (rest : Bytes)
    (nonzero : ∀ byte ∈ first, byte ≠ 0) : prevent 0 (first ++ rest) = first ++ prevent 0 rest := by
  induction first with
  | nil => rfl
  | cons byte others hypothesis =>
    obtain ⟨own, later⟩ := forall_mem_cons.mp nonzero
    rw [cons_append, prevent, if_neg fun both => absurd both.1 (by decide), after, if_neg own,
      hypothesis later, cons_append]

/-- The last byte stays the last. -/
theorem getLast?_prevent :
    (prevent zeros bytes).getLast? = bytes.getLast? := by
  induction bytes generalizing zeros with
  | nil => rfl
  | cons byte rest hypothesis =>
    have behind (zeros : Nat) :
        (byte :: prevent zeros rest).getLast? = (byte :: rest).getLast? := by
      rw [getLast?_cons, getLast?_cons, hypothesis]
    rw [prevent]
    split
    · rw [getLast?_cons_cons, behind]
    · exact behind _

end

/-- The rule of `Protected` at every byte, behind so many zeros. -/
def Guarded : Nat → Bytes → Prop
  | _, [] => True
  | zeros, byte :: rest =>
    (2 ≤ zeros → byte ≤ 3 → byte = 3 ∧ ∃ next ∈ rest.head?, next ≤ 3) ∧
      Guarded (after zeros byte) rest

theorem guarded_prevent (bytes : Bytes) (few : zeros ≤ 2) :
    Guarded zeros (prevent zeros bytes) := by
  induction bytes generalizing zeros with
  | nil => trivial
  | cons byte rest hypothesis =>
    rw [prevent]
    split
    · next prevented =>
      exact ⟨fun _ _ => ⟨rfl, byte, rfl, prevented.2⟩,
        fun two => absurd (show 2 ≤ 0 from two) (by decide),
        hypothesis (after_zero_le byte)⟩
    · next free =>
      exact ⟨fun two small => absurd ⟨le_antisymm few two, small⟩ free,
        hypothesis (after_le few free)⟩

theorem Guarded.protected {bytes : Bytes} (guarded : Guarded zeros bytes) :
    Protected bytes := by
  intro before byte later split small
  induction before generalizing zeros bytes with
  | nil =>
    subst split
    exact guarded.2.2.1 (Nat.le_add_left 2 zeros) small
  | cons first rest hypothesis =>
    subst split
    exact hypothesis guarded.2 rfl

/-- What is written is protected. -/
theorem protected_prevent (bytes : Bytes) : Protected (prevent 0 bytes) :=
  (guarded_prevent bytes (Nat.zero_le 2)).protected

/-- There is no start code in protected bytes. -/
theorem Protected.noStartCode {bytes : Bytes} (isProtected : Protected bytes) :
    ¬ [0, 0, 1] <:+: bytes := by
  rintro ⟨before, later, rfl⟩
  have three := (isProtected before 1 later (by simp) (by decide)).1
  exact absurd three (by decide)

end EmulationPrevention
