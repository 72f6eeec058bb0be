/-
This file is a library on UTF-8: the bytes of a text of characters, where its characters begin, and
where a cut through it falls. The first byte of a character says how many bytes the character has,
so the first bytes of a valid text say its length. That is why a text that is cut inside a character
is not valid.
-/

import CameraGimbal.Bytes
import Mathlib.Algebra.BigOperators.Group.List.Basic
import Mathlib.Algebra.GroupWithZero.Nat

namespace Utf8

open List

def encode (chars : List Char) : Bytes := chars.flatMap String.utf8EncodeChar

/-- The bytes of some characters. -/
def Valid (bytes : Bytes) : Prop := ∃ chars, encode chars = bytes

/-- A byte that is not the first one of a character. -/
def isTail (byte : UInt8) : Bool := byte &&& 0xc0 == 0x80

/-- The bytes of a character with this first byte. -/
def span (lead : UInt8) : Nat :=
  if 0xf0 ≤ lead then 4 else if 0xe0 ≤ lead then 3 else if 0xc0 ≤ lead then 2 else 1

theorem valid_nil : Valid [] := ⟨[], rfl⟩

theorem encode_cons (char : Char) (chars : List Char) :
    encode (char :: chars) = String.utf8EncodeChar char ++ encode chars :=
  flatMap_cons

theorem encode_concat (chars : List Char) (char : Char) :
    encode (chars ++ [char]) = encode chars ++ String.utf8EncodeChar char := by
  rw [encode, flatMap_append, flatMap_singleton]
  rfl

/-! ### One character -/

/-- The bytes of one character: a first byte that gives their number, and further bytes. -/
structure Spelled (lead : UInt8) (tail : Bytes) : Prop where
  first : isTail lead = false
  further : ∀ byte ∈ tail, isTail byte = true
  span : span lead = tail.length + 1

variable {value : Nat}

theorem isTail_ofNat (small : value < 64) : isTail (UInt8.ofNat (value + 0x80)) = true := by
  revert value
  decide

theorem lead_one (small : value < 128) :
    isTail (UInt8.ofNat value) = false ∧ span (UInt8.ofNat value) = 1 := by
  revert value
  decide +kernel

theorem lead_two (small : value < 32) :
    isTail (UInt8.ofNat (value + 0xc0)) = false ∧ span (UInt8.ofNat (value + 0xc0)) = 2 := by
  revert value
  decide

theorem lead_three (small : value < 16) :
    isTail (UInt8.ofNat (value + 0xe0)) = false ∧ span (UInt8.ofNat (value + 0xe0)) = 3 := by
  revert value
  decide

theorem lead_four (small : value < 8) :
    isTail (UInt8.ofNat (value + 0xf0)) = false ∧ span (UInt8.ofNat (value + 0xf0)) = 4 := by
  revert value
  decide

theorem encodeChar_spelled (char : Char) :
    ∃ lead tail, String.utf8EncodeChar char = lead :: tail ∧ Spelled lead tail := by
  have tails : ∀ value : Nat, isTail (UInt8.ofNat (value % 64 + 0x80)) = true :=
    fun value => isTail_ofNat (Nat.mod_lt _ (by decide))
  unfold String.utf8EncodeChar
  dsimp only
  split
  · next one =>
    obtain ⟨first, isSpan⟩ := lead_one (Nat.lt_succ_of_le one)
    exact ⟨_, _, rfl, first, nofun, isSpan⟩
  split
  · obtain ⟨first, isSpan⟩ := lead_two (Nat.mod_lt (char.val.toNat / 64) (by decide))
    refine ⟨_, _, rfl, first, fun byte isByte => ?_, isSpan⟩
    obtain rfl := mem_singleton.mp isByte
    exact tails _
  split
  · obtain ⟨first, isSpan⟩ := lead_three (Nat.mod_lt (char.val.toNat / 4096) (by decide))
    refine ⟨_, _, rfl, first, ?_, isSpan⟩
    simp only [forall_mem_cons]
    exact ⟨tails _, tails _, nofun⟩
  · obtain ⟨first, isSpan⟩ := lead_four (Nat.mod_lt (char.val.toNat / 262144) (by decide))
    refine ⟨_, _, rfl, first, ?_, isSpan⟩
    simp only [forall_mem_cons]
    exact ⟨tails _, tails _, tails _, nofun⟩

theorem span_le (lead : UInt8) : span lead ≤ 4 := by
  unfold span
  split
  · exact Nat.le_refl 4
  split
  · decide
  split
  · decide
  · decide

theorem Spelled.few {lead : UInt8} {tail : Bytes} (spelled : Spelled lead tail) :
    tail.length < 4 := by
  have most := span_le lead
  rwa [spelled.span] at most

/-! ### The length that a text says -/

/-- The bytes that the first bytes of its characters announce. -/
def announced (bytes : Bytes) : Nat :=
  ((bytes.filter fun byte => !isTail byte).map span).sum

theorem announced_append (first second : Bytes) :
    announced (first ++ second) = announced first + announced second := by
  rw [announced, filter_append, map_append, sum_append]
  rfl

theorem Spelled.announced {lead : UInt8} {tail part : Bytes} (spelled : Spelled lead tail)
    (further : ∀ byte ∈ part, isTail byte = true) : announced (lead :: part) = tail.length + 1 := by
  have noLeads : part.filter (fun byte => !isTail byte) = [] :=
    filter_eq_nil_iff.mpr fun byte isByte => by simp [further byte isByte]
  rw [Utf8.announced, filter_cons_of_pos (by simp [spelled.first]), noLeads,
    map_singleton, sum_singleton, spelled.span]

/-- A valid text is as long as it says. -/
theorem Valid.announced {bytes : Bytes} (valid : Valid bytes) :
    announced bytes = bytes.length := by
  obtain ⟨chars, rfl⟩ := valid
  induction chars with
  | nil => rfl
  | cons char chars hypothesis =>
    obtain ⟨lead, tail, isChar, spelled⟩ := encodeChar_spelled char
    rw [encode_cons, announced_append, hypothesis, isChar,
      spelled.announced spelled.further, length_append, length_cons]

/-- A text that ends inside a character is not valid. -/
theorem not_valid_of_part {before : Bytes} (valid : Valid before) {lead : UInt8}
    {tail part : Bytes} (spelled : Spelled lead tail) (isPart : part <+: tail)
    (short : part.length < tail.length) : ¬ Valid (before ++ lead :: part) := by
  intro isValid
  have whole := isValid.announced
  rw [announced_append, valid.announced,
    spelled.announced fun byte isByte => spelled.further byte (isPart.subset isByte),
    length_append, length_cons] at whole
  omega

/-! ### Cuts -/

/-- A cut falls between two characters or inside one. -/
inductive Cut (bytes : Bytes) : Prop where
  | between (chars : List Char) (whole : bytes = encode chars)
  | inside (before : Bytes) (lead : UInt8) (tail part : Bytes) (valid : Valid before)
    (spelled : Spelled lead tail) (isPart : part <+: tail) (short : part.length < tail.length)
    (whole : bytes = before ++ lead :: part)

/-- Every start of a valid text is cut in one of the two ways. -/
theorem cut_take (chars : List Char) (count : Nat) : Cut ((encode chars).take count) := by
  induction chars generalizing count with
  | nil => exact .between [] take_nil
  | cons char chars hypothesis =>
    obtain ⟨lead, tail, isChar, spelled⟩ := encodeChar_spelled char
    rw [encode_cons, take_append]
    by_cases inFirst : count ≤ tail.length
    · have cut : count - (String.utf8EncodeChar char).length = 0 := by
        rw [isChar, length_cons]
        omega
      rw [cut, take_zero, append_nil, isChar]
      cases count with
      | zero => exact .between [] take_zero
      | succ count =>
        refine .inside [] lead tail (tail.take count) valid_nil spelled (List.take_prefix _ _) ?_
          take_succ_cons
        rw [length_take]
        omega
    · rw [take_of_length_le (by rw [isChar, length_cons]; omega)]
      cases hypothesis (count - (String.utf8EncodeChar char).length) with
      | between later whole =>
        refine .between (char :: later) ?_
        rw [whole, encode_cons]
      | inside before lead tail part valid spelled isPart short whole =>
        obtain ⟨later, rfl⟩ := valid
        refine .inside (encode (char :: later)) lead tail part ⟨_, rfl⟩ spelled isPart short ?_
        rw [whole, encode_cons, append_assoc]

end Utf8
