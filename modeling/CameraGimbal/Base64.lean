/-
This file is a library on base64 as RFC 4648 has it: the groups of six bits of a text of bytes, the
letters they are written with, and the padding at the end. A decoder gathers the groups in an
accumulator of one machine word. The bits that have been taken out stay in the word and are pushed
out at its upper end, so only the low bits of the word mean anything.
-/

import CameraGimbal.Bytes
import Mathlib.Data.List.Basic
import Mathlib.Data.List.TakeWhile
import Mathlib.Tactic.IntervalCases

namespace Base64

open List

/-! ### Encoding -/

/-- The letters of the groups, in the order of their values. -/
def alphabet : Bytes :=
  [65, 66, 67, 68, 69, 70, 71, 72, 73, 74, 75, 76, 77, 78, 79, 80, 81, 82, 83, 84, 85, 86, 87, 88,
    89, 90, 97, 98, 99, 100, 101, 102, 103, 104, 105, 106, 107, 108, 109, 110, 111, 112, 113, 114,
    115, 116, 117, 118, 119, 120, 121, 122, 48, 49, 50, 51, 52, 53, 54, 55, 56, 57, 43, 47]

def letter (value : Nat) : UInt8 := alphabet.getD value 0

def pad : UInt8 := 61

/-- The groups of six bits, the last one filled with zeros. -/
def groups : Bytes → List Nat
  | [] => []
  | [a] => [a.toNat / 4, a.toNat % 4 * 16]
  | [a, b] => [a.toNat / 4, a.toNat % 4 * 16 + b.toNat / 16, b.toNat % 16 * 4]
  | a :: b :: c :: rest =>
    a.toNat / 4 :: (a.toNat % 4 * 16 + b.toNat / 16) :: (b.toNat % 16 * 4 + c.toNat / 64) ::
      c.toNat % 64 :: groups rest

/-- The text without padding. -/
def unpadded (bytes : Bytes) : Bytes := (groups bytes).map letter

/-- The text, padded to a multiple of four letters. -/
def padded (bytes : Bytes) : Bytes :=
  unpadded bytes ++ List.replicate ((3 - bytes.length % 3) % 3) pad

theorem groups_lt (bytes : Bytes) : ∀ value ∈ groups bytes, value < 64 := by
  induction bytes using groups.induct with
  | case1 => exact nofun
  | case2 a =>
    have small := a.toNat_lt
    simp only [groups, forall_mem_cons]
    exact ⟨by omega, by omega, nofun⟩
  | case3 a b =>
    have small := a.toNat_lt
    have alsoSmall := b.toNat_lt
    simp only [groups, forall_mem_cons]
    exact ⟨by omega, by omega, by omega, nofun⟩
  | case4 a b c rest hypothesis =>
    have small := a.toNat_lt
    have alsoSmall := b.toNat_lt
    have thirdSmall := c.toNat_lt
    simp only [groups, forall_mem_cons]
    exact ⟨by omega, by omega, by omega, by omega, hypothesis⟩

/-! ### Decoding -/

/-- A word of which the low bits have not been taken out yet. -/
structure Accumulator where
  value : UInt32
  bits : Nat
  deriving DecidableEq, Repr

def Accumulator.empty : Accumulator := ⟨0, 0⟩

/-- Six more bits, and the byte that comes out when there are eight. -/
def Accumulator.push (accumulator : Accumulator) (group : Nat) : Accumulator × Option UInt8 :=
  let value := accumulator.value <<< 6 ||| UInt32.ofNat group
  let bits := accumulator.bits + 6
  if 8 ≤ bits then (⟨value, bits - 8⟩, some (value >>> UInt32.ofNat (bits - 8)).toUInt8)
  else (⟨value, bits⟩, none)

/-- The bytes that come out of some groups. -/
def decode : Accumulator → List Nat → Bytes
  | _, [] => []
  | accumulator, group :: rest =>
    (accumulator.push group).2.toList ++ decode (accumulator.push group).1 rest

/-- The bits that wait. -/
def Accumulator.low (accumulator : Accumulator) : Nat :=
  accumulator.value.toNat % 2 ^ accumulator.bits

/-- So many bits wait, and this is what they are. -/
structure Accumulator.Waits (accumulator : Accumulator) (bits low : Nat) : Prop where
  bits : accumulator.bits = bits
  low : accumulator.low = low

theorem waits_empty : Accumulator.empty.Waits 0 0 := ⟨rfl, rfl⟩

/-- A word that is shifted loses its upper bits. -/
theorem toNat_shifted (value : UInt32) {group : Nat} (small : group < 64) :
    (value <<< 6 ||| UInt32.ofNat group).toNat = value.toNat % 2 ^ 26 * 64 + group := by
  have shifted : (value <<< 6).toNat = (value.toNat % 2 ^ 26) <<< 6 := by
    rw [UInt32.toNat_shiftLeft, Nat.shiftLeft_eq, Nat.shiftLeft_eq]
    show value.toNat * 2 ^ 6 % 2 ^ 32 = value.toNat % 2 ^ 26 * 2 ^ 6
    omega
  have isGroup : (UInt32.ofNat group).toNat = group :=
    UInt32.toNat_ofNat_of_lt' (small.trans (by decide))
  rw [UInt32.toNat_or, shifted, isGroup, ← Nat.shiftLeft_add_eq_or_of_lt small, Nat.shiftLeft_eq]

/-- The bits that waited and the new ones are the low bits of the word. -/
theorem low_shifted (value : UInt32) {group bits : Nat} (small : group < 64) (few : bits < 8) :
    (value <<< 6 ||| UInt32.ofNat group).toNat % 2 ^ (bits + 6) =
      value.toNat % 2 ^ bits * 64 + group := by
  rw [toNat_shifted value small]
  interval_cases bits <;> omega

section Push

variable {accumulator : Accumulator} {bits low group : Nat}

theorem decode_cons_few (waits : accumulator.Waits bits low) (few : bits < 2) (small : group < 64) :
    ∃ next, next.Waits (bits + 6) (low * 64 + group) ∧ ∀ rest,
      decode accumulator (group :: rest) = decode next rest := by
  obtain ⟨rfl, rfl⟩ := waits
  have pushed : accumulator.push group =
      (⟨accumulator.value <<< 6 ||| UInt32.ofNat group, accumulator.bits + 6⟩, none) :=
    if_neg (by omega)
  refine ⟨⟨accumulator.value <<< 6 ||| UInt32.ofNat group, accumulator.bits + 6⟩, ⟨rfl, ?_⟩,
    fun rest => ?_⟩
  · exact low_shifted accumulator.value small (by omega)
  · rw [decode, pushed]
    rfl

theorem decode_cons_many (waits : accumulator.Waits (bits + 2) low) (few : bits < 6)
    (small : group < 64) (byte : UInt8) (isByte : (low * 64 + group) / 2 ^ bits = byte.toNat) :
    ∃ next, next.Waits bits ((low * 64 + group) % 2 ^ bits) ∧ ∀ rest,
      decode accumulator (group :: rest) = byte :: decode next rest := by
  obtain ⟨isBits, rfl⟩ := waits
  have whole := low_shifted accumulator.value small (show accumulator.bits < 8 by omega)
  have inWord : bits < UInt32.size := few.trans (by decide)
  have pushed : accumulator.push group =
      (⟨accumulator.value <<< 6 ||| UInt32.ofNat group, bits⟩,
        some ((accumulator.value <<< 6 ||| UInt32.ofNat group) >>> UInt32.ofNat bits).toUInt8) := by
    unfold Accumulator.push
    rw [isBits]
    exact if_pos (by omega)
  rw [← Accumulator.low, isBits, show bits + 2 + 6 = bits + 8 from rfl, pow_add] at whole
  refine ⟨⟨accumulator.value <<< 6 ||| UInt32.ofNat group, bits⟩, ⟨rfl, ?_⟩, fun rest => ?_⟩
  · rw [← whole, Nat.mod_mul_right_mod]
    rfl
  · have comesOut : ((accumulator.value <<< 6 ||| UInt32.ofNat group) >>>
        UInt32.ofNat bits).toUInt8 = byte := by
      rw [← UInt8.toNat_inj, ← isByte, ← whole, Nat.mod_mul_right_div_self, UInt32.toNat_toUInt8,
        UInt32.toNat_shiftRight, UInt32.toNat_ofNat_of_lt' inWord,
        Nat.mod_eq_of_lt (show bits < 32 by omega), Nat.shiftRight_eq_div_pow]
    rw [decode, pushed, comesOut]
    rfl

end Push

section Groups

variable {accumulator : Accumulator}

/-- Two groups give a byte, and four bits of the next one wait. -/
theorem decode_first (waits : accumulator.Waits 0 0) (a : UInt8) {low : Nat} (small : low < 16) :
    ∃ next, next.Waits 4 low ∧ ∀ rest,
      decode accumulator (a.toNat / 4 :: (a.toNat % 4 * 16 + low) :: rest) =
        a :: decode next rest := by
  have isByte := a.toNat_lt
  obtain ⟨first, firstWaits, firstDecodes⟩ :=
    decode_cons_few waits (by decide) (show a.toNat / 4 < 64 by omega)
  obtain ⟨next, waiting, decodes⟩ := decode_cons_many firstWaits (by decide)
    (show a.toNat % 4 * 16 + low < 64 by omega) a (by omega)
  rw [show ((0 * 64 + a.toNat / 4) * 64 + (a.toNat % 4 * 16 + low)) % 2 ^ 4 = low by omega]
    at waiting
  exact ⟨next, waiting, fun rest => by rw [firstDecodes, decodes]⟩

theorem decode_second {b : UInt8} (waits : accumulator.Waits 4 (b.toNat / 16)) {low : Nat}
    (small : low < 4) :
    ∃ next, next.Waits 2 low ∧ ∀ rest,
      decode accumulator ((b.toNat % 16 * 4 + low) :: rest) = b :: decode next rest := by
  obtain ⟨next, waiting, decodes⟩ := decode_cons_many waits (by decide)
    (show b.toNat % 16 * 4 + low < 64 by omega) b (by omega)
  rw [show (b.toNat / 16 * 64 + (b.toNat % 16 * 4 + low)) % 2 ^ 2 = low by omega] at waiting
  exact ⟨next, waiting, decodes⟩

theorem decode_third {c : UInt8} (waits : accumulator.Waits 2 (c.toNat / 64)) :
    ∃ next, next.Waits 0 0 ∧ ∀ rest,
      decode accumulator (c.toNat % 64 :: rest) = c :: decode next rest := by
  obtain ⟨next, waiting, decodes⟩ := decode_cons_many waits (by decide)
    (show c.toNat % 64 < 64 by omega) c (by omega)
  rw [pow_zero, Nat.mod_one] at waiting
  exact ⟨next, waiting, decodes⟩

/-- Decoding the groups of a text gives the text back. -/
theorem decode_groups (waits : accumulator.Waits 0 0) (bytes : Bytes) :
    decode accumulator (groups bytes) = bytes := by
  induction bytes using groups.induct generalizing accumulator with
  | case1 => rfl
  | case2 a =>
    obtain ⟨next, -, decodes⟩ := decode_first waits a (show 0 < 16 by decide)
    exact decodes []
  | case3 a b =>
    have isByte := b.toNat_lt
    obtain ⟨second, secondWaits, firstDecodes⟩ :=
      decode_first waits a (show b.toNat / 16 < 16 by omega)
    obtain ⟨next, -, secondDecodes⟩ := decode_second secondWaits (show 0 < 4 by decide)
    exact (firstDecodes _).trans (congrArg (a :: ·) (secondDecodes []))
  | case4 a b c rest hypothesis =>
    have isByte := b.toNat_lt
    have alsoByte := c.toNat_lt
    obtain ⟨second, secondWaits, firstDecodes⟩ :=
      decode_first waits a (show b.toNat / 16 < 16 by omega)
    obtain ⟨third, thirdWaits, secondDecodes⟩ :=
      decode_second secondWaits (show c.toNat / 64 < 4 by omega)
    obtain ⟨next, nextWaits, thirdDecodes⟩ := decode_third thirdWaits
    rw [groups, firstDecodes, secondDecodes, thirdDecodes, hypothesis nextWaits]

end Groups

/-! ### The letters -/

/-- The value of a letter; nothing for any other byte. -/
def valueOf (byte : UInt8) : Option Nat := alphabet.idxOf? byte

theorem valueOf_letter {value : Nat} (small : value < 64) :
    valueOf (letter value) = some value := by
  revert value
  decide

theorem letter_mem {value : Nat} (small : value < 64) : letter value ∈ alphabet := by
  revert value
  decide

theorem valueOf_eq_none {byte : UInt8} (other : byte ∉ alphabet) : valueOf byte = none :=
  idxOf?_eq_none_iff.mpr other

theorem pad_not_mem : pad ∉ alphabet := by decide

section Text

variable (bytes : Bytes)

theorem unpadded_subset : ∀ byte ∈ unpadded bytes, byte ∈ alphabet := by
  intro byte member
  obtain ⟨value, isGroup, rfl⟩ := mem_map.mp member
  exact letter_mem (groups_lt bytes value isGroup)

/-- The letters of a text stand for its groups. -/
theorem filterMap_unpadded : (unpadded bytes).filterMap valueOf = groups bytes := by
  rw [unpadded, filterMap_map]
  have same : ∀ value ∈ groups bytes, (valueOf ∘ letter) value = some value :=
    fun value isGroup => valueOf_letter (groups_lt bytes value isGroup)
  rw [filterMap_congr same, filterMap_some]

section

variable {encoded : Bytes} (isEncoded : encoded = padded bytes ∨ encoded = unpadded bytes)

include isEncoded

/-- What stands before the first padding is the text without padding. -/
theorem takeWhile_encoded :
    encoded.takeWhile (· ≠ pad) = unpadded bytes := by
  have letters : ∀ byte ∈ unpadded bytes, decide (byte ≠ pad) = true := fun byte member =>
    decide_eq_true fun isPad => pad_not_mem (isPad ▸ unpadded_subset bytes byte member)
  rcases isEncoded with rfl | rfl
  · rw [padded, takeWhile_append_of_pos letters]
    cases (3 - bytes.length % 3) % 3 with
    | zero => simp
    | succ count => simp [replicate_succ]
  · exact takeWhile_eq_self_iff.mpr letters

/-- Padding stands for no group. -/
theorem filterMap_encoded :
    encoded.filterMap valueOf = groups bytes := by
  rcases isEncoded with rfl | rfl
  · have pads : (replicate ((3 - bytes.length % 3) % 3) pad).filterMap valueOf = [] :=
      filterMap_eq_nil_iff.mpr fun byte isPad =>
        valueOf_eq_none (eq_of_mem_replicate isPad ▸ pad_not_mem)
    rw [padded, filterMap_append, filterMap_unpadded, pads, append_nil]
  · exact filterMap_unpadded bytes

theorem encoded_subset :
    ∀ byte ∈ encoded, byte ∈ alphabet ∨ byte = pad := by
  intro byte member
  rcases isEncoded with rfl | rfl
  · rcases mem_append.mp member with isLetter | isPad
    · exact .inl (unpadded_subset bytes byte isLetter)
    · exact .inr (eq_of_mem_replicate isPad)
  · exact .inl (unpadded_subset bytes byte member)

end

end Text

end Base64
