/-
This file is about how the frames of the two private links are protected: a CRC-8 behind the start
of a frame, and a CRC-16 behind all of it. Neither is true any more when one byte is another.
-/

import CameraGimbal.Checksum
import CameraGimbal.SiyiCodec

namespace PrivateUart

open List

open Siyi (byteAt getU16le crc16 crcBit crcByte)

/-- The start of a frame with its checksum, the rest, and the checksum of everything. -/
def sealed (start rest : Bytes) : Bytes :=
  let body := start ++ [crc8Maxim start] ++ rest
  body ++ putU16le (crc16 body)

/-- The checksums of the first so many bytes, and of all of a frame so long, are right. -/
structure Intact (count total : Nat) (data : Bytes) : Prop where
  start : byteAt data count = crc8Maxim (data.take count)
  body : getU16le data (total - 2) = crc16 (data.take (total - 2))

/-! ### The checksums -/

theorem crcBit_toBitVec (crc : UInt16) :
    (crcBit crc).toBitVec = Checksum.shiftUp 0x1021 crc.toBitVec := by
  have top : crc &&& (0x8000 : UInt16) ≠ 0 ↔ crc.toBitVec.getLsbD 15 = true := by
    rw [Ne, ← UInt16.toBitVec_inj, UInt16.toBitVec_and]
    change ¬ (crc.toBitVec &&& BitVec.twoPow 16 15 = 0) ↔ _
    rw [BitVec.and_twoPow]
    cases crc.toBitVec.getLsbD 15 <;> decide
  unfold crcBit Checksum.shiftUp
  by_cases set : crc.toBitVec.getLsbD 15 = true
  · rw [if_pos (top.mpr set), if_pos set]
    rfl
  · rw [if_neg (mt top.mp set), if_neg set]
    exact BitVec.xor_zero.symm

theorem crc8Bit_toBitVec (crc : UInt8) :
    (crc8Bit crc).toBitVec = Checksum.shiftDown 0x8c crc.toBitVec := by
  have bottom : crc &&& 1 ≠ 0 ↔ crc.toBitVec.getLsbD 0 = true := by
    rw [Ne, ← UInt8.toBitVec_inj, UInt8.toBitVec_and]
    change ¬ (crc.toBitVec &&& BitVec.twoPow 8 0 = 0) ↔ _
    rw [BitVec.and_twoPow]
    cases crc.toBitVec.getLsbD 0 <;> decide
  unfold crc8Bit Checksum.shiftDown
  by_cases set : crc.toBitVec.getLsbD 0 = true
  · rw [if_pos (bottom.mpr set), if_pos set]
    rfl
  · rw [if_neg (mt bottom.mp set), if_neg set]
    exact BitVec.xor_zero.symm

theorem crcBit_injective : Function.Injective crcBit := by
  intro first second same
  refine UInt16.eq_of_toBitVec_eq (@Checksum.shiftUp_injective 15 0x1021 rfl _ _ ?_)
  rw [← crcBit_toBitVec, ← crcBit_toBitVec, same]

theorem crc8Bit_injective : Function.Injective crc8Bit := by
  intro first second same
  refine UInt8.eq_of_toBitVec_eq (@Checksum.shiftDown_injective 7 0x8c rfl _ _ ?_)
  rw [← crc8Bit_toBitVec, ← crc8Bit_toBitVec, same]

theorem crcByte_separates : Checksum.Separates crcByte where
  state := by
    intro byte first second same
    exact (UInt16.xor_left_inj _).mp (Checksum.foldl_rounds_injective crcBit_injective _ same)
  symbol := by
    intro crc first second same
    have shifted : first.toUInt16 <<< (8 : UInt16) = second.toUInt16 <<< (8 : UInt16) :=
      (UInt16.xor_right_inj _).mp (Checksum.foldl_rounds_injective crcBit_injective _ same)
    have value (byte : UInt8) : (byte.toUInt16 <<< (8 : UInt16)).toNat = byte.toNat * 2 ^ 8 := by
      have small := byte.toNat_lt
      rw [UInt16.toNat_shiftLeft, UInt8.toNat_toUInt16]
      show byte.toNat <<< 8 % 2 ^ 16 = _
      rw [Nat.shiftLeft_eq]
      omega
    have values := congrArg UInt16.toNat shifted
    rw [value, value] at values
    exact UInt8.toNat_inj.mp (Nat.eq_of_mul_eq_mul_right (by decide) values)

theorem crc8Byte_separates : Checksum.Separates crc8Byte where
  state := by
    intro byte first second same
    exact (UInt8.xor_left_inj _).mp (Checksum.foldl_rounds_injective crc8Bit_injective _ same)
  symbol := by
    intro crc first second same
    exact (UInt8.xor_right_inj _).mp (Checksum.foldl_rounds_injective crc8Bit_injective _ same)

variable {data : Bytes} {index : Nat}

theorem byteAt_eq_getElem (inside : index < data.length) : byteAt data index = data[index] := by
  unfold byteAt
  rw [getD_eq_getElem?_getD, getElem?_eq_getElem inside]
  rfl

section

variable (inside : index < data.length) {byte : UInt8} (differs : byteAt data index ≠ byte)

include inside differs

theorem crc16_set_ne : crc16 (data.set index byte) ≠ crc16 data := by
  have place := byteAt_eq_getElem inside
  exact Checksum.foldl_set_ne crcByte_separates 0 inside (place ▸ differs)

theorem crc8Maxim_set_ne : crc8Maxim (data.set index byte) ≠ crc8Maxim data := by
  have place := byteAt_eq_getElem inside
  exact Checksum.foldl_set_ne crc8Byte_separates 0 inside (place ▸ differs)

end

/-! ### Bytes that change -/

theorem byteAt_set_of_ne (data : Bytes) {place : Nat} (byte : UInt8)
    (elsewhere : index ≠ place) : byteAt (data.set index byte) place = byteAt data place := by
  unfold byteAt
  rw [getD_eq_getElem?_getD, getD_eq_getElem?_getD, getElem?_set_ne elsewhere]

theorem byteAt_set_self (inside : index < data.length) (byte : UInt8) :
    byteAt (data.set index byte) index = byte := by
  unfold byteAt
  rw [getD_eq_getElem?_getD, getElem?_set_self inside]
  rfl

theorem getU16le_inj {first second : Bytes}
    (same : getU16le first index = getU16le second index) :
    byteAt first index = byteAt second index ∧
      byteAt first (index + 1) = byteAt second (index + 1) := by
  have bytes := congrArg putU16le same
  rw [Siyi.putU16le_getU16le, Siyi.putU16le_getU16le] at bytes
  obtain ⟨low, high⟩ := cons.inj bytes
  exact ⟨low, (cons.inj high).1⟩

section Sealed

variable {start rest : Bytes}

theorem length_sealed (start rest : Bytes) :
    (sealed start rest).length = start.length + rest.length + 3 := by
  unfold sealed
  simp only [length_append, length_singleton]
  show start.length + 1 + rest.length + 2 = _
  omega

theorem sealed_intact (start rest later : Bytes) :
    Intact start.length (sealed start rest).length (sealed start rest ++ later) where
  start := by
    unfold sealed
    rw [append_assoc, append_assoc, append_assoc, take_left]
    unfold byteAt
    rw [getD_eq_getElem?_getD, getElem?_append_right (le_rfl), Nat.sub_self]
    rfl
  body := by
    have body : (sealed start rest).length - 2 = (start ++ [crc8Maxim start] ++ rest).length := by
      rw [length_sealed]
      simp only [length_append, length_singleton]
      omega
    rw [body]
    unfold sealed
    rw [Siyi.trailer_reads, append_assoc _ _ later, take_left]

/-- With another byte in it a frame is not intact, unless the byte is in the start and the length is
taken from it. -/
theorem sealed_set_not_intact {index total : Nat} (inside : index < (sealed start rest).length)
    {byte : UInt8} (differs : byteAt (sealed start rest) index ≠ byte)
    (declared : start.length < index → total = (sealed start rest).length) (later : Bytes) :
    ¬ Intact start.length total ((sealed start rest).set index byte ++ later) := by
  rintro ⟨startIntact, bodyIntact⟩
  have before := sealed_intact start rest []
  have length := length_sealed start rest
  have size : ((sealed start rest).set index byte).length = (sealed start rest).length := length_set
  rw [append_nil] at before
  by_cases within : index ≤ start.length
  · rw [Siyi.byteAt_append later (by omega), take_append_of_le_length (by omega),
      take_set] at startIntact
    rcases Nat.lt_or_eq_of_le within with covered | rfl
    · rw [byteAt_set_of_ne _ _ (Nat.ne_of_lt covered), before.start] at startIntact
      have short : index < ((sealed start rest).take start.length).length := by
        rw [length_take]
        omega
      exact crc8Maxim_set_ne short (by rwa [byteAt_take covered]) startIntact.symm
    · rw [byteAt_set_self inside, set_eq_of_length_le (by rw [length_take]; omega),
        ← before.start] at startIntact
      exact differs startIntact.symm
  · obtain rfl := declared (Nat.lt_of_not_le within)
    rw [Siyi.getU16le_append later (by omega), take_append_of_le_length (by omega),
      take_set] at bodyIntact
    by_cases covered : index < (sealed start rest).length - 2
    · have short : index < ((sealed start rest).take ((sealed start rest).length - 2)).length := by
        rw [length_take]
        omega
      unfold getU16le at bodyIntact
      rw [byteAt_set_of_ne _ _ (by omega), byteAt_set_of_ne _ _ (by omega)] at bodyIntact
      have checked := before.body.symm.trans bodyIntact
      exact crc16_set_ne short (by rwa [byteAt_take covered]) checked.symm
    · have behind : ((sealed start rest).take ((sealed start rest).length - 2)).length ≤ index := by
        rw [length_take]
        omega
      rw [set_eq_of_length_le behind, ← before.body] at bodyIntact
      obtain ⟨low, high⟩ := getU16le_inj bodyIntact
      rcases Nat.lt_or_eq_of_le (Nat.le_of_not_lt covered) with last | first
      · have place : (sealed start rest).length - 2 + 1 = index := by omega
        rw [place, byteAt_set_self inside] at high
        exact differs high.symm
      · rw [first, byteAt_set_self inside] at low
        exact differs low.symm

end Sealed

end PrivateUart
