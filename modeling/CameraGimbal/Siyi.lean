/-
This file models the SIYI packet format: the CRC, parsing the packet at the head
of a buffer, and the format a byte stream of such packets is framed by.
-/

import CameraGimbal.Bytes
import CameraGimbal.Framing

namespace Siyi

open Framing List

/-- The length of a packet without a payload. -/
def minPacket : Nat := 10

/-- The length of the longest packet. -/
def maxPacket : Nat := 2048

/-- The byte `data[index]`. -/
def byteAt (data : Bytes) (index : Nat) : UInt8 :=
  data.getD index 0

/-- The little-endian 16-bit number at `data + index`. -/
def getU16le (data : Bytes) (index : Nat) : UInt16 :=
  (byteAt data index).toUInt16 ||| ((byteAt data (index + 1)).toUInt16 <<< (8 : UInt16))

def crcBit (crc : UInt16) : UInt16 :=
  if crc &&& (0x8000 : UInt16) ≠ 0 then (crc <<< (1 : UInt16)) ^^^ (0x1021 : UInt16)
  else crc <<< (1 : UInt16)

/-- One byte of the CRC-16, most significant bit first. -/
def crcByte (crc : UInt16) (byte : UInt8) : UInt16 :=
  (List.range 8).foldl (fun crc _ => crcBit crc) (crc ^^^ (byte.toUInt16 <<< (8 : UInt16)))

/-- The CRC-16 that protects a packet. -/
def crc16 (data : Bytes) : UInt16 :=
  data.foldl crcByte 0

/-- A packet whose CRC has been checked. -/
structure Packet where
  control : UInt8
  payloadLength : UInt16
  sequence : UInt16
  opcode : UInt8
  payload : Bytes
  raw : Bytes
  deriving DecidableEq, Repr

/-- The three results of parsing: not enough bytes (0), not a packet (-1), or a packet and the
number of bytes it takes (1). -/
inductive Parse where
  | incomplete
  | malformed
  | packet (packet : Packet) (consumed : Nat)
  deriving DecidableEq, Repr

/-- Parse the packet at the head of the data. -/
def parseOne (data : Bytes) : Parse :=
  if data.length < minPacket then .incomplete
  else if byteAt data 0 ≠ 0x55 ∨ byteAt data 1 ≠ 0x66 then .malformed
  else
    let payloadLength := getU16le data 3
    let total := payloadLength.toNat + minPacket
    if total > maxPacket then .malformed
    else if data.length < total then .incomplete
    else if getU16le data (total - 2) ≠ crc16 (data.take (total - 2)) then .malformed
    else
      .packet
        { control := byteAt data 2
          payloadLength
          sequence := getU16le data 5
          opcode := byteAt data 7
          payload := (data.drop 8).take payloadLength.toNat
          raw := data.take total }
        total

/-- The length the header of the data declares. -/
def declaredTotal (data : Bytes) : Nat :=
  (getU16le data 3).toNat + minPacket

/-! ### Reading ahead changes nothing -/

variable {data : Bytes}

section

variable (later : Bytes)

theorem byteAt_append {index : Nat} (inside : index < data.length) :
    byteAt (data ++ later) index = byteAt data index := by
  unfold byteAt
  rw [getD_eq_getElem?_getD, getD_eq_getElem?_getD, getElem?_append_left inside]

theorem getU16le_append {index : Nat} (inside : index + 1 < data.length) :
    getU16le (data ++ later) index = getU16le data index := by
  unfold getU16le
  rw [byteAt_append later inside, byteAt_append later (by omega)]

theorem declaredTotal_append (enough : minPacket ≤ data.length) :
    declaredTotal (data ++ later) = declaredTotal data := by
  unfold minPacket at enough
  unfold declaredTotal
  rw [getU16le_append later (by omega)]

/-- A verdict on a packet that is not `incomplete` does not depend on the bytes behind it. -/
theorem parseOne_append (decided : parseOne data ≠ .incomplete) :
    parseOne (data ++ later) = parseOne data := by
  by_cases short : data.length < minPacket
  · exact absurd (by simp [parseOne, short]) decided
  have enough : minPacket ≤ data.length := by omega
  have length : (data ++ later).length = data.length + later.length := length_append
  have bytes (index : Nat) (inside : index < 10) :
      byteAt (data ++ later) index = byteAt data index :=
    byteAt_append later (by unfold minPacket at enough; omega)
  have words (index : Nat) (inside : index < 9) :
      getU16le (data ++ later) index = getU16le data index :=
    getU16le_append later (by unfold minPacket at enough; omega)
  unfold parseOne at decided ⊢
  rw [if_neg (by omega : ¬ (data ++ later).length < minPacket)]
  rw [if_neg short] at decided ⊢
  simp only [bytes 0 (by omega), bytes 1 (by omega), bytes 2 (by omega), bytes 7 (by omega),
    words 3 (by omega), words 5 (by omega)]
  by_cases header : byteAt data 0 ≠ 0x55 ∨ byteAt data 1 ≠ 0x66
  · rw [if_pos header, if_pos header]
  rw [if_neg header] at decided ⊢
  rw [if_neg header]
  by_cases long : (getU16le data 3).toNat + minPacket > maxPacket
  · simp only [if_pos long]
  simp only [if_neg long] at decided ⊢
  by_cases cut : data.length < (getU16le data 3).toNat + minPacket
  · exact absurd (by simp only [if_pos cut]) decided
  have whole : ¬ (data ++ later).length < (getU16le data 3).toNat + minPacket := by omega
  have inside : (getU16le data 3).toNat + minPacket ≤ data.length := by omega
  have trailer : (getU16le data 3).toNat + minPacket - 2 + 1 < data.length := by
    unfold minPacket at inside ⊢
    omega
  have payload : ((data ++ later).drop 8).take (getU16le data 3).toNat =
      (data.drop 8).take (getU16le data 3).toNat := by
    unfold minPacket at inside
    rw [drop_append_of_le_length (by omega), take_append_of_le_length (by rw [length_drop]; omega)]
  simp only [if_neg cut, if_neg whole, getU16le_append later trailer, payload,
    take_append_of_le_length (show _ ≤ data.length from inside),
    take_append_of_le_length (show (getU16le data 3).toNat + minPacket - 2 ≤ data.length by omega)]

end

/-! ### What a parsed packet says about the data -/

theorem parseOne_packet {packet : Packet} {consumed : Nat}
    (parsed : parseOne data = .packet packet consumed) :
    byteAt data 0 = 0x55 ∧ byteAt data 1 = 0x66 ∧ consumed = declaredTotal data ∧
      consumed ≤ maxPacket ∧ consumed ≤ data.length ∧ packet.opcode = byteAt data 7 := by
  unfold parseOne at parsed
  split at parsed
  · cases parsed
  split at parsed
  · cases parsed
  next header =>
  obtain ⟨first, second⟩ := not_or.mp header
  simp only at parsed
  split at parsed
  · cases parsed
  split at parsed
  · cases parsed
  split at parsed
  · cases parsed
  next short long cut checksum =>
  obtain ⟨rfl, rfl⟩ := Parse.packet.inj parsed
  exact ⟨not_not.mp first, not_not.mp second, rfl, by omega, by omega, rfl⟩

theorem minPacket_le_declaredTotal (data : Bytes) : minPacket ≤ declaredTotal data :=
  Nat.le_add_left minPacket _

theorem parseOne_consumed_pos {packet : Packet} {consumed : Nat}
    (parsed : parseOne data = .packet packet consumed) : 0 < consumed := by
  have total := (parseOne_packet parsed).2.2.1
  have least := minPacket_le_declaredTotal data
  unfold minPacket at least
  omega

theorem parseOne_incomplete (incomplete : parseOne data = .incomplete) :
    data.length < minPacket ∨
      (declaredTotal data ≤ maxPacket ∧ data.length < declaredTotal data) := by
  unfold parseOne at incomplete
  split at incomplete
  · exact .inl ‹_›
  split at incomplete
  · cases incomplete
  simp only at incomplete
  split at incomplete
  · cases incomplete
  split at incomplete
  · next long cut =>
    exact .inr ⟨by unfold declaredTotal; omega, cut⟩
  split at incomplete <;> cases incomplete

theorem parseOne_malformed (malformed : parseOne data = .malformed) (first : byteAt data 0 = 0x55)
    (second : byteAt data 1 = 0x66) :
    minPacket ≤ data.length ∧
      (maxPacket < declaredTotal data ∨ declaredTotal data ≤ data.length) := by
  unfold parseOne at malformed
  split at malformed
  · cases malformed
  next long =>
  refine ⟨by omega, ?_⟩
  rw [if_neg (by simp [first, second])] at malformed
  simp only at malformed
  split at malformed
  · next tooLong => exact .inl tooLong
  split at malformed
  · cases malformed
  · next whole => exact .inr (by unfold declaredTotal; omega)

theorem parseOne_take (enough : declaredTotal data ≤ data.length) :
    parseOne (data.take (declaredTotal data)) = parseOne data := by
  have least := minPacket_le_declaredTotal data
  have length : (data.take (declaredTotal data)).length = declaredTotal data := by
    rw [length_take]
    omega
  have same : declaredTotal (data.take (declaredTotal data)) = declaredTotal data := by
    have grown : minPacket ≤ (data.take (declaredTotal data)).length := by omega
    have := declaredTotal_append (data.drop (declaredTotal data)) grown
    rwa [take_append_drop, eq_comm] at this
  have decided : parseOne (data.take (declaredTotal data)) ≠ .incomplete := by
    intro incomplete
    rcases parseOne_incomplete incomplete with short | ⟨-, cut⟩ <;> omega
  have := parseOne_append (data.drop (declaredTotal data)) decided
  rw [take_append_drop] at this
  exact this.symm

/-! ### The format of a byte stream -/

/-- The verdict on the head of a stream: two bytes that are not the header are dropped one at
a time, and so is the head of a packet that is malformed. -/
def streamVerdict (input : Bytes) : Verdict :=
  if input.length < 2 then .wait
  else if byteAt input 0 ≠ 0x55 ∨ byteAt input 1 ≠ 0x66 then .skip
  else
    match parseOne input with
    | .incomplete => .wait
    | .malformed => .skip
    | .packet _ total => .frame total

variable {input : Bytes}

theorem streamVerdict_frame {total : Nat} (verdict : streamVerdict input = .frame total) :
    ∃ packet, parseOne input = .packet packet total := by
  unfold streamVerdict at verdict
  split at verdict
  · cases verdict
  split at verdict
  · cases verdict
  split at verdict
  · cases verdict
  · cases verdict
  · next packet total' parsed =>
    cases verdict
    exact ⟨packet, parsed⟩

theorem streamVerdict_of_packet {packet : Packet} {total : Nat}
    (parsed : parseOne input = .packet packet total) : streamVerdict input = .frame total := by
  obtain ⟨first, second, whole, -, enough, -⟩ := parseOne_packet parsed
  have least := minPacket_le_declaredTotal input
  unfold minPacket at least
  unfold streamVerdict
  rw [if_neg (by omega), if_neg (by simp [first, second]), parsed]

theorem streamVerdict_of_header {input : Bytes} (enough : ¬ input.length < 2)
    (first : byteAt input 0 = 0x55) (second : byteAt input 1 = 0x66) :
    streamVerdict input =
      match parseOne input with
      | .incomplete => .wait
      | .malformed => .skip
      | .packet _ total => .frame total := by
  unfold streamVerdict
  rw [if_neg enough, if_neg (by simp [first, second])]

theorem streamVerdict_of_short (short : input.length < 2) : streamVerdict input = .wait := by
  unfold streamVerdict
  rw [if_pos short]

theorem length_lt_of_wait (waits : streamVerdict input = .wait) : input.length < maxPacket := by
  unfold streamVerdict at waits
  split at waits
  · unfold maxPacket
    omega
  split at waits
  · cases waits
  split at waits
  · next incomplete =>
    have := parseOne_incomplete incomplete
    unfold minPacket at this
    unfold maxPacket at this ⊢
    omega
  · cases waits
  · cases waits

/-- SIYI packets on a byte stream. -/
def streamFormat : Format UInt8 where
  verdict := streamVerdict
  skip_nonempty := by
    rintro input skip rfl
    simp [streamVerdict] at skip
  frame_pos := by
    intro input total verdict
    obtain ⟨packet, parsed⟩ := streamVerdict_frame verdict
    exact parseOne_consumed_pos parsed
  frame_le := by
    intro input total verdict
    obtain ⟨packet, parsed⟩ := streamVerdict_frame verdict
    exact (parseOne_packet parsed).2.2.2.2.1
  stable := by
    intro input later decided
    have enough : ¬ input.length < 2 := by
      intro short
      exact decided (by rw [streamVerdict, if_pos short])
    have grown : ¬ (input ++ later).length < 2 := by
      rw [List.length_append]
      omega
    unfold streamVerdict at decided ⊢
    rw [if_neg enough] at decided ⊢
    rw [if_neg grown, byteAt_append later (by omega), byteAt_append later (by omega)]
    by_cases header : byteAt input 0 ≠ 0x55 ∨ byteAt input 1 ≠ 0x66
    · rw [if_pos header, if_pos header]
    · rw [if_neg header] at decided ⊢
      rw [if_neg header, parseOne_append later]
      intro incomplete
      exact decided (by rw [incomplete])

end Siyi
