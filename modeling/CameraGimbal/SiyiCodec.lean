/-
This file is about building SIYI packets: what was built parses to what it was built from, whatever
follows it, what parses is what would be built from it, and a payload byte can be rewritten in
place.
-/

import CameraGimbal.PrivateUart

namespace Siyi

open PrivateUart List

/-! ### Building -/

/-- The bytes in front of the payload. -/
def packetHeader (control : UInt8) (sequence : UInt16) (opcode : UInt8) (length : UInt16) :
    Bytes :=
  [0x55, 0x66, control] ++ putU16le length ++ putU16le sequence ++ [opcode]

/-- The bytes the checksum covers. -/
def packetBody (control : UInt8) (sequence : UInt16) (opcode : UInt8) (payload : Bytes) :
    Bytes :=
  packetHeader control sequence opcode (UInt16.ofNat payload.length) ++ payload

def packetBytes (control : UInt8) (sequence : UInt16) (opcode : UInt8) (payload : Bytes) :
    Bytes :=
  packetBody control sequence opcode payload ++
    putU16le (crc16 (packetBody control sequence opcode payload))

/-- `ca_siyi_build`; nothing when the packet is too long. -/
def build (capacity : Nat) (control : UInt8) (sequence : UInt16) (opcode : UInt8)
    (payload : Bytes) : Option Bytes :=
  let total := payload.length + minPacket
  if capacity < total ∨ maxPacket < total then none
  else some (packetBytes control sequence opcode payload)

/-- `ca_siyi_rewrite_payload_byte`: the buffer, and whether the byte was rewritten. -/
def rewritePayloadByte (packet : Bytes) (payloadOffset : Nat) (value : UInt8) :
    Bytes × Bool :=
  match parseOne packet with
  | .packet parsed consumed =>
    if consumed ≠ packet.length ∨ parsed.payloadLength.toNat ≤ payloadOffset then (packet, false)
    else
      let body := (packet.set (8 + payloadOffset) value).take (packet.length - 2)
      (body ++ putU16le (crc16 body), true)
  | _ => (packet, false)

/-! ### The bytes of a packet -/

section

variable (control : UInt8) (sequence : UInt16) (opcode : UInt8) (payload : Bytes)

theorem length_packetBody :
    (packetBody control sequence opcode payload).length = payload.length + 8 := by
  unfold packetBody
  rw [length_append, Nat.add_comm]
  rfl

theorem length_packetBytes :
    (packetBytes control sequence opcode payload).length = payload.length + minPacket := by
  unfold packetBytes
  rw [length_append, length_packetBody]
  rfl

end

variable {control opcode : UInt8} {sequence : UInt16} {payload : Bytes}

theorem trailer_reads (body : Bytes) (crc : UInt16) (later : Bytes) :
    getU16le (body ++ putU16le crc ++ later) body.length = crc := by
  have behind (index : Nat) (inside : index < 2) :
      byteAt (body ++ putU16le crc ++ later) (body.length + index) =
        byteAt (putU16le crc) index := by
    rw [byteAt_append later (by rw [length_append]; exact Nat.add_lt_add_left inside _)]
    unfold byteAt
    rw [getD_eq_getElem?_getD, getD_eq_getElem?_getD,
      getElem?_append_right (Nat.le_add_right _ _), Nat.add_sub_cancel_left]
  unfold getU16le
  rw [behind 1 (by decide), show body.length = body.length + 0 from rfl, behind 0 (by decide)]
  exact getU16le_putU16le crc

theorem parseOne_packetBytes (control : UInt8) (sequence : UInt16) (opcode : UInt8)
    (fits : payload.length + minPacket ≤ maxPacket) (later : Bytes) :
    parseOne (packetBytes control sequence opcode payload ++ later) =
      .packet
        { control, sequence, opcode, payload
          payloadLength := UInt16.ofNat payload.length
          raw := packetBytes control sequence opcode payload }
        (payload.length + minPacket) := by
  have small : payload.length < 2 ^ 16 := by
    unfold minPacket maxPacket at fits
    omega
  have whole : packetBytes control sequence opcode payload ++ later =
      [0x55, 0x66, control] ++ putU16le (UInt16.ofNat payload.length) ++ putU16le sequence ++
        [opcode] ++ (payload ++
          (putU16le (crc16 (packetBody control sequence opcode payload)) ++ later)) := by
    unfold packetBytes
    rw [append_assoc, packetBody, append_assoc]
    rfl
  have declared : getU16le (packetBytes control sequence opcode payload ++ later) 3 =
      UInt16.ofNat payload.length := by
    rw [whole]
    exact getU16le_putU16le _
  have length : (UInt16.ofNat payload.length).toNat = payload.length := by
    rw [UInt16.toNat_ofNat', Nat.mod_eq_of_lt small]
  have numbered : getU16le (packetBytes control sequence opcode payload ++ later) 5 =
      sequence := by
    rw [whole]
    exact getU16le_putU16le _
  have total : payload.length + minPacket - 2 =
      (packetBody control sequence opcode payload).length :=
    (length_packetBody control sequence opcode payload).symm
  have checked : getU16le (packetBytes control sequence opcode payload ++ later)
      (payload.length + minPacket - 2) =
        crc16 ((packetBytes control sequence opcode payload ++ later).take
          (payload.length + minPacket - 2)) := by
    rw [total]
    unfold packetBytes
    rw [trailer_reads, append_assoc, take_left]
  have enough : payload.length + minPacket ≤
      (packetBytes control sequence opcode payload ++ later).length := by
    rw [length_append, length_packetBytes]
    exact Nat.le_add_right _ _
  have carried : ((packetBytes control sequence opcode payload ++ later).drop 8).take
      payload.length = payload := by
    rw [whole]
    exact take_left
  have raw : (packetBytes control sequence opcode payload ++ later).take
      (payload.length + minPacket) = packetBytes control sequence opcode payload := by
    rw [← length_packetBytes control sequence opcode payload]
    exact take_left
  have header : ¬ (byteAt (packetBytes control sequence opcode payload ++ later) 0 ≠ 0x55 ∨
      byteAt (packetBytes control sequence opcode payload ++ later) 1 ≠ 0x66) := by
    rw [whole]
    exact not_or.mpr ⟨not_not.mpr rfl, not_not.mpr rfl⟩
  unfold parseOne
  simp only
  rw [declared, length, if_neg (by omega), if_neg header, if_neg (by omega), if_neg (by omega),
    if_neg (not_not.mpr checked), numbered, carried, raw]
  rw [whole]
  rfl

/-! ### What parses is what would be built -/

theorem putU16le_getU16le (data : Bytes) (index : Nat) :
    putU16le (getU16le data index) = [byteAt data index, byteAt data (index + 1)] := by
  have value : (getU16le data index).toNat =
      (byteAt data index).toNat + (byteAt data (index + 1)).toNat * 2 ^ 8 := by
    have low := (byteAt data index).toNat_lt
    have high := (byteAt data (index + 1)).toNat_lt
    have room : (byteAt data (index + 1)).toNat <<< (8 % 16) % 2 ^ 16 =
        (byteAt data (index + 1)).toNat <<< 8 := by
      show (byteAt data (index + 1)).toNat <<< 8 % 2 ^ 16 = _
      rw [Nat.shiftLeft_eq]
      omega
    unfold getU16le
    rw [UInt16.toNat_or, UInt16.toNat_shiftLeft, UInt8.toNat_toUInt16, UInt8.toNat_toUInt16]
    refine (congrArg (_ ||| ·) room).trans ?_
    rw [Nat.or_comm, ← Nat.shiftLeft_add_eq_or_of_lt low, Nat.shiftLeft_eq, Nat.add_comm]
  have low := (byteAt data index).toNat_lt
  unfold putU16le
  refine congrArg₂ (fun first second => [first, second]) ?_ ?_
  · refine UInt8.toNat_inj.mp ?_
    rw [UInt16.toNat_toUInt8, value]
    omega
  · have high := (byteAt data (index + 1)).toNat_lt
    refine UInt8.toNat_inj.mp ?_
    rw [UInt16.toNat_toUInt8, UInt16.toNat_shiftRight, value, Nat.shiftRight_eq_div_pow]
    show ((byteAt data index).toNat + (byteAt data (index + 1)).toNat * 2 ^ 8) / 2 ^ 8 % 2 ^ 8 = _
    omega

theorem take_succ_byteAt {data : Bytes} {count : Nat} (inside : count < data.length) :
    data.take (count + 1) = data.take count ++ [byteAt data count] := by
  unfold byteAt
  rw [take_add_one, getD_eq_getElem?_getD, getElem?_eq_getElem inside]
  rfl

theorem take_header {data : Bytes} (enough : 8 ≤ data.length) :
    data.take 8 = [byteAt data 0, byteAt data 1, byteAt data 2] ++ putU16le (getU16le data 3) ++
      putU16le (getU16le data 5) ++ [byteAt data 7] := by
  rw [putU16le_getU16le, putU16le_getU16le]
  match data, enough with
  | _ :: _ :: _ :: _ :: _ :: _ :: _ :: _ :: _, _ => rfl

theorem packetBytes_of_parseOne {data : Bytes} {packet : Packet} {consumed : Nat}
    (parsed : parseOne data = .packet packet consumed) :
    packetBytes packet.control packet.sequence packet.opcode packet.payload = data.take consumed ∧
      packet.payload.length + minPacket = consumed ∧ consumed ≤ maxPacket ∧
      consumed ≤ data.length ∧ packet.payloadLength = UInt16.ofNat packet.payload.length ∧
      packet.raw = data.take consumed := by
  unfold parseOne at parsed
  split at parsed
  · cases parsed
  next enough =>
  split at parsed
  · cases parsed
  next header =>
  obtain ⟨first, second⟩ := not_or.mp header
  simp only at parsed
  split at parsed
  · cases parsed
  next allowed =>
  split at parsed
  · cases parsed
  next whole =>
  split at parsed
  · cases parsed
  next checked =>
  obtain ⟨rfl, rfl⟩ := Parse.packet.inj parsed
  have ten : minPacket = 10 := rfl
  have length : ((data.drop 8).take (getU16le data 3).toNat).length = (getU16le data 3).toNat := by
    rw [length_take, length_drop]
    omega
  have declared : UInt16.ofNat ((data.drop 8).take (getU16le data 3).toNat).length =
      getU16le data 3 := by
    rw [length]
    exact UInt16.ofNat_toNat
  have body : packetBody (byteAt data 2) (getU16le data 5) (byteAt data 7)
      ((data.drop 8).take (getU16le data 3).toNat) =
        data.take ((getU16le data 3).toNat + minPacket - 2) := by
    have split : (getU16le data 3).toNat + minPacket - 2 = 8 + (getU16le data 3).toNat := by
      rw [ten]
      omega
    unfold packetBody packetHeader
    rw [declared, split, take_add, take_header (by omega), not_not.mp first, not_not.mp second]
  refine ⟨?_, ?_, Nat.le_of_not_lt allowed, Nat.le_of_not_lt whole, declared.symm, rfl⟩
  · have last : (getU16le data 3).toNat + minPacket =
        (getU16le data 3).toNat + minPacket - 2 + 1 + 1 := by omega
    unfold packetBytes
    rw [body, ← not_not.mp checked, putU16le_getU16le]
    conv => rhs; rw [last]
    rw [take_succ_byteAt (by omega), take_succ_byteAt (by omega), append_assoc]
    rfl
  · show ((data.drop 8).take (getU16le data 3).toNat).length + minPacket = _
    rw [length]

theorem build_eq_some {capacity : Nat} {bytes : Bytes} :
    build capacity control sequence opcode payload = some bytes ↔
      payload.length + minPacket ≤ capacity ∧ payload.length + minPacket ≤ maxPacket ∧
        packetBytes control sequence opcode payload = bytes := by
  unfold build
  simp only
  split
  next refused =>
    constructor
    · exact nofun
    · rintro ⟨room, fits, -⟩
      omega
  next allowed =>
    obtain ⟨room, fits⟩ := not_or.mp allowed
    rw [Option.some.injEq]
    exact ⟨fun same => ⟨Nat.le_of_not_lt room, Nat.le_of_not_lt fits, same⟩, fun both => both.2.2⟩

theorem parseOne_prefix (fits : payload.length + minPacket ≤ maxPacket) {start : Bytes}
    (isPrefix : start <+: packetBytes control sequence opcode payload)
    (proper : start ≠ packetBytes control sequence opcode payload) :
    parseOne start = .incomplete := by
  obtain ⟨later, whole⟩ := isPrefix
  by_contra decided
  have same := parseOne_append later decided
  have parsed := parseOne_packetBytes control sequence opcode fits []
  rw [append_nil, ← whole, same] at parsed
  have inside := (parseOne_packet parsed).2.2.2.2.1
  have length := congrArg length whole
  rw [length_append, length_packetBytes] at length
  have none : later = [] := length_eq_zero_iff.mp (by omega)
  rw [none, append_nil] at whole
  exact proper whole

theorem rewrite_packetBytes (fits : payload.length + minPacket ≤ maxPacket) {offset : Nat}
    (inside : offset < payload.length) (value : UInt8) :
    rewritePayloadByte (packetBytes control sequence opcode payload) offset value =
      (packetBytes control sequence opcode (payload.set offset value), true) := by
  have parsed := parseOne_packetBytes control sequence opcode fits []
  rw [append_nil] at parsed
  have length : (UInt16.ofNat payload.length).toNat = payload.length := by
    have small : payload.length < 2 ^ 16 := by
      unfold minPacket maxPacket at fits
      omega
    rw [UInt16.toNat_ofNat', Nat.mod_eq_of_lt small]
  have body : ((packetBytes control sequence opcode payload).set (8 + offset) value).take
      ((packetBytes control sequence opcode payload).length - 2) =
        packetBody control sequence opcode (payload.set offset value) := by
    have front : (packetBytes control sequence opcode payload).length - 2 =
        ((packetBody control sequence opcode payload).set (8 + offset) value).length := by
      rw [length_packetBytes, length_set, length_packetBody]
      rfl
    rw [front]
    unfold packetBytes
    rw [set_append_left _ _ (by rw [length_packetBody]; omega), take_left]
    unfold packetBody
    rw [set_append_right _ _ (by exact Nat.le_add_right 8 offset), length_set]
    exact congrArg (_ ++ payload.set · value) (Nat.add_sub_cancel_left 8 offset)
  unfold rewritePayloadByte
  rw [parsed]
  simp only
  rw [length_packetBytes, length, if_neg (not_or.mpr ⟨not_not.mpr rfl, not_le.mpr inside⟩),
    ← length_packetBytes control sequence opcode payload, body]
  rfl

theorem rewritePayloadByte_cases (packet : Bytes) (offset : Nat) (value : UInt8) :
    rewritePayloadByte packet offset value = (packet, false) ∨
      ∃ parsed after, rewritePayloadByte packet offset value = (after, true) ∧
        parseOne packet = .packet parsed packet.length ∧ offset < parsed.payload.length ∧
        parseOne after =
          .packet { parsed with payload := parsed.payload.set offset value, raw := after }
            packet.length := by
  cases parse : parseOne packet with
  | incomplete =>
    refine .inl ?_
    unfold rewritePayloadByte
    rw [parse]
  | malformed =>
    refine .inl ?_
    unfold rewritePayloadByte
    rw [parse]
  | packet parsed consumed =>
    obtain ⟨same, length, fits, inside, declared, raw⟩ := packetBytes_of_parseOne parse
    by_cases refused : consumed ≠ packet.length ∨ parsed.payloadLength.toNat ≤ offset
    · refine .inl ?_
      unfold rewritePayloadByte
      rw [parse]
      exact if_pos refused
    · obtain ⟨wholeBuffer, within⟩ := not_or.mp refused
      have wholeBuffer := not_not.mp wholeBuffer
      rw [wholeBuffer, take_length] at same raw
      have small : parsed.payload.length < 2 ^ 16 := by
        unfold minPacket at length
        unfold maxPacket at fits
        omega
      have offsetInside : offset < parsed.payload.length := by
        rw [declared, UInt16.toNat_ofNat', Nat.mod_eq_of_lt small] at within
        exact Nat.lt_of_not_le within
      have fitsToo : parsed.payload.length + minPacket ≤ maxPacket := length.le.trans fits
      refine .inr ⟨parsed, packetBytes parsed.control parsed.sequence parsed.opcode
        (parsed.payload.set offset value), ?_, ?_, offsetInside, ?_⟩
      · rw [← same]
        exact rewrite_packetBytes fitsToo offsetInside value
      · rw [wholeBuffer]
      · have fitsAfter : (parsed.payload.set offset value).length + minPacket ≤ maxPacket := by
          rw [length_set]
          exact fitsToo
        have again := parseOne_packetBytes parsed.control parsed.sequence parsed.opcode fitsAfter []
        rw [append_nil, length_set, length, wholeBuffer, ← declared] at again
        exact again

/-! ### The codec -/

/-- Building and parsing are inverse to each other, a part of a packet is not a packet, and a
rewritten packet differs in the one byte. -/
theorem codec_bijective :
    (∀ capacity control sequence opcode payload bytes later,
      build capacity control sequence opcode payload = some bytes →
        parseOne (bytes ++ later) =
          .packet
            { control, sequence, opcode, payload
              payloadLength := UInt16.ofNat payload.length
              raw := bytes }
            bytes.length) ∧
    (∀ data packet consumed capacity, parseOne data = .packet packet consumed →
      consumed ≤ capacity →
        build capacity packet.control packet.sequence packet.opcode packet.payload =
          some (data.take consumed)) ∧
    (∀ capacity control sequence opcode payload bytes start,
      build capacity control sequence opcode payload = some bytes → start <+: bytes →
        start ≠ bytes → parseOne start = .incomplete) ∧
    ∀ packet offset value,
      rewritePayloadByte packet offset value = (packet, false) ∨
        ∃ parsed after, rewritePayloadByte packet offset value = (after, true) ∧
          parseOne packet = .packet parsed packet.length ∧ offset < parsed.payload.length ∧
          parseOne after =
            .packet { parsed with payload := parsed.payload.set offset value, raw := after }
              packet.length := by
  refine ⟨?_, ?_, ?_, ?_⟩
  · intro capacity control sequence opcode payload bytes later isBuilt
    obtain ⟨-, fits, rfl⟩ := build_eq_some.mp isBuilt
    rw [length_packetBytes]
    exact parseOne_packetBytes control sequence opcode fits later
  · intro data packet consumed capacity parsed room
    obtain ⟨same, length, fits, -⟩ := packetBytes_of_parseOne parsed
    exact build_eq_some.mpr ⟨length.le.trans room, length.le.trans fits, same⟩
  · intro capacity control sequence opcode payload bytes start isBuilt isPrefix proper
    obtain ⟨-, fits, rfl⟩ := build_eq_some.mp isBuilt
    exact parseOne_prefix fits isPrefix proper
  · exact rewritePayloadByte_cases

/-! ### The reply that the web server looks for -/

/-- `parse_siyi_reply`, on what is left of a datagram: the payload of the first packet with an
opcode, unless that is longer than its memory. -/
def parseSiyiReply (opcode : UInt8) (replySize : Nat) (response : Bytes) :
    Option Bytes :=
  if response.length < minPacket then none
  else if byteAt response 0 ≠ 0x55 ∨ byteAt response 1 ≠ 0x66 then none
  else
    let size := (getU16le response 3).toNat
    let length := size + minPacket
    if response.length < length then none
    else if byteAt response 7 = opcode ∧
        getU16le response (length - 2) = crc16 (response.take (length - 2)) then
      if replySize < size then none else some ((response.drop 8).take size)
    else parseSiyiReply opcode replySize (response.drop length)
termination_by response.length
decreasing_by rw [List.length_drop]; unfold minPacket at *; omega

theorem parseSiyiReply_packet {data : Bytes} {packet : Packet} {consumed : Nat}
    (parsed : parseOne data = .packet packet consumed) (opcode : UInt8) (replySize : Nat) :
    parseSiyiReply opcode replySize data =
      if packet.opcode = opcode then
        if replySize < packet.payloadLength.toNat then none else some packet.payload
      else parseSiyiReply opcode replySize (data.drop consumed) := by
  unfold parseOne at parsed
  split at parsed
  · cases parsed
  next enough =>
  split at parsed
  · cases parsed
  next header =>
  dsimp only at parsed
  split at parsed
  · cases parsed
  split at parsed
  · cases parsed
  next inside =>
  split at parsed
  · cases parsed
  next checked =>
  obtain ⟨rfl, rfl⟩ := Parse.packet.inj parsed
  rw [parseSiyiReply, if_neg enough, if_neg header]
  rw [if_neg inside]
  simp only [not_not.mp checked, and_true]

/-- A packet that is built, with a payload that fits. -/
structure Sent where
  control : UInt8
  sequence : UInt16
  opcode : UInt8
  payload : Bytes
  fits : payload.length + minPacket ≤ maxPacket

def Sent.bytes (sent : Sent) : Bytes :=
  packetBytes sent.control sent.sequence sent.opcode sent.payload

/-- Among the packets that are built one behind the other, the first with the opcode is found, and
with it its payload; only behind them is anything else looked at. -/
theorem reply_found (opcode : UInt8) (replySize : Nat) (packets : List Sent) (rest : Bytes) :
    parseSiyiReply opcode replySize (packets.flatMap Sent.bytes ++ rest) =
      match packets.find? (·.opcode == opcode) with
      | some sent => if replySize < sent.payload.length then none else some sent.payload
      | none => parseSiyiReply opcode replySize rest := by
  induction packets with
  | nil => rfl
  | cons sent others hypothesis =>
    have parsed := parseOne_packetBytes sent.control sent.sequence sent.opcode sent.fits
      (others.flatMap Sent.bytes ++ rest)
    have size : (UInt16.ofNat sent.payload.length).toNat = sent.payload.length := by
      have fits := sent.fits
      unfold minPacket maxPacket at fits
      rw [UInt16.toNat_ofNat', Nat.mod_eq_of_lt (by omega)]
    rw [List.flatMap_cons, List.append_assoc, Sent.bytes, parseSiyiReply_packet parsed,
      List.find?_cons]
    by_cases own : sent.opcode = opcode
    · rw [if_pos own, beq_iff_eq.mpr own, size]
    · rw [if_neg own, beq_eq_false_iff_ne.mpr own,
        ← length_packetBytes sent.control sent.sequence sent.opcode, List.drop_left,
        hypothesis]

end Siyi
