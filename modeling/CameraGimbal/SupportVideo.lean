/-
This file is about the video publisher of the support link: an access unit is cut
into RTP packets, whole NAL units where they fit and fragments where they do not.

A receiver that puts the payloads together by the rules of the codec's RTP format
gets back exactly the NAL units of every access unit that was sent.
-/

import CameraGimbal.AnnexB
import CameraGimbal.RtpVideo
import CameraGimbal.Siyi

namespace SupportVideo

open AnnexB List
open RtpVideo (forall_uint8)
open Siyi (byteAt)

inductive Codec where
  | h264
  | h265
  deriving DecidableEq, Repr

/-- The size of the longest part of a NAL unit in a packet. -/
def rtpPayload : Nat := 1200

def packetBuffer : Nat := 16 + rtpPayload + 3

structure Frame where
  data : Bytes
  timestamp : UInt32

/-- The publisher. The packets handed to the connection are its history. -/
structure Publisher where
  codec : Codec
  sequence : UInt16
  ssrc : UInt32
  packets : List Bytes

/-! ### Sending -/

/-- The four bytes of a number in network order. -/
def putU32be (value : UInt32) : Bytes :=
  [(value >>> 24).toUInt8, (value >>> 16).toUInt8, (value >>> 8).toUInt8, value.toUInt8]

/-- The packet that `rtp` builds: the interleaved frame's header, the RTP header and the
payload. -/
def rtpPacket (publisher : Publisher) (payload : Bytes) (timestamp : UInt32)
    (marker : Bool) : Bytes :=
  let size := payload.length + 12
  [0x24, 0, UInt8.ofNat (size / 256), UInt8.ofNat size, 0x80,
    96 ||| (if marker then 0x80 else 0), (publisher.sequence >>> 8).toUInt8,
    publisher.sequence.toUInt8] ++
    putU32be timestamp ++ putU32be publisher.ssrc ++ payload

/-- Whether the last of the packets handed to the connection was transferred, before the
deadline and without an error. -/
abbrev Connection := List Bytes → Bool

variable (transferred : Connection)

def rtp (publisher : Publisher) (payload : Bytes) (timestamp : UInt32) (marker : Bool) :
    Publisher × Bool :=
  let after :=
    { publisher with
      sequence := publisher.sequence + 1
      packets := publisher.packets ++ [rtpPacket publisher payload timestamp marker] }
  (after, transferred after.packets)

/-- The header of a fragment: the type of the NAL unit, the start bit and the end bit. -/
def fuHeader (type : UInt8) (isStart isEnd : Bool) : UInt8 :=
  type ||| (if isStart then 0x80 else 0) ||| (if isEnd then 0x40 else 0)

/-- The fragments of a NAL unit from a position on. -/
def sendFragments (publisher : Publisher) (data indicator : Bytes) (type : UInt8)
    (header : Nat) (timestamp : UInt32) (last : Bool) (position : Nat) : Publisher × Bool :=
  if position < data.length then
    let chunk :=
      if data.length - position < rtpPayload then data.length - position else rtpPayload
    let isEnd := decide (position + chunk = data.length)
    let fragment := indicator ++ [fuHeader type (decide (position = header)) isEnd] ++
      (data.drop position).take chunk
    let sent := rtp transferred publisher fragment timestamp (isEnd && last)
    if sent.2 then
      sendFragments sent.1 data indicator type header timestamp last (position + chunk)
    else (sent.1, false)
  else (publisher, true)
termination_by data.length - position
decreasing_by
  have positive : 0 < rtpPayload := by decide
  split <;> omega

def headerSize : Codec → Nat
  | .h264 => 1
  | .h265 => 2

/-- The type of a NAL unit, read from its first byte. -/
def unitType (codec : Codec) (first : UInt8) : UInt8 :=
  match codec with
  | .h264 => first &&& 31
  | .h265 => (first >>> 1) &&& 63

/-- The first bytes of a fragment: the header of the NAL unit with the type of a fragment. -/
def fuIndicator (codec : Codec) (data : Bytes) : Bytes :=
  match codec with
  | .h264 => [(byteAt data 0 &&& 0xe0) ||| 28]
  | .h265 => [(byteAt data 0 &&& 0x81) ||| ((49 : UInt8) <<< (1 : UInt8)), byteAt data 1]

/-- One NAL unit: whole when it fits, in fragments when it does not. -/
def sendNal (publisher : Publisher) (data : Bytes) (timestamp : UInt32) (last : Bool) :
    Publisher × Bool :=
  if data.length ≤ rtpPayload then rtp transferred publisher data timestamp last
  else
    sendFragments transferred publisher data (fuIndicator publisher.codec data)
      (unitType publisher.codec (byteAt data 0)) (headerSize publisher.codec) timestamp last
      (headerSize publisher.codec)

/-- The NAL units of the rest of a frame. -/
def sendNals (publisher : Publisher) (data : Bytes) (timestamp : UInt32) :
    Publisher × Bool :=
  match _next : annexbNext data with
  | none => (publisher, true)
  | some (nal, rest) =>
    if nal = [] then sendNals publisher rest timestamp
    else
      let sent := sendNal transferred publisher nal timestamp (annexbNext rest).isNone
      if sent.2 then sendNals sent.1 rest timestamp else (sent.1, false)
termination_by data.length
decreasing_by all_goals exact annexbNext_shrinks _next

def sendFrame (publisher : Publisher) (frame : Frame) : Publisher × Bool :=
  sendNals transferred publisher frame.data frame.timestamp

/-- What came of a frame: the packets handed to the connection for it, and whether sending it
succeeded. -/
structure Outcome where
  frame : Frame
  packets : List Bytes
  succeeded : Bool

/-- The frames of a publisher, one after another. -/
def sendFrames (publisher : Publisher) : List Frame → List Outcome
  | [] => []
  | frame :: rest =>
    let sent := sendFrame transferred publisher frame
    { frame := frame
      packets := sent.1.packets.drop publisher.packets.length
      succeeded := sent.2 } :: sendFrames sent.1 rest

/-! ### Receiving -/

def payloadOf (packet : Bytes) : Bytes :=
  packet.drop 16

def sequenceOf (packet : Bytes) : UInt16 :=
  UInt16.ofNat ((byteAt packet 6).toNat * 256 + (byteAt packet 7).toNat)

def timestampOf (packet : Bytes) : UInt32 :=
  UInt32.ofNat ((byteAt packet 8).toNat * 16777216 + (byteAt packet 9).toNat * 65536 +
    (byteAt packet 10).toNat * 256 + (byteAt packet 11).toNat)

def fragmentType : Codec → UInt8
  | .h264 => 28
  | .h265 => 49

/-- The types that an RTP payload uses for itself: aggregations and fragments. -/
def IsPacketType (codec : Codec) (type : UInt8) : Prop :=
  match codec with
  | .h264 => 24 ≤ type ∧ type ≤ 29
  | .h265 => type = 48 ∨ type = 49

instance (codec : Codec) (type : UInt8) : Decidable (IsPacketType codec type) :=
  match codec with
  | .h264 => inferInstanceAs (Decidable (_ ∧ _))
  | .h265 => inferInstanceAs (Decidable (_ ∨ _))

def restoredHeader (codec : Codec) (payload : Bytes) : Bytes :=
  match codec with
  | .h264 => [(byteAt payload 0 &&& 0xe0) ||| (byteAt payload 1 &&& 0x1f)]
  | .h265 =>
    [(byteAt payload 0 &&& 0x81) ||| ((byteAt payload 2 &&& 0x3f) <<< (1 : UInt8)),
      byteAt payload 1]

/-- A receiver: the NAL units it has, and the one whose fragments it is collecting. -/
structure Receiver where
  units : List Bytes
  collecting : Option Bytes
  deriving DecidableEq

/-- A fragment: the start bit begins a NAL unit, the end bit completes it. A NAL unit just above
the limit comes in one fragment that has both. -/
def Receiver.takeFragment (receiver : Receiver) (codec : Codec) (payload : Bytes) :
    Option Receiver :=
  let fuHeader := byteAt payload (headerSize codec)
  let content := payload.drop (headerSize codec + 1)
  let collected :=
    if fuHeader &&& 0x80 ≠ 0 then
      if receiver.collecting = none then some (restoredHeader codec payload ++ content) else none
    else receiver.collecting.map (· ++ content)
  collected.map fun unit =>
    if fuHeader &&& 0x40 ≠ 0 then
      { receiver with units := receiver.units ++ [unit], collecting := none }
    else { receiver with collecting := some unit }

/-- A payload: a fragment, or a whole NAL unit, which does not come between fragments. -/
def Receiver.take (codec : Codec) (receiver : Receiver) (payload : Bytes) :
    Option Receiver :=
  let type := unitType codec (byteAt payload 0)
  if type = fragmentType codec then receiver.takeFragment codec payload
  else if IsPacketType codec type ∨ receiver.collecting ≠ none then none
  else some { receiver with units := receiver.units ++ [payload] }

/-- The NAL units in a sequence of payloads, if it is one of whole NAL units and complete
fragments. -/
def depacketize (codec : Codec) (payloads : List Bytes) : Option (List Bytes) :=
  match payloads.foldlM (Receiver.take codec) ⟨[], none⟩ with
  | some ⟨units, none⟩ => some units
  | _ => none

/-! ### A packet is read back -/

variable (publisher : Publisher) (payload : Bytes) (timestamp : UInt32) (marker : Bool)

theorem length_rtpPacket :
    (rtpPacket publisher payload timestamp marker).length = payload.length + 16 := rfl

theorem sequenceOf_rtpPacket :
    sequenceOf (rtpPacket publisher payload timestamp marker) = publisher.sequence := by
  have small := publisher.sequence.toNat_lt
  have read : sequenceOf (rtpPacket publisher payload timestamp marker) =
      UInt16.ofNat ((publisher.sequence >>> 8).toUInt8.toNat * 256 +
        publisher.sequence.toUInt8.toNat) := rfl
  rw [read]
  refine UInt16.toNat_inj.mp ?_
  simp only [UInt16.toNat_ofNat', UInt16.toNat_toUInt8, UInt16.toNat_shiftRight,
    UInt16.toNat_ofNat, Nat.shiftRight_eq_div_pow, Nat.reduceMod, Nat.reducePow]
  omega

theorem timestampOf_rtpPacket :
    timestampOf (rtpPacket publisher payload timestamp marker) = timestamp := by
  have small := timestamp.toNat_lt
  have read : timestampOf (rtpPacket publisher payload timestamp marker) =
      UInt32.ofNat ((timestamp >>> 24).toUInt8.toNat * 16777216 +
        (timestamp >>> 16).toUInt8.toNat * 65536 + (timestamp >>> 8).toUInt8.toNat * 256 +
        timestamp.toUInt8.toNat) := rfl
  rw [read]
  refine UInt32.toNat_inj.mp ?_
  simp only [UInt32.toNat_ofNat', UInt32.toNat_toUInt8, UInt32.toNat_shiftRight,
    UInt32.toNat_ofNat, Nat.shiftRight_eq_div_pow, Nat.reduceMod, Nat.reducePow]
  omega

/-! ### What sending adds -/

/-- The packets carry consecutive sequence numbers from `first` on, and `next` follows them. -/
def Numbered (first : UInt16) (packets : List Bytes) (next : UInt16) : Prop :=
  match packets with
  | [] => next = first
  | packet :: rest => sequenceOf packet = first ∧ Numbered (first + 1) rest next

theorem Numbered.append {first middle next : UInt16} {packets later : List (Bytes)}
    (numbered : Numbered first packets middle) (goesOn : Numbered middle later next) :
    Numbered first (packets ++ later) next := by
  induction packets generalizing first with
  | nil =>
    obtain rfl : middle = first := numbered
    exact goesOn
  | cons packet rest hypothesis =>
    obtain ⟨own, numbered⟩ := numbered
    exact ⟨own, hypothesis numbered⟩

/-- Between two states of the publisher the packets `new` were handed to the connection, all of
them with the timestamp, consecutively numbered, and within the buffer. -/
structure Emits (before after : Publisher) (timestamp : UInt32) (new : List Bytes) :
    Prop where
  codec : after.codec = before.codec
  packets : after.packets = before.packets ++ new
  numbered : Numbered before.sequence new after.sequence
  stamped : ∀ packet ∈ new, timestampOf packet = timestamp ∧ packet.length ≤ packetBuffer

theorem Emits.refl (publisher : Publisher) (timestamp : UInt32) :
    Emits publisher publisher timestamp [] :=
  ⟨rfl, (append_nil _).symm, rfl, nofun⟩

theorem Emits.trans {first second third : Publisher} {timestamp : UInt32}
    {new later : List (Bytes)} (emits : Emits first second timestamp new)
    (goesOn : Emits second third timestamp later) : Emits first third timestamp (new ++ later) where
  codec := goesOn.codec.trans emits.codec
  packets := by rw [goesOn.packets, emits.packets, append_assoc]
  numbered := emits.numbered.append goesOn.numbered
  stamped := fun packet member =>
    (mem_append.mp member).elim (emits.stamped packet) (goesOn.stamped packet)

theorem rtp_emits (publisher : Publisher) {payload : Bytes} (timestamp : UInt32)
    (marker : Bool) (fits : payload.length ≤ rtpPayload + 3) :
    ∃ packet, Emits publisher (rtp transferred publisher payload timestamp marker).1 timestamp
      [packet] ∧ payloadOf packet = payload := by
  refine ⟨rtpPacket publisher payload timestamp marker, ⟨rfl, rfl, ⟨?_, rfl⟩, ?_⟩, rfl⟩
  · exact sequenceOf_rtpPacket publisher payload timestamp marker
  · rw [forall_mem_singleton, length_rtpPacket]
    refine ⟨timestampOf_rtpPacket publisher payload timestamp marker, ?_⟩
    unfold packetBuffer
    omega

/-! ### Fragments are put together again -/

theorem fu_h264 (first : UInt8) : ∀ isStart isEnd,
    let indicator := (first &&& 0xe0) ||| 28
    let header := fuHeader (unitType .h264 first) isStart isEnd
    unitType .h264 indicator = 28 ∧
      (indicator &&& 0xe0) ||| (header &&& 0x1f) = first ∧
      (header &&& 0x80 ≠ 0 ↔ isStart = true) ∧ (header &&& 0x40 ≠ 0 ↔ isEnd = true) := by
  revert first
  exact forall_uint8 (by decide +kernel)

theorem fu_h265 (first : UInt8) : ∀ isStart isEnd,
    let indicator := (first &&& 0x81) ||| ((49 : UInt8) <<< (1 : UInt8))
    let header := fuHeader (unitType .h265 first) isStart isEnd
    unitType .h265 indicator = 49 ∧
      (indicator &&& 0x81) ||| ((header &&& 0x3f) <<< (1 : UInt8)) = first ∧
      (header &&& 0x80 ≠ 0 ↔ isStart = true) ∧ (header &&& 0x40 ≠ 0 ↔ isEnd = true) := by
  revert first
  exact forall_uint8 (by decide +kernel)

variable (codec : Codec) (data : Bytes)

theorem take_header (whole : headerSize codec ≤ data.length) :
    data.take (headerSize codec) =
      match codec with
      | .h264 => [byteAt data 0]
      | .h265 => [byteAt data 0, byteAt data 1] := by
  cases codec with
  | h264 =>
    match data, whole with
    | first :: rest, _ => rfl
  | h265 =>
    match data, whole with
    | first :: second :: rest, _ => rfl

/-- The fragment of a NAL unit that carries `chunk`. -/
def fragmentOf (codec : Codec) (data : Bytes) (isStart isEnd : Bool) (chunk : Bytes) :
    Bytes :=
  fuIndicator codec data ++ [fuHeader (unitType codec (byteAt data 0)) isStart isEnd] ++ chunk

theorem fragmentOf_read (codec : Codec) (data chunk : Bytes)
    (whole : headerSize codec ≤ data.length) (isStart isEnd : Bool) :
    let payload := fragmentOf codec data isStart isEnd chunk
    unitType codec (byteAt payload 0) = fragmentType codec ∧
      restoredHeader codec payload = data.take (headerSize codec) ∧
      (byteAt payload (headerSize codec) &&& 0x80 ≠ 0 ↔ isStart = true) ∧
      (byteAt payload (headerSize codec) &&& 0x40 ≠ 0 ↔ isEnd = true) ∧
      payload.drop (headerSize codec + 1) = chunk := by
  rw [take_header codec data whole]
  cases codec with
  | h264 =>
    obtain ⟨type, header, start, stop⟩ := fu_h264 (byteAt data 0) isStart isEnd
    exact ⟨type, congrArg (fun first => [first]) header, start, stop, rfl⟩
  | h265 =>
    obtain ⟨type, header, start, stop⟩ := fu_h265 (byteAt data 0) isStart isEnd
    exact ⟨type, congrArg (fun first => [first, byteAt data 1]) header, start, stop, rfl⟩

theorem length_fragmentOf (isStart isEnd : Bool)
    {chunk : Bytes} (fits : chunk.length ≤ rtpPayload) :
    (fragmentOf codec data isStart isEnd chunk).length ≤ rtpPayload + 3 := by
  unfold fragmentOf
  rw [length_append]
  cases codec <;> simp only [fuIndicator, length_append, length_cons, length_nil] <;>
    omega

theorem take_fragmentOf (codec : Codec) (data chunk : Bytes)
    (whole : headerSize codec ≤ data.length) (receiver : Receiver) (isStart isEnd : Bool) :
    receiver.take codec (fragmentOf codec data isStart isEnd chunk) =
      (if isStart = true then
          if receiver.collecting = none then some (data.take (headerSize codec) ++ chunk)
          else none
        else receiver.collecting.map (· ++ chunk)).map fun unit =>
        if isEnd = true then { receiver with units := receiver.units ++ [unit], collecting := none }
        else { receiver with collecting := some unit } := by
  obtain ⟨type, header, start, stop, content⟩ :=
    fragmentOf_read codec data chunk whole isStart isEnd
  unfold Receiver.take Receiver.takeFragment
  rw [if_pos type, header, content]
  simp only [start, stop]

/-- What a receiver has collected of a NAL unit when its fragments have been sent up to a
position. -/
def collected (codec : Codec) (data : Bytes) (position : Nat) : Option Bytes :=
  if position = headerSize codec then none else some (data.take position)

/-- A receiver adds the next chunk to what it has collected. -/
theorem take_chunk (units : List Bytes)
    {position chunk : Nat} (behind : headerSize codec ≤ position)
    (inside : position + chunk ≤ data.length) (positive : 0 < chunk) :
    Receiver.take codec ⟨units, collected codec data position⟩
        (fragmentOf codec data (decide (position = headerSize codec))
          (decide (position + chunk = data.length)) ((data.drop position).take chunk)) =
      some (if position + chunk = data.length then ⟨units ++ [data], none⟩
        else ⟨units, collected codec data (position + chunk)⟩) := by
  have grown : data.take position ++ (data.drop position).take chunk =
      data.take (position + chunk) := take_add.symm
  have later : collected codec data (position + chunk) = some (data.take (position + chunk)) :=
    if_neg (by omega)
  rw [take_fragmentOf codec data _ (by omega), later]
  simp only [decide_eq_true_eq]
  have unit : (if position = headerSize codec then
        if collected codec data position = none then
          some (data.take (headerSize codec) ++ (data.drop position).take chunk)
        else none
      else (collected codec data position).map (· ++ (data.drop position).take chunk)) =
        some (data.take (position + chunk)) := by
    unfold collected
    by_cases first : position = headerSize codec
    · rw [if_pos first, if_pos first, if_pos rfl, ← first, grown]
    · rw [if_neg first, if_neg first, Option.map_some, grown]
  rw [unit, Option.map_some]
  by_cases ends : position + chunk = data.length
  · rw [if_pos ends, if_pos ends, ends, take_length]
  · rw [if_neg ends, if_neg ends]

theorem sendFragments_emits (timestamp : UInt32)
    (last : Bool) (publisher : Publisher) (position : Nat)
    (behind : headerSize codec ≤ position) (inside : position < data.length) :
    let sent := sendFragments transferred publisher data (fuIndicator codec data)
      (unitType codec (byteAt data 0)) (headerSize codec) timestamp last position
    ∃ new, Emits publisher sent.1 timestamp new ∧
      (sent.2 = true → ∀ units, (new.map payloadOf).foldlM (Receiver.take codec)
        ⟨units, collected codec data position⟩ = some ⟨units ++ [data], none⟩) := by
  induction remaining : data.length - position using Nat.strongRecOn
    generalizing publisher position with
  | _ remaining' hypothesis =>
    have positive : 0 < rtpPayload := by decide
    obtain ⟨chunk, isChunk⟩ : ∃ chunk, chunk =
      if data.length - position < rtpPayload then data.length - position else rtpPayload := ⟨_, rfl⟩
    have bounds : 0 < chunk ∧ chunk ≤ rtpPayload ∧ position + chunk ≤ data.length := by
      rw [isChunk]
      split <;> omega
    obtain ⟨chunkPos, fits, within⟩ := bounds
    have short : ((data.drop position).take chunk).length ≤ rtpPayload :=
      (length_take_le _ _).trans fits
    have taken (units : List Bytes) := take_chunk codec data units behind within chunkPos
    obtain ⟨packet, one, carried⟩ := rtp_emits transferred publisher timestamp
      (decide (position + chunk = data.length) && last)
      (length_fragmentOf codec data (decide (position = headerSize codec))
        (decide (position + chunk = data.length)) short)
    rw [sendFragments, if_pos inside]
    simp only [← isChunk]
    split
    · next succeeded =>
      by_cases ends : position + chunk = data.length
      · -- the last fragment completes the NAL unit
        rw [sendFragments, if_neg (by omega)]
        refine ⟨[packet], one, fun _ units => ?_⟩
        rw [map_singleton, foldlM_cons, carried, taken, if_pos ends]
        rfl
      · obtain ⟨new, emits, completes⟩ := hypothesis (data.length - (position + chunk))
          (by omega) (rtp transferred publisher _ timestamp
            (decide (position + chunk = data.length) && last)).1 (position + chunk) (by omega)
          (by omega) rfl
        refine ⟨[packet] ++ new, one.trans emits, fun sent units => ?_⟩
        rw [map_append, map_singleton, singleton_append, foldlM_cons, carried, taken, if_neg ends]
        exact completes sent units
    · exact ⟨[packet], one, nofun⟩

theorem sendNal_emits (publisher : Publisher) (data : Bytes) (timestamp : UInt32)
    (last : Bool) :
    let sent := sendNal transferred publisher data timestamp last
    ∃ new, Emits publisher sent.1 timestamp new ∧
      (sent.2 = true → ¬ IsPacketType publisher.codec (unitType publisher.codec (byteAt data 0)) →
        ∀ units, (new.map payloadOf).foldlM (Receiver.take publisher.codec) ⟨units, none⟩ =
          some ⟨units ++ [data], none⟩) := by
  unfold sendNal
  split
  · next fits =>
    obtain ⟨packet, one, carried⟩ := rtp_emits transferred publisher timestamp
      last (show data.length ≤ rtpPayload + 3 by omega)
    refine ⟨[packet], one, fun _ ordinary units => ?_⟩
    have notFragment : unitType publisher.codec (byteAt data 0) ≠ fragmentType publisher.codec := by
      intro isFragment
      rw [isFragment] at ordinary
      cases found : publisher.codec <;> rw [found] at ordinary <;> exact absurd (by decide) ordinary
    have whole : Receiver.take publisher.codec ⟨units, none⟩ data =
        some ⟨units ++ [data], none⟩ := by
      unfold Receiver.take
      rw [if_neg notFragment, if_neg (not_or.mpr ⟨ordinary, not_not.mpr rfl⟩)]
    rw [map_singleton, foldlM_cons, carried, whole]
    rfl
  · next long =>
    have header : headerSize publisher.codec < data.length := by
      have small : headerSize publisher.codec ≤ rtpPayload := by
        cases publisher.codec <;> decide
      omega
    obtain ⟨new, emits, completes⟩ := sendFragments_emits transferred
      publisher.codec data timestamp last publisher _ le_rfl header
    refine ⟨new, emits, fun sent _ units => ?_⟩
    have started := completes sent units
    rwa [collected, if_pos rfl] at started

theorem sendNals_emits (publisher : Publisher) (data : Bytes) (timestamp : UInt32) :
    let sent := sendNals transferred publisher data timestamp
    ∃ new, Emits publisher sent.1 timestamp new ∧
      (sent.2 = true →
        (∀ nal ∈ nalUnits data, nal ≠ [] →
          ¬ IsPacketType publisher.codec (unitType publisher.codec (byteAt nal 0))) →
        ∀ units, (new.map payloadOf).foldlM (Receiver.take publisher.codec) ⟨units, none⟩ =
          some ⟨units ++ (nalUnits data).filter (· ≠ []), none⟩) := by
  induction remaining : data.length using Nat.strongRecOn generalizing publisher data with
  | _ remaining' hypothesis =>
    rw [sendNals]
    split
    · next next =>
      rw [nalUnits_of_none next]
      refine ⟨[], .refl publisher timestamp, fun _ _ units => ?_⟩
      rw [filter_nil, append_nil]
      rfl
    next nal rest next =>
    have shrinks := annexbNext_shrinks next
    rw [nalUnits_of_some next]
    split
    · next empty =>
      obtain ⟨new, emits, completes⟩ := hypothesis rest.length (by omega) publisher rest rfl
      refine ⟨new, emits, fun sent ordinary units => ?_⟩
      rw [filter_cons_of_neg (by simp [empty])]
      exact completes sent (fun other member => ordinary other (mem_cons_of_mem nal member)) units
    next nonempty =>
    obtain ⟨own, ownEmits, ownCompletes⟩ := sendNal_emits transferred publisher
      nal timestamp (annexbNext rest).isNone
    simp only
    split
    · next succeeded =>
      obtain ⟨new, emits, completes⟩ := hypothesis rest.length (by omega)
        (sendNal transferred publisher nal timestamp (annexbNext rest).isNone).1 rest rfl
      refine ⟨own ++ new, ownEmits.trans emits, fun sent ordinary units => ?_⟩
      rw [ownEmits.codec] at completes
      rw [map_append, foldlM_append,
        ownCompletes succeeded (ordinary nal mem_cons_self nonempty) units,
        filter_cons_of_pos (by simp [nonempty]),
        append_cons units nal (filter _ _)]
      exact completes sent (fun other member => ordinary other (mem_cons_of_mem nal member)) _
    · exact ⟨own, ownEmits, nofun⟩

/-! ### The frames of a run -/

/-- An access unit: NAL units behind start codes, none of them of a type that an RTP payload uses
for itself. -/
structure AccessUnit (codec : Codec) where
  units : List (StartCode × NalUnit)
  ordinary : ∀ unit ∈ units, ¬ IsPacketType codec (unitType codec (byteAt unit.2.bytes 0))

def AccessUnit.nals {codec : Codec} (accessUnit : AccessUnit codec) : List Bytes :=
  accessUnit.units.map fun unit => unit.2.bytes

def AccessUnit.bytes {codec : Codec} (accessUnit : AccessUnit codec) : Bytes :=
  encode accessUnit.units

theorem nalUnits_bytes {codec : Codec} (accessUnit : AccessUnit codec) :
    nalUnits accessUnit.bytes = accessUnit.nals :=
  nalUnits_encode accessUnit.units

theorem AccessUnit.ordinary_nals {codec : Codec} (accessUnit : AccessUnit codec) :
    ∀ nal ∈ accessUnit.nals, nal ≠ [] ∧ ¬ IsPacketType codec (unitType codec (byteAt nal 0)) := by
  intro nal member
  obtain ⟨unit, inside, rfl⟩ := mem_map.mp member
  exact ⟨unit.2.nonempty, accessUnit.ordinary unit inside⟩

theorem sendFrame_emits (publisher : Publisher) (frame : Frame) :
    let sent := sendFrame transferred publisher frame
    ∃ new, Emits publisher sent.1 frame.timestamp new ∧
      ∀ accessUnit : AccessUnit publisher.codec, frame.data = accessUnit.bytes →
        sent.2 = true → depacketize publisher.codec (new.map payloadOf) = some accessUnit.nals := by
  obtain ⟨new, emits, completes⟩ := sendNals_emits transferred publisher frame.data frame.timestamp
  refine ⟨new, emits, fun accessUnit whole sent => ?_⟩
  have nals := accessUnit.ordinary_nals
  have kept : accessUnit.nals.filter (· ≠ []) = accessUnit.nals :=
    filter_eq_self.mpr fun nal member => decide_eq_true (nals nal member).1
  unfold sendFrame at sent
  rw [whole] at sent completes
  rw [nalUnits_bytes] at completes
  unfold depacketize
  rw [completes sent (fun nal member _ => (nals nal member).2) [], kept, nil_append]

/-- Whatever frames a publisher is given and whatever the connection takes: the payloads of an
access unit whose sending succeeds give back its NAL units, every packet carries the timestamp
of its frame and fits into the buffer, and the packets of all the frames are numbered
consecutively. -/
theorem frames_packetized (transferred : Connection) (publisher : Publisher)
    (frames : List Frame) :
    let outcomes := sendFrames transferred publisher frames
    outcomes.map Outcome.frame = frames ∧
      (∀ outcome ∈ outcomes,
        (∀ accessUnit : AccessUnit publisher.codec, outcome.frame.data = accessUnit.bytes →
          outcome.succeeded = true →
          depacketize publisher.codec (outcome.packets.map payloadOf) = some accessUnit.nals) ∧
        ∀ packet ∈ outcome.packets,
          timestampOf packet = outcome.frame.timestamp ∧ packet.length ≤ packetBuffer) ∧
      ∃ next, Numbered publisher.sequence (outcomes.flatMap Outcome.packets) next := by
  induction frames generalizing publisher with
  | nil => exact ⟨rfl, nofun, _, rfl⟩
  | cons frame rest hypothesis =>
    obtain ⟨new, emits, completes⟩ := sendFrame_emits transferred publisher frame
    obtain ⟨sameFrames, others, next, numbered⟩ :=
      hypothesis (sendFrame transferred publisher frame).1
    rw [emits.codec] at others
    have own : (sendFrame transferred publisher frame).1.packets.drop publisher.packets.length =
        new := by
      rw [emits.packets, List.drop_left]
    unfold sendFrames
    simp only [own]
    refine ⟨congrArg (frame :: ·) sameFrames, ?_, next, ?_⟩
    · exact List.forall_mem_cons.mpr ⟨⟨completes, emits.stamped⟩, others⟩
    · rw [List.flatMap_cons]
      exact emits.numbered.append numbered

end SupportVideo
