/-
This file is about the receiver of the video of the Z1-Mini: it puts the access units together from
the RTP packets of the camera's own encoder.

Reading a packet beyond its end is a fault of the model. No packet raises one in any state, and the
unit that is put together never outgrows its buffer.
-/

import CameraGimbal.Bytes
import Mathlib.Data.List.Basic

namespace Z1Rtp

open List

/-- The size of the buffer for a unit. -/
def frameMax : Nat := 4 * 1024 * 1024

/-- A unit that was handed on. -/
structure Emission where
  frame : Bytes
  pts : UInt64
  key : Bool
  deriving DecidableEq, Repr

/-- `struct ca_z1_rtp`. The frame is the part of the buffer in use. The units that were handed on
are its history. -/
structure Rtp where
  frame : Bytes
  parameters : Bytes
  sequence : UInt16
  timestamp : UInt32
  lastTimestamp : UInt32
  ticks : UInt64
  haveSequence : Bool
  haveTimestamp : Bool
  emitted : Bool
  fu : Bool
  damaged : Bool
  key : Bool
  waitKey : Bool
  consumed : List Emission
  deriving DecidableEq, Repr

/-- The receiver of a stream with these parameter sets. -/
def Rtp.init (parameters : Bytes) : Rtp where
  frame := []
  parameters
  sequence := 0
  timestamp := 0
  lastTimestamp := 0
  ticks := 0
  haveSequence := false
  haveTimestamp := false
  emitted := false
  fu := false
  damaged := false
  key := false
  waitKey := true
  consumed := []

/-! ### Reading -/

/-- A byte is read at or past the end. -/
inductive Fault where
  | overread
  deriving DecidableEq, Repr

def fetch (bytes : Bytes) (index : Nat) : Except Fault UInt8 :=
  match bytes[index]? with
  | some byte => .ok byte
  | none => .error .overread

def be16 (bytes : Bytes) (index : Nat) : Except Fault Nat := do
  let high ← fetch bytes index
  let low ← fetch bytes (index + 1)
  .ok (high.toNat * 256 + low.toNat)

def be32 (bytes : Bytes) (index : Nat) : Except Fault UInt32 := do
  let high ← be16 bytes index
  let low ← be16 bytes (index + 2)
  .ok (UInt32.ofNat (high * 65536) ||| UInt32.ofNat low)

def copy (bytes : Bytes) (offset count : Nat) : Except Fault Bytes :=
  if offset + count ≤ bytes.length then .ok ((bytes.drop offset).take count)
  else .error .overread

/-! ### The payload of a packet -/

/-- The offset behind the extension of the header. -/
def extensionEnd (packet : Bytes) (flags : UInt8) (offset : Nat) :
    Except Fault (Option Nat) :=
  if flags &&& 16 ≠ 0 then
    if packet.length - offset < 4 then .ok none
    else do
      let words ← be16 packet (offset + 2)
      .ok (some (offset + (4 + 4 * words)))
  else .ok (some offset)

/-- The length without the padding. -/
def paddingStart (packet : Bytes) (flags : UInt8) : Except Fault (Option Nat) :=
  if flags &&& 32 ≠ 0 then do
    let pad ← fetch packet (packet.length - 1)
    if pad = 0 ∨ packet.length < pad.toNat then .ok none
    else .ok (some (packet.length - pad.toNat))
  else .ok (some packet.length)

/-- The payload; nothing when the packet is not one. -/
def payloadOf (packet : Bytes) : Except Fault (Option Bytes) :=
  if packet.length < 12 then .ok none
  else do
    let flags ← fetch packet 0
    if flags >>> 6 ≠ 2 then .ok none
    else if packet.length < 12 + 4 * (flags &&& 15).toNat then .ok none
    else
      match ← extensionEnd packet flags (12 + 4 * (flags &&& 15).toNat) with
      | none => .ok none
      | some offset =>
        match ← paddingStart packet flags with
        | none => .ok none
        | some length =>
          if length ≤ offset then .ok none
          else do
            let payload ← copy packet offset (length - offset)
            .ok (some payload)

/-! ### Putting a unit together -/

namespace Rtp

/-- `bad`: what is left of the unit is damaged, and a key unit is waited for. -/
def bad (s : Rtp) : Rtp := { s with damaged := true, waitKey := true, fu := false }

/-- A packet is missing when the sequence number does not follow. -/
def noteSequence (s : Rtp) (sequence : UInt16) : Rtp :=
  let noted := if s.haveSequence ∧ sequence ≠ s.sequence + 1 then s.bad else s
  { noted with sequence, haveSequence := true }

/-- Another timestamp begins another unit. -/
def noteTimestamp (s : Rtp) (timestamp : UInt32) : Rtp :=
  let noted :=
    if s.haveTimestamp ∧ timestamp ≠ s.timestamp then
      { s with
        waitKey := s.waitKey || s.frame ≠ []
        frame := []
        fu := false
        key := false
        damaged := false }
    else s
  { noted with timestamp, haveTimestamp := true }

/-- `append`; false when there is no room. -/
def append (s : Rtp) (bytes : Bytes) (start : Bool) : Rtp × Bool :=
  if frameMax - s.frame.length < bytes.length + (if start then 4 else 0) then (s, false)
  else if start then
    ({ s with
        frame := s.frame ++ [0, 0, 0, 1] ++ bytes
        key := s.key || bytes.head?.any fun first => first &&& 31 = 5 },
      true)
  else ({ s with frame := s.frame ++ bytes }, true)

/-- The NAL units of an aggregate from a position on. -/
def stap (s : Rtp) (payload : Bytes) (position : Nat) : Except Fault (Rtp × Bool) :=
  if position < payload.length then
    if payload.length - position < 2 then .ok (s, false)
    else do
      let size ← be16 payload position
      if size = 0 ∨ payload.length - (position + 2) < size then .ok (s, false)
      else do
        let first ← fetch payload (position + 2)
        if first &&& 31 = 0 ∨ first &&& 31 > 23 then .ok (s, false)
        else do
          let nal ← copy payload (position + 2) size
          match s.append nal true with
          | (s, false) => .ok (s, false)
          | (s, true) => stap s payload (position + 2 + size)
  else .ok (s, true)
termination_by payload.length - position

/-- The start bit begins a NAL unit; otherwise one has to be open. -/
def beginFragment (s : Rtp) (indicator header : UInt8) : Rtp × Bool :=
  if header &&& 128 ≠ 0 then
    if s.fu then (s, false)
    else
      match s.append [(indicator &&& 0xe0) ||| (header &&& 31)] true with
      | (s, false) => (s, false)
      | (s, true) => ({ s with fu := true }, true)
  else (s, s.fu)

/-- A fragment of a NAL unit. -/
def fragment (s : Rtp) (payload : Bytes) (indicator header : UInt8) :
    Except Fault (Rtp × Bool) :=
  if header &&& 0xc0 = 0xc0 ∨ header &&& 0x20 ≠ 0 then .ok (s, false)
  else
    match s.beginFragment indicator header with
    | (s, false) => .ok (s, false)
    | (s, true) => do
      let data ← copy payload 2 (payload.length - 2)
      match s.append data false with
      | (s, false) => .ok (s, false)
      | (s, true) => .ok ({ s with fu := s.fu && header &&& 64 = 0 }, true)

/-- The payload of a packet, by its type. -/
def assemble (s : Rtp) (payload : Bytes) : Except Fault (Rtp × Bool) := do
  let first ← fetch payload 0
  if 1 ≤ first &&& 31 ∧ first &&& 31 ≤ 23 then
    if s.fu then .ok (s, false) else .ok (s.append payload true)
  else if first &&& 31 = 24 then
    if s.fu then .ok (s, false) else s.stap payload 1
  else if first &&& 31 = 28 ∧ 3 ≤ payload.length then do
    let header ← fetch payload 1
    if 1 ≤ header &&& 31 ∧ header &&& 31 ≤ 23 then s.fragment payload first header
    else .ok (s, false)
  else .ok (s, false)

/-- The clock of the emitted units, in ticks of the stream. -/
def nextTicks (s : Rtp) (timestamp : UInt32) : UInt64 :=
  if s.emitted then s.ticks + (timestamp - s.lastTimestamp).toUInt64 else s.ticks

/-- A unit is handed on, a key unit behind the parameter sets. -/
def emit (s : Rtp) (timestamp : UInt32) : Rtp :=
  { s with
    ticks := s.nextTicks timestamp
    lastTimestamp := timestamp
    emitted := true
    waitKey := false
    consumed := s.consumed ++
      [{ frame := if s.key then s.parameters ++ s.frame else s.frame
         pts := s.nextTicks timestamp * 1000000 / 90000
         key := s.key }] }

/-- Nothing of a unit is left. -/
def reset (s : Rtp) : Rtp := { s with frame := [], key := false, damaged := false }

/-- The last packet of a unit. -/
def finish (s : Rtp) (timestamp : UInt32) : Rtp × Bool :=
  if s.fu then (s, false)
  else if ¬ s.damaged ∧ s.frame ≠ [] ∧ (¬ s.waitKey ∨ s.key) then
    if s.key ∧ frameMax - s.frame.length < s.parameters.length then (s, false)
    else ((s.emit timestamp).reset, true)
  else (s.reset, true)

/-- What is done with a payload. -/
def receive (s : Rtp) (sequence : UInt16) (timestamp : UInt32) (marker : Bool)
    (payload : Bytes) : Except Fault (Rtp × Bool) := do
  match ← ((s.noteSequence sequence).noteTimestamp timestamp).assemble payload with
  | (s, false) => .ok (s.bad, false)
  | (s, true) =>
    if marker then
      match s.finish timestamp with
      | (s, false) => .ok (s.bad, false)
      | (s, true) => .ok (s, true)
    else .ok (s, true)

end Rtp

/-- `ca_z1_rtp_packet`. -/
def rtpPacket (s : Rtp) (packet : Bytes) : Except Fault (Rtp × Bool) := do
  match ← payloadOf packet with
  | none => .ok (s.bad, false)
  | some payload => do
    let sequence ← be16 packet 2
    let timestamp ← be32 packet 4
    let marker ← fetch packet 1
    s.receive (UInt16.ofNat sequence) timestamp (marker &&& 128 ≠ 0) payload

/-- Packets one after another. -/
def rtpPackets (s : Rtp) : List Bytes → Except Fault Rtp
  | [] => .ok s
  | packet :: later => do
    let received ← rtpPacket s packet
    rtpPackets received.1 later

/-! ### Nothing is read beyond the end -/

theorem ok_bind {First Second : Type} (value : First) (later : First → Except Fault Second) :
    (Except.ok value >>= later) = later value := rfl

section

variable {bytes : Bytes} {index : Nat}

theorem fetch_ok (inside : index < bytes.length) :
    ∃ byte, fetch bytes index = .ok byte := by
  unfold fetch
  rw [getElem?_eq_getElem inside]
  exact ⟨_, rfl⟩

theorem be16_ok (inside : index + 1 < bytes.length) :
    ∃ value, be16 bytes index = .ok value := by
  obtain ⟨high, readHigh⟩ := fetch_ok (Nat.lt_of_succ_lt inside)
  obtain ⟨low, readLow⟩ := fetch_ok inside
  unfold be16
  rw [readHigh, readLow]
  exact ⟨_, rfl⟩

theorem be32_ok (inside : index + 3 < bytes.length) :
    ∃ value, be32 bytes index = .ok value := by
  obtain ⟨high, readHigh⟩ := @be16_ok bytes index (by omega)
  obtain ⟨low, readLow⟩ := be16_ok inside
  unfold be32
  rw [readHigh, readLow]
  exact ⟨_, rfl⟩

end

theorem copy_ok {bytes : Bytes} {offset count : Nat} (inside : offset + count ≤ bytes.length) :
    copy bytes offset count = .ok ((bytes.drop offset).take count) :=
  if_pos inside

theorem extensionEnd_ok (packet : Bytes) (flags : UInt8) (offset : Nat) :
    ∃ after, extensionEnd packet flags offset = .ok after := by
  unfold extensionEnd
  split
  · split
    · exact ⟨none, rfl⟩
    · next room =>
      obtain ⟨words, readWords⟩ := @be16_ok packet (offset + 2) (by omega)
      rw [readWords]
      exact ⟨_, rfl⟩
  · exact ⟨_, rfl⟩

theorem paddingStart_ok (packet : Bytes) (flags : UInt8) (nonempty : 0 < packet.length) :
    ∃ start, paddingStart packet flags = .ok start ∧ ∀ length ∈ start, length ≤ packet.length := by
  unfold paddingStart
  split
  · obtain ⟨pad, readPad⟩ := fetch_ok (Nat.sub_lt nonempty Nat.one_pos)
    rw [readPad]
    show ∃ start, (if pad = 0 ∨ packet.length < pad.toNat then Except.ok none
      else Except.ok (some (packet.length - pad.toNat))) = .ok start ∧ _
    split
    · exact ⟨none, rfl, nofun⟩
    · refine ⟨_, rfl, fun length same => ?_⟩
      obtain rfl := Option.mem_some.mp same
      exact Nat.sub_le _ _
  · refine ⟨_, rfl, fun length same => ?_⟩
    obtain rfl := Option.mem_some.mp same
    exact Nat.le_refl _

theorem payloadOf_ok (packet : Bytes) :
    ∃ payload, payloadOf packet = .ok payload ∧
      ∀ bytes ∈ payload, 12 ≤ packet.length ∧ bytes ≠ [] := by
  unfold payloadOf
  split
  · exact ⟨none, rfl, nofun⟩
  next long =>
  have long := Nat.le_of_not_lt long
  obtain ⟨flags, readFlags⟩ := @fetch_ok packet 0 (by omega)
  rw [readFlags, ok_bind]
  split
  · exact ⟨none, rfl, nofun⟩
  split
  · exact ⟨none, rfl, nofun⟩
  obtain ⟨offset, readOffset⟩ := extensionEnd_ok packet flags (12 + 4 * (flags &&& 15).toNat)
  rw [readOffset, ok_bind]
  cases offset with
  | none => exact ⟨none, rfl, nofun⟩
  | some offset =>
    obtain ⟨start, readStart, inside⟩ := paddingStart_ok packet flags (by omega)
    simp only
    rw [readStart, ok_bind]
    cases start with
    | none => exact ⟨none, rfl, nofun⟩
    | some length =>
      have inside := inside length rfl
      simp only
      split
      · exact ⟨none, rfl, nofun⟩
      next nonempty =>
      rw [copy_ok (by omega)]
      refine ⟨_, rfl, fun bytes same => ⟨long, ?_⟩⟩
      obtain rfl := Option.mem_some.mp same
      refine ne_nil_of_length_pos ?_
      rw [length_take, length_drop]
      omega

/-! ### The buffer is never outgrown -/

/-- The unit fits its buffer. -/
def Rtp.Fits (s : Rtp) : Prop := s.frame.length ≤ frameMax

/-- A result without a fault, in which nothing but the unit has changed. -/
def Rtp.Assembled (s : Rtp) (result : Except Fault (Rtp × Bool)) : Prop :=
  ∃ frame key fu complete,
    result = .ok ({ s with frame, key, fu }, complete) ∧ frame.length ≤ frameMax

variable {s : Rtp}

open Rtp

theorem append_assembled (fits : s.Fits) (bytes : Bytes) (start : Bool) :
    s.Assembled (.ok (s.append bytes start)) := by
  unfold Fits at fits
  unfold append
  cases start with
  | true =>
    rw [if_pos rfl]
    split
    · exact ⟨_, _, _, false, rfl, fits⟩
    · next room =>
      rw [if_pos rfl]
      refine ⟨_, _, _, true, rfl, ?_⟩
      rw [length_append, length_append, length_cons, length_cons, length_cons, length_singleton]
      omega
  | false =>
    rw [if_neg Bool.false_ne_true]
    split
    · exact ⟨_, _, _, false, rfl, fits⟩
    · next room =>
      rw [if_neg Bool.false_ne_true]
      refine ⟨_, _, _, true, rfl, ?_⟩
      rw [length_append]
      omega

theorem Rtp.Assembled.refused (fits : s.Fits) : s.Assembled (.ok (s, false)) :=
  ⟨_, _, _, false, rfl, fits⟩

theorem Rtp.Assembled.next {frame : Bytes} {key fu : Bool} {result : Except Fault (Rtp × Bool)}
    (assembled : Assembled { s with frame, key, fu } result) : s.Assembled result := assembled

theorem stap_assembled (payload : Bytes) (position : Nat) (fits : s.Fits) :
    s.Assembled (s.stap payload position) := by
  induction s, position using stap.induct payload with
  | case1 s position inside short =>
    rw [stap, if_pos inside, if_pos short]
    exact .refused fits
  | case2 s position inside long hypothesis =>
    rw [stap, if_pos inside, if_neg long]
    obtain ⟨size, readSize⟩ := @be16_ok payload position (by omega)
    rw [readSize, ok_bind]
    split
    · exact .refused fits
    next whole =>
    obtain ⟨nonzero, room⟩ := not_or.mp whole
    obtain ⟨first, readFirst⟩ := @fetch_ok payload (position + 2) (by omega)
    rw [readFirst, ok_bind]
    split
    · exact .refused fits
    rw [copy_ok (by omega), ok_bind]
    obtain ⟨frame, key, fu, complete, appended, fitsAfter⟩ :=
      append_assembled fits ((payload.drop (position + 2)).take size) true
    rw [Except.ok.inj appended]
    cases complete with
    | false => exact ⟨_, _, _, false, rfl, fitsAfter⟩
    | true => exact Assembled.next (hypothesis size whole _ fitsAfter)
  | case3 s position outside =>
    rw [stap, if_neg outside]
    exact ⟨_, _, _, true, rfl, fits⟩

theorem beginFragment_assembled (fits : s.Fits) (indicator header : UInt8) :
    s.Assembled (.ok (s.beginFragment indicator header)) := by
  unfold beginFragment
  split
  · split
    · exact .refused fits
    · obtain ⟨frame, key, fu, complete, appended, fitsAfter⟩ :=
        append_assembled fits [(indicator &&& 0xe0) ||| (header &&& 31)] true
      rw [Except.ok.inj appended]
      cases complete with
      | false => exact ⟨_, _, _, false, rfl, fitsAfter⟩
      | true => exact ⟨_, _, _, true, rfl, fitsAfter⟩
  · exact ⟨_, _, _, _, rfl, fits⟩

theorem fragment_assembled (fits : s.Fits) {payload : Bytes} (indicator header : UInt8)
    (long : 3 ≤ payload.length) : s.Assembled (s.fragment payload indicator header) := by
  unfold fragment
  split
  · exact .refused fits
  obtain ⟨frame, key, fu, complete, begun, fitsBegun⟩ :=
    beginFragment_assembled fits indicator header
  rw [Except.ok.inj begun]
  cases complete with
  | false => exact ⟨_, _, _, false, rfl, fitsBegun⟩
  | true =>
    simp only
    rw [copy_ok (by omega), ok_bind]
    obtain ⟨frame, key, fu, complete, appended, fitsAfter⟩ := append_assembled
      (show Fits { s with frame, key, fu } from fitsBegun)
      ((payload.drop 2).take (payload.length - 2)) false
    rw [Except.ok.inj appended]
    cases complete with
    | false => exact ⟨_, _, _, false, rfl, fitsAfter⟩
    | true => exact ⟨_, _, _, true, rfl, fitsAfter⟩

theorem assemble_assembled (fits : s.Fits) {payload : Bytes} (nonempty : payload ≠ []) :
    s.Assembled (s.assemble payload) := by
  have positive := length_pos_iff.mpr nonempty
  obtain ⟨first, readFirst⟩ := fetch_ok positive
  unfold assemble
  rw [readFirst, ok_bind]
  split
  · split
    · exact .refused fits
    · exact append_assembled fits payload true
  split
  · split
    · exact .refused fits
    · exact stap_assembled payload 1 fits
  split
  · next fragmented =>
    obtain ⟨header, readHeader⟩ := @fetch_ok payload 1 (by omega)
    rw [readHeader, ok_bind]
    split
    · exact fragment_assembled fits first header fragmented.2
    · exact .refused fits
  · exact .refused fits

/-- A unit may be handed on: nothing of it is missing, and it can be decoded. -/
def Rtp.Emits (s : Rtp) : Prop :=
  s.damaged = false ∧ s.frame ≠ [] ∧ (s.waitKey = false ∨ s.key = true) ∧
    (s.key = true → s.parameters.length + s.frame.length ≤ frameMax)

/-- How a unit ends. -/
inductive Rtp.Finished (s : Rtp) (timestamp : UInt32) : Rtp → Prop where
  | emitted (closed : s.fu = false) (emits : s.Emits) :
    Finished s timestamp (s.emit timestamp).reset
  | dropped (closed : s.fu = false)
    (dropped : s.damaged = true ∨ s.frame = [] ∨ s.waitKey = true ∧ s.key = false) :
    Finished s timestamp s.reset
  | bad (refused : s.fu = true ∨ s.key = true ∧ frameMax < s.parameters.length + s.frame.length) :
    Finished s timestamp s.bad

/-- What is done with the receiver when a unit ends. -/
def Rtp.close (s : Rtp) (timestamp : UInt32) : Rtp :=
  match s.finish timestamp with
  | (s, false) => s.bad
  | (s, true) => s

theorem finished (fits : s.Fits) (timestamp : UInt32) :
    s.Finished timestamp (s.close timestamp) := by
  unfold Fits at fits
  unfold close finish
  by_cases isOpen : s.fu = true
  · rw [if_pos isOpen]
    exact .bad (.inl isOpen)
  have closed := eq_false_of_ne_true isOpen
  rw [if_neg isOpen]
  by_cases whole : ¬ s.damaged ∧ s.frame ≠ [] ∧ (¬ s.waitKey ∨ s.key)
  · rw [if_pos whole]
    obtain ⟨undamaged, nonempty, decodable⟩ := whole
    by_cases full : s.key ∧ frameMax - s.frame.length < s.parameters.length
    · rw [if_pos full]
      exact .bad (.inr ⟨full.1, by omega⟩)
    · rw [if_neg full]
      refine .emitted closed ⟨eq_false_of_ne_true undamaged, nonempty,
        decodable.imp_left eq_false_of_ne_true, fun key => ?_⟩
      have room := not_and.mp full key
      omega
  · rw [if_neg whole]
    refine .dropped closed ?_
    by_cases damaged : s.damaged = true
    · exact .inl damaged
    by_cases empty : s.frame = []
    · exact .inr (.inl empty)
    obtain ⟨waits, other⟩ := not_or.mp (not_and.mp (not_and.mp whole damaged) empty)
    exact .inr (.inr ⟨not_not.mp waits, eq_false_of_ne_true other⟩)

/-- What is noted of a packet in front of its payload. -/
def Rtp.enter (s : Rtp) (sequence : UInt16) (timestamp : UInt32) : Rtp :=
  (s.noteSequence sequence).noteTimestamp timestamp

theorem enter_fits (fits : s.Fits) (sequence : UInt16) (timestamp : UInt32) :
    (s.enter sequence timestamp).Fits := by
  have noted : (s.noteSequence sequence).Fits := by
    unfold noteSequence
    split
    · exact fits
    · exact fits
  unfold enter noteTimestamp
  split
  · exact Nat.zero_le _
  · exact noted

/-- What a packet does: its payload is refused, or the unit grows, and ends with the marker. -/
inductive Rtp.Received (entered : Rtp) (timestamp : UInt32) (marker : Bool) : Rtp → Prop where
  | refused (frame : Bytes) (key fu : Bool) (fits : frame.length ≤ frameMax) :
    Received entered timestamp marker (Rtp.bad { entered with frame, key, fu })
  | grown (frame : Bytes) (key fu : Bool) (fits : frame.length ≤ frameMax)
    (unmarked : marker = false) :
    Received entered timestamp marker { entered with frame, key, fu }
  | ended (frame : Bytes) (key fu : Bool) (fits : frame.length ≤ frameMax)
    (marked : marker = true) :
    Received entered timestamp marker (Rtp.close { entered with frame, key, fu } timestamp)

theorem receive_of_assemble {sequence : UInt16} {timestamp : UInt32} {payload : Bytes}
    {after : Rtp} (assembled : (s.enter sequence timestamp).assemble payload = .ok (after, true)) :
    ∃ complete, s.receive sequence timestamp true payload =
      .ok (after.close timestamp, complete) := by
  unfold enter at assembled
  unfold receive
  rw [assembled, ok_bind]
  simp only
  rw [if_pos trivial]
  unfold close
  split
  · exact ⟨false, rfl⟩
  · exact ⟨true, rfl⟩

theorem received (fits : s.Fits) (sequence : UInt16) (timestamp : UInt32) (marker : Bool)
    {payload : Bytes} (nonempty : payload ≠ []) :
    ∃ after complete, s.receive sequence timestamp marker payload = .ok (after, complete) ∧
      Received (s.enter sequence timestamp) timestamp marker after := by
  obtain ⟨frame, key, fu, complete, assembled, fitsAfter⟩ :=
    assemble_assembled (enter_fits fits sequence timestamp) nonempty
  cases complete with
  | false =>
    refine ⟨_, false, ?_, .refused frame key fu fitsAfter⟩
    unfold enter at assembled
    unfold receive
    rw [assembled]
    rfl
  | true =>
    cases marker with
    | false =>
      refine ⟨_, true, ?_, .grown frame key fu fitsAfter rfl⟩
      unfold enter at assembled
      unfold receive
      rw [assembled]
      rfl
    | true =>
      obtain ⟨complete, ended⟩ := receive_of_assemble assembled
      exact ⟨_, complete, ended, .ended frame key fu fitsAfter rfl⟩

theorem close_fits (fits : s.Fits) (timestamp : UInt32) : (s.close timestamp).Fits := by
  have ended := finished fits timestamp
  generalize s.close timestamp = after at ended ⊢
  cases ended with
  | emitted => exact Nat.zero_le _
  | dropped => exact Nat.zero_le _
  | bad => exact fits

theorem Rtp.Received.fits {entered after : Rtp} {timestamp : UInt32} {marker : Bool}
    (received : Received entered timestamp marker after) : after.Fits := by
  cases received with
  | refused frame key fu fits => exact fits
  | grown frame key fu fits => exact fits
  | ended frame key fu fits =>
    have fits : Fits { entered with frame, key, fu } := fits
    exact close_fits fits timestamp

/-- Neither the unit nor anything that was handed on outgrows the buffer. -/
def Rtp.Held (s : Rtp) : Prop :=
  s.Fits ∧ ∀ emission ∈ s.consumed, emission.frame.length ≤ frameMax

theorem close_held (held : s.Held) (timestamp : UInt32) : (s.close timestamp).Held := by
  obtain ⟨fits, emissions⟩ := held
  refine ⟨close_fits fits timestamp, ?_⟩
  have ended := finished fits timestamp
  generalize s.close timestamp = after at ended ⊢
  cases ended with
  | emitted _ emits =>
    refine forall_mem_append.mpr ⟨emissions, forall_mem_singleton.mpr ?_⟩
    show (if s.key then s.parameters ++ s.frame else s.frame).length ≤ frameMax
    split
    · next key =>
      rw [length_append]
      exact emits.2.2.2 key
    · exact fits
  | dropped => exact emissions
  | bad => exact emissions

theorem Rtp.Received.held {entered after : Rtp} {timestamp : UInt32} {marker : Bool}
    (received : Received entered timestamp marker after)
    (emissions : ∀ emission ∈ entered.consumed, emission.frame.length ≤ frameMax) : after.Held := by
  cases received with
  | refused frame key fu fits => exact ⟨fits, emissions⟩
  | grown frame key fu fits => exact ⟨fits, emissions⟩
  | ended frame key fu fits =>
    have held : Held { entered with frame, key, fu } := ⟨fits, emissions⟩
    exact close_held held timestamp

theorem enter_consumed (s : Rtp) (sequence : UInt16) (timestamp : UInt32) :
    (s.enter sequence timestamp).consumed = s.consumed ∧
      (s.enter sequence timestamp).parameters = s.parameters := by
  unfold enter noteTimestamp noteSequence
  split
  · split
    · exact ⟨rfl, rfl⟩
    · exact ⟨rfl, rfl⟩
  · split
    · exact ⟨rfl, rfl⟩
    · exact ⟨rfl, rfl⟩

theorem rtpPacket_held (held : s.Held) (packet : Bytes) :
    ∃ after complete, rtpPacket s packet = .ok (after, complete) ∧ after.Held := by
  obtain ⟨payload, readPayload, whole⟩ := payloadOf_ok packet
  unfold rtpPacket
  rw [readPayload, ok_bind]
  cases payload with
  | none => exact ⟨_, false, rfl, held⟩
  | some payload =>
    obtain ⟨long, nonempty⟩ := whole payload rfl
    obtain ⟨sequence, readSequence⟩ := @be16_ok packet 2 (by omega)
    obtain ⟨timestamp, readTimestamp⟩ := @be32_ok packet 4 (by omega)
    obtain ⟨marker, readMarker⟩ := @fetch_ok packet 1 (by omega)
    simp only
    rw [readSequence, ok_bind, readTimestamp, ok_bind, readMarker, ok_bind]
    obtain ⟨after, complete, result, received⟩ := received held.1 (UInt16.ofNat sequence)
      timestamp (marker &&& 128 ≠ 0) nonempty
    refine ⟨after, complete, result, received.held ?_⟩
    rw [(enter_consumed s (UInt16.ofNat sequence) timestamp).1]
    exact held.2

theorem rtpPackets_held (held : s.Held) (packets : List Bytes) :
    ∃ after, rtpPackets s packets = .ok after ∧ after.Held := by
  induction packets generalizing s with
  | nil => exact ⟨s, rfl, held⟩
  | cons packet later hypothesis =>
    obtain ⟨after, complete, received, heldAfter⟩ := rtpPacket_held held packet
    unfold rtpPackets
    rw [received, ok_bind]
    exact hypothesis heldAfter

end Z1Rtp
