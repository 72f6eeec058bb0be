/-
This file is about what the receiver of the Z1-Mini does with the packets of a sender: it finds
their payloads whatever is around them, and a payload adds its part to the byte stream of the unit.

The packets of a unit that all arrive, from the first of them or from one that begins a NAL unit,
are put together to the byte stream that they carry.
-/

import CameraGimbal.RtpVideo
import CameraGimbal.Z1Rtp

namespace Z1Rtp

open RtpVideo List Piece

/-! ### The header of a packet -/

theorem fetch_behind (front : Bytes) (byte : UInt8) (later : Bytes) :
    fetch (front ++ byte :: later) front.length = .ok byte := by
  unfold fetch
  rw [getElem?_append_right (le_rfl), Nat.sub_self]
  rfl

theorem be16_behind (front : Bytes) {value : Nat} (small : value < 2 ^ 16)
    (later : Bytes) : be16 (front ++ (put16 value ++ later)) front.length = .ok value := by
  have high := fetch_behind front (UInt8.ofNat (value / 2 ^ 8)) (UInt8.ofNat value :: later)
  have low := fetch_behind (front ++ [UInt8.ofNat (value / 2 ^ 8)]) (UInt8.ofNat value) later
  rw [length_append, append_assoc] at low
  have number : (UInt8.ofNat (value / 2 ^ 8)).toNat * 256 + (UInt8.ofNat value).toNat = value := by
    rw [UInt8.toNat_ofNat', UInt8.toNat_ofNat']
    omega
  unfold be16
  refine (congrArg (· >>= _) high).trans ?_
  rw [ok_bind]
  refine (congrArg (· >>= _) low).trans ?_
  rw [ok_bind, number]

theorem be32_behind (front : Bytes) (value : UInt32) (later : Bytes) :
    be32 (front ++ (put32 value ++ later)) front.length = .ok value := by
  have small := value.toNat_lt
  have high := be16_behind front (show value.toNat / 2 ^ 16 < 2 ^ 16 by omega)
    (put16 (value.toNat % 2 ^ 16) ++ later)
  have low := be16_behind (front ++ put16 (value.toNat / 2 ^ 16))
    (show value.toNat % 2 ^ 16 < 2 ^ 16 by omega) later
  rw [length_append, append_assoc] at low
  have number : UInt32.ofNat (value.toNat / 2 ^ 16 * 65536) |||
      UInt32.ofNat (value.toNat % 2 ^ 16) = value := by
    refine UInt32.toNat_inj.mp ?_
    rw [UInt32.toNat_or, UInt32.toNat_ofNat', UInt32.toNat_ofNat', Nat.mod_eq_of_lt (by omega),
      Nat.mod_eq_of_lt (by omega), show (65536 : Nat) = 2 ^ 16 from rfl, ← Nat.shiftLeft_eq,
      ← Nat.shiftLeft_add_eq_or_of_lt (Nat.mod_lt _ (by decide)), Nat.shiftLeft_eq]
    omega
  unfold be32 put32
  rw [append_assoc, high, ok_bind]
  refine (congrArg (· >>= _) low).trans ?_
  rw [ok_bind, number]

theorem flags_read : ∀ (padded extended : Bool) (count : Fin 16),
    let flags :=
      UInt8.ofNat (128 + (if padded then 32 else 0) + (if extended then 16 else 0) + count)
    flags >>> 6 = 2 ∧ (flags &&& 15).toNat = count ∧ (flags &&& 16 ≠ 0 ↔ extended = true) ∧
      (flags &&& 32 ≠ 0 ↔ padded = true) := by
  decide

theorem marker_read : ∀ (marker : Bool) (payloadType : Fin 128),
    (UInt8.ofNat ((if marker then 128 else 0) + payloadType) &&& 128 ≠ 0 ↔ marker = true) := by
  decide

theorem length_put32s (words : List UInt32) : (words.flatMap put32).length = 4 * words.length := by
  induction words with
  | nil => rfl
  | cons word rest hypothesis =>
    rw [flatMap_cons, length_append, hypothesis, length_cons, Nat.mul_succ, add_comm]
    rfl

variable (wrapping : Wrapping) (marker : Bool) (sequence : UInt16) (timestamp : UInt32)

/-- The first byte of a packet. -/
def flagsOf : UInt8 := UInt8.ofNat wrapping.flags

theorem flagsOf_read :
    flagsOf wrapping >>> 6 = 2 ∧ (flagsOf wrapping &&& 15).toNat = wrapping.csrc.length ∧
      (flagsOf wrapping &&& 16 ≠ 0 ↔ wrapping.extension.isSome = true) ∧
      (flagsOf wrapping &&& 32 ≠ 0 ↔ wrapping.padding.isSome = true) :=
  flags_read wrapping.padding.isSome wrapping.extension.isSome
    ⟨wrapping.csrc.length, wrapping.fewSources⟩

/-- The header up to the list of sources. -/
def fixedBytes : Bytes :=
  [flagsOf wrapping, UInt8.ofNat ((if marker then 128 else 0) + wrapping.payloadType.val)] ++
    put16 sequence.toNat ++ put32 timestamp ++ put32 wrapping.ssrc

/-- The header in front of its extension. -/
def sourceBytes : Bytes :=
  fixedBytes wrapping marker sequence timestamp ++ wrapping.csrc.flatMap put32

theorem length_sourceBytes :
    (sourceBytes wrapping marker sequence timestamp).length = 12 + 4 * wrapping.csrc.length := by
  unfold sourceBytes
  rw [length_append, length_put32s]
  rfl

theorem headerBytes_eq :
    wrapping.headerBytes marker sequence timestamp =
      sourceBytes wrapping marker sequence timestamp ++ wrapping.extensionBytes := rfl

theorem extensionEnd_header (later : Bytes) :
    extensionEnd (wrapping.headerBytes marker sequence timestamp ++ later) (flagsOf wrapping)
        (12 + 4 * wrapping.csrc.length) =
      .ok (some (wrapping.headerBytes marker sequence timestamp).length) := by
  have extended := (flagsOf_read wrapping).2.2.1
  have sources := length_sourceBytes wrapping marker sequence timestamp
  rw [headerBytes_eq, length_append, sources]
  unfold extensionEnd
  cases extension : wrapping.extension with
  | none =>
    have bytes : wrapping.extensionBytes = [] := by
      unfold Wrapping.extensionBytes
      rw [extension]
    rw [if_neg (mt extended.mp (by rw [extension]; exact Bool.false_ne_true)), bytes]
    rfl
  | some part =>
    obtain ⟨profile, words⟩ := part
    have short := wrapping.shortExtension (profile, words) extension
    have bytes : wrapping.extensionBytes =
        put16 profile.toNat ++ (put16 words.length ++ words.flatMap put32) := by
      unfold Wrapping.extensionBytes
      rw [extension, ← append_assoc]
    have length : (wrapping.extensionBytes).length = 4 + 4 * words.length := by
      rw [bytes, length_append, length_append, length_put32s, ← add_assoc]
      rfl
    have count := be16_behind
      (sourceBytes wrapping marker sequence timestamp ++ put16 profile.toNat) short
      (words.flatMap put32 ++ later)
    rw [length_append, sources, append_assoc, ← append_assoc (put16 words.length),
      ← append_assoc (put16 profile.toNat), ← bytes, ← append_assoc] at count
    rw [if_pos (extended.mpr (by rw [extension]; rfl)), length_append, length_append,
      sources, length, if_neg (by omega)]
    refine (congrArg (· >>= _) count).trans ?_
    rfl

theorem paddingStart_padding (front : Bytes) :
    paddingStart (front ++ wrapping.paddingBytes) (flagsOf wrapping) = .ok (some front.length) := by
  have padded := (flagsOf_read wrapping).2.2.2
  unfold paddingStart
  cases padding : wrapping.padding with
  | none =>
    have bytes : wrapping.paddingBytes = [] := by
      unfold Wrapping.paddingBytes
      rw [padding]
    rw [if_neg (mt padded.mp (by rw [padding]; exact Bool.false_ne_true)), bytes, append_nil]
  | some filler =>
    have short := wrapping.shortPadding filler padding
    have bytes : wrapping.paddingBytes = filler ++ [UInt8.ofNat (filler.length + 1)] := by
      unfold Wrapping.paddingBytes
      rw [padding]
    have last := fetch_behind (front ++ filler) (UInt8.ofNat (filler.length + 1)) []
    have count : (UInt8.ofNat (filler.length + 1)).toNat = filler.length + 1 := by
      rw [UInt8.toNat_ofNat']
      exact Nat.mod_eq_of_lt (by omega)
    have positive : UInt8.ofNat (filler.length + 1) ≠ 0 := by
      intro zero
      rw [zero] at count
      exact absurd count (Nat.succ_ne_zero _).symm
    have length : (front ++ (filler ++ [UInt8.ofNat (filler.length + 1)])).length =
        (front ++ filler).length + 1 := by
      rw [← append_assoc, length_append, length_singleton]
    rw [append_assoc] at last
    rw [if_pos (padded.mpr (by rw [padding]; rfl)), bytes, length, Nat.add_sub_cancel, last,
      ok_bind, count, if_neg (not_or.mpr ⟨positive, by rw [length_append]; omega⟩)]
    refine congrArg (fun length => Except.ok (some length)) ?_
    rw [length_append]
    omega

theorem payloadOf_packet {payload : Bytes} (nonempty : payload ≠ []) :
    payloadOf (wrapping.packet marker sequence timestamp payload) = .ok (some payload) := by
  have read := flagsOf_read wrapping
  have sources := length_sourceBytes wrapping marker sequence timestamp
  have positive := length_pos_iff.mpr nonempty
  have offset : 12 + 4 * wrapping.csrc.length ≤
      (wrapping.headerBytes marker sequence timestamp).length := by
    rw [headerBytes_eq, length_append, sources]
    exact Nat.le_add_right _ _
  have whole : (wrapping.packet marker sequence timestamp payload).length =
      (wrapping.headerBytes marker sequence timestamp).length + payload.length +
        wrapping.paddingBytes.length := by
    unfold Wrapping.packet
    rw [length_append, length_append]
  have first : fetch (wrapping.packet marker sequence timestamp payload) 0 =
      .ok (flagsOf wrapping) := rfl
  have extension := extensionEnd_header wrapping marker sequence timestamp
    (payload ++ wrapping.paddingBytes)
  have padding := paddingStart_padding wrapping
    (wrapping.headerBytes marker sequence timestamp ++ payload)
  rw [← append_assoc] at extension
  unfold payloadOf
  rw [if_neg (by omega), first, ok_bind, if_neg (not_not.mpr read.1), read.2.1, if_neg (by omega)]
  refine (congrArg (· >>= _) extension).trans ?_
  rw [ok_bind]
  refine (congrArg (· >>= _) padding).trans ?_
  rw [ok_bind]
  simp only
  rw [length_append, if_neg (by omega), copy_ok (by omega), ok_bind, Nat.add_sub_cancel_left]
  unfold Wrapping.packet
  rw [append_assoc, drop_left, take_left]

theorem rtpPacket_packet (s : Rtp) {payload : Bytes} (nonempty : payload ≠ []) :
    rtpPacket s (wrapping.packet marker sequence timestamp payload) =
      s.receive sequence timestamp marker payload := by
  have first := be16_behind
    [flagsOf wrapping, UInt8.ofNat ((if marker then 128 else 0) + wrapping.payloadType.val)]
    sequence.toNat_lt
  have second := be32_behind
    ([flagsOf wrapping, UInt8.ofNat ((if marker then 128 else 0) + wrapping.payloadType.val)] ++
      put16 sequence.toNat) timestamp
  have marked := marker_read marker wrapping.payloadType
  have split : wrapping.packet marker sequence timestamp payload =
      [flagsOf wrapping, UInt8.ofNat ((if marker then 128 else 0) + wrapping.payloadType.val)] ++
        (put16 sequence.toNat ++ (put32 timestamp ++ (put32 wrapping.ssrc ++
          wrapping.csrc.flatMap put32 ++ wrapping.extensionBytes ++ payload ++
            wrapping.paddingBytes))) := by
    unfold Wrapping.packet Wrapping.headerBytes flagsOf
    simp only [append_assoc]
  have third : fetch (wrapping.packet marker sequence timestamp payload) 1 =
      .ok (UInt8.ofNat ((if marker then 128 else 0) + wrapping.payloadType.val)) := rfl
  have decided :
      decide (UInt8.ofNat ((if marker then 128 else 0) + wrapping.payloadType.val) &&& 128 ≠ 0) =
        marker := by
    cases marker with
    | true => exact decide_eq_true (marked.mpr rfl)
    | false => exact decide_eq_false (mt marked.mp Bool.false_ne_true)
  unfold rtpPacket
  rw [payloadOf_packet wrapping marker sequence timestamp nonempty, ok_bind]
  rw [third, split]
  refine (congrArg (· >>= _) (first _)).trans ?_
  rw [ok_bind, ← append_assoc]
  refine (congrArg (· >>= _) (second _)).trans ?_
  rw [ok_bind, ok_bind, decided, UInt16.ofNat_toNat]

/-! ### The payload of a packet -/

/-- The receiver behind a payload that is taken. -/
def Rtp.add (s : Rtp) (piece : Piece) : Rtp :=
  { s with
    frame := s.frame ++ piece.stream
    key := s.key || piece.startsIdr
    fu := piece.leavesOpen }

/-- A payload that can be taken: not a fragment without data, and there is room for it. -/
def Rtp.Takes (s : Rtp) (piece : Piece) : Prop :=
  piece.Filled ∧ s.frame.length + piece.stream.length ≤ frameMax

variable {s : Rtp}

theorem append_nal (s : Rtp) (nal : Nal) :
    s.append nal.bytes true =
      if s.frame.length + nal.stream.length ≤ frameMax then
        ({ s with frame := s.frame ++ nal.stream, key := s.key || nal.isIdr }, true)
      else (s, false) := by
  have length : nal.stream.length = nal.bytes.length + 4 := by
    unfold Nal.stream
    rw [length_append, add_comm]
    rfl
  unfold Rtp.append
  rw [length, if_pos rfl]
  by_cases room : s.frame.length + (nal.bytes.length + 4) ≤ frameMax
  · rw [if_pos room, if_neg (by omega), if_pos rfl, append_assoc]
    rfl
  · rw [if_neg room, if_pos (by omega)]

variable {data : Bytes}

theorem append_data (s : Rtp) (filled : data ≠ []) :
    s.append data false =
      if s.frame.length + data.length ≤ frameMax then
        ({ s with frame := s.frame ++ data }, true)
      else (s, false) := by
  have positive := length_pos_iff.mpr filled
  unfold Rtp.append
  rw [if_neg Bool.false_ne_true, add_zero]
  by_cases room : s.frame.length + data.length ≤ frameMax
  · rw [if_pos room, if_neg (by omega), if_neg Bool.false_ne_true]
  · rw [if_neg room, if_pos (by omega)]

theorem be16_sized (front : Bytes) (nal : Nal) (short : nal.bytes.length < 2 ^ 16)
    (later : Bytes) :
    be16 (front ++ (sized nal ++ later)) front.length = .ok nal.bytes.length := by
  unfold sized
  rw [append_assoc]
  exact be16_behind front short _

theorem stap_cons (s : Rtp) (front : Bytes) (nal : Nal) (rest : List Nal)
    (short : nal.bytes.length < 2 ^ 16) :
    s.stap (front ++ (nal :: rest).flatMap sized) front.length =
      match s.append nal.bytes true with
      | (s, false) => .ok (s, false)
      | (s, true) =>
        s.stap (front ++ sized nal ++ rest.flatMap sized) (front ++ sized nal).length := by
  have positive : 0 < nal.bytes.length := Nat.succ_pos _
  have sizedLength : (sized nal).length = 2 + nal.bytes.length := by
    unfold sized
    rw [length_append]
    rfl
  have total : (front ++ (nal :: rest).flatMap sized).length =
      front.length + (2 + nal.bytes.length + (rest.flatMap sized).length) := by
    rw [flatMap_cons, length_append, length_append, sizedLength]
  have size : be16 (front ++ (nal :: rest).flatMap sized) front.length =
      .ok nal.bytes.length := be16_sized front nal short _
  have behind : front ++ (nal :: rest).flatMap sized =
      (front ++ put16 nal.bytes.length) ++ (nal.bytes ++ rest.flatMap sized) := by
    rw [flatMap_cons, sized, append_assoc, append_assoc]
  have position : (front ++ put16 nal.bytes.length).length = front.length + 2 := by
    rw [length_append]
    rfl
  have first : fetch (front ++ (nal :: rest).flatMap sized) (front.length + 2) =
      .ok nal.header := by
    rw [behind, ← position]
    exact fetch_behind _ _ _
  have content : ((front ++ (nal :: rest).flatMap sized).drop (front.length + 2)).take
      nal.bytes.length = nal.bytes := by
    rw [behind, ← position, drop_left, take_left]
  have typed : ¬ (nal.header &&& 31 = 0 ∨ nal.header &&& 31 > 23) := by
    have least : 1 ≤ nal.header &&& 31 := nal.typed.1
    refine not_or.mpr ⟨fun zero => ?_, fun large => absurd nal.typed.2 (UInt8.not_le.mpr large)⟩
    rw [zero] at least
    exact absurd least (by decide)
  have next : front.length + 2 + nal.bytes.length = (front ++ sized nal).length := by
    rw [length_append, sizedLength, add_assoc]
  have rests : front ++ (nal :: rest).flatMap sized = front ++ sized nal ++ rest.flatMap sized := by
    rw [flatMap_cons, append_assoc]
  rw [Rtp.stap, if_pos (by omega), if_neg (by omega), size, ok_bind, if_neg (by omega), first,
    ok_bind, if_neg typed, copy_ok (by omega), ok_bind, content]
  cases s.append nal.bytes true with
  | mk after complete =>
    cases complete with
    | false => rfl
    | true =>
      show after.stap _ _ = after.stap _ _
      rw [next, rests]

theorem length_streamOf_cons (nal : Nal) (rest : List Nal) :
    (streamOf (nal :: rest)).length = nal.stream.length + (streamOf rest).length := by
  unfold streamOf
  rw [flatMap_cons, length_append]

section

variable {nals : List Nal} (short : ∀ nal ∈ nals, nal.bytes.length < 2 ^ 16) (front : Bytes)

include short

theorem stap_room (room : s.frame.length + (streamOf nals).length ≤ frameMax) :
    s.stap (front ++ nals.flatMap sized) front.length =
      .ok ({ s with frame := s.frame ++ streamOf nals, key := s.key || isKey nals }, true) := by
  induction nals generalizing s front with
  | nil =>
    rw [Rtp.stap, flatMap_nil, append_nil, if_neg (lt_irrefl _)]
    show _ = Except.ok ({ s with frame := s.frame ++ [], key := s.key || false }, true)
    rw [append_nil, Bool.or_false]
  | cons nal rest hypothesis =>
    obtain ⟨shortFirst, shortRest⟩ := forall_mem_cons.mp short
    rw [length_streamOf_cons] at room
    rw [stap_cons s front nal rest shortFirst, append_nal, if_pos (by omega)]
    simp only
    rw [hypothesis shortRest]
    · refine congrArg (fun after => Except.ok (after, true)) ?_
      show ({ s with
          frame := s.frame ++ nal.stream ++ streamOf rest
          key := s.key || nal.isIdr || isKey rest } : Rtp) = _
      rw [append_assoc, Bool.or_assoc]
      rfl
    · show (s.frame ++ nal.stream).length + _ ≤ _
      rw [length_append]
      omega

theorem stap_full (fits : s.Fits)
    (full : ¬ s.frame.length + (streamOf nals).length ≤ frameMax) :
    ∃ after, s.stap (front ++ nals.flatMap sized) front.length = .ok (after, false) := by
  induction nals generalizing s front with
  | nil => exact absurd fits full
  | cons nal rest hypothesis =>
    obtain ⟨shortFirst, shortRest⟩ := forall_mem_cons.mp short
    rw [length_streamOf_cons] at full
    rw [stap_cons s front nal rest shortFirst, append_nal]
    by_cases room : s.frame.length + nal.stream.length ≤ frameMax
    · rw [if_pos room]
      refine hypothesis shortRest _ ?_ ?_
      · show (s.frame ++ nal.stream).length ≤ frameMax
        rw [length_append]
        exact room
      · show ¬ (s.frame ++ nal.stream).length + _ ≤ frameMax
        rw [length_append]
        omega
    · rw [if_neg room]
      exact ⟨s, rfl⟩

end

/-- The first byte of a fragment's payload, and the second one. -/
def indicatorOf (nal : Nal) : UInt8 := (nal.header &&& 0xe0) ||| 28

def fuHeaderOf (position : Position) (nal : Nal) : UInt8 := position.bit ||| typeOf nal.header

theorem fragment_read (position : Position) (nal : Nal) :
    indicatorOf nal &&& 31 = 28 ∧ fuHeaderOf position nal &&& 31 = typeOf nal.header ∧
      ¬ (fuHeaderOf position nal &&& 0xc0 = 0xc0 ∨ fuHeaderOf position nal &&& 0x20 ≠ 0) ∧
      (indicatorOf nal &&& 0xe0) ||| typeOf nal.header = nal.header ∧
      (fuHeaderOf position nal &&& 128 ≠ 0 ↔ position = .first) ∧
      (fuHeaderOf position nal &&& 64 = 0 ↔ position ≠ .last) := by
  unfold indicatorOf fuHeaderOf
  generalize nal.header = header
  revert header
  cases position with
  | first => exact forall_uint8 (by decide +kernel)
  | middle => exact forall_uint8 (by decide +kernel)
  | last => exact forall_uint8 (by decide +kernel)

theorem aggregate_read (indicator : UInt8) : ((indicator &&& 0xe0) ||| 24) &&& 31 = 24 := by
  revert indicator
  exact forall_uint8 (by decide +kernel)

theorem assemble_single (closed : s.fu = false) (nal : Nal) :
    s.assemble (single nal).payload = .ok (s.append nal.bytes true) := by
  have first : fetch (single nal).payload 0 = .ok nal.header := rfl
  have typed : 1 ≤ nal.header &&& 31 ∧ nal.header &&& 31 ≤ 23 := nal.typed
  unfold Rtp.assemble
  rw [first, ok_bind, if_pos typed, closed]
  rfl

theorem assemble_aggregate (closed : s.fu = false) (indicator : UInt8) (nals : List Nal) :
    s.assemble (aggregate indicator nals).payload =
      s.stap ([(indicator &&& 0xe0) ||| 24] ++ nals.flatMap sized) 1 := by
  have first : fetch (aggregate indicator nals).payload 0 = .ok ((indicator &&& 0xe0) ||| 24) := rfl
  have type := aggregate_read indicator
  unfold Rtp.assemble
  rw [first, ok_bind, type, if_neg (by decide), if_pos rfl, closed]
  rfl

theorem assemble_empty (s : Rtp) (position : Position) (nal : Nal) :
    s.assemble (fragment position nal []).payload = .ok (s, false) := by
  have first : fetch (fragment position nal []).payload 0 = .ok (indicatorOf nal) := rfl
  have type := (fragment_read position nal).1
  have short : ¬ 3 ≤ (fragment position nal []).payload.length := not_le.mpr Nat.le.refl
  unfold Rtp.assemble
  rw [first, ok_bind, type, if_neg (by decide), if_neg (by decide), if_neg (short ·.2)]

theorem assemble_fragment (s : Rtp) (position : Position) (nal : Nal) {data : Bytes}
    (filled : data ≠ []) :
    s.assemble (fragment position nal data).payload =
      match s.beginFragment (indicatorOf nal) (fuHeaderOf position nal) with
      | (s, false) => .ok (s, false)
      | (s, true) =>
        match s.append data false with
        | (s, false) => .ok (s, false)
        | (s, true) => .ok ({ s with fu := s.fu && position ≠ .last }, true) := by
  have positive := length_pos_iff.mpr filled
  have length : (fragment position nal data).payload.length = data.length + 2 := rfl
  have first : fetch (fragment position nal data).payload 0 = .ok (indicatorOf nal) := rfl
  have second : fetch (fragment position nal data).payload 1 = .ok (fuHeaderOf position nal) := rfl
  have content : ((fragment position nal data).payload.drop 2).take data.length = data :=
    take_length
  obtain ⟨type, typeOfNal, valid, -, -, ends⟩ := fragment_read position nal
  have typed : 1 ≤ fuHeaderOf position nal &&& 31 ∧ fuHeaderOf position nal &&& 31 ≤ 23 := by
    rw [typeOfNal]
    exact nal.typed
  unfold Rtp.assemble
  rw [first, ok_bind, type, if_neg (by decide), if_neg (by decide),
    if_pos ⟨rfl, by omega⟩, second, ok_bind, if_pos typed]
  unfold Rtp.fragment
  rw [if_neg valid, length, Nat.add_sub_cancel]
  have last : decide (fuHeaderOf position nal &&& 64 = 0) = decide (position ≠ .last) :=
    decide_eq_decide.mpr ends
  have copied : copy (fragment position nal data).payload 2 data.length = .ok data := by
    rw [copy_ok (by omega), content]
  cases s.beginFragment (indicatorOf nal) (fuHeaderOf position nal) with
  | mk begun complete =>
    cases complete with
    | false => rfl
    | true =>
      refine (congrArg (· >>= _) copied).trans ?_
      rw [ok_bind]
      simp only
      cases begun.append data false with
      | mk after complete =>
        cases complete with
        | false => rfl
        | true =>
          exact congrArg (fun ended => Except.ok ({ after with fu := after.fu && ended }, true))
            last

theorem begin_first (s : Rtp) (nal : Nal) :
    s.beginFragment (indicatorOf nal) (fuHeaderOf .first nal) =
      if s.fu then (s, false)
      else if s.frame.length + 5 ≤ frameMax then
        ({ s with
            frame := s.frame ++ [0, 0, 0, 1, nal.header]
            key := s.key || nal.isIdr
            fu := true },
          true)
      else (s, false) := by
  obtain ⟨-, typeOfNal, -, restored, begins, -⟩ := fragment_read .first nal
  have appended : s.append [nal.header] true =
      if s.frame.length + 5 ≤ frameMax then
        ({ s with
            frame := s.frame ++ [0, 0, 0, 1, nal.header]
            key := s.key || nal.isIdr },
          true)
      else (s, false) := append_nal s ⟨nal.header, [], nal.typed⟩
  unfold Rtp.beginFragment
  rw [if_pos (begins.mpr rfl), typeOfNal, restored]
  cases s.fu with
  | true => rfl
  | false =>
    rw [if_neg Bool.false_ne_true, if_neg Bool.false_ne_true, appended]
    by_cases room : s.frame.length + 5 ≤ frameMax
    · rw [if_pos room, if_pos room]
    · rw [if_neg room, if_neg room]

theorem begin_later (s : Rtp) {position : Position} (later : position ≠ .first) (nal : Nal) :
    s.beginFragment (indicatorOf nal) (fuHeaderOf position nal) = (s, s.fu) := by
  unfold Rtp.beginFragment
  rw [if_neg (mt (fragment_read position nal).2.2.2.2.1.mp later)]

theorem length_first (nal : Nal) (data : Bytes) :
    (fragment .first nal data).stream.length = 5 + data.length := by
  show data.length + 1 + 1 + 1 + 1 + 1 = 5 + data.length
  omega

theorem add_of_fu {piece : Piece} (same : s.fu = piece.leavesOpen) :
    s.add piece = { s with frame := s.frame ++ piece.stream, key := s.key || piece.startsIdr } := by
  unfold Rtp.add
  rw [← same]

theorem assemble_first (closed : s.fu = false) (nal : Nal) (filled : data ≠ [])
    (room : s.frame.length + (5 + data.length) ≤ frameMax) :
    s.assemble (fragment .first nal data).payload =
      .ok (s.add (.fragment .first nal data), true) := by
  have longer : (s.frame ++ [0, 0, 0, 1, nal.header]).length + data.length ≤ frameMax := by
    rw [length_append, add_assoc]
    exact room
  rw [assemble_fragment s .first nal filled, begin_first, closed, if_neg Bool.false_ne_true,
    if_pos (by omega)]
  simp only
  rw [append_data _ filled, if_pos longer]
  refine congrArg (fun after => Except.ok (after, true)) ?_
  unfold Rtp.add
  rw [append_assoc]
  rfl

theorem refuse_first (nal : Nal) (filled : data ≠ [])
    (refused : s.fu = true ∨ ¬ s.frame.length + (5 + data.length) ≤ frameMax) :
    ∃ after, s.assemble (fragment .first nal data).payload = .ok (after, false) := by
  rw [assemble_fragment s .first nal filled, begin_first]
  by_cases isOpen : s.fu = true
  · rw [if_pos isOpen]
    exact ⟨s, rfl⟩
  rw [if_neg isOpen]
  by_cases header : s.frame.length + 5 ≤ frameMax
  · have longer : ¬ (s.frame ++ [0, 0, 0, 1, nal.header]).length + data.length ≤ frameMax := by
      rw [length_append, add_assoc]
      exact refused.resolve_left isOpen
    rw [if_pos header]
    simp only
    rw [append_data _ filled, if_neg longer]
    exact ⟨_, rfl⟩
  · rw [if_neg header]
    exact ⟨s, rfl⟩

theorem later_fragment {position : Position} (later : position ≠ .first) (nal : Nal)
    (data : Bytes) :
    (fragment position nal data).stream = data ∧
      (fragment position nal data).startsIdr = false ∧
      (fragment position nal data).leavesOpen = decide (position ≠ .last) := by
  cases position with
  | first => exact absurd rfl later
  | middle => exact ⟨rfl, rfl, rfl⟩
  | last => exact ⟨rfl, rfl, rfl⟩

theorem assemble_later (isOpen : s.fu = true) {position : Position} (later : position ≠ .first)
    (nal : Nal) {data : Bytes} (filled : data ≠ [])
    (room : s.frame.length + data.length ≤ frameMax) :
    s.assemble (fragment position nal data).payload =
      .ok (s.add (.fragment position nal data), true) := by
  rw [assemble_fragment s position nal filled, begin_later s later, isOpen]
  simp only
  rw [append_data s filled, if_pos room]
  unfold Rtp.add
  obtain ⟨stream, starts, leaves⟩ := later_fragment later nal data
  rw [stream, starts, leaves, Bool.or_false]
  simp only
  rw [isOpen, Bool.true_and]

theorem refuse_later {position : Position} (later : position ≠ .first) (nal : Nal)
    (filled : data ≠ []) (refused : s.fu = false ∨ ¬ s.frame.length + data.length ≤ frameMax) :
    ∃ after, s.assemble (fragment position nal data).payload = .ok (after, false) := by
  rw [assemble_fragment s position nal filled, begin_later s later]
  cases isOpen : s.fu with
  | false => exact ⟨s, rfl⟩
  | true =>
    have full := refused.resolve_left fun closed => Bool.noConfusion (isOpen.symm.trans closed)
    simp only
    rw [append_data s filled, if_neg full]
    exact ⟨s, rfl⟩

theorem assemble_takes {piece : Piece} (goesOn : s.fu = piece.continues)
    (sendable : piece.Sendable) (takes : s.Takes piece) :
    s.assemble piece.payload = .ok (s.add piece, true) := by
  obtain ⟨filled, room⟩ := takes
  cases piece with
  | single nal =>
    have closed : s.fu = false := goesOn
    rw [assemble_single closed, append_nal, add_of_fu closed]
    exact congrArg Except.ok (if_pos room)
  | aggregate indicator nals =>
    have closed : s.fu = false := goesOn
    rw [assemble_aggregate closed, add_of_fu closed]
    exact stap_room sendable.2 [_] room
  | fragment position nal data =>
    cases position with
    | first => exact assemble_first goesOn nal filled (length_first nal data ▸ room)
    | middle => exact @assemble_later s goesOn .middle nofun nal _ filled room
    | last => exact @assemble_later s goesOn .last nofun nal _ filled room

theorem assemble_refuses (fits : s.Fits) {piece : Piece} (sendable : piece.Sendable)
    (refused : ¬ (s.fu = piece.continues ∧ s.Takes piece)) :
    ∃ after, s.assemble piece.payload = .ok (after, false) := by
  cases piece with
  | single nal =>
    have first : fetch (single nal).payload 0 = .ok nal.header := rfl
    have typed : 1 ≤ nal.header &&& 31 ∧ nal.header &&& 31 ≤ 23 := nal.typed
    by_cases isOpen : s.fu = true
    · unfold Rtp.assemble
      rw [first, ok_bind, if_pos typed, if_pos isOpen]
      exact ⟨s, rfl⟩
    · have closed := eq_false_of_ne_true isOpen
      rw [assemble_single closed, append_nal]
      exact ⟨s, congrArg Except.ok (if_neg fun room => refused ⟨closed, trivial, room⟩)⟩
  | aggregate indicator nals =>
    by_cases isOpen : s.fu = true
    · have first : fetch (aggregate indicator nals).payload 0 =
          .ok ((indicator &&& 0xe0) ||| 24) := rfl
      unfold Rtp.assemble
      rw [first, ok_bind, aggregate_read, if_neg (by decide), if_pos rfl, if_pos isOpen]
      exact ⟨s, rfl⟩
    · have closed := eq_false_of_ne_true isOpen
      rw [assemble_aggregate closed]
      exact stap_full sendable.2 [_] fits fun room => refused ⟨closed, trivial, room⟩
  | fragment position nal data =>
    by_cases empty : data = []
    · rw [empty]
      exact ⟨s, assemble_empty s position nal⟩
    by_cases begins : position = .first
    · rw [begins] at refused ⊢
      refine refuse_first nal empty ?_
      by_cases isOpen : s.fu = true
      · exact .inl isOpen
      · refine .inr fun room => refused ⟨eq_false_of_ne_true isOpen, empty, ?_⟩
        rw [length_first]
        exact room
    · refine refuse_later begins nal empty ?_
      by_cases isOpen : s.fu = true
      · have goesOn : (fragment position nal data).continues = true := by
          cases position with
          | first => exact absurd rfl begins
          | middle => rfl
          | last => rfl
        refine .inr fun room => refused ⟨isOpen.trans goesOn.symm, empty, ?_⟩
        rw [(later_fragment begins nal data).1]
        exact room
      · exact .inl (eq_false_of_ne_true isOpen)

end Z1Rtp
