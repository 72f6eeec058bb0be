/-
This file derives what the packets of one frame look like from `send_frame`: which payloads a NAL
unit becomes, and which of the packets has the marker.

A NAL unit is cut into fragments when the whole of it is longer than the limit, but what is cut is
the unit without its header, so that a unit just above the limit comes in a single fragment. The
marker is set on the packet behind which no further NAL unit is found, whether that one is empty or
not, so that a start code at the end of a frame leaves the frame without its marker.
-/

import CameraGimbal.SupportVideo

namespace SupportVideo

open AnnexB List
open Siyi (byteAt)

/-! ### What is sent for a frame -/

/-- The marker bit of a packet. -/
def markerOf (packet : Bytes) : Bool := byteAt packet 5 &&& 0x80 != 0

/-- A packet's payload and its marker. -/
def reading (packet : Bytes) : Bytes × Bool := (payloadOf packet, markerOf packet)

/-- How many pieces the rest of a NAL unit behind its header is cut into. -/
def fragmentCount (codec : Codec) (data : Bytes) : Nat :=
  (data.length - headerSize codec + (rtpPayload - 1)) / rtpPayload

/-- The fragment that carries one of the pieces. -/
def fragmentAt (codec : Codec) (data : Bytes) (index : Nat) : Bytes :=
  fragmentOf codec data (decide (index = 0)) (decide (index + 1 = fragmentCount codec data))
    ((data.drop (headerSize codec + index * rtpPayload)).take rtpPayload)

def nalPayloads (codec : Codec) (data : Bytes) : List Bytes :=
  if data.length ≤ rtpPayload then [data]
  else (List.range (fragmentCount codec data)).map (fragmentAt codec data)

/-- The payloads of a NAL unit with their markers. -/
def nalPlan (codec : Codec) (data : Bytes) (last : Bool) : List (Bytes × Bool) :=
  if data.length ≤ rtpPayload then [(data, last)]
  else
    (List.range (fragmentCount codec data)).map fun index =>
      (fragmentAt codec data index, decide (index + 1 = fragmentCount codec data) && last)

/-- The payloads of the NAL units that are found in a frame, with their markers. -/
def framePlan (codec : Codec) : List Bytes → List (Bytes × Bool)
  | [] => []
  | nal :: later =>
    if nal = [] then framePlan codec later
    else nalPlan codec nal later.isEmpty ++ framePlan codec later

/-- What was handed to the connection between two states of the publisher is a beginning of the
plan, and all of it when nothing failed. -/
structure Follows (before after : Publisher) (succeeded : Bool)
    (plan : List (Bytes × Bool)) : Prop where
  codec : after.codec = before.codec
  packets : ∃ new, after.packets = before.packets ++ new ∧ new.map reading <+: plan ∧
    (succeeded = true → new.map reading = plan)

theorem Follows.nil (publisher : Publisher) : Follows publisher publisher true [] :=
  ⟨rfl, [], (append_nil _).symm, prefix_rfl, fun _ => rfl⟩

theorem Follows.trans {first second third : Publisher} {succeeded : Bool}
    {plan later : List (Bytes × Bool)} (follows : Follows first second true plan)
    (goesOn : Follows second third succeeded later) :
    Follows first third succeeded (plan ++ later) := by
  obtain ⟨codec, new, isNew, -, all⟩ := follows
  obtain ⟨laterCodec, rest, isRest, start, whole⟩ := goesOn
  refine ⟨laterCodec.trans codec, new ++ rest, ?_, ?_, fun success => ?_⟩
  · rw [isRest, isNew, append_assoc]
  · rw [map_append, all rfl]
    exact (prefix_append_right_inj plan).mpr start
  · rw [map_append, all rfl, whole success]

theorem Follows.stop {first second : Publisher} {plan : List (Bytes × Bool)}
    (follows : Follows first second false plan) (later : List (Bytes × Bool)) :
    Follows first second false (plan ++ later) := by
  obtain ⟨codec, new, isNew, start, -⟩ := follows
  exact ⟨codec, new, isNew, start.trans (prefix_append _ _), nofun⟩

variable (transferred : Connection)

theorem rtp_follows (publisher : Publisher) (payload : Bytes) (timestamp : UInt32)
    (marker : Bool) :
    Follows publisher (rtp transferred publisher payload timestamp marker).1
      (rtp transferred publisher payload timestamp marker).2 [(payload, marker)] := by
  have read : reading (rtpPacket publisher payload timestamp marker) = (payload, marker) := by
    have marked : ∀ bit : Bool,
        ((((96 : UInt8) ||| (if bit then 0x80 else 0)) &&& 0x80) != 0) = bit := by decide
    exact congrArg (Prod.mk payload) (marked marker)
  refine ⟨rfl, [rtpPacket publisher payload timestamp marker], rfl, ?_, fun _ => ?_⟩
  · rw [map_singleton, read]
  · rw [map_singleton, read]

variable (codec : Codec)

theorem headerSize_le : headerSize codec ≤ 2 := by cases codec <;> decide

variable (codec : Codec) (data : Bytes)

theorem fragment_position (index : Nat) :
    headerSize codec + index * rtpPayload < data.length ↔ index < fragmentCount codec data := by
  unfold fragmentCount rtpPayload
  omega

theorem fragmentAt_last {index : Nat} (inside : index < fragmentCount codec data) :
    headerSize codec + index * rtpPayload +
        (if data.length - (headerSize codec + index * rtpPayload) < rtpPayload then
          data.length - (headerSize codec + index * rtpPayload) else rtpPayload) = data.length ↔
      index + 1 = fragmentCount codec data := by
  unfold fragmentCount rtpPayload at *
  split <;> omega

theorem sendFragments_follows (timestamp : UInt32)
    (last : Bool) (remaining : Nat) (publisher : Publisher) (index : Nat)
    (left : index + remaining = fragmentCount codec data) :
    let sent := sendFragments transferred publisher data (fuIndicator codec data)
      (unitType codec (byteAt data 0)) (headerSize codec) timestamp last
      (headerSize codec + index * rtpPayload)
    Follows publisher sent.1 sent.2 ((range' index remaining).map fun index =>
      (fragmentAt codec data index, decide (index + 1 = fragmentCount codec data) && last)) := by
  induction remaining generalizing publisher index with
  | zero =>
    have ends : ¬ headerSize codec + index * rtpPayload < data.length := by
      rw [fragment_position]
      omega
    rw [sendFragments, if_neg ends]
    exact .nil publisher
  | succ fewer hypothesis =>
    have inside : index < fragmentCount codec data := by omega
    have here := (fragment_position codec data index).mpr inside
    have isEnd := fragmentAt_last codec data inside
    have isStart : headerSize codec + index * rtpPayload = headerSize codec ↔ index = 0 := by
      unfold rtpPayload
      omega
    obtain ⟨chunk, isChunk⟩ : ∃ chunk, chunk =
        if data.length - (headerSize codec + index * rtpPayload) < rtpPayload then
          data.length - (headerSize codec + index * rtpPayload) else rtpPayload := ⟨_, rfl⟩
    rw [← isChunk] at isEnd
    have taken : (data.drop (headerSize codec + index * rtpPayload)).take chunk =
        (data.drop (headerSize codec + index * rtpPayload)).take rtpPayload := by
      rw [isChunk]
      split
      · next short =>
        rw [take_of_length_le (by rw [length_drop]), take_of_length_le (by rw [length_drop]; omega)]
      · rfl
    have one : fuIndicator codec data ++ [fuHeader (unitType codec (byteAt data 0))
        (decide (headerSize codec + index * rtpPayload = headerSize codec))
        (decide (headerSize codec + index * rtpPayload + chunk = data.length))] ++
          (data.drop (headerSize codec + index * rtpPayload)).take chunk =
            fragmentAt codec data index := by
      rw [taken]
      simp only [isStart, isEnd]
      rfl
    have follows := rtp_follows transferred publisher (fragmentAt codec data index) timestamp
      (decide (index + 1 = fragmentCount codec data) && last)
    rw [sendFragments, if_pos here, range'_succ, map_cons, ← singleton_append]
    simp only [← isChunk, one]
    simp only [isEnd]
    split
    · next succeeded =>
      rw [succeeded] at follows
      by_cases ends : index + 1 = fragmentCount codec data
      · obtain rfl : fewer = 0 := by omega
        have behind : ¬ headerSize codec + index * rtpPayload + chunk < data.length := by
          have := isEnd.mpr ends
          omega
        rw [sendFragments, if_neg behind]
        exact follows.trans (.nil _)
      · have whole : chunk = rtpPayload := by
          rw [isChunk]
          refine if_neg fun short => ends (isEnd.mp ?_)
          rw [isChunk, if_pos short]
          omega
        have next : headerSize codec + index * rtpPayload + chunk =
            headerSize codec + (index + 1) * rtpPayload := by
          rw [whole, Nat.succ_mul, add_assoc]
        rw [next]
        exact follows.trans (hypothesis _ (index + 1) (by omega))
    · next failed =>
      rw [Bool.eq_false_iff.mpr failed] at follows
      exact follows.stop _

variable (publisher : Publisher) (data : Bytes) (timestamp : UInt32)

theorem sendNal_follows (last : Bool) :
    Follows publisher (sendNal transferred publisher data timestamp last).1
      (sendNal transferred publisher data timestamp last).2
      (nalPlan publisher.codec data last) := by
  unfold sendNal nalPlan
  split
  · exact rtp_follows transferred publisher data timestamp last
  · have whole := sendFragments_follows transferred publisher.codec data timestamp last
      (fragmentCount publisher.codec data) publisher 0 (zero_add _)
    rw [zero_mul, add_zero] at whole
    rw [range_eq_range']
    exact whole

theorem isNone_annexbNext (data : Bytes) :
    (annexbNext data).isNone = (nalUnits data).isEmpty := by
  cases next : annexbNext data with
  | none => rw [nalUnits_of_none next]; rfl
  | some found => rw [@nalUnits_of_some _ found.1 found.2 next]; rfl

theorem sendNals_follows :
    Follows publisher (sendNals transferred publisher data timestamp).1
      (sendNals transferred publisher data timestamp).2
      (framePlan publisher.codec (nalUnits data)) := by
  induction size : data.length using Nat.strong_induction_on generalizing publisher data with
  | _ length hypothesis =>
  rw [sendNals]
  split
  · next next =>
    rw [nalUnits_of_none next]
    exact .nil publisher
  next nal rest next =>
  have shorter := annexbNext_shrinks next
  rw [nalUnits_of_some next, framePlan]
  split
  · exact hypothesis rest.length (by omega) publisher rest rfl
  have one := sendNal_follows transferred publisher nal timestamp (annexbNext rest).isNone
  rw [← isNone_annexbNext]
  simp only
  split
  · next succeeded =>
    have others := hypothesis rest.length (by omega)
      (sendNal transferred publisher nal timestamp (annexbNext rest).isNone).1 rest rfl
    rw [one.codec] at others
    rw [succeeded] at one
    exact one.trans others
  · next failed =>
    rw [Bool.eq_false_iff.mpr failed] at one
    exact one.stop _

/-- The packets that are handed to the connection for a frame. -/
def emitted (publisher : Publisher) (frame : Frame) : List Bytes :=
  (sendFrame transferred publisher frame).1.packets.drop publisher.packets.length

theorem emitted_plan (publisher : Publisher) (frame : Frame) :
    (emitted transferred publisher frame).map reading <+:
        framePlan publisher.codec (nalUnits frame.data) ∧
      ((sendFrame transferred publisher frame).2 = true →
        (emitted transferred publisher frame).map reading =
          framePlan publisher.codec (nalUnits frame.data)) := by
  obtain ⟨-, new, isNew, start, all⟩ :=
    sendNals_follows transferred publisher frame.data frame.timestamp
  have own : emitted transferred publisher frame = new := by
    unfold emitted sendFrame
    rw [isNew, drop_left]
  rw [own]
  exact ⟨start, all⟩

/-! ### The fragments of a NAL unit -/

def startBit (codec : Codec) (fragment : Bytes) : Bool :=
  byteAt fragment (headerSize codec) &&& 0x80 != 0

def endBit (codec : Codec) (fragment : Bytes) : Bool :=
  byteAt fragment (headerSize codec) &&& 0x40 != 0

/-- What a fragment carries behind its own header. -/
def contentOf (codec : Codec) (fragment : Bytes) : Bytes :=
  fragment.drop (headerSize codec + 1)

/-- The rules for the fragments of one NAL unit: there are several of them, the first and no other
has the start bit, the last and no other has the end bit, and each carries something. -/
structure FuRules (codec : Codec) (fragments : List Bytes) : Prop where
  several : 2 ≤ fragments.length
  start : ∀ index (inside : index < fragments.length),
    startBit codec fragments[index] = true ↔ index = 0
  stop : ∀ index (inside : index < fragments.length),
    endBit codec fragments[index] = true ↔ index + 1 = fragments.length
  apart : ∀ fragment ∈ fragments, ¬ (startBit codec fragment = true ∧ endBit codec fragment = true)
  filled : ∀ fragment ∈ fragments, contentOf codec fragment ≠ []

theorem fragmentAt_read {index : Nat} (inside : index < fragmentCount codec data) :
    (startBit codec (fragmentAt codec data index) = true ↔ index = 0) ∧
      (endBit codec (fragmentAt codec data index) = true ↔ index + 1 = fragmentCount codec data) ∧
      contentOf codec (fragmentAt codec data index) ≠ [] := by
  have here := (fragment_position codec data index).mpr inside
  obtain ⟨-, -, start, stop, content⟩ := fragmentOf_read codec data
    ((data.drop (headerSize codec + index * rtpPayload)).take rtpPayload)
    ((Nat.le_add_right _ _).trans here.le) (decide (index = 0))
    (decide (index + 1 = fragmentCount codec data))
  refine ⟨?_, ?_, ?_⟩
  · exact bne_iff_ne.trans (start.trans decide_eq_true_iff)
  · exact bne_iff_ne.trans (stop.trans decide_eq_true_iff)
  · unfold contentOf fragmentAt
    rw [content]
    refine ne_nil_of_length_pos ?_
    have positive : 0 < rtpPayload := by decide
    rw [length_take, length_drop]
    omega

theorem fuRules_iff {data : Bytes} (long : rtpPayload < data.length) :
    FuRules codec (nalPayloads codec data) ↔ rtpPayload + headerSize codec < data.length := by
  have count : 2 ≤ fragmentCount codec data ↔ rtpPayload + headerSize codec < data.length := by
    unfold fragmentCount rtpPayload at *
    omega
  rw [nalPayloads, if_neg (not_le.mpr long), ← count]
  constructor
  · intro rules
    have several := rules.several
    rwa [length_map, length_range] at several
  · intro several
    have read := fun {index : Nat} (inside : index < fragmentCount codec data) =>
      fragmentAt_read codec data inside
    refine ⟨?_, fun index inside => ?_, fun index inside => ?_, fun fragment member => ?_,
      fun fragment member => ?_⟩
    · rwa [length_map, length_range]
    · rw [length_map, length_range] at inside
      rw [getElem_map, getElem_range]
      exact (read inside).1
    · rw [length_map, length_range] at inside ⊢
      rw [getElem_map, getElem_range]
      exact (read inside).2.1
    · obtain ⟨index, inside, rfl⟩ := mem_map.mp member
      obtain ⟨start, stop, -⟩ := read (mem_range.mp inside)
      rw [start, stop]
      omega
    · obtain ⟨index, inside, rfl⟩ := mem_map.mp member
      exact (read (mem_range.mp inside)).2.2

theorem nalPlan_payloads (last : Bool) :
    (nalPlan codec data last).map Prod.fst = nalPayloads codec data := by
  unfold nalPlan nalPayloads
  split
  · rfl
  · rw [map_map]
    rfl

theorem framePlan_payloads (nals : List Bytes) :
    (framePlan codec nals).map Prod.fst = (nals.filter (· ≠ [])).flatMap (nalPayloads codec) := by
  induction nals with
  | nil => rfl
  | cons nal later hypothesis =>
    rw [framePlan]
    split
    · next empty => rw [filter_cons_of_neg (by simp [empty]), hypothesis]
    · next some =>
      rw [filter_cons_of_pos (by simp [some]), map_append, nalPlan_payloads,
        hypothesis, flatMap_cons]

/-- The payloads of a frame are those of its NAL units, one after another, as far as nothing fails.
The fragments of a NAL unit obey the rules if and only if the unit is longer than the limit by more
than its header. -/
theorem fragments_obey_iff (publisher : Publisher) (frame : Frame) :
    (emitted transferred publisher frame).map payloadOf <+:
        ((nalUnits frame.data).filter (· ≠ [])).flatMap (nalPayloads publisher.codec) ∧
      ((sendFrame transferred publisher frame).2 = true →
        (emitted transferred publisher frame).map payloadOf =
          ((nalUnits frame.data).filter (· ≠ [])).flatMap (nalPayloads publisher.codec)) ∧
      ∀ nal ∈ nalUnits frame.data, rtpPayload < nal.length →
        (FuRules publisher.codec (nalPayloads publisher.codec nal) ↔
          rtpPayload + headerSize publisher.codec < nal.length) := by
  obtain ⟨start, whole⟩ := emitted_plan transferred publisher frame
  have payloads : (emitted transferred publisher frame).map payloadOf =
      ((emitted transferred publisher frame).map reading).map Prod.fst := by
    rw [List.map_map]
    rfl
  rw [payloads, ← framePlan_payloads]
  refine ⟨start.map Prod.fst, fun success => ?_, fun nal _ long => ?_⟩
  · rw [whole success]
  · exact fuRules_iff publisher.codec long

/-- A slice of one byte more than the limit. -/
def slice : NalUnit where
  bytes := List.replicate 1201 0x65
  nonempty := by decide
  noStartCode := fun inside => by
    have zero : (0 : UInt8) ∈ List.replicate 1201 (0x65 : UInt8) := inside.subset (by decide)
    exact absurd (List.eq_of_mem_replicate zero) (by decide)
  noTrailingZero := by
    rw [List.getLast_replicate]
    decide

/-- A publisher that has sent nothing. -/
def publisherOf (codec : Codec) : Publisher where
  codec
  sequence := 0
  ssrc := 0
  packets := []

/-- The slice is sent as one fragment. -/
theorem slice_in_one_fragment :
    ¬ ∀ (publisher : Publisher) (frame : Frame), ∀ nal ∈ nalUnits frame.data,
      rtpPayload < nal.length → FuRules publisher.codec (nalPayloads publisher.codec nal) := by
  intro obeys
  have size : slice.bytes.length = 1201 := List.length_replicate
  have found : slice.bytes ∈ nalUnits (encode [(.short, slice)]) := by
    rw [nalUnits_encode]
    exact List.mem_singleton_self _
  have rules := (fuRules_iff .h264 (by rw [size]; decide)).mp
    (obeys (publisherOf .h264) ⟨encode [(.short, slice)], 0⟩ slice.bytes found
      (by rw [size]; decide))
  rw [size] at rules
  exact absurd rules (by decide)

/-! ### The marker -/

/-- A connection that takes everything. -/
def takesAll : Connection := fun _ => true

theorem sendFragments_takesAll (publisher : Publisher) (data indicator : Bytes)
    (type : UInt8) (header : Nat) (timestamp : UInt32) (last : Bool) (position : Nat) :
    (sendFragments takesAll publisher data indicator type header timestamp last position).2 =
      true := by
  fun_induction sendFragments takesAll publisher data indicator type header timestamp last position
    with
  | case1 publisher position inside chunk isEnd fragment sent taken hypothesis =>
    exact hypothesis
  | case2 publisher position inside chunk isEnd fragment sent refused => exact absurd rfl refused
  | case3 publisher position behind => rfl

theorem sendNals_takesAll : (sendNals takesAll publisher data timestamp).2 = true := by
  have one (publisher : Publisher) (nal : Bytes) (last : Bool) :
      (sendNal takesAll publisher nal timestamp last).2 = true := by
    unfold sendNal
    split
    · rfl
    · exact sendFragments_takesAll _ _ _ _ _ _ _ _
  induction size : data.length using Nat.strong_induction_on generalizing publisher data with
  | _ length hypothesis =>
  rw [sendNals]
  split
  · rfl
  next nal rest next =>
  have shorter := annexbNext_shrinks next
  split
  · exact hypothesis rest.length (by omega) publisher rest rfl
  · simp only
    rw [if_pos (one publisher nal _)]
    exact hypothesis rest.length (by omega) _ rest rfl

/-- The last of the packets has the marker, and no other. -/
def MarkerEnds (packets : List Bytes) : Prop :=
  ∃ before last, packets = before ++ [last] ∧ markerOf last = true ∧
    ∀ packet ∈ before, markerOf packet = false

theorem nalPlan_markers (last : Bool) :
    ∃ count, (nalPlan codec data last).map Prod.snd = replicate count false ++ [last] := by
  unfold nalPlan
  split
  · exact ⟨0, rfl⟩
  · next long =>
    have header := headerSize_le codec
    obtain ⟨count, isCount⟩ : ∃ count, fragmentCount codec data = count + 1 := by
      refine Nat.exists_eq_add_one.mpr ?_
      unfold fragmentCount rtpPayload at *
      omega
    refine ⟨count, ?_⟩
    rw [map_map, isCount, range_succ, map_append, map_singleton]
    refine congrArg₂ (· ++ ·) ?_ ?_
    · refine eq_replicate_iff.mpr ⟨by rw [length_map, length_range], ?_⟩
      intro marker member
      obtain ⟨index, inside, rfl⟩ := mem_map.mp member
      have earlier : index + 1 ≠ count + 1 := by
        have := mem_range.mp inside
        omega
      show (decide (index + 1 = count + 1) && last) = false
      rw [decide_eq_false earlier, Bool.false_and]
    · simp

/-- The last packet of a frame has the marker, and no other, when the last NAL unit that is found is
not empty; otherwise none has. -/
theorem framePlan_markers {nals : List (Bytes)} {nal : Bytes}
    (isLast : nals.getLast? = some nal) :
    if nal = [] then ∃ count, (framePlan codec nals).map Prod.snd = replicate count false
    else ∃ count, (framePlan codec nals).map Prod.snd = replicate count false ++ [true] := by
  induction nals with
  | nil => cases isLast
  | cons first later hypothesis =>
    rw [framePlan]
    cases later with
    | nil =>
      obtain rfl : first = nal := Option.some.inj isLast
      split
      · exact ⟨0, rfl⟩
      · obtain ⟨count, markers⟩ := nalPlan_markers codec first true
        refine ⟨count, ?_⟩
        rw [isEmpty_nil, framePlan, append_nil, markers]
    | cons second others =>
      rw [getLast?_cons_cons] at isLast
      have rest := hypothesis isLast
      by_cases empty : first = []
      · rwa [if_pos empty]
      · rw [if_neg empty, map_append]
        obtain ⟨count, markers⟩ := nalPlan_markers codec first (second :: others).isEmpty
        rw [isEmpty_cons] at markers ⊢
        have joined : replicate count false ++ [false] = replicate (count + 1) false :=
          replicate_succ'.symm
        rw [markers, joined]
        split at rest
        · next none =>
          obtain ⟨more, markers⟩ := rest
          rw [if_pos none, markers]
          exact ⟨count + 1 + more, replicate_append_replicate⟩
        · next some =>
          obtain ⟨more, markers⟩ := rest
          rw [if_neg some, markers]
          refine ⟨count + 1 + more, ?_⟩
          rw [← append_assoc, replicate_append_replicate]

theorem markerEnds_iff (packets : List Bytes) :
    MarkerEnds packets ↔ ∃ count, packets.map markerOf = replicate count false ++ [true] := by
  constructor
  · rintro ⟨before, last, rfl, marked, others⟩
    refine ⟨before.length, ?_⟩
    rw [map_append, map_singleton, marked]
    refine congrArg (· ++ [true]) (eq_replicate_iff.mpr ⟨length_map _, ?_⟩)
    intro marker member
    obtain ⟨packet, inside, rfl⟩ := mem_map.mp member
    exact others packet inside
  · rintro ⟨count, markers⟩
    obtain ⟨before, rest, rfl, isBefore, isRest⟩ := map_eq_append_iff.mp markers
    obtain ⟨last, others, rfl, marked, isNil⟩ := map_eq_cons_iff.mp isRest
    obtain rfl := map_eq_nil_iff.mp isNil
    refine ⟨before, last, rfl, marked, fun packet inside => ?_⟩
    exact eq_of_mem_replicate (isBefore ▸ mem_map_of_mem inside)

/-- Whatever the connection takes of a frame with something to send, no packet but the last has the
marker; and when the frame is sent, its last packet has the marker if and only if the frame does not
end in a start code. -/
theorem marker_ends_iff (publisher : Publisher) (frame : Frame)
    (picture : ∃ nal ∈ nalUnits frame.data, nal ≠ []) :
    (∀ before packet later, emitted transferred publisher frame = before ++ packet :: later →
        later ≠ [] → markerOf packet = false) ∧
      ((sendFrame transferred publisher frame).2 = true →
        (MarkerEnds (emitted transferred publisher frame) ↔ ¬ EndsInStartCode frame.data)) := by
  obtain ⟨start, whole⟩ := emitted_plan transferred publisher frame
  have markers : (emitted transferred publisher frame).map markerOf =
      ((emitted transferred publisher frame).map reading).map Prod.snd := by
    rw [List.map_map]
    rfl
  obtain ⟨nal, isLast⟩ : ∃ nal, (nalUnits frame.data).getLast? = some nal := by
    obtain ⟨nal, member, -⟩ := picture
    exact ⟨_, List.getLast?_eq_some_getLast (List.ne_nil_of_mem member)⟩
  have plan := framePlan_markers publisher.codec isLast
  constructor
  · intro before packet later split more
    have inside := start.map Prod.snd
    rw [← markers, split, List.map_append, List.map_cons] at inside
    obtain ⟨count, rest, isRest, short⟩ : ∃ count rest,
        (framePlan publisher.codec (nalUnits frame.data)).map Prod.snd =
          List.replicate count false ++ rest ∧ rest.length ≤ 1 := by
      split at plan
      · obtain ⟨count, all⟩ := plan
        exact ⟨count, [], by rw [all, List.append_nil], Nat.zero_le _⟩
      · obtain ⟨count, all⟩ := plan
        exact ⟨count, [true], all, le_rfl⟩
    have position : before.length < count := by
      have size := inside.length_le
      have positive := List.length_pos_iff.mpr more
      rw [isRest] at size
      simp only [List.length_append, List.length_cons, List.length_map,
        List.length_replicate] at size
      omega
    obtain ⟨behind, same⟩ := inside
    have here : (before.map markerOf ++ markerOf packet :: later.map markerOf ++
        behind)[before.length]? = (List.replicate count false ++ rest)[before.length]? := by
      rw [same, isRest]
    have unmarked : (List.replicate count false ++ rest)[before.length]? = some false := by
      rw [List.getElem?_append_left (by rw [List.length_replicate]; exact position),
        List.getElem?_replicate, if_pos position]
    rw [unmarked] at here
    simpa using here
  · intro success
    rw [markerEnds_iff, markers, whole success, ← last_empty_iff, isLast, Option.some.injEq]
    split at plan
    · next empty =>
      obtain ⟨count, all⟩ := plan
      refine ⟨fun ⟨other, ends⟩ => ?_, fun some => absurd empty some⟩
      have marked : true ∈ List.replicate count false := by
        rw [← all, ends]
        exact List.mem_append_right _ (List.mem_singleton_self true)
      exact absurd (List.eq_of_mem_replicate marked) (by decide)
    · next some => exact ⟨fun _ => some, fun _ => plan⟩

/-- A slice behind a start code. -/
theorem marker_ends_iff_slice :
    MarkerEnds (emitted takesAll (publisherOf .h264) ⟨[0, 0, 1, 0x65], 0⟩) :=
  have next : annexbNext [0, 0, 1, 0x65] = some ([0x65], []) := by decide
  have found : [0x65] ∈ nalUnits [0, 0, 1, 0x65] := by
    rw [nalUnits_of_some next]
    exact List.mem_cons_self
  ((marker_ends_iff takesAll (publisherOf .h264) ⟨[0, 0, 1, 0x65], 0⟩
    ⟨[0x65], found, by decide⟩).2 (sendNals_takesAll _ _ _)).mpr (by decide)

/-- A slice with a start code behind it is sent without the marker. -/
theorem slice_without_marker :
    ¬ ∀ (publisher : Publisher) (frame : Frame), (∃ nal ∈ nalUnits frame.data, nal ≠ []) →
      (sendFrame takesAll publisher frame).2 = true →
        MarkerEnds (emitted takesAll publisher frame) := by
  intro ends
  have next : annexbNext [0, 0, 1, 0x65, 0, 0, 1] = some ([0x65], [0, 0, 1]) := by decide
  have found : [0x65] ∈ nalUnits [0, 0, 1, 0x65, 0, 0, 1] := by
    rw [nalUnits_of_some next]
    exact List.mem_cons_self
  have isLast := (last_empty_iff [0, 0, 1, 0x65, 0, 0, 1]).mpr (by decide)
  have plan := framePlan_markers .h264 isLast
  rw [if_pos rfl] at plan
  obtain ⟨count, unmarked⟩ := plan
  obtain ⟨before, last, isEmitted, marked, -⟩ :=
    ends (publisherOf .h264) ⟨[0, 0, 1, 0x65, 0, 0, 1], 0⟩ ⟨[0x65], found, by decide⟩
      (sendNals_takesAll _ _ _)
  have whole := (emitted_plan takesAll (publisherOf .h264) ⟨[0, 0, 1, 0x65, 0, 0, 1], 0⟩).2
    (sendNals_takesAll _ _ _)
  have member : markerOf last ∈ List.replicate count false := by
    have inside : reading last ∈ framePlan .h264 (nalUnits [0, 0, 1, 0x65, 0, 0, 1]) := by
      refine whole ▸ List.mem_map_of_mem ?_
      rw [isEmitted]
      exact List.mem_append_right before (List.mem_singleton_self last)
    exact unmarked ▸ List.mem_map_of_mem (f := Prod.snd) inside
  rw [marked] at member
  exact absurd (List.eq_of_mem_replicate member) (by decide)

end SupportVideo
