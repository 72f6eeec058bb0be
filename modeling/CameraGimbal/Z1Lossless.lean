/-
This file is about what the receiver of the Z1-Mini hands on when every packet arrives, and about
what it does with any bytes.

Without loss it hands on the units that are sent from the first key unit on, at the times that the
timestamps give. Whatever arrives, it reads no byte beyond the end of a packet, and neither a unit
nor what is handed on outgrows the buffer.
-/

import CameraGimbal.Z1Units

namespace Z1Rtp

open RtpVideo List

/-! ### What is sent -/

/-- A unit all of whose packets arrive, each with some data, and which fits the buffer, a key unit
behind the parameter sets. -/
structure Delivered (parameters : Bytes) (unit : AccessUnit) : Prop where
  arrives : ∀ sent ∈ unit.sent, sent.arrives = true
  filled : ∀ sent ∈ unit.sent, sent.piece.Filled
  room : (wanted parameters unit).length ≤ frameMax

/-- The ticks from the first of the timestamps to the last: their differences mod 2^32, summed. -/
def elapsed : List UInt32 → Nat
  | first :: second :: later => (second - first).toNat + elapsed (second :: later)
  | _ => 0

/-- A unit that is handed on, so many ticks behind the first one. -/
def emissionOf (parameters : Bytes) (unit : AccessUnit) (ticks : Nat) : Emission where
  frame := wanted parameters unit
  pts := UInt64.ofNat ticks * 1000000 / 90000
  key := isKey unit.nals

/-- The units that are handed on: those from the first key unit on. -/
def kept (units : List AccessUnit) : List AccessUnit := units.dropWhile fun unit => !isKey unit.nals

def handedOn (parameters : Bytes) (units : List AccessUnit) : List Emission :=
  (kept units).mapIdx fun index unit =>
    emissionOf parameters unit
      (elapsed (((kept units).take (index + 1)).map AccessUnit.timestamp))

/-! ### One unit -/

variable {s : Rtp} {next : UInt16} {parameters : Bytes} {unit : AccessUnit}

/-- The receiver in front of a unit. -/
structure Rtp.Ready (s : Rtp) (next : UInt16) : Prop where
  clean : s.Clean
  awaits : (s.haveSequence = false ∧ s.haveTimestamp = false) ∨
    ∃ sequence timestamp, s.At sequence timestamp ∧ next = sequence + 1

def Rtp.clock (s : Rtp) : UInt64 × UInt32 × Bool := (s.ticks, s.lastTimestamp, s.emitted)

theorem nextTicks_clock {first second : Rtp} (same : first.clock = second.clock)
    (timestamp : UInt32) : first.nextTicks timestamp = second.nextTicks timestamp := by
  obtain ⟨ticks, rest⟩ := Prod.mk.inj same
  obtain ⟨last, emitted⟩ := Prod.mk.inj rest
  unfold Rtp.nextTicks
  rw [ticks, last, emitted]

theorem enter_clock (s : Rtp) (sequence : UInt16) (timestamp : UInt32) :
    (s.enter sequence timestamp).clock = s.clock := by
  unfold Rtp.enter Rtp.noteTimestamp Rtp.noteSequence
  split
  · split
    · rfl
    · rfl
  · split
    · rfl
    · rfl

theorem ready_enter (ready : s.Ready next) (timestamp : UInt32) :
    (s.enter next timestamp).Clean ∧ (s.enter next timestamp).waitKey = s.waitKey := by
  obtain ⟨clean, ⟨haveSequence, haveTimestamp⟩ | ⟨sequence, stamp, arrived, rfl⟩⟩ := ready
  · rw [enter_fresh haveSequence haveTimestamp]
    exact ⟨clean, rfl⟩
  · by_cases same : timestamp = stamp
    · rw [same, enter_next arrived]
      exact ⟨clean, rfl⟩
    · obtain ⟨cleanEntered, waits⟩ := enter_other arrived same
      rw [clean.1] at waits
      exact ⟨cleanEntered, waits.trans (Bool.or_false _)⟩

/-- What a unit comes to: it is handed on, or dropped while a key unit is waited for. -/
inductive Rtp.Passed (s : Rtp) (unit : AccessUnit) (after : Rtp) : Prop where
  | emitted (decodable : s.waitKey = false ∨ isKey unit.nals = true)
    (ready : after.waitKey = false)
    (clock : after.clock = (s.nextTicks unit.timestamp, unit.timestamp, true))
    (consumed : after.consumed = s.consumed ++
      [{ frame := wanted s.parameters unit
         pts := s.nextTicks unit.timestamp * 1000000 / 90000
         key := isKey unit.nals }])
  | dropped (waits : s.waitKey = true) (other : isKey unit.nals = false)
    (waitsAfter : after.waitKey = true) (clock : after.clock = s.clock)
    (consumed : after.consumed = s.consumed)

theorem ready_unit (fits : s.Fits) (ready : s.Ready next)
    (delivered : Delivered s.parameters unit) :
    ∃ after, rtpPackets s (arriving unit.timestamp next unit.sent) = .ok after ∧ after.Fits ∧
      after.parameters = s.parameters ∧ after.Ready (next + UInt16.ofNat unit.sent.length) ∧
      s.Passed unit after := by
  obtain ⟨arrives, filled, room⟩ := delivered
  have stream := unit.packetized.stream
  have key := unit.packetized.key
  have follow := unit.packetized.follow
  cases sent : unit.sent with
  | nil => exact absurd sent unit.sent_ne_nil
  | cons first later =>
    rw [sent] at arrives filled stream key follow
    obtain ⟨arrivesFirst, arrivesLater⟩ := forall_mem_cons.mp arrives
    obtain ⟨clean, waits⟩ := ready_enter ready unit.timestamp
    obtain ⟨consumed_eq, parameters_eq⟩ := enter_consumed s next unit.timestamp
    have clock_eq := enter_clock s next unit.timestamp
    have ticks_eq := nextTicks_clock clock_eq unit.timestamp
    have nonempty : streamOfPieces ((first :: later).map Sent.piece) ≠ [] := by
      refine append_ne_nil_of_left_ne_nil ?_ _
      exact Piece.stream_ne_nil follow.2.1 (filled first mem_cons_self)
    have roomParameters : isKey unit.nals = true →
        s.parameters.length + (streamOf unit.nals).length ≤ frameMax := by
      intro isKeyUnit
      unfold wanted at room
      rw [if_pos isKeyUnit, length_append] at room
      exact room
    have roomStream : (streamOfPieces ((first :: later).map Sent.piece)).length ≤ frameMax := by
      rw [stream]
      by_cases isKeyUnit : isKey unit.nals = true
      · exact Nat.le_of_add_left_le (roomParameters isKeyUnit)
      · unfold wanted at room
        rw [if_neg isKeyUnit] at room
        exact room
    have puts : (s.enter next unit.timestamp).PutsTogether first later := by
      refine ⟨clean.2.1.trans follow.1.symm, arrivesLater, filled, ?_⟩
      rw [clean.1, length_nil, zero_add]
      exact roomStream
    have number : next + UInt16.ofNat (first :: later).length =
        next + UInt16.ofNat later.length + 1 := by
      rw [length_cons, UInt16.ofNat_add, ← UInt16.add_assoc]
      rfl
    rw [whole_run fits next unit.timestamp arrivesFirst (@Follow.later _ [] _ _ follow) puts,
      number]
    by_cases decodable : s.waitKey = false ∨ isKey unit.nals = true
    · have decodableEntered : (s.enter next unit.timestamp).waitKey = false ∨
          ((first :: later).map Sent.piece).any Piece.startsIdr = true := by
        rw [waits, key]
        exact decodable
      have roomEntered : ((first :: later).map Sent.piece).any Piece.startsIdr = true →
          (s.enter next unit.timestamp).parameters.length +
            (streamOfPieces ((first :: later).map Sent.piece)).length ≤ frameMax := by
        rw [key, stream, parameters_eq]
        exact roomParameters
      have consumed := emit_consumed clean (next + UInt16.ofNat later.length) unit.timestamp
        ((first :: later).map Sent.piece)
      rw [key, stream, parameters_eq, consumed_eq, ticks_eq] at consumed
      rw [close_emits clean nonempty roomStream decodableEntered roomEntered]
      refine ⟨_, rfl, Nat.zero_le _, parameters_eq,
        ⟨⟨rfl, rfl, rfl, rfl⟩, .inr ⟨_, unit.timestamp, ⟨rfl, rfl, rfl, rfl⟩, rfl⟩⟩,
        .emitted decodable rfl ?_ consumed⟩
      rw [← ticks_eq]
      rfl
    · obtain ⟨waiting, other⟩ := not_or.mp decodable
      have waiting := eq_true_of_ne_false waiting
      have other := eq_false_of_ne_true other
      rw [close_drops clean roomStream (waits.trans waiting) (key.trans other)]
      exact ⟨_, rfl, Nat.zero_le _, parameters_eq,
        ⟨⟨rfl, rfl, rfl, rfl⟩, .inr ⟨_, unit.timestamp, ⟨rfl, rfl, rfl, rfl⟩, rfl⟩⟩,
        .dropped waiting other (waits.trans waiting) clock_eq consumed_eq⟩

/-! ### The video -/

theorem elapsed_cons (first second : UInt32) (later : List UInt32) :
    elapsed (first :: second :: later) = (second - first).toNat + elapsed (second :: later) := rfl

theorem nextTicks_eq {ticks : Nat} {before : UInt32}
    (clock : s.clock = (UInt64.ofNat ticks, before, true)) (timestamp : UInt32) :
    s.nextTicks timestamp = UInt64.ofNat (ticks + (timestamp - before).toNat) := by
  obtain ⟨ticks_eq, rest⟩ := Prod.mk.inj clock
  obtain ⟨last, emitted⟩ := Prod.mk.inj rest
  unfold Rtp.nextTicks
  rw [emitted, if_pos rfl, ticks_eq, last, UInt64.ofNat_add]
  refine congrArg (UInt64.ofNat ticks + ·) ?_
  exact (UInt64.ofNat_uInt32ToNat _).symm

/-- Behind a unit that was handed on, every unit is. -/
theorem run_started (fits : s.Fits) (ready : s.Ready next) (started : s.waitKey = false)
    {ticks : Nat} {before : UInt32} (clock : s.clock = (UInt64.ofNat ticks, before, true))
    (units : List AccessUnit) (delivered : ∀ unit ∈ units, Delivered s.parameters unit) :
    ∃ after, rtpPackets s (arrivingUnits next units) = .ok after ∧
      after.consumed = s.consumed ++ units.mapIdx fun index unit =>
        emissionOf s.parameters unit
          (ticks + elapsed (before :: (units.take (index + 1)).map AccessUnit.timestamp)) := by
  induction units generalizing s next ticks before with
  | nil => exact ⟨s, rfl, (append_nil _).symm⟩
  | cons unit later hypothesis =>
    obtain ⟨deliveredFirst, deliveredLater⟩ := forall_mem_cons.mp delivered
    obtain ⟨between, run, fitsBetween, parameters, readyBetween, passed⟩ :=
      ready_unit fits ready deliveredFirst
    rw [← parameters] at deliveredLater
    cases passed with
    | dropped waits => exact Bool.noConfusion (started.symm.trans waits)
    | emitted _ startedBetween clockBetween consumedBetween =>
      rw [nextTicks_eq clock] at clockBetween consumedBetween
      obtain ⟨after, runLater, consumed⟩ := hypothesis fitsBetween readyBetween
        startedBetween clockBetween deliveredLater
      refine ⟨after, ?_, ?_⟩
      · rw [arrivingUnits, rtpPackets_append, run]
        exact runLater
      · rw [consumed, consumedBetween, append_assoc, mapIdx_cons, parameters]
        refine congrArg (s.consumed ++ emissionOf s.parameters unit
          (ticks + (unit.timestamp - before).toNat) :: ·) (congrArg (mapIdx · later) ?_)
        funext index second
        rw [add_assoc, ← elapsed_cons]
        rfl

theorem run_waiting (fits : s.Fits) (ready : s.Ready next) (waits : s.waitKey = true)
    (ticks : s.ticks = 0) (emitted : s.emitted = false) (units : List AccessUnit)
    (delivered : ∀ unit ∈ units, Delivered s.parameters unit) :
    ∃ after, rtpPackets s (arrivingUnits next units) = .ok after ∧
      after.consumed = s.consumed ++ handedOn s.parameters units := by
  induction units generalizing s next with
  | nil => exact ⟨s, rfl, (append_nil _).symm⟩
  | cons unit later hypothesis =>
    obtain ⟨deliveredFirst, deliveredLater⟩ := forall_mem_cons.mp delivered
    obtain ⟨between, run, fitsBetween, parameters, readyBetween, passed⟩ :=
      ready_unit fits ready deliveredFirst
    rw [← parameters] at deliveredLater
    have split : rtpPackets s (arrivingUnits next (unit :: later)) =
        rtpPackets between (arrivingUnits (next + UInt16.ofNat unit.sent.length) later) := by
      rw [arrivingUnits, rtpPackets_append, run]
      rfl
    rw [split]
    cases passed with
    | dropped _ other waitsBetween clock consumedBetween =>
      obtain ⟨ticksBetween, rest⟩ := Prod.mk.inj clock
      obtain ⟨-, emittedBetween⟩ := Prod.mk.inj rest
      obtain ⟨after, runLater, consumed⟩ := hypothesis fitsBetween readyBetween
        waitsBetween (ticksBetween.trans ticks) (emittedBetween.trans emitted) deliveredLater
      have kept_eq : kept (unit :: later) = kept later := by
        unfold kept
        rw [dropWhile_cons, other]
        rfl
      refine ⟨after, runLater, ?_⟩
      unfold handedOn at consumed ⊢
      rw [consumed, consumedBetween, kept_eq, parameters]
    | emitted decodable startedBetween clockBetween consumedBetween =>
      have key := decodable.resolve_left fun started => Bool.noConfusion (waits.symm.trans started)
      have zero : s.nextTicks unit.timestamp = UInt64.ofNat 0 := by
        unfold Rtp.nextTicks
        rw [emitted, if_neg Bool.false_ne_true]
        exact ticks
      have kept_eq : kept (unit :: later) = unit :: later := by
        unfold kept
        rw [dropWhile_cons, key]
        rfl
      rw [zero] at clockBetween consumedBetween
      obtain ⟨after, runLater, consumed⟩ :=
        run_started fitsBetween readyBetween startedBetween clockBetween later deliveredLater
      refine ⟨after, runLater, ?_⟩
      unfold handedOn
      rw [consumed, consumedBetween, append_assoc, kept_eq, mapIdx_cons, parameters]
      refine congrArg (s.consumed ++ emissionOf s.parameters unit 0 :: ·)
        (congrArg (mapIdx · later) ?_)
      funext index second
      rw [zero_add]
      rfl

/-- Units that are delivered are handed on from the first key unit on, as they were sent and at the
times of their timestamps. Whatever is delivered, no packet is read beyond its end, and nothing
outgrows the buffer. -/
theorem video_lossless (parameters : Bytes) :
    (∀ (sequence : UInt16) (units : List AccessUnit),
      (∀ unit ∈ units, Delivered parameters unit) →
        ∃ after, rtpPackets (Rtp.init parameters) (arrivingUnits sequence units) = .ok after ∧
          after.consumed = handedOn parameters units) ∧
      ∀ packets : List Bytes,
        ∃ after, rtpPackets (Rtp.init parameters) packets = .ok after ∧
          after.frame.length ≤ frameMax ∧
          ∀ emission ∈ after.consumed, emission.frame.length ≤ frameMax := by
  refine ⟨fun sequence units delivered => ?_, fun packets => ?_⟩
  · have ready : (Rtp.init parameters).Ready sequence := ⟨⟨rfl, rfl, rfl, rfl⟩, .inl ⟨rfl, rfl⟩⟩
    exact run_waiting (Nat.zero_le _) ready rfl rfl rfl units delivered
  · exact rtpPackets_held ⟨Nat.zero_le _, fun _ none => absurd none List.not_mem_nil⟩ packets

/-! ### A video -/

/-- Nothing beside the stream. -/
def plain : Wrapping where
  payloadType := 96
  ssrc := 1
  csrc := []
  extension := none
  padding := none
  fewSources := Nat.succ_pos _
  shortExtension := nofun
  shortPadding := nofun

/-- A source, an extension of one word, and three bytes of padding. -/
def wrapped : Wrapping where
  payloadType := 96
  ssrc := 1
  csrc := [2]
  extension := some (0xbede, [3])
  padding := some [0, 0]
  fewSources := by decide
  shortExtension := fun part same => Option.some.inj same ▸ by decide
  shortPadding := fun filler same => Option.some.inj same ▸ by decide

def parameterSet : Nal := ⟨0x67, [66], by decide⟩

def idrSlice : Nal := ⟨0x65, [136, 128], by decide⟩

def slice : Nal := ⟨0x41, [154], by decide⟩

def sliceUnit (timestamp : UInt32) : AccessUnit where
  nals := [slice]
  sent := [⟨wrapped, .single slice, true⟩]
  timestamp
  nonempty := List.cons_ne_nil _ _
  packetized := .single _ .nil

/-- Two parameter sets in an aggregate, and a slice in fragments. -/
def keyUnit (timestamp : UInt32) : AccessUnit where
  nals := [parameterSet, parameterSet, idrSlice]
  sent := [⟨wrapped, .aggregate 0x60 [parameterSet, parameterSet], true⟩,
    ⟨plain, .fragment .first idrSlice [136], true⟩, ⟨wrapped, .fragment .last idrSlice [128], true⟩]
  timestamp
  nonempty := List.cons_ne_nil _ _
  packetized := .aggregate 0x60 [parameterSet, parameterSet] ⟨by decide, by decide⟩
    (.fragments idrSlice [136] [] [128] rfl .nil)

theorem sliceUnit_delivered (timestamp : UInt32) : Delivered [9] (sliceUnit timestamp) :=
  ⟨forall_mem_singleton.mpr rfl, forall_mem_singleton.mpr trivial, Nat.le_of_ble_eq_true rfl⟩

theorem keyUnit_delivered (timestamp : UInt32) : Delivered [9] (keyUnit timestamp) := by
  refine ⟨?_, ?_, Nat.le_of_ble_eq_true rfl⟩
  · exact forall_mem_cons.mpr ⟨rfl, forall_mem_cons.mpr ⟨rfl, forall_mem_singleton.mpr rfl⟩⟩
  · exact forall_mem_cons.mpr ⟨trivial, forall_mem_cons.mpr ⟨cons_ne_nil _ _,
      forall_mem_singleton.mpr (cons_ne_nil _ _)⟩⟩

theorem video_lossless_three :
    ∃ after, rtpPackets (Rtp.init [9])
        (arrivingUnits 65534 [sliceUnit 0, keyUnit 4294966000, sliceUnit 1704]) = .ok after ∧
      after.consumed = handedOn [9] [sliceUnit 0, keyUnit 4294966000, sliceUnit 1704] :=
  (video_lossless [9]).1 65534 _ (List.forall_mem_cons.mpr ⟨sliceUnit_delivered 0,
    List.forall_mem_cons.mpr ⟨keyUnit_delivered 4294966000,
      List.forall_mem_singleton.mpr (sliceUnit_delivered 1704)⟩⟩)

/-- A slice in fragments, the first of them without data. -/
def emptyFragment : AccessUnit where
  nals := [idrSlice]
  sent := [⟨plain, .fragment .first idrSlice [], true⟩,
    ⟨plain, .fragment .last idrSlice [136, 128], true⟩]
  timestamp := 0
  nonempty := List.cons_ne_nil _ _
  packetized := .fragments idrSlice [] [] [136, 128] rfl .nil

/-- A unit with a fragment without data is not handed on. -/
theorem video_empty_fragment :
    (∀ sent ∈ emptyFragment.sent, sent.arrives = true) ∧
      (wanted [9] emptyFragment).length ≤ frameMax ∧
      ∃ after, rtpPackets (Rtp.init [9]) (arrivingUnits 7 [emptyFragment]) = .ok after ∧
        after.consumed ≠ handedOn [9] [emptyFragment] := by
  refine ⟨?_, Nat.le_of_ble_eq_true rfl, _, rfl, (List.cons_ne_nil _ _).symm⟩
  exact List.forall_mem_cons.mpr ⟨rfl, List.forall_mem_singleton.mpr rfl⟩

end Z1Rtp
