/-
This file is about what becomes of a video whose packets are lost on the way to the receiver of the
Z1-Mini.

A unit whose beginning is missing is handed on without it when the next of its packets begins a NAL
unit, and the rest arrives: the timestamp of the unit is another one than before, and what was noted
of the gap is forgotten. Apart from that every unit that is handed on is a whole one, and can be
decoded.
-/

import CameraGimbal.Z1Lossless
import Mathlib.Data.List.TakeWhile

namespace Z1Rtp

open RtpVideo List Option

/-- The packets of a unit from the first one on that arrives. -/
def rest (unit : AccessUnit) : List Sent := unit.sent.dropWhile fun sent => !sent.arrives

/-- A key unit whose beginning is lost, up to a packet that begins a NAL unit, while all of the
others arrive. Its timestamp is not the one of the packet that arrived before it. -/
structure Torn (parameters : Bytes) (last : Option UInt32) (unit : AccessUnit) : Prop where
  lost : rest unit ≠ unit.sent
  arrives : ∀ sent ∈ rest unit, sent.arrives = true
  begins : ∀ sent ∈ (rest unit).head?, sent.piece.continues = false
  key : ((rest unit).map Sent.piece).any Piece.startsIdr = true
  filled : ∀ sent ∈ rest unit, sent.piece.Filled
  room : parameters.length + (streamOfPieces ((rest unit).map Sent.piece)).length ≤ frameMax
  apart : last ≠ some unit.timestamp

/-- No unit is torn. Before them, the last packet that arrived had the timestamp. -/
def NoneTorn (parameters : Bytes) : Option UInt32 → List AccessUnit → Prop
  | _, [] => True
  | last, unit :: later =>
    ¬ Torn parameters last unit ∧
      NoneTorn parameters (lastBehind unit.timestamp last unit.sent) later

/-- The units that are sent one after another, and what is handed on while the packets of each of
them arrive. -/
def deliver (s : Rtp) (sequence : UInt16) :
    List AccessUnit → Except Fault (Rtp × List (List Emission))
  | [] => .ok (s, [])
  | unit :: later => do
    let after ← rtpPackets s (arriving unit.timestamp sequence unit.sent)
    let (final, outcomes) ← deliver after (sequence + UInt16.ofNat unit.sent.length) later
    .ok (final, after.consumed.drop s.consumed.length :: outcomes)

/-- What is handed on while the packets of a unit arrive is nothing or the unit itself. It is a key
unit, or the one before it was handed on. -/
inductive Decodable (parameters : Bytes) : Bool → List AccessUnit → List (List Emission) →
    Prop where
  | nil (previous : Bool) : Decodable parameters previous [] []
  | nothing (previous : Bool) (unit : AccessUnit) {later : List AccessUnit}
    {outcomes : List (List Emission)} (rest : Decodable parameters false later outcomes) :
    Decodable parameters previous (unit :: later) ([] :: outcomes)
  | whole {previous : Bool} {unit : AccessUnit} {emission : Emission} {later : List AccessUnit}
    {outcomes : List (List Emission)} (frame : emission.frame = wanted parameters unit)
    (key : emission.key = isKey unit.nals)
    (decodable : isKey unit.nals = true ∨ previous = true)
    (rest : Decodable parameters true later outcomes) :
    Decodable parameters previous (unit :: later) ([emission] :: outcomes)

/-! ### The first packet that arrives -/

variable {s : Rtp} {next : UInt16} {lost : Option Nat} {last : Option UInt32} {previous : Bool}

/-- The receiver between two units. -/
structure Rtp.Boundary (s : Rtp) (next : UInt16) (lost : Option Nat) (last : Option UInt32)
    (previous : Bool) : Prop where
  fits : s.Fits
  awaits : s.Awaits next lost last
  fresh : lost = none → s.Clean ∧ s.waitKey = true
  settled : lost = some 0 → s.Settled
  latched : lost = some 0 → s.waitKey = false → previous = true

variable {before : List Sent}

theorem missing_before (none : ∀ sent ∈ before, sent.arrives = false) (lost : Option Nat) :
    missing lost (before.map Sent.arrives) = lost.map (· + before.length) := by
  induction before generalizing lost with
  | nil => exact Option.map_id'.symm
  | cons sent rest hypothesis =>
    obtain ⟨lostFirst, lostRest⟩ := forall_mem_cons.mp none
    rw [map_cons, lostFirst]
    refine (hypothesis lostRest _).trans ?_
    rw [Option.map_map]
    refine congrArg (Option.map · lost) (funext fun count => ?_)
    show count + 1 + rest.length = count + (rest.length + 1)
    rw [add_assoc, add_comm 1]

theorem first_packet (boundary : s.Boundary next lost last previous)
    (none : ∀ sent ∈ before, sent.arrives = false)
    (short : ∀ count ∈ missing lost (before.map Sent.arrives), count < 2 ^ 16)
    (timestamp : UInt32) :
    let entered := s.enter (next + UInt16.ofNat before.length) timestamp
    (entered.Clean ∧ (entered.waitKey = false → before = [] ∧ previous = true) ∧
        (before ≠ [] → last ≠ some timestamp)) ∨
      (entered.Spoiled ∧ (before ≠ [] → last = some timestamp)) := by
  intro entered
  rw [missing_before none] at short
  cases boundary.awaits with
  | fresh haveSequence haveTimestamp =>
    obtain ⟨clean, waits⟩ := boundary.fresh rfl
    have entered_eq := enter_fresh haveSequence haveTimestamp
      (next + UInt16.ofNat before.length) timestamp
    refine .inl ⟨?_, fun ready => ?_, fun _ => nofun⟩
    · show Rtp.Clean (s.enter _ timestamp)
      rw [entered_eq]
      exact clean
    · have ready : (s.enter (next + UInt16.ofNat before.length) timestamp).waitKey = false := ready
      rw [entered_eq] at ready
      exact Bool.noConfusion (waits.symm.trans ready)
  | behind sequence stamp count arrived follows =>
    have small : count + before.length < 2 ^ 16 := short _ rfl
    have number : next + UInt16.ofNat before.length =
        sequence + 1 + UInt16.ofNat (count + before.length) := by
      rw [follows, UInt16.ofNat_add, UInt16.add_assoc]
    by_cases zero : count + before.length = 0
    · obtain ⟨rfl, noneBefore⟩ := Nat.add_eq_zero_iff.mp zero
      obtain rfl := length_eq_zero_iff.mp noneBefore
      have entered_eq : entered = s.enter (sequence + 1) timestamp := by
        show s.enter _ timestamp = _
        rw [number]
        exact congrArg (s.enter · timestamp) (UInt16.add_zero _)
      rw [entered_eq]
      by_cases same : timestamp = stamp
      · rw [same, enter_next arrived]
        rcases (boundary.settled rfl).2 with clean | spoiled
        · exact .inl ⟨clean, fun ready => ⟨rfl, boundary.latched rfl ready⟩,
            fun some => absurd rfl some⟩
        · exact .inr ⟨spoiled, fun some => absurd rfl some⟩
      · obtain ⟨clean, waits⟩ := enter_other arrived same
        refine .inl ⟨clean, fun ready => ⟨rfl, ?_⟩, fun some => absurd rfl some⟩
        rw [waits] at ready
        exact boundary.latched rfl (Bool.or_eq_false_iff.mp ready).1
    · have gap := @gap_ne sequence _ (Nat.pos_of_ne_zero zero) small
      rw [← number] at gap
      by_cases same : timestamp = stamp
      · rw [← same] at arrived
        exact .inr ⟨enter_gap arrived gap, fun _ => congrArg some same.symm⟩
      · obtain ⟨clean, waits⟩ := enter_apart arrived gap same
        exact .inl ⟨clean, fun ready => Bool.noConfusion (waits.symm.trans ready),
          fun _ stamps => same (some.inj stamps).symm⟩

/-! ### One unit -/

theorem arriving_before (none : ∀ sent ∈ before, sent.arrives = false) (timestamp : UInt32)
    (next : UInt16) (rest : List Sent) :
    arriving timestamp next (before ++ rest) =
      arriving timestamp (next + UInt16.ofNat before.length) rest := by
  induction before generalizing next with
  | nil => exact congrArg (arriving timestamp · rest) (UInt16.add_zero next).symm
  | cons sent before hypothesis =>
    obtain ⟨lostFirst, lostRest⟩ := forall_mem_cons.mp none
    rw [cons_append, arriving, lostFirst, if_neg Bool.false_ne_true, nil_append,
      hypothesis lostRest, ofNat_succ_add]
    rfl

theorem sent_eq (unit : AccessUnit) :
    ∃ before, unit.sent = before ++ rest unit ∧ (∀ sent ∈ before, sent.arrives = false) ∧
      ∀ sent ∈ (rest unit).head?, sent.arrives = true := by
  refine ⟨unit.sent.takeWhile fun sent => !sent.arrives, takeWhile_append_dropWhile.symm,
    fun sent within => ?_, fun sent first => ?_⟩
  · have passes := mem_takeWhile_imp within
    simpa using passes
  · have stops := head?_dropWhile_not (fun sent : Sent => !sent.arrives) unit.sent
    unfold rest at first
    rw [mem_def.mp first] at stops
    simpa using stops

theorem stream_shorter {before : List Piece} (some : before ≠ []) {later : List Piece}
    (follow : Follow false (before ++ later)) :
    (streamOfPieces later).length < (streamOfPieces (before ++ later)).length := by
  cases before with
  | nil => exact absurd rfl some
  | cons first more =>
    have nonempty : 0 < first.stream.length := by
      obtain ⟨closed, sendable, -⟩ := follow
      cases first with
      | single nal => exact Nat.succ_pos _
      | aggregate indicator nals =>
        exact length_pos_iff.mpr (@Piece.stream_ne_nil (.aggregate indicator nals) sendable trivial)
      | fragment position nal data =>
        cases position with
        | first => exact Nat.succ_pos _
        | middle => cases closed
        | last => cases closed
    rw [cons_append, length_stream_cons]
    unfold streamOfPieces
    rw [flatMap_append, length_append]
    omega

/-- What is handed on of a unit: nothing, the whole of it, or, when it is torn, less. -/
inductive Outcome (parameters : Bytes) (last : Option UInt32) (previous : Bool)
    (unit : AccessUnit) : List Emission → Prop where
  | nothing (intact : ¬ Torn parameters last unit) : Outcome parameters last previous unit []
  | whole (emission : Emission) (intact : ¬ Torn parameters last unit)
    (frame : emission.frame = wanted parameters unit) (key : emission.key = isKey unit.nals)
    (decodable : isKey unit.nals = true ∨ previous = true) :
    Outcome parameters last previous unit [emission]
  | torn (emission : Emission) (torn : Torn parameters last unit)
    (shorter : emission.frame.length < (wanted parameters unit).length) :
    Outcome parameters last previous unit [emission]

variable {parameters : Bytes} {unit : AccessUnit}

theorem emission_outcome {after : List Sent}
    (sent : unit.sent = before ++ after) (decodable : (before = [] ∧ previous = true) ∨
      (after.map Sent.piece).any Piece.startsIdr = true)
    (torn : before ≠ [] → (after.map Sent.piece).any Piece.startsIdr = true →
      Torn parameters last unit) (intact : before = [] → ¬ Torn parameters last unit)
    (pts : UInt64) :
    Outcome parameters last previous unit
      [{ frame :=
          if (after.map Sent.piece).any Piece.startsIdr then
            parameters ++ streamOfPieces (after.map Sent.piece)
          else streamOfPieces (after.map Sent.piece)
         pts := pts
         key := (after.map Sent.piece).any Piece.startsIdr }] := by
  have stream := unit.packetized.stream
  have key := unit.packetized.key
  rw [sent] at stream key
  by_cases whole : before = []
  · rw [whole, nil_append] at stream key
    refine .whole _ (intact whole) ?_ key ?_
    · unfold wanted
      rw [← stream, ← key]
    · rw [← key]
      exact decodable.symm.imp_right And.right
  · have starts := decodable.resolve_left fun waits => whole waits.1
    have isKey_eq : isKey unit.nals = true := by
      rw [← key, map_append, any_append, starts, Bool.or_true]
    refine .torn _ (torn whole starts) ?_
    have follow : Follow false (before.map Sent.piece ++ after.map Sent.piece) := by
      rw [← map_append, ← sent]
      exact unit.packetized.follow
    have shorter := stream_shorter (mt map_eq_nil_iff.mp whole) follow
    rw [← map_append, stream] at shorter
    unfold wanted
    rw [if_pos isKey_eq, length_append]
    rw [if_pos starts, length_append]
    exact Nat.add_lt_add_left shorter _

/-- What a unit some packets of which arrive comes to. -/
theorem arriving_outcome (boundary : s.Boundary next lost last previous) (unit : AccessUnit)
    (short : ShortGaps lost unit.arrivals) {first : Sent} {later : List Sent}
    (rest_eq : rest unit = first :: later) :
    ∃ after emissions, rtpPackets s (arriving unit.timestamp next unit.sent) = .ok after ∧
      after.consumed = s.consumed ++ emissions ∧
      Outcome s.parameters last previous unit emissions ∧
      (missing lost unit.arrivals = some 0 → after.waitKey = false → emissions ≠ []) := by
  obtain ⟨before, sent, none, head⟩ := sent_eq unit
  rw [rest_eq] at sent head
  have arrives : first.arrives = true := head first rfl
  have flags : unit.arrivals = before.map Sent.arrives ++ true :: later.map Sent.arrives := by
    unfold AccessUnit.arrivals
    rw [sent, map_append, map_cons, arrives]
  rw [flags, shortGaps_append] at short
  obtain ⟨-, shortFirst, shortLater⟩ := short
  have missing_eq : missing lost unit.arrivals = missing (some 0) (later.map Sent.arrives) := by
    rw [flags, missing_append]
    rfl
  have follow : Follow false ((before ++ first :: later).map Sent.piece) := by
    rw [← sent]
    exact unit.packetized.follow
  rw [map_append] at follow
  have followFirst := Follow.later follow
  have packets : arriving unit.timestamp next unit.sent =
      arriving unit.timestamp (next + UInt16.ofNat before.length) (first :: later) := by
    rw [sent]
    exact arriving_before none unit.timestamp next _
  rw [packets, missing_eq]
  have fits := boundary.fits
  have lost_iff : rest unit ≠ unit.sent ↔ before ≠ [] := by
    rw [sent, ← rest_eq]
    exact not_congr self_eq_append_left
  have consumed_eq := enter_consumed s (next + UInt16.ofNat before.length) unit.timestamp
  rcases first_packet boundary none shortFirst unit.timestamp with
    ⟨clean, ready, apart⟩ | ⟨spoiled, same⟩
  · by_cases puts : (s.enter (next + UInt16.ofNat before.length) unit.timestamp).PutsTogether
        first later
    · have whole := whole_run fits _ unit.timestamp arrives followFirst puts
      obtain ⟨goesOn, arrivesLater, filled, room⟩ := puts
      rw [clean.1, length_nil, zero_add] at room
      have begins : first.piece.continues = false := goesOn.symm.trans clean.2.1
      have nonempty : streamOfPieces ((first :: later).map Sent.piece) ≠ [] := by
        refine append_ne_nil_of_left_ne_nil ?_ _
        exact Piece.stream_ne_nil followFirst.2.1 (filled first mem_cons_self)
      rw [whole]
      by_cases emits :
          ((s.enter (next + UInt16.ofNat before.length) unit.timestamp).waitKey = false ∨
            ((first :: later).map Sent.piece).any Piece.startsIdr = true) ∧
          (((first :: later).map Sent.piece).any Piece.startsIdr = true →
            (s.enter (next + UInt16.ofNat before.length) unit.timestamp).parameters.length +
              (streamOfPieces ((first :: later).map Sent.piece)).length ≤ frameMax)
      · obtain ⟨decodable, parameters⟩ := emits
        rw [close_emits clean nonempty room decodable parameters]
        have consumed := emit_consumed clean (next + UInt16.ofNat before.length +
          UInt16.ofNat later.length) unit.timestamp ((first :: later).map Sent.piece)
        rw [consumed_eq.1, consumed_eq.2] at consumed
        refine ⟨_, _, rfl, consumed, ?_, fun _ _ => cons_ne_nil _ _⟩
        refine emission_outcome sent (decodable.imp_left ready) (fun lost starts => ?_)
          (fun whole torn => lost_iff.mp torn.lost whole) _
        refine ⟨lost_iff.mpr lost, ?_, ?_, ?_, ?_, ?_, apart lost⟩
        · rw [rest_eq]
          exact forall_mem_cons.mpr ⟨arrives, arrivesLater⟩
        · rw [rest_eq]
          exact fun sent same => some.inj same ▸ begins
        · rw [rest_eq]
          exact starts
        · rw [rest_eq]
          exact filled
        · rw [rest_eq, ← consumed_eq.2]
          exact parameters starts
      · obtain ⟨consumed, waits⟩ := close_quiet clean nonempty room emits
        have intact : ¬ Torn s.parameters last unit := by
          rintro ⟨-, -, -, key, -, roomKey, -⟩
          rw [rest_eq] at key roomKey
          refine emits ⟨.inr key, fun _ => ?_⟩
          rw [consumed_eq.2]
          exact roomKey
        exact ⟨_, [], rfl, (consumed.trans consumed_eq.1).trans (append_nil _).symm,
          .nothing intact, fun _ ready => Bool.noConfusion (waits.symm.trans ready)⟩
    · have intact : ¬ Torn s.parameters last unit := by
        rintro ⟨-, arrivesAll, begins, -, filled, room, -⟩
        rw [rest_eq] at arrivesAll begins filled room
        refine puts ⟨clean.2.1.trans (begins first rfl).symm,
          (forall_mem_cons.mp arrivesAll).2, filled, ?_⟩
        rw [clean.1, length_nil, zero_add]
        exact Nat.le_of_add_left_le room
      obtain ⟨after, run, consumed, waits⟩ :=
        broken_run fits _ unit.timestamp arrives followFirst shortLater puts
      exact ⟨after, [], run, consumed.trans (append_nil _).symm, .nothing intact,
        fun ended ready => Bool.noConfusion ((waits ended).symm.trans ready)⟩
  · have intact : ¬ Torn s.parameters last unit := fun torn =>
      torn.apart (same (lost_iff.mp torn.lost))
    obtain ⟨between, fitsBetween, arrived, consumedBetween, waits, spoiledBetween, result⟩ :=
      spoiled_step fits spoiled arrives later
    obtain ⟨after, run, consumed, waitsAfter⟩ := spoiled_run fitsBetween arrived waits
      (next + UInt16.ofNat before.length + 1) (some 0) later spoiledBetween
    rw [result]
    exact ⟨after, [], run, (consumed.trans consumedBetween).trans (append_nil _).symm,
      .nothing intact, fun ended ready => Bool.noConfusion ((waitsAfter ended).symm.trans ready)⟩

theorem missing_some (count : Nat) (flags : List Bool) : missing (some count) flags ≠ none := by
  induction flags generalizing count with
  | nil => exact nofun
  | cons arrives rest hypothesis =>
    cases arrives with
    | false => exact hypothesis (count + 1)
    | true => exact hypothesis 0

/-- What a unit comes to, and the receiver behind it. -/
theorem unit_outcome (boundary : s.Boundary next lost last previous) (unit : AccessUnit)
    (short : ShortGaps lost unit.arrivals) :
    ∃ after emissions, rtpPackets s (arriving unit.timestamp next unit.sent) = .ok after ∧
      after.consumed = s.consumed ++ emissions ∧ after.parameters = s.parameters ∧
      Outcome s.parameters last previous unit emissions ∧
      after.Boundary (next + UInt16.ofNat unit.sent.length) (missing lost unit.arrivals)
        (lastBehind unit.timestamp last unit.sent) (!emissions.isEmpty) := by
  obtain ⟨after, run, fits, parameters, awaits, settled⟩ :=
    run_awaits boundary.fits boundary.awaits unit.timestamp unit.sent
  have settled := settled unit.sent_ne_nil
  cases rest_eq : rest unit with
  | nil =>
    obtain ⟨before, sent, none, -⟩ := sent_eq unit
    rw [rest_eq, append_nil] at sent
    have packets : arriving unit.timestamp next unit.sent = [] := by
      have before_eq := arriving_before none unit.timestamp next []
      rw [append_nil, ← sent] at before_eq
      exact before_eq
    have missing_eq : missing lost unit.arrivals = lost.map (· + unit.sent.length) := by
      rw [sent]
      unfold AccessUnit.arrivals
      rw [sent]
      exact missing_before none lost
    rw [packets] at run
    cases run
    have intact : ¬ Torn s.parameters last unit := by
      intro torn
      have key := torn.key
      rw [rest_eq] at key
      exact Bool.false_ne_true key
    rw [packets]
    refine ⟨s, [], rfl, (append_nil _).symm, rfl, .nothing intact, fits, awaits, ?_, settled, ?_⟩
    · intro none
      rw [missing_eq, map_eq_none_iff] at none
      exact boundary.fresh none
    · intro ended
      rw [missing_eq] at ended
      obtain ⟨count, -, zero⟩ := map_eq_some_iff.mp ended
      have positive := length_pos_iff.mpr unit.sent_ne_nil
      exact absurd (Nat.add_eq_zero_iff.mp zero).2 (Nat.ne_of_gt positive)
  | cons first later =>
    obtain ⟨final, emissions, runFinal, consumed, outcome, latched⟩ :=
      arriving_outcome boundary unit short rest_eq
    obtain rfl := Except.ok.inj (runFinal.symm.trans run)
    refine ⟨final, emissions, run, consumed, parameters, outcome, fits, awaits, ?_, settled, ?_⟩
    · obtain ⟨before, sent, -, head⟩ := sent_eq unit
      have arrives : first.arrives = true := head first (congrArg head? rest_eq)
      have flags : unit.arrivals = before.map Sent.arrives ++ true :: later.map Sent.arrives := by
        unfold AccessUnit.arrivals
        rw [sent, rest_eq, map_append, map_cons, arrives]
      rw [flags, missing_append]
      exact fun none => absurd none (missing_some 0 _)
    · intro ended ready
      cases emissions with
      | nil => exact absurd rfl (latched ended ready)
      | cons => rfl

/-! ### The video -/

variable {outcomes : List (List Emission)}

theorem decodable_nothing {later : List AccessUnit} :
    Decodable parameters previous (unit :: later) ([] :: outcomes) ↔
      Decodable parameters false later outcomes := by
  refine ⟨fun decodable => ?_, .nothing previous unit⟩
  cases decodable with
  | nothing _ _ rest => exact rest

theorem decodable_whole {emission : Emission} {later : List AccessUnit} :
    Decodable parameters previous (unit :: later) ([emission] :: outcomes) ↔
      (emission.frame = wanted parameters unit ∧ emission.key = isKey unit.nals ∧
        (isKey unit.nals = true ∨ previous = true)) ∧
        Decodable parameters true later outcomes := by
  constructor
  · intro decodable
    cases decodable with
    | whole frame key decodable rest => exact ⟨⟨frame, key, decodable⟩, rest⟩
  · rintro ⟨⟨frame, key, decodable⟩, rest⟩
    exact .whole frame key decodable rest

theorem deliver_decodable (boundary : s.Boundary next lost last previous)
    (units : List AccessUnit) (short : ShortGaps lost (units.flatMap AccessUnit.arrivals)) :
    ∃ final outcomes, rtpPackets s (arrivingUnits next units) = .ok final ∧
      deliver s next units = .ok (final, outcomes) ∧
      final.consumed = s.consumed ++ outcomes.flatten ∧
      (Decodable s.parameters previous units outcomes ↔ NoneTorn s.parameters last units) := by
  induction units generalizing s next lost last previous with
  | nil =>
    exact ⟨s, [], rfl, rfl, (append_nil _).symm, fun _ => trivial, fun _ => .nil previous⟩
  | cons unit later hypothesis =>
    rw [flatMap_cons, shortGaps_append] at short
    obtain ⟨after, emissions, run, consumed, parameters, outcome, boundaryAfter⟩ :=
      unit_outcome boundary unit short.1
    obtain ⟨final, outcomes, runLater, delivered, consumedFinal, decodable_iff⟩ :=
      hypothesis boundaryAfter short.2
    have emissions_eq : after.consumed.drop s.consumed.length = emissions := by
      rw [consumed, drop_left]
    rw [parameters] at decodable_iff
    refine ⟨final, emissions :: outcomes, ?_, ?_, ?_, ?_⟩
    · rw [arrivingUnits, rtpPackets_append, run]
      exact runLater
    · rw [deliver, run, ok_bind, delivered, ok_bind, emissions_eq]
    · rw [consumedFinal, consumed, flatten_cons, append_assoc]
    · cases outcome with
      | nothing intact =>
        rw [decodable_nothing]
        exact decodable_iff.trans ⟨fun later => ⟨intact, later⟩, And.right⟩
      | whole emission intact frame key decodable =>
        rw [decodable_whole]
        refine (and_iff_right ⟨frame, key, decodable⟩).trans ?_
        exact decodable_iff.trans ⟨fun later => ⟨intact, later⟩, And.right⟩
      | torn emission torn shorter =>
        rw [decodable_whole]
        refine ⟨fun whole => ?_, fun none => absurd torn none.1⟩
        rw [whole.1.1] at shorter
        exact absurd shorter (lt_irrefl _)

theorem init_boundary (parameters : Bytes) (next : UInt16) :
    (Rtp.init parameters).Boundary next none none false :=
  ⟨Nat.zero_le _, .fresh rfl rfl, fun _ => ⟨⟨rfl, rfl, rfl, rfl⟩, rfl⟩, nofun, nofun⟩

/-- Of a video whose packets are lost with gaps shorter than the numbers, what is handed on is
whole units in their order that can be decoded, just when none of them is torn. -/
theorem video_decodable (parameters : Bytes) (sequence : UInt16) (units : List AccessUnit)
    (short : ShortGaps none (units.flatMap AccessUnit.arrivals)) :
    ∃ final outcomes,
      rtpPackets (Rtp.init parameters) (arrivingUnits sequence units) = .ok final ∧
      deliver (Rtp.init parameters) sequence units = .ok (final, outcomes) ∧
      final.consumed = outcomes.flatten ∧
      (Decodable parameters false units outcomes ↔ NoneTorn parameters none units) :=
  deliver_decodable (init_boundary parameters sequence) units short

/-! ### A torn unit -/

/-- A parameter set and a slice, of which the first may be lost. -/
def twoPackets (timestamp : UInt32) (arrives : Bool) : AccessUnit where
  nals := [parameterSet, idrSlice]
  sent := [⟨plain, .single parameterSet, arrives⟩, ⟨plain, .single idrSlice, true⟩]
  timestamp
  nonempty := List.cons_ne_nil _ _
  packetized := .single _ (.single _ .nil)

theorem shortGaps_two (arrives : Bool) :
    ShortGaps none ([twoPackets 0 true, twoPackets 3000 arrives].flatMap AccessUnit.arrivals) := by
  cases arrives with
  | true => simp [ShortGaps, AccessUnit.arrivals, twoPackets]
  | false => simp [ShortGaps, AccessUnit.arrivals, twoPackets]

theorem video_decodable_two :
    ∃ final outcomes,
      rtpPackets (Rtp.init []) (arrivingUnits 7 [twoPackets 0 true, twoPackets 3000 true]) =
          .ok final ∧
        deliver (Rtp.init []) 7 [twoPackets 0 true, twoPackets 3000 true] = .ok (final, outcomes) ∧
        final.consumed = outcomes.flatten ∧
        (Decodable [] false [twoPackets 0 true, twoPackets 3000 true] outcomes ↔
          NoneTorn [] none [twoPackets 0 true, twoPackets 3000 true]) :=
  video_decodable [] 7 [twoPackets 0 true, twoPackets 3000 true] (shortGaps_two true)

/-- Behind a whole unit, the parameter set of the next one is lost, and the slice is handed on as
the unit. -/
theorem video_torn :
    ShortGaps none ([twoPackets 0 true, twoPackets 3000 false].flatMap AccessUnit.arrivals) ∧
      ∃ final, deliver (Rtp.init []) 7 [twoPackets 0 true, twoPackets 3000 false] =
          .ok (final, [[⟨[0, 0, 0, 1, 0x67, 66, 0, 0, 0, 1, 0x65, 136, 128], 0, true⟩],
            [⟨[0, 0, 0, 1, 0x65, 136, 128], 33333, true⟩]]) ∧
        ¬ Decodable [] false [twoPackets 0 true, twoPackets 3000 false]
          [[⟨[0, 0, 0, 1, 0x67, 66, 0, 0, 0, 1, 0x65, 136, 128], 0, true⟩],
            [⟨[0, 0, 0, 1, 0x65, 136, 128], 33333, true⟩]] := by
  refine ⟨shortGaps_two false, _, rfl, fun decodable => ?_⟩
  have second := (decodable_whole.mp (decodable_whole.mp decodable).2).1.1
  exact absurd second (by decide)

end Z1Rtp
