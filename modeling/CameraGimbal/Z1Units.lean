/-
This file is about what the receiver of the Z1-Mini makes of a unit some of whose packets may be
missing.

A unit is put together when all of its packets arrive from the first one that does, and they can be
taken. Otherwise nothing of it is handed on, and a key unit is waited for.
-/

import CameraGimbal.Z1Assembly

namespace Z1Rtp

open RtpVideo List

/-- What is handed on of a unit. -/
def wanted (parameters : Bytes) (unit : AccessUnit) : Bytes :=
  if isKey unit.nals then parameters ++ streamOf unit.nals else streamOf unit.nals

/-- Nothing of a unit is there. -/
def Rtp.Clean (s : Rtp) : Prop :=
  s.frame = [] ∧ s.fu = false ∧ s.key = false ∧ s.damaged = false

/-- What is left of the unit is not handed on, and a key unit is waited for. -/
def Rtp.Spoiled (s : Rtp) : Prop := s.damaged = true ∧ s.waitKey = true

/-- The last packet that arrived. -/
structure Rtp.At (s : Rtp) (sequence : UInt16) (timestamp : UInt32) : Prop where
  haveSequence : s.haveSequence = true
  sequence : s.sequence = sequence
  haveTimestamp : s.haveTimestamp = true
  timestamp : s.timestamp = timestamp

variable {s : Rtp} {sequence : UInt16} {timestamp : UInt32}

/-! ### The numbers of a packet -/

theorem Rtp.At.eq (arrived : s.At sequence timestamp) :
    { s with sequence, haveSequence := true, timestamp, haveTimestamp := true } = s := by
  cases s
  obtain ⟨rfl, rfl, rfl, rfl⟩ := arrived
  rfl

open Rtp

theorem enter_at (s : Rtp) (sequence : UInt16) (timestamp : UInt32) :
    (s.enter sequence timestamp).At sequence timestamp := by
  unfold enter noteTimestamp
  split
  · exact ⟨rfl, rfl, rfl, rfl⟩
  · exact ⟨rfl, rfl, rfl, rfl⟩

section

variable (arrived : s.At sequence timestamp)

include arrived

theorem enter_next :
    s.enter (sequence + 1) timestamp =
      { s with
        sequence := sequence + 1
        haveSequence := true
        timestamp
        haveTimestamp := true } := by
  have follows : ¬ (s.haveSequence = true ∧ sequence + 1 ≠ s.sequence + 1) := by
    rw [arrived.sequence]
    exact fun missing => missing.2 rfl
  have same : ¬ (s.haveTimestamp = true ∧ timestamp ≠ s.timestamp) := by
    rw [arrived.timestamp]
    exact fun other => other.2 rfl
  unfold enter noteSequence
  rw [if_neg follows]
  unfold noteTimestamp
  exact congrArg (fun noted : Rtp => { noted with timestamp, haveTimestamp := true }) (if_neg same)

theorem enter_gap {next : UInt16} (gap : next ≠ sequence + 1) :
    (s.enter next timestamp).Spoiled := by
  have missing : s.haveSequence = true ∧ next ≠ s.sequence + 1 := by
    rw [arrived.sequence]
    exact ⟨arrived.haveSequence, gap⟩
  have same : ¬ (s.haveTimestamp = true ∧ timestamp ≠ s.timestamp) := by
    rw [arrived.timestamp]
    exact fun other => other.2 rfl
  unfold enter noteSequence
  rw [if_pos missing]
  unfold noteTimestamp
  refine (congrArg (fun noted : Rtp =>
    Spoiled { noted with timestamp, haveTimestamp := true }) (if_neg same)).mpr ?_
  exact ⟨rfl, rfl⟩

theorem enter_spoiled (spoiled : s.Spoiled) (next : UInt16) :
    (s.enter next timestamp).Spoiled := by
  by_cases follows : next = sequence + 1
  · rw [follows, enter_next arrived]
    exact spoiled
  · exact enter_gap arrived follows

theorem enter_apart {next : UInt16} {other : UInt32}
    (gap : next ≠ sequence + 1) (apart : other ≠ timestamp) :
    (s.enter next other).Clean ∧ (s.enter next other).waitKey = true := by
  have missing : s.haveSequence = true ∧ next ≠ s.sequence + 1 := by
    rw [arrived.sequence]
    exact ⟨arrived.haveSequence, gap⟩
  have differs : s.haveTimestamp = true ∧ other ≠ s.timestamp := by
    rw [arrived.timestamp]
    exact ⟨arrived.haveTimestamp, apart⟩
  unfold enter noteSequence
  rw [if_pos missing]
  unfold noteTimestamp
  refine (congrArg (fun noted : Rtp =>
    Clean { noted with timestamp := other, haveTimestamp := true } ∧ noted.waitKey = true)
    (if_pos differs)).mpr ?_
  exact ⟨⟨rfl, rfl, rfl, rfl⟩, rfl⟩

theorem enter_other {other : UInt32}
    (apart : other ≠ timestamp) :
    (s.enter (sequence + 1) other).Clean ∧
      (s.enter (sequence + 1) other).waitKey = (s.waitKey || decide (s.frame ≠ [])) := by
  have follows : ¬ (s.haveSequence = true ∧ sequence + 1 ≠ s.sequence + 1) := by
    rw [arrived.sequence]
    exact fun missing => missing.2 rfl
  have differs : s.haveTimestamp = true ∧ other ≠ s.timestamp := by
    rw [arrived.timestamp]
    exact ⟨arrived.haveTimestamp, apart⟩
  unfold enter noteSequence
  rw [if_neg follows]
  unfold noteTimestamp
  refine (congrArg (fun noted : Rtp =>
    Clean { noted with timestamp := other, haveTimestamp := true } ∧
      noted.waitKey = (s.waitKey || decide (s.frame ≠ []))) (if_pos differs)).mpr ?_
  exact ⟨⟨rfl, rfl, rfl, rfl⟩, rfl⟩

end

theorem enter_fresh (haveSequence : s.haveSequence = false)
    (haveTimestamp : s.haveTimestamp = false) (next : UInt16) (timestamp : UInt32) :
    s.enter next timestamp =
      { s with
        sequence := next
        haveSequence := true
        timestamp
        haveTimestamp := true } := by
  have noSequence : ¬ (s.haveSequence = true ∧ next ≠ s.sequence + 1) := by
    rw [haveSequence]
    exact fun missing => Bool.false_ne_true missing.1
  have noTimestamp : ¬ (s.haveTimestamp = true ∧ timestamp ≠ s.timestamp) := by
    rw [haveTimestamp]
    exact fun other => Bool.false_ne_true other.1
  unfold enter noteSequence
  rw [if_neg noSequence]
  unfold noteTimestamp
  exact congrArg (fun noted : Rtp => { noted with timestamp, haveTimestamp := true })
    (if_neg noTimestamp)

/-! ### One packet -/

/-- Behind the last packet of a unit, nothing of it is there, or it is spoiled. -/
def Rtp.Settled (s : Rtp) : Prop := s.fu = false ∧ (s.Clean ∨ s.Spoiled)

theorem close_settled (fits : s.Fits) (timestamp : UInt32) : (s.close timestamp).Settled := by
  have ended := finished fits timestamp
  generalize s.close timestamp = after at ended ⊢
  cases ended with
  | emitted closed => exact ⟨closed, .inl ⟨rfl, closed, rfl, rfl⟩⟩
  | dropped closed => exact ⟨closed, .inl ⟨rfl, closed, rfl, rfl⟩⟩
  | bad => exact ⟨rfl, .inr ⟨rfl, rfl⟩⟩

theorem close_at (fits : s.Fits) (arrived : s.At sequence timestamp) (ending : UInt32) :
    (s.close ending).At sequence timestamp ∧ (s.close ending).parameters = s.parameters := by
  have ended := finished fits ending
  generalize s.close ending = after at ended ⊢
  obtain ⟨first, second, third, fourth⟩ := arrived
  cases ended with
  | emitted => exact ⟨⟨first, second, third, fourth⟩, rfl⟩
  | dropped => exact ⟨⟨first, second, third, fourth⟩, rfl⟩
  | bad => exact ⟨⟨first, second, third, fourth⟩, rfl⟩

theorem close_spoiled (fits : s.Fits) (spoiled : s.Spoiled) (timestamp : UInt32) :
    (s.close timestamp).consumed = s.consumed ∧ (s.close timestamp).waitKey = true := by
  have ended := finished fits timestamp
  generalize s.close timestamp = after at ended ⊢
  cases ended with
  | emitted _ emits => exact Bool.noConfusion (emits.1.symm.trans spoiled.1)
  | dropped => exact ⟨rfl, spoiled.2⟩
  | bad => exact ⟨rfl, rfl⟩

variable {entered after : Rtp} {marker : Bool}

theorem Rtp.Received.at (received : Received entered timestamp marker after)
    (arrived : entered.At sequence timestamp) :
    after.At sequence timestamp ∧ after.parameters = entered.parameters := by
  obtain ⟨first, second, third, fourth⟩ := arrived
  cases received with
  | refused frame key fu fits => exact ⟨⟨first, second, third, fourth⟩, rfl⟩
  | grown frame key fu fits => exact ⟨⟨first, second, third, fourth⟩, rfl⟩
  | ended frame key fu fits =>
    have arrived : At { entered with frame, key, fu } sequence timestamp :=
      ⟨first, second, third, fourth⟩
    have fits : Fits { entered with frame, key, fu } := fits
    exact close_at fits arrived timestamp

theorem Rtp.Received.settled (received : Received entered timestamp true after) :
    after.Settled := by
  generalize same : true = marker at received
  cases received with
  | refused frame key fu fits => exact ⟨rfl, .inr ⟨rfl, rfl⟩⟩
  | grown frame key fu fits unmarked => exact Bool.noConfusion (same.trans unmarked)
  | ended frame key fu fits =>
    have fits : Fits { entered with frame, key, fu } := fits
    exact close_settled fits timestamp

theorem Rtp.Received.spoiled (received : Received entered timestamp marker after)
    (spoiled : entered.Spoiled) :
    after.consumed = entered.consumed ∧ after.waitKey = true ∧
      (marker = false → after.Spoiled) := by
  cases received with
  | refused frame key fu fits => exact ⟨rfl, rfl, fun _ => ⟨rfl, rfl⟩⟩
  | grown frame key fu fits unmarked => exact ⟨rfl, spoiled.2, fun _ => spoiled⟩
  | ended frame key fu fits marked =>
    have fits : Fits { entered with frame, key, fu } := fits
    obtain ⟨consumed, waits⟩ := close_spoiled fits spoiled timestamp
    exact ⟨consumed, waits, fun unmarked => Bool.noConfusion (marked.symm.trans unmarked)⟩

/-! ### The packets of a unit -/

variable {sent : Sent} {later : List Sent}

theorem run_lost (s : Rtp) (sequence : UInt16) (timestamp : UInt32) (lost : sent.arrives = false)
    (later : List Sent) :
    rtpPackets s (arriving timestamp sequence (sent :: later)) =
      rtpPackets s (arriving timestamp (sequence + 1) later) := by
  rw [arriving, if_neg (by rw [lost]; exact Bool.false_ne_true), nil_append]

theorem run_arrives (s : Rtp) (sequence : UInt16) (timestamp : UInt32)
    (arrives : sent.arrives = true) (later : List Sent) :
    rtpPackets s (arriving timestamp sequence (sent :: later)) =
      (s.receive sequence timestamp later.isEmpty sent.piece.payload >>= fun received =>
        rtpPackets received.1 (arriving timestamp (sequence + 1) later)) := by
  rw [arriving, if_pos arrives, singleton_append, rtpPackets,
    rtpPacket_packet _ _ _ _ _ sent.piece.payload_ne_nil]

theorem run_received (fits : s.Fits) (sequence : UInt16) (timestamp : UInt32)
    (arrives : sent.arrives = true) (later : List Sent) :
    ∃ after, Received (s.enter sequence timestamp) timestamp later.isEmpty after ∧
      rtpPackets s (arriving timestamp sequence (sent :: later)) =
        rtpPackets after (arriving timestamp (sequence + 1) later) := by
  obtain ⟨after, complete, result, received⟩ :=
    received fits sequence timestamp later.isEmpty sent.piece.payload_ne_nil
  refine ⟨after, received, ?_⟩
  rw [run_arrives s sequence timestamp arrives, result, ok_bind]

/-- A packet arrives whose payload is taken. -/
theorem run_takes (sequence : UInt16) (timestamp : UInt32) (arrives : sent.arrives = true)
    (goesOn : (s.enter sequence timestamp).fu = sent.piece.continues)
    (sendable : sent.piece.Sendable) (takes : (s.enter sequence timestamp).Takes sent.piece)
    (later : List Sent) :
    rtpPackets s (arriving timestamp sequence (sent :: later)) =
      rtpPackets
        (if later.isEmpty then ((s.enter sequence timestamp).add sent.piece).close timestamp
          else (s.enter sequence timestamp).add sent.piece)
        (arriving timestamp (sequence + 1) later) := by
  have assembled := assemble_takes goesOn sendable takes
  rw [run_arrives s sequence timestamp arrives]
  cases later.isEmpty with
  | true =>
    obtain ⟨complete, received⟩ := receive_of_assemble assembled
    rw [received, ok_bind, if_pos rfl]
  | false =>
    unfold enter at assembled ⊢
    unfold receive
    rw [assembled, ok_bind, if_neg Bool.false_ne_true]
    rfl

/-- A packet arrives whose payload is refused. -/
theorem run_refuses (fits : s.Fits) (sequence : UInt16) (timestamp : UInt32)
    (arrives : sent.arrives = true) (sendable : sent.piece.Sendable)
    (refused : ¬ ((s.enter sequence timestamp).fu = sent.piece.continues ∧
      (s.enter sequence timestamp).Takes sent.piece)) (later : List Sent) :
    ∃ after, after.Fits ∧ after.At sequence timestamp ∧ after.Spoiled ∧
      after.consumed = s.consumed ∧
      rtpPackets s (arriving timestamp sequence (sent :: later)) =
        rtpPackets after (arriving timestamp (sequence + 1) later) := by
  have fitsEntered := enter_fits fits sequence timestamp
  obtain ⟨first, second, third, fourth⟩ := enter_at s sequence timestamp
  obtain ⟨unit, result⟩ := assemble_refuses fitsEntered sendable refused
  obtain ⟨frame, key, fu, complete, assembled, fitsAfter⟩ :=
    assemble_assembled fitsEntered sent.piece.payload_ne_nil
  obtain ⟨rfl, rfl⟩ := Prod.mk.inj (Except.ok.inj (result.symm.trans assembled))
  refine ⟨bad { s.enter sequence timestamp with frame, key, fu }, fitsAfter,
    ⟨first, second, third, fourth⟩, ⟨rfl, rfl⟩, (enter_consumed s sequence timestamp).1, ?_⟩
  rw [run_arrives s sequence timestamp arrives]
  unfold enter at assembled ⊢
  unfold receive
  rw [assembled]
  rfl

/-! ### Runs -/

theorem rtpPackets_append (s : Rtp) (first later : List Bytes) :
    rtpPackets s (first ++ later) = rtpPackets s first >>= (rtpPackets · later) := by
  induction first generalizing s with
  | nil => rfl
  | cons packet rest hypothesis =>
    rw [cons_append, rtpPackets, rtpPackets]
    cases rtpPacket s packet with
    | error fault => rfl
    | ok received => exact hypothesis received.1

/-- The number of the next packet that is sent, how many have been missing since the last one that
arrived, and its timestamp. -/
inductive Rtp.Awaits (s : Rtp) (next : UInt16) : Option Nat → Option UInt32 → Prop where
  | fresh (haveSequence : s.haveSequence = false) (haveTimestamp : s.haveTimestamp = false) :
    Awaits s next none none
  | behind (sequence : UInt16) (timestamp : UInt32) (lost : Nat)
    (arrived : s.At sequence timestamp) (follows : next = sequence + 1 + UInt16.ofNat lost) :
    Awaits s next (some lost) (some timestamp)

theorem ofNat_succ_add (next : UInt16) (count : Nat) :
    next + 1 + UInt16.ofNat count = next + UInt16.ofNat (count + 1) := by
  rw [UInt16.ofNat_add, UInt16.add_assoc, UInt16.add_comm 1]
  rfl

theorem Rtp.Awaits.lost {next : UInt16} {lost : Option Nat} {last : Option UInt32}
    (awaits : s.Awaits next lost last) : s.Awaits (next + 1) (lost.map (· + 1)) last := by
  cases awaits with
  | fresh haveSequence haveTimestamp => exact .fresh haveSequence haveTimestamp
  | behind sequence timestamp lost arrived follows =>
    refine .behind sequence timestamp (lost + 1) arrived ?_
    rw [follows, UInt16.add_assoc, UInt16.ofNat_add]
    rfl

theorem Rtp.Awaits.at {sequence : UInt16} (arrived : s.At sequence timestamp) :
    s.Awaits (sequence + 1) (some 0) (some timestamp) :=
  .behind sequence timestamp 0 arrived (UInt16.add_zero _).symm

/-- The timestamp of the last packet that arrived. -/
def lastBehind (timestamp : UInt32) (last : Option UInt32) (sent : List Sent) : Option UInt32 :=
  if sent.any Sent.arrives then some timestamp else last

/-- What is noted while the packets of a unit are sent. -/
theorem run_awaits (fits : s.Fits) {next : UInt16} {lost : Option Nat} {last : Option UInt32}
    (awaits : s.Awaits next lost last) (timestamp : UInt32) (sent : List Sent) :
    ∃ after, rtpPackets s (arriving timestamp next sent) = .ok after ∧ after.Fits ∧
      after.parameters = s.parameters ∧
      after.Awaits (next + UInt16.ofNat sent.length) (missing lost (sent.map Sent.arrives))
        (lastBehind timestamp last sent) ∧
      (sent ≠ [] → missing lost (sent.map Sent.arrives) = some 0 → after.Settled) := by
  induction sent generalizing s next lost last with
  | nil =>
    refine ⟨s, rfl, fits, rfl, ?_, fun none => absurd rfl none⟩
    rw [show next + UInt16.ofNat ([] : List Sent).length = next from UInt16.add_zero next]
    exact awaits
  | cons first later hypothesis =>
    have number : next + UInt16.ofNat (first :: later).length =
        next + 1 + UInt16.ofNat later.length := (ofNat_succ_add next later.length).symm
    rw [number]
    cases arrives : first.arrives with
    | false =>
      obtain ⟨after, run, fitsAfter, parameters, awaitsAfter, settled⟩ :=
        hypothesis fits awaits.lost
      have last_eq : lastBehind timestamp last (first :: later) =
          lastBehind timestamp last later := by
        unfold lastBehind
        rw [any_cons, arrives, Bool.false_or]
      have missing_eq : missing lost ((first :: later).map Sent.arrives) =
          missing (lost.map (· + 1)) (later.map Sent.arrives) := by
        rw [map_cons, arrives]
        rfl
      rw [run_lost s next timestamp arrives, last_eq, missing_eq]
      refine ⟨after, run, fitsAfter, parameters, awaitsAfter, fun _ ended => ?_⟩
      cases later with
      | nil =>
        cases lost with
        | none => cases ended
        | some count => exact absurd (Option.some.inj ended) (Nat.succ_ne_zero _)
      | cons second more => exact settled (cons_ne_nil _ _) ended
    | true =>
      obtain ⟨between, received, result⟩ := run_received fits next timestamp arrives later
      obtain ⟨arrived, parametersBetween⟩ := received.at (enter_at s next timestamp)
      obtain ⟨after, run, fitsAfter, parameters, awaitsAfter, settled⟩ :=
        hypothesis received.fits (Awaits.at arrived)
      have last_eq : lastBehind timestamp last (first :: later) =
          lastBehind timestamp (some timestamp) later := by
        unfold lastBehind
        rw [any_cons, arrives, Bool.true_or, if_pos rfl, ite_self]
      have missing_eq : missing lost ((first :: later).map Sent.arrives) =
          missing (some 0) (later.map Sent.arrives) := by
        rw [map_cons, arrives]
        rfl
      rw [result, last_eq, missing_eq]
      refine ⟨after, run, fitsAfter, parameters.trans
        (parametersBetween.trans (enter_consumed s next timestamp).2), awaitsAfter,
        fun _ ended => ?_⟩
      cases later with
      | nil =>
        cases run
        exact received.settled
      | cons second more => exact settled (cons_ne_nil _ _) ended

/-- Nothing was handed on, and a key unit is waited for when the last packet has arrived. -/
def Rtp.Quiet (s after : Rtp) (lost : Option Nat) : Prop :=
  after.consumed = s.consumed ∧ (lost = some 0 → after.waitKey = true)

theorem spoiled_step (fits : s.Fits) (spoiled : (s.enter sequence timestamp).Spoiled)
    (arrives : sent.arrives = true) (later : List Sent) :
    ∃ after, after.Fits ∧ after.At sequence timestamp ∧ after.consumed = s.consumed ∧
      after.waitKey = true ∧ (later ≠ [] → after.Spoiled) ∧
      rtpPackets s (arriving timestamp sequence (sent :: later)) =
        rtpPackets after (arriving timestamp (sequence + 1) later) := by
  obtain ⟨after, received, result⟩ := run_received fits sequence timestamp arrives later
  obtain ⟨consumed, waits, unmarked⟩ := received.spoiled spoiled
  refine ⟨after, received.fits, (received.at (enter_at s sequence timestamp)).1,
    consumed.trans (enter_consumed s sequence timestamp).1, waits, fun more => unmarked ?_, result⟩
  cases later with
  | nil => exact absurd rfl more
  | cons => rfl

theorem spoiled_run (fits : s.Fits) (arrived : s.At sequence timestamp) (waits : s.waitKey = true)
    (next : UInt16) (lost : Option Nat) (sent : List Sent) (spoiled : sent ≠ [] → s.Spoiled) :
    ∃ after, rtpPackets s (arriving timestamp next sent) = .ok after ∧
      s.Quiet after (missing lost (sent.map Sent.arrives)) := by
  induction sent generalizing s sequence next lost with
  | nil => exact ⟨s, rfl, rfl, fun _ => waits⟩
  | cons first later hypothesis =>
    have spoiled := spoiled (cons_ne_nil _ _)
    rw [map_cons]
    cases arrives : first.arrives with
    | false =>
      rw [run_lost s next timestamp arrives]
      exact hypothesis fits arrived waits (next + 1) _ fun _ => spoiled
    | true =>
      obtain ⟨between, fitsBetween, arrivedBetween, consumed, waitsBetween, spoiledBetween,
        result⟩ := spoiled_step fits (enter_spoiled arrived spoiled next) arrives later
      obtain ⟨after, run, consumedAfter, waitsAfter⟩ := hypothesis fitsBetween
        arrivedBetween waitsBetween (next + 1) (some 0) spoiledBetween
      rw [result]
      exact ⟨after, run, consumedAfter.trans consumed, waitsAfter⟩

theorem pending_run (fits : s.Fits) (arrived : s.At sequence timestamp) {count : Nat}
    (positive : 0 < count) (sent : List Sent)
    (short : ShortGaps (some count) (sent.map Sent.arrives)) :
    ∃ after,
      rtpPackets s (arriving timestamp (sequence + 1 + UInt16.ofNat count) sent) = .ok after ∧
        s.Quiet after (missing (some count) (sent.map Sent.arrives)) := by
  induction sent generalizing count with
  | nil =>
    refine ⟨s, rfl, rfl, fun ended => ?_⟩
    exact absurd (Option.some.inj ended) (Nat.ne_of_gt positive)
  | cons first later hypothesis =>
    rw [map_cons] at short ⊢
    cases arrives : first.arrives with
    | false =>
      rw [arrives] at short
      have number : sequence + 1 + UInt16.ofNat count + 1 =
          sequence + 1 + UInt16.ofNat (count + 1) := by
        rw [UInt16.add_assoc, UInt16.ofNat_add]
        rfl
      rw [run_lost _ _ timestamp arrives, number]
      exact hypothesis (Nat.succ_pos count) short
    | true =>
      rw [arrives] at short
      have gap := @gap_ne sequence _ positive (short.1 count rfl)
      obtain ⟨between, fitsBetween, arrivedBetween, consumed, waits, spoiled, result⟩ :=
        spoiled_step fits (enter_gap arrived gap) arrives later
      obtain ⟨after, run, consumedAfter, waitsAfter⟩ :=
        spoiled_run fitsBetween arrivedBetween waits
          (sequence + 1 + UInt16.ofNat count + 1) (some 0) later spoiled
      rw [result]
      exact ⟨after, run, consumedAfter.trans consumed, waitsAfter⟩

/-- What the packets of a unit that arrive from the first of them on have to be for the unit to be
put together. -/
def Rtp.PutsTogether (entered : Rtp) (first : Sent) (later : List Sent) : Prop :=
  entered.fu = first.piece.continues ∧ (∀ sent ∈ later, sent.arrives = true) ∧
    (∀ sent ∈ first :: later, sent.piece.Filled) ∧
    entered.frame.length + (streamOfPieces ((first :: later).map Sent.piece)).length ≤ frameMax

theorem length_stream_cons (piece : Piece) (pieces : List Piece) :
    (streamOfPieces (piece :: pieces)).length =
      piece.stream.length + (streamOfPieces pieces).length := by
  unfold streamOfPieces
  rw [flatMap_cons, length_append]

theorem add_enter (entered : Rtp) (arrived : entered.At sequence timestamp) (piece : Piece) :
    (entered.add piece).At sequence timestamp ∧
      ((entered.add piece).enter (sequence + 1) timestamp).frame = entered.frame ++ piece.stream ∧
      ((entered.add piece).enter (sequence + 1) timestamp).fu = piece.leavesOpen := by
  obtain ⟨first, second, third, fourth⟩ := arrived
  have added : (entered.add piece).At sequence timestamp := ⟨first, second, third, fourth⟩
  rw [enter_next added]
  exact ⟨added, rfl, rfl⟩

variable {entered : Rtp}

theorem add_fits {piece : Piece} (takes : entered.Takes piece) :
    (entered.add piece).Fits := by
  show (entered.frame ++ piece.stream).length ≤ frameMax
  rw [length_append]
  exact takes.2

/-- Nothing is handed on of a unit that is not put together. -/
theorem broken_run (fits : s.Fits) (sequence : UInt16) (timestamp : UInt32) {first : Sent}
    {later : List Sent} (arrives : first.arrives = true)
    (follow : Follow first.piece.continues ((first :: later).map Sent.piece))
    (short : ShortGaps (some 0) (later.map Sent.arrives))
    (broken : ¬ (s.enter sequence timestamp).PutsTogether first later) :
    ∃ after, rtpPackets s (arriving timestamp sequence (first :: later)) = .ok after ∧
      s.Quiet after (missing (some 0) (later.map Sent.arrives)) := by
  induction later generalizing s sequence first with
  | nil =>
    have refused : ¬ ((s.enter sequence timestamp).fu = first.piece.continues ∧
        (s.enter sequence timestamp).Takes first.piece) := by
      rintro ⟨goesOn, filled, room⟩
      refine broken ⟨goesOn, nofun, forall_mem_singleton.mpr filled, ?_⟩
      rw [map_singleton, length_stream_cons]
      exact room
    obtain ⟨between, fitsBetween, arrived, spoiled, consumed, result⟩ :=
      run_refuses fits sequence timestamp arrives follow.2.1 refused []
    rw [result]
    exact ⟨between, rfl, consumed, fun _ => spoiled.2⟩
  | cons second more hypothesis =>
    by_cases taken : (s.enter sequence timestamp).fu = first.piece.continues ∧
        (s.enter sequence timestamp).Takes first.piece
    · obtain ⟨goesOn, filled, room⟩ := taken
      obtain ⟨arrived, frame, fu⟩ := add_enter _ (enter_at s sequence timestamp) first.piece
      have fitsAdded := add_fits ⟨filled, room⟩
      have consumed := (enter_consumed s sequence timestamp).1
      rw [run_takes sequence timestamp arrives goesOn follow.2.1 ⟨filled, room⟩, isEmpty_cons,
        if_neg Bool.false_ne_true]
      cases arrivesSecond : second.arrives with
      | true =>
        rw [map_cons, arrivesSecond] at short ⊢
        have brokenSecond : ¬ (((s.enter sequence timestamp).add first.piece).enter
            (sequence + 1) timestamp).PutsTogether second more := by
          rintro ⟨-, arrivesMore, filledMore, roomMore⟩
          refine broken ⟨goesOn, forall_mem_cons.mpr ⟨arrivesSecond, arrivesMore⟩,
            forall_mem_cons.mpr ⟨filled, filledMore⟩, ?_⟩
          rw [map_cons, length_stream_cons, ← add_assoc, ← length_append, ← frame]
          exact roomMore
        obtain ⟨after, run, consumedAfter, waits⟩ := hypothesis fitsAdded (sequence + 1)
          arrivesSecond (by rw [follow.2.2.1]; exact follow.2.2) short.2 brokenSecond
        exact ⟨after, run, consumedAfter.trans consumed, waits⟩
      | false =>
        rw [map_cons, arrivesSecond] at short ⊢
        obtain ⟨after, run, consumedAfter, waits⟩ :=
          pending_run fitsAdded arrived one_pos more short
        rw [run_lost _ _ timestamp arrivesSecond]
        exact ⟨after, run, consumedAfter.trans consumed, waits⟩
    · obtain ⟨between, fitsBetween, arrived, spoiled, consumed, result⟩ :=
        run_refuses fits sequence timestamp arrives follow.2.1 taken (second :: more)
      obtain ⟨after, run, consumedAfter, waits⟩ := spoiled_run fitsBetween arrived spoiled.2
        (sequence + 1) (some 0) (second :: more) fun _ => spoiled
      rw [result]
      exact ⟨after, run, consumedAfter.trans consumed, waits⟩

/-- The receiver behind the payloads of a unit. -/
def Rtp.together (s : Rtp) (sequence : UInt16) (timestamp : UInt32) (pieces : List Piece) : Rtp :=
  { s with
    frame := s.frame ++ streamOfPieces pieces
    key := s.key || pieces.any Piece.startsIdr
    fu := false
    sequence
    haveSequence := true
    timestamp
    haveTimestamp := true }

theorem add_together (entered : Rtp) (piece : Piece) (pieces : List Piece) (sequence : UInt16)
    (timestamp : UInt32) :
    (entered.add piece).together sequence timestamp pieces =
      entered.together sequence timestamp (piece :: pieces) := by
  have key : (entered.key || piece.startsIdr || pieces.any Piece.startsIdr) =
      (entered.key || (piece :: pieces).any Piece.startsIdr) := Bool.or_assoc _ _ _
  have frame : entered.frame ++ piece.stream ++ streamOfPieces pieces =
      entered.frame ++ streamOfPieces (piece :: pieces) := append_assoc _ _ _
  unfold together
  rw [← key, ← frame]
  rfl

theorem add_eq_together (arrived : entered.At sequence timestamp) {piece : Piece}
    (closed : piece.leavesOpen = false) :
    entered.add piece = entered.together sequence timestamp [piece] := by
  have added := (add_enter entered arrived piece).1
  rw [← add_together, ← added.eq]
  unfold together add
  rw [closed]
  show _ = { entered with
    frame := entered.frame ++ piece.stream ++ []
    key := entered.key || piece.startsIdr || false
    fu := false
    sequence
    haveSequence := true
    timestamp
    haveTimestamp := true }
  rw [append_nil, Bool.or_false]

/-- A unit is put together when all of its packets arrive. -/
theorem whole_run (fits : s.Fits) (sequence : UInt16) (timestamp : UInt32) {first : Sent}
    {later : List Sent} (arrives : first.arrives = true)
    (follow : Follow first.piece.continues ((first :: later).map Sent.piece))
    (puts : (s.enter sequence timestamp).PutsTogether first later) :
    rtpPackets s (arriving timestamp sequence (first :: later)) =
      .ok (((s.enter sequence timestamp).together (sequence + UInt16.ofNat later.length) timestamp
        ((first :: later).map Sent.piece)).close timestamp) := by
  induction later generalizing s sequence first with
  | nil =>
    obtain ⟨goesOn, -, filled, room⟩ := puts
    have takes : (s.enter sequence timestamp).Takes first.piece := by
      refine ⟨filled first (mem_singleton_self first), ?_⟩
      rw [map_singleton, length_stream_cons] at room
      exact room
    have closed : first.piece.leavesOpen = false := follow.2.2
    have number : sequence + UInt16.ofNat ([] : List Sent).length = sequence :=
      UInt16.add_zero sequence
    rw [run_takes sequence timestamp arrives goesOn follow.2.1 takes, number]
    exact congrArg (fun unit => Except.ok (close unit timestamp))
      (add_eq_together (enter_at s sequence timestamp) closed)
  | cons second more hypothesis =>
    obtain ⟨goesOn, arrivesLater, filled, room⟩ := puts
    obtain ⟨arrivesSecond, arrivesMore⟩ := forall_mem_cons.mp arrivesLater
    obtain ⟨filledFirst, filledLater⟩ := forall_mem_cons.mp filled
    rw [map_cons, length_stream_cons, ← add_assoc] at room
    have takes : (s.enter sequence timestamp).Takes first.piece :=
      ⟨filledFirst, Nat.le_of_add_right_le room⟩
    obtain ⟨arrived, frame, fu⟩ := add_enter _ (enter_at s sequence timestamp) first.piece
    have fitsAdded := add_fits takes
    have putsSecond : (((s.enter sequence timestamp).add first.piece).enter
        (sequence + 1) timestamp).PutsTogether second more := by
      refine ⟨fu.trans follow.2.2.1.symm, arrivesMore, filledLater, ?_⟩
      rw [frame, length_append]
      exact room
    have followSecond : Follow second.piece.continues ((second :: more).map Sent.piece) := by
      rw [follow.2.2.1]
      exact follow.2.2
    rw [run_takes sequence timestamp arrives goesOn follow.2.1 takes, isEmpty_cons,
      if_neg Bool.false_ne_true, hypothesis fitsAdded (sequence + 1) arrivesSecond
        followSecond putsSecond, enter_next arrived, ofNat_succ_add]
    exact congrArg (fun unit => Except.ok (close unit timestamp))
      (add_together (s.enter sequence timestamp) first.piece
        ((second :: more).map Sent.piece) _ timestamp)

/-! ### The end of a unit -/

variable {pieces : List Piece}

theorem together_clean (sequence : UInt16) (timestamp : UInt32)
    (pieces : List Piece) (clean : entered.Clean) :
    (entered.together sequence timestamp pieces).frame = streamOfPieces pieces ∧
      (entered.together sequence timestamp pieces).key = pieces.any Piece.startsIdr := by
  obtain ⟨frame, -, key, -⟩ := clean
  unfold together
  rw [frame, key]
  exact ⟨rfl, rfl⟩

theorem together_fits (sequence : UInt16) (timestamp : UInt32)
    (clean : entered.Clean) (room : (streamOfPieces pieces).length ≤ frameMax) :
    (entered.together sequence timestamp pieces).Fits := by
  unfold Fits
  rw [(together_clean sequence timestamp pieces clean).1]
  exact room

section

variable {entered : Rtp} (clean : entered.Clean)

include clean

/-- A unit that was put together is handed on. -/
theorem close_emits (nonempty : streamOfPieces pieces ≠ [])
    (room : (streamOfPieces pieces).length ≤ frameMax)
    (decodable : entered.waitKey = false ∨ pieces.any Piece.startsIdr = true)
    (parameters : pieces.any Piece.startsIdr = true →
      entered.parameters.length + (streamOfPieces pieces).length ≤ frameMax) :
    (entered.together sequence timestamp pieces).close timestamp =
      ((entered.together sequence timestamp pieces).emit timestamp).reset := by
  obtain ⟨frame_eq, key_eq⟩ := together_clean sequence timestamp pieces clean
  have undamaged := clean.2.2.2
  have ended := finished (together_fits sequence timestamp clean room) timestamp
  generalize (entered.together sequence timestamp pieces).close timestamp = after at ended ⊢
  cases ended with
  | emitted => rfl
  | dropped _ dropped =>
    rw [frame_eq, key_eq] at dropped
    rcases dropped with damaged | empty | ⟨waits, other⟩
    · exact Bool.noConfusion (damaged.symm.trans undamaged)
    · exact absurd empty nonempty
    · rcases decodable with given | starts
      · exact Bool.noConfusion (waits.symm.trans given)
      · exact Bool.noConfusion (starts.symm.trans other)
  | bad refused =>
    rw [frame_eq, key_eq] at refused
    rcases refused with isOpen | ⟨starts, full⟩
    · cases isOpen
    · exact absurd (parameters starts) (not_le.mpr full)

theorem emit_consumed (sequence : UInt16)
    (timestamp : UInt32) (pieces : List Piece) :
    ((entered.together sequence timestamp pieces).emit timestamp).reset.consumed =
      entered.consumed ++
        [{ frame :=
            if pieces.any Piece.startsIdr then entered.parameters ++ streamOfPieces pieces
            else streamOfPieces pieces
           pts := entered.nextTicks timestamp * 1000000 / 90000
           key := pieces.any Piece.startsIdr }] := by
  obtain ⟨frame_eq, key_eq⟩ := together_clean sequence timestamp pieces clean
  rw [← frame_eq, ← key_eq]
  rfl

/-- A unit that was put together is not handed on. -/
theorem close_quiet (nonempty : streamOfPieces pieces ≠ [])
    (room : (streamOfPieces pieces).length ≤ frameMax)
    (refused : ¬ ((entered.waitKey = false ∨ pieces.any Piece.startsIdr = true) ∧
      (pieces.any Piece.startsIdr = true →
        entered.parameters.length + (streamOfPieces pieces).length ≤ frameMax))) :
    ((entered.together sequence timestamp pieces).close timestamp).consumed = entered.consumed ∧
      ((entered.together sequence timestamp pieces).close timestamp).waitKey = true := by
  obtain ⟨frame_eq, key_eq⟩ := together_clean sequence timestamp pieces clean
  have undamaged := clean.2.2.2
  have ended := finished (together_fits sequence timestamp clean room) timestamp
  generalize (entered.together sequence timestamp pieces).close timestamp = after at ended ⊢
  cases ended with
  | emitted _ emits =>
    obtain ⟨-, -, decodable, parameters⟩ := emits
    rw [key_eq] at decodable
    rw [key_eq, frame_eq] at parameters
    exact absurd ⟨decodable, parameters⟩ refused
  | dropped _ dropped =>
    refine ⟨rfl, ?_⟩
    rw [frame_eq] at dropped
    rcases dropped with damaged | empty | ⟨waits, -⟩
    · exact Bool.noConfusion (damaged.symm.trans undamaged)
    · exact absurd empty nonempty
    · exact waits
  | bad => exact ⟨rfl, rfl⟩

theorem close_drops
    (room : (streamOfPieces pieces).length ≤ frameMax) (waits : entered.waitKey = true)
    (other : pieces.any Piece.startsIdr = false) :
    (entered.together sequence timestamp pieces).close timestamp =
      (entered.together sequence timestamp pieces).reset := by
  obtain ⟨frame_eq, key_eq⟩ := together_clean sequence timestamp pieces clean
  have ended := finished (together_fits sequence timestamp clean room) timestamp
  generalize (entered.together sequence timestamp pieces).close timestamp = after at ended ⊢
  cases ended with
  | emitted _ emits =>
    rcases emits.2.2.1 with ready | key
    · exact Bool.noConfusion (waits.symm.trans ready)
    · exact Bool.noConfusion ((key.symm.trans key_eq).trans other)
  | dropped => rfl
  | bad refused =>
    rcases refused with isOpen | ⟨key, -⟩
    · cases isOpen
    · exact Bool.noConfusion ((key.symm.trans key_eq).trans other)

end

end Z1Rtp
