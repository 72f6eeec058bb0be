/-
This file is about the frames that come out of the assembler of the thermal camera when some of the
payloads on the way to it are replaced by errors. What the buffer holds of a frame is all that was
sent of it as long as every payload arrived, and less from the first error on; and nothing of a
frame is left in it when the identifier of the next one toggles. So a frame is delivered exactly
when all of it arrived.
-/

import CameraGimbal.UvcAssembler
import Mathlib.Data.List.Chain

namespace UvcAssembler

variable {Time : Type}

section

open List

/-! ### Frames on their way -/

/-- An intact payload: the header of its own length, without the error flag, and some data. -/
structure Payload where
  flags : UInt8
  fields : Bytes
  data : Bytes
  short : fields.length + 2 < 256
  noError : flags &&& 0x40 = 0
  some : data ≠ []

def Payload.bytes (payload : Payload) : Bytes :=
  UInt8.ofNat (payload.fields.length + 2) :: payload.flags :: (payload.fields ++ payload.data)

def Payload.fid (payload : Payload) : UInt8 := payload.flags &&& 1

/-- The payload has the flag for the end of the frame. -/
def Payload.Last (payload : Payload) : Prop := payload.flags &&& 0x02 ≠ 0

/-- The last payload has the flag for the end of the frame, and no other one has. -/
def EndsWithLast : List Payload → Prop
  | [] => False
  | [payload] => payload.Last
  | payload :: next :: later => ¬ payload.Last ∧ EndsWithLast (next :: later)

/-- A frame as the camera sends it. -/
structure Frame where
  payloads : List Payload
  fid : UInt8
  sameFid : ∀ payload ∈ payloads, payload.fid = fid
  ends : EndsWithLast payloads
  whole : (payloads.flatMap Payload.data).length = frameBytes

def Frame.image (frame : Frame) : Bytes := frame.payloads.flatMap Payload.data

/-- A payload with an error: it is too short, its header is malformed, or it has the error flag. -/
def IsError (payload : Bytes) : Prop :=
  payload.length < 2 ∨
    ((payload.getD 0 0).toNat < 2 ∨ payload.length < (payload.getD 0 0).toNat) ∨
    payload.getD 1 0 &&& 0x40 ≠ 0

/-- A payload that was sent, and what was received in its place. -/
structure Received (Time : Type) where
  sent : Payload
  bytes : Bytes
  receivedAt : Time
  either : bytes = sent.bytes ∨ IsError bytes

def Received.Intact (received : Received Time) : Prop := received.bytes = received.sent.bytes

instance Received.decidableIntact (received : Received Time) : Decidable received.Intact :=
  inferInstanceAs (Decidable (_ = _))

/-- A frame of which some payload is received intact. -/
structure Transfer (Time : Type) where
  frame : Frame
  received : List (Received Time)
  each : received.map Received.sent = frame.payloads
  some : ∃ payload ∈ received, payload.Intact

/-- All payloads of the frame arrived intact. -/
def Transfer.Intact (transfer : Transfer Time) : Prop :=
  ∀ payload ∈ transfer.received, payload.Intact

instance Transfer.decidableIntact (transfer : Transfer Time) : Decidable transfer.Intact :=
  inferInstanceAs (Decidable (∀ payload ∈ transfer.received, payload.Intact))

def Transfer.arrivals (transfer : Transfer Time) : List (Bytes × Time) :=
  transfer.received.map fun payload => (payload.bytes, payload.receivedAt)

/-! ### One payload -/

variable {assembler : Assembler Time}

/-- The buffer is never written behind its end. -/
structure Assembler.Fits (assembler : Assembler Time) : Prop where
  size : assembler.frame.length = frameBytes
  used : assembler.used ≤ frameBytes

theorem Assembler.Fits.deliverFrame (fits : assembler.Fits) : assembler.deliverFrame.Fits :=
  ⟨fits.size, Nat.zero_le _⟩

theorem Assembler.Fits.append (fits : assembler.Fits) (data : Bytes)
    (room : assembler.used + data.length ≤ frameBytes) : (assembler.append data).Fits := by
  have size := fits.size
  refine ⟨?_, room⟩
  unfold Assembler.append
  simp only [length_append, length_take, length_drop]
  omega

theorem Assembler.Fits.toggle (fits : assembler.Fits) (fid : UInt8) (receivedAt : Time) :
    (assembler.toggle fid receivedAt).Fits := by
  unfold Assembler.toggle
  split
  · exact ⟨fits.size, Nat.zero_le _⟩
  · exact ⟨fits.size, fits.used⟩

theorem Assembler.Fits.accept (fits : assembler.Fits) (flags : UInt8) (data : Bytes) :
    (assembler.accept flags data).1.Fits := by
  unfold Assembler.accept
  split
  · exact ⟨fits.size, Nat.zero_le _⟩
  · next room =>
    have used := fits.used
    have grown := fits.append data (by omega)
    split
    · exact grown.deliverFrame
    · exact grown

theorem Assembler.Fits.consume (fits : assembler.Fits) (payload : Bytes) (receivedAt : Time) :
    (assembler.consume payload receivedAt).1.Fits := by
  unfold Assembler.consume
  split
  · exact fits
  dsimp only
  split
  · exact fits
  split
  · exact ⟨fits.size, Nat.zero_le _⟩
  · exact (fits.toggle _ _).accept _ _

theorem Assembler.Fits.run (fits : assembler.Fits) (payloads : List (Bytes × Time)) :
    (assembler.run payloads).Fits := by
  induction payloads generalizing assembler with
  | nil => exact fits
  | cons payload rest hypothesis =>
    exact hypothesis (fits.consume payload.1 payload.2)

/-! ### A payload of a frame -/

/-- What is in the buffer of a frame. -/
def Assembler.held (assembler : Assembler Time) (fid : UInt8) : Bytes :=
  if assembler.fid = some fid then assembler.frame.take assembler.used else []

/-- The assembler between two payloads, while it waits for one of a frame. -/
structure Assembler.Waits (assembler : Assembler Time) : Prop where
  size : assembler.frame.length = frameBytes
  room : assembler.used < frameBytes
  fresh : assembler.fid = none → assembler.used = 0

theorem Assembler.Waits.length_take (waits : assembler.Waits) :
    (assembler.frame.take assembler.used).length = assembler.used := by
  rw [List.length_take, waits.size]
  exact min_eq_left (le_of_lt waits.room)

theorem Assembler.Waits.toggle (waits : assembler.Waits) (fid : UInt8) (receivedAt : Time) :
    (assembler.toggle fid receivedAt).Waits ∧
      (assembler.toggle fid receivedAt).fid = some fid ∧
      (assembler.toggle fid receivedAt).lastReceivedAt = some receivedAt ∧
      (assembler.toggle fid receivedAt).held fid = assembler.held fid ∧
      (assembler.toggle fid receivedAt).delivered = assembler.delivered := by
  have none : assembler.deliverFrame.delivered = assembler.delivered := by
    unfold Assembler.deliverFrame
    cases assembler.lastReceivedAt with
    | none => exact append_nil _
    | some earlier =>
      dsimp only
      rw [if_neg (Nat.ne_of_lt waits.room), append_nil]
  unfold Assembler.toggle Assembler.held
  by_cases toggled : assembler.fid ≠ .none ∧ some fid ≠ assembler.fid ∧ assembler.used ≠ 0
  · rw [if_pos toggled, if_pos rfl, if_neg (Ne.symm toggled.2.1)]
    have positive : 0 < frameBytes := by decide
    exact ⟨⟨waits.size, positive, nofun⟩, rfl, rfl, take_zero, none⟩
  · rw [if_neg toggled, if_pos rfl]
    refine ⟨⟨waits.size, waits.room, nofun⟩, rfl, rfl, ?_, rfl⟩
    split
    · rfl
    · next other =>
      have empty : assembler.used = 0 := by
        by_contra used
        exact toggled ⟨fun none => used (waits.fresh none), Ne.symm other, used⟩
      rw [empty, take_zero]

theorem held_append {fid : UInt8} {gathered data : Bytes} (waits : assembler.Waits)
    (own : assembler.fid = some fid) (held : assembler.held fid = gathered) :
    assembler.used = gathered.length ∧
      (assembler.append data).frame.take (assembler.append data).used = gathered ++ data := by
  have content : assembler.frame.take assembler.used = gathered := by
    rw [← held, Assembler.held, if_pos own]
  refine ⟨by rw [← content, waits.length_take], ?_⟩
  unfold Assembler.append
  rw [content]
  refine take_left' ?_
  rw [length_append, ← content, waits.length_take]

variable {gathered : Bytes}

theorem Assembler.Waits.accept {fid flags : UInt8} (waits : assembler.Waits) (data : Bytes)
    (own : assembler.fid = some fid) (held : assembler.held fid = gathered)
    (goesOn : flags &&& 0x02 = 0) (room : gathered.length + data.length < frameBytes) :
    (assembler.accept flags data).1.Waits ∧
      (assembler.accept flags data).1.fid = some fid ∧
      (assembler.accept flags data).1.held fid = gathered ++ data ∧
      (assembler.accept flags data).1.delivered = assembler.delivered := by
  obtain ⟨used, content⟩ := @held_append Time assembler fid gathered data waits own held
  have fits : ¬ frameBytes - assembler.used < data.length := by omega
  have size := (Assembler.Fits.append ⟨waits.size, le_of_lt waits.room⟩ data (by omega)).size
  have same : (assembler.accept flags data).1 = assembler.append data := by
    unfold Assembler.accept
    rw [if_neg fits]
    exact if_neg (not_not.mpr goesOn)
  rw [same]
  refine ⟨⟨size, by rw [← used] at room; exact room, fun none => ?_⟩, own, ?_, rfl⟩
  · exact absurd (own.symm.trans none) nofun
  · exact (if_pos own).trans content

/-- With the last data the frame is delivered if all of it is there. -/
theorem Assembler.Waits.accept_last {fid flags : UInt8} (waits : assembler.Waits)
    (data : Bytes) (own : assembler.fid = some fid) (held : assembler.held fid = gathered)
    {receivedAt : Time} (received : assembler.lastReceivedAt = some receivedAt)
    (ends : flags &&& 0x02 ≠ 0) (room : gathered.length + data.length ≤ frameBytes) :
    (assembler.accept flags data).1.Waits ∧
      (assembler.accept flags data).1.fid = some fid ∧
      (assembler.accept flags data).1.delivered.map Delivered.frame =
        assembler.delivered.map Delivered.frame ++
          if gathered.length + data.length = frameBytes then [gathered ++ data] else [] := by
  obtain ⟨used, content⟩ := @held_append Time assembler fid gathered data waits own held
  have fits : ¬ frameBytes - assembler.used < data.length := by omega
  have size := (Assembler.Fits.append ⟨waits.size, le_of_lt waits.room⟩ data (by omega)).size
  have same : (assembler.accept flags data).1 = (assembler.append data).deliverFrame := by
    unfold Assembler.accept
    rw [if_neg fits]
    exact if_pos ends
  have positive : 0 < frameBytes := by decide
  rw [same]
  refine ⟨⟨size, positive, fun _ => rfl⟩, own, ?_⟩
  have grown : (assembler.append data).used = gathered.length + data.length :=
    congrArg (· + data.length) used
  have last : (assembler.append data).lastReceivedAt = some receivedAt := received
  unfold Assembler.deliverFrame
  rw [last, grown]
  dsimp only
  rw [map_append]
  by_cases whole : gathered.length + data.length = frameBytes
  · rw [if_pos whole, if_pos whole, ← content, grown, whole, ← size, take_length]
    rfl
  · rw [if_neg whole, if_neg whole]
    rfl

theorem consume_bytes (payload : Payload) (receivedAt : Time) :
    assembler.consume payload.bytes receivedAt =
      (assembler.toggle payload.fid receivedAt).accept payload.flags payload.data := by
  have count : (UInt8.ofNat (payload.fields.length + 2)).toNat = payload.fields.length + 2 := by
    rw [UInt8.toNat_ofNat']
    exact Nat.mod_eq_of_lt payload.short
  have first : payload.bytes.getD 0 0 = UInt8.ofNat (payload.fields.length + 2) := rfl
  have second : payload.bytes.getD 1 0 = payload.flags := rfl
  have length : payload.bytes.length = payload.fields.length + payload.data.length + 2 := by
    simp only [Payload.bytes, length_cons, length_append]
  have data : payload.bytes.drop (payload.fields.length + 2) = payload.data := by
    unfold Payload.bytes
    rw [drop_succ_cons, drop_succ_cons, drop_left]
  unfold Assembler.consume
  dsimp only
  rw [first, second, count, length, data, if_neg (by omega), if_neg (by omega),
    if_neg (not_not.mpr payload.noError)]
  rfl

theorem Assembler.Waits.consume_error (waits : assembler.Waits) {payload : Bytes}
    (isError : IsError payload) (receivedAt : Time) :
    (assembler.consume payload receivedAt).1.Waits ∧
      (assembler.consume payload receivedAt).1.fid = assembler.fid ∧
      (∀ fid, ((assembler.consume payload receivedAt).1.held fid).length ≤
        (assembler.held fid).length) ∧
      (assembler.consume payload receivedAt).1.delivered = assembler.delivered := by
  have same : assembler.Waits ∧ assembler.fid = assembler.fid ∧
      (∀ fid, (assembler.held fid).length ≤ (assembler.held fid).length) ∧
      assembler.delivered = assembler.delivered :=
    ⟨waits, rfl, fun _ => le_rfl, rfl⟩
  unfold Assembler.consume
  by_cases short : payload.length < 2
  · rw [if_pos short]
    exact same
  rw [if_neg short]
  by_cases malformed :
      (payload.getD 0 0).toNat < 2 ∨ payload.length < (payload.getD 0 0).toNat
  · rw [if_pos malformed]
    exact same
  · rw [if_neg malformed, if_pos ((isError.resolve_left short).resolve_left malformed)]
    have positive : 0 < frameBytes := by decide
    refine ⟨⟨waits.size, positive, fun _ => rfl⟩, rfl, fun fid => ?_, rfl⟩
    unfold Assembler.held
    split
    · exact Nat.zero_le _
    · exact le_rfl

/-! ### A frame -/

/-- What the buffer has of the data that was sent: all of it as long as every payload arrived, and
less of it otherwise. -/
structure Gathers (clean : Prop) (gathered sent : Bytes) : Prop where
  same : clean → gathered = sent
  less : ¬ clean → gathered.length < sent.length

section

variable {clean : Prop} {sent : Bytes} (gathers : Gathers clean gathered sent)

include gathers

theorem Gathers.length_le : gathered.length ≤ sent.length := by
  by_cases isClean : clean
  · exact le_of_eq (congrArg length (gathers.same isClean))
  · exact le_of_lt (gathers.less isClean)

theorem Gathers.append (data : Bytes) : Gathers clean (gathered ++ data) (sent ++ data) := by
  refine ⟨fun isClean => by rw [gathers.same isClean], fun damaged => ?_⟩
  have less := gathers.less damaged
  rw [length_append, length_append]
  exact Nat.add_lt_add_right less _

end

/-- The assembler behind the payloads of a frame: the frame was delivered if it is intact, and
nothing else was. -/
structure Behind (before after : Assembler Time) (fid : UInt8) (identified intact : Prop)
    (image : Bytes) : Prop where
  waits : after.Waits
  fid : identified → after.fid = some fid
  delivers : intact →
    after.delivered.map Delivered.frame = before.delivered.map Delivered.frame ++ [image]
  skips : ¬ intact → after.delivered.map Delivered.frame = before.delivered.map Delivered.frame

def sentData (received : List (Received Time)) : Bytes :=
  received.flatMap fun payload => payload.sent.data

theorem length_sentData_pos (first : Received Time) (rest : List (Received Time)) :
    0 < (sentData (first :: rest)).length := by
  have some := length_pos_of_ne_nil first.sent.some
  unfold sentData
  rw [flatMap_cons, length_append]
  exact Nat.lt_of_lt_of_le some (Nat.le_add_right _ _)

/-- The payloads of a frame, behind those that were received before. -/
theorem run_received (received : List (Received Time)) {fid : UInt8} {clean : Prop}
    {sent : Bytes} (waits : assembler.Waits)
    (gathers : Gathers clean (assembler.held fid) sent)
    (sameFid : ∀ payload ∈ received, payload.sent.fid = fid)
    (ends : EndsWithLast (received.map Received.sent))
    (whole : sent.length + (sentData received).length = frameBytes) :
    Behind assembler
      (assembler.run (received.map fun payload => (payload.bytes, payload.receivedAt))) fid
      (assembler.fid = some fid ∨ ∃ payload ∈ received, payload.Intact)
      (clean ∧ ∀ payload ∈ received, payload.Intact) (sent ++ sentData received) := by
  induction received generalizing assembler clean sent with
  | nil => exact ends.elim
  | cons first rest hypothesis =>
    obtain ⟨own, sameRest⟩ := forall_mem_cons.mp sameFid
    have data : sentData (first :: rest) = first.sent.data ++ sentData rest := flatMap_cons
    have room := gathers.length_le
    have some := length_pos_of_ne_nil first.sent.some
    rw [data, length_append] at whole
    by_cases intact : first.Intact
    · obtain ⟨still, isFid, received, held, none⟩ := waits.toggle fid first.receivedAt
      have step : (assembler.consume first.bytes first.receivedAt).1 =
          ((assembler.toggle fid first.receivedAt).accept first.sent.flags first.sent.data).1 := by
        rw [show first.bytes = first.sent.bytes from intact, consume_bytes, own]
      have grown := gathers.append first.sent.data
      cases rest with
      | nil =>
        obtain ⟨settled, isOwn, delivered⟩ :=
          still.accept_last first.sent.data isFid held received ends (by omega)
        rw [none, ← step] at delivered
        rw [← step] at settled isOwn
        have all : clean ∧ (∀ payload ∈ [first], payload.Intact) ↔ clean := by
          refine and_iff_left fun payload member => ?_
          obtain rfl := mem_singleton.mp member
          exact intact
        refine ⟨settled, fun _ => isOwn, fun both => ?_, fun damaged => ?_⟩
        · have same := gathers.same both.1
          have complete : (assembler.held fid).length + first.sent.data.length = frameBytes := by
            rw [same]
            exact whole
          rw [if_pos complete, same] at delivered
          have none : sentData ([] : List (Received Time)) = [] := rfl
          rw [data, none, append_nil]
          exact delivered
        · have less := gathers.less (mt all.mpr damaged)
          have incomplete : (assembler.held fid).length + first.sent.data.length ≠ frameBytes := by
            rw [sentData, flatMap_nil, length_nil] at whole
            omega
          rw [if_neg incomplete, append_nil] at delivered
          exact delivered
      | cons second later =>
        have more := length_sentData_pos second later
        obtain ⟨settled, isOwn, holds, delivered⟩ :=
          still.accept first.sent.data isFid held (not_not.mp ends.1) (by omega)
        rw [none, ← step] at delivered
        rw [← step] at settled isOwn holds
        rw [← holds] at grown
        have after := hypothesis settled grown sameRest ends.2 (by rw [length_append]; omega)
        refine ⟨after.waits, fun _ => after.fid (.inl isOwn), fun both => ?_, fun damaged => ?_⟩
        · have delivers := after.delivers ⟨both.1, fun payload member =>
            both.2 payload (mem_cons_of_mem first member)⟩
          rw [delivered, append_assoc, ← data] at delivers
          exact delivers
        · have skips := after.skips fun both => damaged ⟨both.1,
            forall_mem_cons.mpr ⟨intact, both.2⟩⟩
          rw [delivered] at skips
          exact skips
    · obtain ⟨still, kept, fewer, none⟩ :=
        waits.consume_error (first.either.resolve_left intact) first.receivedAt
      have damaged : ¬ (clean ∧ ∀ payload ∈ first :: rest, payload.Intact) :=
        fun both => intact (both.2 first mem_cons_self)
      have less : Gathers False
          ((assembler.consume first.bytes first.receivedAt).1.held fid)
          (sent ++ first.sent.data) := by
        refine ⟨False.elim, fun _ => ?_⟩
        have bound := fewer fid
        rw [length_append]
        omega
      cases rest with
      | nil =>
        refine ⟨still, fun identified => ?_, fun both => absurd both damaged, fun _ => ?_⟩
        · rcases identified with before | ⟨payload, member, isIntact⟩
          · exact kept.trans before
          · obtain rfl := mem_singleton.mp member
            exact absurd isIntact intact
        · exact congrArg (map Delivered.frame) none
      | cons second later =>
        have after := hypothesis still less sameRest ends.2 (by rw [length_append]; omega)
        refine ⟨after.waits, fun identified => after.fid ?_, fun both => absurd both damaged,
          fun _ => ?_⟩
        · rcases identified with before | ⟨payload, member, isIntact⟩
          · exact .inl (kept.trans before)
          · refine .inr ⟨payload, (mem_cons.mp member).resolve_left ?_, isIntact⟩
            rintro rfl
            exact intact isIntact
        · exact (after.skips fun both => both.1).trans (congrArg (map Delivered.frame) none)

/-! ### Frame after frame -/

theorem run_transfer (transfer : Transfer Time) (waits : assembler.Waits)
    (other : assembler.fid ≠ some transfer.frame.fid) :
    Behind assembler (assembler.run transfer.arrivals) transfer.frame.fid True transfer.Intact
      transfer.frame.image := by
  have sent : sentData transfer.received = transfer.frame.image := by
    unfold sentData Frame.image
    rw [← transfer.each, flatMap_map]
  have held : assembler.held transfer.frame.fid = [] := if_neg other
  have starts : Gathers True (assembler.held transfer.frame.fid) [] :=
    ⟨fun _ => held, fun damaged => absurd trivial damaged⟩
  have sameFid : ∀ payload ∈ transfer.received, payload.sent.fid = transfer.frame.fid :=
    fun payload member => transfer.frame.sameFid payload.sent
      (transfer.each ▸ mem_map_of_mem member)
  have whole : ([] : Bytes).length + (sentData transfer.received).length = frameBytes := by
    rw [sent, length_nil, Nat.zero_add]
    exact transfer.frame.whole
  have behind := run_received transfer.received waits starts sameFid
    (transfer.each ▸ transfer.frame.ends) whole
  rw [sent, nil_append] at behind
  exact
    { waits := behind.waits
      fid := fun _ => behind.fid (.inr transfer.some)
      delivers := fun intact => behind.delivers ⟨trivial, intact⟩
      skips := fun damaged => behind.skips fun both => damaged both.2 }

theorem run_append (assembler : Assembler Time) (first second : List (Bytes × Time)) :
    assembler.run (first ++ second) = (assembler.run first).run second := foldl_append

/-- What is delivered of frames of which each has another identifier than the one before. -/
theorem run_transfers (transfers : List (Transfer Time)) (waits : assembler.Waits)
    (other : ∀ transfer ∈ transfers.head?, assembler.fid ≠ some transfer.frame.fid)
    (alternate : transfers.IsChain fun first second => first.frame.fid ≠ second.frame.fid) :
    (assembler.run (transfers.flatMap Transfer.arrivals)).delivered.map Delivered.frame =
      assembler.delivered.map Delivered.frame ++
        (transfers.filter fun transfer => transfer.Intact).map fun transfer =>
          transfer.frame.image := by
  induction transfers generalizing assembler with
  | nil => exact (append_nil _).symm
  | cons transfer later hypothesis =>
    have behind := run_transfer transfer waits (other transfer rfl)
    have next : ∀ second ∈ later.head?,
        (assembler.run transfer.arrivals).fid ≠ some second.frame.fid := by
      intro second isNext same
      rw [behind.fid trivial] at same
      exact (isChain_cons.mp alternate).1 second isNext (Option.some.inj same)
    rw [flatMap_cons, run_append, hypothesis behind.waits next (isChain_cons.mp alternate).2]
    by_cases intact : transfer.Intact
    · rw [behind.delivers intact, filter_cons, if_pos (decide_eq_true intact), map_cons,
        append_assoc]
      rfl
    · rw [behind.skips intact, filter_cons, if_neg (by rw [decide_eq_false intact]; nofun)]

end

theorem fits_init (memory : Vector UInt8 frameBytes) : (init memory : Assembler Time).Fits :=
  ⟨Vector.length_toList, Nat.zero_le _⟩

/-- The callback is given the frames of which all payloads arrived, each once and in order; and
whatever the payloads are, the buffer is not written behind its end. -/
theorem assembler_delivers (memory : Vector UInt8 frameBytes) :
    (∀ transfers : List (Transfer Time),
      (transfers.IsChain fun first second => first.frame.fid ≠ second.frame.fid) →
        ((init memory).run (transfers.flatMap Transfer.arrivals)).delivered.map Delivered.frame =
          (transfers.filter fun transfer => transfer.Intact).map fun transfer =>
            transfer.frame.image) ∧
      ∀ payloads : List (Bytes × Time), ((init memory).run payloads).used ≤ frameBytes := by
  have fits : (init memory : Assembler Time).Fits := fits_init memory
  have positive : 0 < frameBytes := by decide
  have waits : (init memory : Assembler Time).Waits := ⟨fits.size, positive, fun _ => rfl⟩
  refine ⟨fun transfers alternate => ?_, fun payloads => (fits.run payloads).used⟩
  exact run_transfers transfers waits (fun _ _ => nofun) alternate

/-- A payload with half of a frame in it. -/
def half (flags : UInt8) (noError : flags &&& 0x40 = 0) : Payload where
  flags
  fields := []
  data := List.replicate (frameBytes / 2) 7
  short := by decide
  noError
  some := by
    rw [ne_eq, List.replicate_eq_nil_iff]
    decide

theorem half_twice : frameBytes / 2 + frameBytes / 2 = frameBytes := by
  simp only [frameBytes, thermalWidth, thermalHeight, Nat.reduceMul, Nat.reduceDiv, Nat.reduceAdd]

/-- A frame of two such payloads. -/
def halves (first last : Payload) (isFirst : first.data.length = frameBytes / 2)
    (isLast : last.data.length = frameBytes / 2) (same : first.fid = last.fid)
    (ends : EndsWithLast [first, last]) : Frame where
  payloads := [first, last]
  fid := last.fid
  sameFid := by simp [same]
  ends
  whole := by
    rw [List.flatMap_cons, List.flatMap_cons, List.flatMap_nil, List.append_nil,
      List.length_append, isFirst, isLast, half_twice]

/-- A frame of which all is received. -/
def received : Transfer Unit where
  frame := halves (half 0 rfl) (half 2 rfl) List.length_replicate List.length_replicate rfl
    ⟨fun ends => ends rfl, (by decide : (2 : UInt8) &&& 2 ≠ 0)⟩
  received := [⟨half 0 rfl, _, (), .inl rfl⟩, ⟨half 2 rfl, _, (), .inl rfl⟩]
  each := rfl
  some := ⟨_, List.mem_cons_self, rfl⟩

/-- A frame whose second half is replaced. -/
def halfLost : Transfer Unit where
  frame := halves (half 1 rfl) (half 3 rfl) List.length_replicate List.length_replicate rfl
    ⟨fun ends => ends rfl, (by decide : (3 : UInt8) &&& 2 ≠ 0)⟩
  received := [⟨half 1 rfl, _, (), .inl rfl⟩, ⟨half 3 rfl, [], (), .inr (.inl (by decide))⟩]
  each := rfl
  some := ⟨_, List.mem_cons_self, rfl⟩

theorem assembler_delivers_half :
    ((init (.replicate frameBytes 0)).run
      ([received, halfLost].flatMap Transfer.arrivals)).delivered.map Delivered.frame =
        [received.frame.image] ∧
      received.frame.image ≠ [] := by
  have toggles : [received, halfLost].IsChain fun first second =>
      first.frame.fid ≠ second.frame.fid :=
    .cons_cons (by decide) (.singleton _)
  have intact : received.Intact := List.forall_mem_cons.mpr ⟨rfl, List.forall_mem_singleton.mpr rfl⟩
  have lost : ¬ halfLost.Intact := fun all =>
    nomatch (List.forall_mem_cons.mp (List.forall_mem_cons.mp all).2).1
  rw [(assembler_delivers _).1 [received, halfLost] toggles, List.filter_cons,
    if_pos (decide_eq_true intact), List.filter_cons,
    if_neg (by rw [decide_eq_false lost]; nofun)]
  refine ⟨rfl, fun empty => ?_⟩
  have whole := received.frame.whole
  rw [show received.frame.payloads.flatMap Payload.data = [] from empty] at whole
  exact absurd whole (by decide)

end UvcAssembler
