/-
This file is about the private link to the gimbal of the A8 and the ZR10: sending a frame, and the
receive buffer that is parsed after each read.

A read of a datagram socket is a read that returns what is left of the datagram after truncation;
the stream here is what the reads return, one after another.
-/

import CameraGimbal.SealedFrames

namespace SiyiLink

open Framing List
open PrivateUart (crc8Maxim putU16le sealed sealed_intact length_sealed)
open Siyi (byteAt getU16le crc16)

/-- The length of a frame's header. -/
def linkHeader : Nat := 11

/-- The bytes of a frame around its payload. -/
def linkOverhead : Nat := linkHeader + 2

/-- The length of the longest payload. -/
def linkMaxPayload : Nat := 255

/-- The length of the longest frame. -/
def linkMaxFrame : Nat := linkOverhead + linkMaxPayload

/-- The size of the receive buffer. -/
def rxSize : Nat := linkMaxFrame * 2

/-! ### Sending -/

/-- Why a frame is not sent. -/
inductive SendError where
  | messageSize
  | notConnected
  deriving DecidableEq, Repr

/-- The bytes the CRC-8 covers. -/
def linkStart (flags : UInt8) (payload : Bytes) : Bytes :=
  [0xaa, flags, 0x02, UInt8.ofNat payload.length]

/-- The bytes the CRC-16 covers. -/
def linkBody (linkSequence : UInt16) (flags subCommand : UInt8) (payload : Bytes) :
    Bytes :=
  linkStart flags payload ++ [crc8Maxim (linkStart flags payload)] ++ putU16le linkSequence ++
    [0x2c, 0x2e, 0x6b, subCommand] ++ payload

def linkFrame (linkSequence : UInt16) (flags subCommand : UInt8) (payload : Bytes) :
    Bytes :=
  linkBody linkSequence flags subCommand payload ++
    putU16le (crc16 (linkBody linkSequence flags subCommand payload))

/-- `send_link`: the frame that is written, and the next sequence number. -/
def sendLink (connected : Bool) (linkSequence : UInt16) (flags subCommand : UInt8)
    (payload : Bytes) : Except SendError (Bytes × UInt16) :=
  if linkMaxPayload < payload.length then .error .messageSize
  else if connected = false then .error .notConnected
  else .ok (linkFrame linkSequence flags subCommand payload, linkSequence + 1)

/-! ### Receiving -/

def frameSub (frame : Bytes) : UInt8 := byteAt frame 10

def framePayload (frame : Bytes) : Bytes :=
  (frame.drop linkHeader).take (byteAt frame 3).toNat

/-- The receive buffer. The frames given to `handle_frame`, and whether a full buffer was ever
emptied, are its history. -/
structure Receiver where
  rx : Bytes
  handled : List Bytes
  reset : Bool
  deriving DecidableEq, Repr

/-- The receiver of a backend that was opened. -/
def Receiver.init : Receiver where
  rx := []
  handled := []
  reset := false

/-- The loop of `parse_rx` from an offset: the frames handled, and the offset it ends at. -/
def parseLoop (rx : Bytes) (offset : Nat) : List Bytes × Nat :=
  let frame := rx.drop offset
  let total := linkOverhead + (byteAt frame 3).toNat
  if _enough : linkOverhead ≤ rx.length - offset then
    if byteAt frame 0 ≠ 0xaa ∨ byteAt frame 2 ≠ 0x02 ∨
        crc8Maxim (frame.take 4) ≠ byteAt frame 4 then
      parseLoop rx (offset + 1)
    else if rx.length - offset < total then ([], offset)
    else if crc16 (frame.take (total - 2)) ≠ getU16le frame (total - 2) then
      parseLoop rx (offset + 1)
    else
      let later := parseLoop rx (offset + total)
      (frame.take total :: later.1, later.2)
  else ([], offset)
termination_by rx.length - offset
decreasing_by
  all_goals
    unfold linkOverhead at *
    omega

def parseRx (receiver : Receiver) : Receiver :=
  let parsed := parseLoop receiver.rx 0
  { receiver with
    handled := receiver.handled ++ parsed.1
    rx := if parsed.2 ≠ 0 then receiver.rx.drop parsed.2 else receiver.rx }

/-- `ca_backend_handle_fd`, when `want` of the pending bytes are there to read, as far as there is
room for them. No bytes is also a read that fails. -/
def handleFd (receiver : Receiver) (pending : Bytes) (want : Nat) :
    Receiver × Bytes :=
  let ready :=
    if rxSize ≤ receiver.rx.length then { receiver with rx := [], reset := true } else receiver
  let count := min want (rxSize - ready.rx.length)
  if pending.take count ≠ [] then
    (parseRx { ready with rx := ready.rx ++ pending.take count }, pending.drop count)
  else (ready, pending)

/-- A run of calls. -/
def handleAll (receiver : Receiver) (pending : Bytes) : List Nat → Receiver × Bytes
  | [] => (receiver, pending)
  | want :: wants =>
    handleAll (handleFd receiver pending want).1 (handleFd receiver pending want).2 wants

/-! ### The format -/

/-- What is done with the bytes at the head of the buffer: wait for a header, skip a byte when it
is not one, wait for the whole frame, skip a byte when its checksum does not match, and otherwise
take the frame. -/
def linkVerdict (data : Bytes) : Verdict :=
  let total := linkOverhead + (byteAt data 3).toNat
  if data.length < linkOverhead then .wait
  else if byteAt data 0 ≠ 0xaa ∨ byteAt data 2 ≠ 0x02 ∨ crc8Maxim (data.take 4) ≠ byteAt data 4 then
    .skip
  else if data.length < total then .wait
  else if crc16 (data.take (total - 2)) ≠ getU16le data (total - 2) then .skip
  else .frame total

variable {data : Bytes}

theorem linkVerdict_frame {total : Nat} (found : linkVerdict data = .frame total) :
    total = linkOverhead + (byteAt data 3).toNat ∧ total ≤ data.length := by
  unfold linkVerdict at found
  simp only at found
  split at found
  · cases found
  split at found
  · cases found
  split at found
  · cases found
  next whole =>
  split at found
  · cases found
  cases found
  exact ⟨rfl, Nat.le_of_not_lt whole⟩

theorem linkVerdict_skip (skips : linkVerdict data = .skip) : linkOverhead ≤ data.length := by
  by_contra short
  unfold linkVerdict at skips
  rw [if_pos (Nat.lt_of_not_le short)] at skips
  cases skips

theorem length_lt_of_linkWait (waits : linkVerdict data = .wait) : data.length < linkMaxFrame := by
  have most : (byteAt data 3).toNat ≤ linkMaxPayload := Nat.le_of_lt_succ (byteAt data 3).toNat_lt
  unfold linkVerdict at waits
  simp only at waits
  split at waits
  · next short => exact short.trans_le (Nat.le_add_right _ _)
  split at waits
  · cases waits
  split at waits
  · next cut => exact cut.trans_le (Nat.add_le_add_left most _)
  split at waits <;> cases waits

theorem linkVerdict_append (later : Bytes) (decided : linkVerdict data ≠ .wait) :
    linkVerdict (data ++ later) = linkVerdict data := by
  have overhead : linkOverhead = 13 := rfl
  have length : (data ++ later).length = data.length + later.length := length_append
  have byte (index : Nat) (inside : index < data.length) :
      byteAt (data ++ later) index = byteAt data index := Siyi.byteAt_append later inside
  have start (count : Nat) (inside : count ≤ data.length) :
      (data ++ later).take count = data.take count := take_append_of_le_length inside
  unfold linkVerdict at decided ⊢
  by_cases short : data.length < linkOverhead
  · exact absurd (if_pos short) decided
  rw [if_neg short] at decided ⊢
  rw [if_neg (by omega), byte 0 (by omega), byte 2 (by omega), byte 3 (by omega),
    byte 4 (by omega), start 4 (by omega)]
  by_cases refused : byteAt data 0 ≠ 0xaa ∨ byteAt data 2 ≠ 0x02 ∨
      crc8Maxim (data.take 4) ≠ byteAt data 4
  · rw [if_pos refused, if_pos refused]
  rw [if_neg refused] at decided ⊢
  rw [if_neg refused]
  by_cases cut : data.length < linkOverhead + (byteAt data 3).toNat
  · exact absurd (if_pos cut) decided
  have word : getU16le (data ++ later) (linkOverhead + (byteAt data 3).toNat - 2) =
      getU16le data (linkOverhead + (byteAt data 3).toNat - 2) :=
    Siyi.getU16le_append later (by omega)
  rw [if_neg cut, if_neg (by omega), word, start _ (by omega)]

def linkFormat : Format UInt8 where
  verdict := linkVerdict
  skip_nonempty := by
    rintro data skips rfl
    exact absurd (linkVerdict_skip skips) (by decide)
  frame_pos := by
    intro data total found
    rw [(linkVerdict_frame found).1]
    exact Nat.add_pos_left (by decide) _
  frame_le := fun found => (linkVerdict_frame found).2
  stable := fun later decided => linkVerdict_append later decided

/-! ### The receiver follows the scan -/

theorem parseLoop_eq_scan (rx : Bytes) (offset : Nat) :
    (parseLoop rx offset).1 = (scan linkFormat (rx.drop offset)).1 ∧
      rx.drop (parseLoop rx offset).2 = (scan linkFormat (rx.drop offset)).2 := by
  have remaining (offset : Nat) : (rx.drop offset).length = rx.length - offset := length_drop
  have decided (offset : Nat) : linkFormat.verdict (rx.drop offset) =
      linkVerdict (rx.drop offset) := rfl
  induction offset using parseLoop.induct rx with
  | case1 offset frame enough bad hypothesis =>
    have skips : linkFormat.verdict (rx.drop offset) = .skip := by
      rw [decided]
      unfold linkVerdict
      rw [remaining, if_neg (not_lt.mpr enough)]
      exact if_pos bad
    rw [parseLoop, dif_pos enough, if_pos bad, scan_of_skip skips, tail_drop]
    exact hypothesis
  | case2 offset frame total enough good cut =>
    have waits : linkFormat.verdict (rx.drop offset) = .wait := by
      rw [decided]
      unfold linkVerdict
      rw [remaining, if_neg (not_lt.mpr enough), if_neg good]
      exact if_pos cut
    rw [parseLoop, dif_pos enough, if_neg good, if_pos cut, scan_of_wait waits]
    exact ⟨rfl, rfl⟩
  | case3 offset frame total enough good whole mismatch hypothesis =>
    have skips : linkFormat.verdict (rx.drop offset) = .skip := by
      rw [decided]
      unfold linkVerdict
      rw [remaining, if_neg (not_lt.mpr enough), if_neg good]
      refine (if_neg whole).trans ?_
      exact if_pos mismatch
    rw [parseLoop, dif_pos enough, if_neg good, if_neg whole, if_pos mismatch,
      scan_of_skip skips, tail_drop]
    exact hypothesis
  | case4 offset frame total enough good whole matched hypothesis =>
    have found : linkFormat.verdict (rx.drop offset) = .frame total := by
      rw [decided]
      unfold linkVerdict
      rw [remaining, if_neg (not_lt.mpr enough), if_neg good]
      refine (if_neg whole).trans ?_
      exact if_neg matched
    rw [parseLoop, dif_pos enough, if_neg good, if_neg whole, if_neg matched,
      scan_of_frame found, drop_drop]
    exact ⟨congrArg (_ :: ·) hypothesis.1, hypothesis.2⟩
  | case5 offset few =>
    have waits : linkFormat.verdict (rx.drop offset) = .wait := by
      rw [decided]
      unfold linkVerdict
      rw [remaining]
      exact if_pos (Nat.lt_of_not_le few)
    rw [parseLoop, dif_neg few, scan_of_wait waits]
    exact ⟨rfl, rfl⟩

theorem parseRx_eq_scan (receiver : Receiver) :
    parseRx receiver =
      { rx := (scan linkFormat receiver.rx).2
        handled := receiver.handled ++ (scan linkFormat receiver.rx).1
        reset := receiver.reset } := by
  obtain ⟨frames, left⟩ := parseLoop_eq_scan receiver.rx 0
  rw [drop_zero] at frames left
  have kept : (if (parseLoop receiver.rx 0).2 ≠ 0 then
      receiver.rx.drop (parseLoop receiver.rx 0).2 else receiver.rx) =
        (scan linkFormat receiver.rx).2 := by
    split
    · exact left
    next start =>
      rw [← left, not_not.mp start]
      rfl
  unfold parseRx
  simp only
  rw [frames, kept]

/-- The receiver has handled the frames of the scan of what it received, holds what the scan left,
and was never reset. -/
structure Follows (receiver : Receiver) (received : Bytes) : Prop where
  scanned : scan linkFormat received = (receiver.handled, receiver.rx)
  kept : receiver.reset = false

theorem Follows.init : Follows Receiver.init [] := by
  have waits : linkFormat.verdict [] = .wait := rfl
  exact ⟨scan_of_wait waits, rfl⟩

variable {receiver : Receiver} {received : Bytes}

theorem Follows.length_lt (follows : Follows receiver received) :
    receiver.rx.length < linkMaxFrame := by
  have waits : linkFormat.verdict (scan linkFormat received).2 = .wait := scan_waits received
  rw [follows.scanned] at waits
  exact length_lt_of_linkWait waits

theorem Follows.suffix (follows : Follows receiver received) : receiver.rx <:+ received := by
  have suffix := @scan_suffix _ linkFormat received
  rwa [follows.scanned] at suffix

theorem handleFd_follows (follows : Follows receiver received) (pending : Bytes) (want : Nat) :
    ∃ taken, pending = taken ++ (handleFd receiver pending want).2 ∧
      Follows (handleFd receiver pending want).1 (received ++ taken) := by
  have room : ¬ rxSize ≤ receiver.rx.length := by
    have := follows.length_lt
    unfold rxSize
    omega
  unfold handleFd
  rw [if_neg room]
  by_cases read : pending.take (min want (rxSize - receiver.rx.length)) ≠ []
  · refine ⟨pending.take (min want (rxSize - receiver.rx.length)), ?_, ?_⟩
    · rw [if_pos read]
      exact (take_append_drop _ _).symm
    · rw [if_pos read, parseRx_eq_scan]
      refine ⟨?_, follows.kept⟩
      rw [scan_append, follows.scanned]
  · refine ⟨[], ?_, ?_⟩
    · rw [if_neg read]
      rfl
    · rw [if_neg read, append_nil]
      exact follows

theorem handleAll_follows (follows : Follows receiver received) (pending : Bytes)
    (wants : List Nat) :
    ∃ taken, pending = taken ++ (handleAll receiver pending wants).2 ∧
      Follows (handleAll receiver pending wants).1 (received ++ taken) := by
  induction wants generalizing receiver received pending with
  | nil =>
    refine ⟨[], rfl, ?_⟩
    rw [append_nil]
    exact follows
  | cons want rest hypothesis =>
    obtain ⟨first, split, followsFirst⟩ := handleFd_follows follows pending want
    obtain ⟨later, splitLater, followsLater⟩ :=
      hypothesis followsFirst (handleFd receiver pending want).2
    refine ⟨first ++ later, ?_, ?_⟩
    · rw [append_assoc]
      exact split.trans (congrArg (first ++ ·) splitLater)
    · rw [← append_assoc]
      exact followsLater

/-! ### What is sent is received -/

theorem linkVerdict_sealed (flags : UInt8) {count : Nat} {rest : Bytes}
    (fits : count ≤ linkMaxPayload) (size : rest.length = count + 6) (later : Bytes) :
    linkVerdict (sealed [0xaa, flags, 0x02, UInt8.ofNat count] rest ++ later) =
      .frame (sealed [0xaa, flags, 0x02, UInt8.ofNat count] rest).length := by
  have intact := sealed_intact [0xaa, flags, 0x02, UInt8.ofNat count] rest later
  have total : (sealed [0xaa, flags, 0x02, UInt8.ofNat count] rest).length =
      linkOverhead + count := by
    rw [length_sealed, size]
    show 4 + (count + 6) + 3 = 13 + count
    omega
  have declared : (byteAt (sealed [0xaa, flags, 0x02, UInt8.ofNat count] rest ++ later) 3).toNat =
      count := by
    show (UInt8.ofNat count).toNat = _
    rw [UInt8.toNat_ofNat']
    exact Nat.mod_eq_of_lt (Nat.lt_succ_of_le fits)
  have header : ¬ (byteAt (sealed [0xaa, flags, 0x02, UInt8.ofNat count] rest ++ later) 0 ≠ 0xaa ∨
      byteAt (sealed [0xaa, flags, 0x02, UInt8.ofNat count] rest ++ later) 2 ≠ 0x02 ∨
      crc8Maxim ((sealed [0xaa, flags, 0x02, UInt8.ofNat count] rest ++ later).take 4) ≠
        byteAt (sealed [0xaa, flags, 0x02, UInt8.ofNat count] rest ++ later) 4) :=
    not_or.mpr ⟨not_not.mpr rfl, not_or.mpr ⟨not_not.mpr rfl, not_not.mpr intact.start.symm⟩⟩
  unfold linkVerdict
  rw [declared, length_append, total, if_neg (by omega), if_neg header, if_neg (by omega),
    ← total, if_neg (not_not.mpr intact.body.symm)]

variable (linkSequence : UInt16) (flags subCommand : UInt8)

theorem linkFrame_eq_sealed
    (payload : Bytes) :
    linkFrame linkSequence flags subCommand payload =
      sealed (linkStart flags payload)
        (putU16le linkSequence ++ [0x2c, 0x2e, 0x6b, subCommand] ++ payload) := rfl

theorem linkVerdict_linkFrame
    {payload : Bytes} (fits : payload.length ≤ linkMaxPayload) (later : Bytes) :
    linkVerdict (linkFrame linkSequence flags subCommand payload ++ later) =
      .frame (linkFrame linkSequence flags subCommand payload).length := by
  rw [linkFrame_eq_sealed]
  refine linkVerdict_sealed flags fits ?_ later
  rw [length_append]
  exact Nat.add_comm _ _

theorem framePayload_linkFrame {payload : Bytes} (fits : payload.length ≤ linkMaxPayload) :
    framePayload (linkFrame linkSequence flags subCommand payload) = payload := by
  have declared : (byteAt (linkFrame linkSequence flags subCommand payload) 3).toNat =
      payload.length := by
    show (UInt8.ofNat payload.length).toNat = _
    rw [UInt8.toNat_ofNat']
    exact Nat.mod_eq_of_lt (Nat.lt_succ_of_le fits)
  unfold framePayload
  rw [declared]
  exact take_left

/-! ### The link -/

/-- However what the gimbal sends is cut into reads, the frames handled are those of the greedy
scan, what is left is a suffix shorter than a frame and never thrown away, and a frame that is sent
is one frame when it is received. -/
theorem link_chunk_independent :
    (∀ (stream : Bytes) (wants : List Nat), ∃ received,
      stream = received ++ (handleAll Receiver.init stream wants).2 ∧
      (handleAll Receiver.init stream wants).1.handled = (scan linkFormat received).1 ∧
      (handleAll Receiver.init stream wants).1.rx = (scan linkFormat received).2 ∧
      (handleAll Receiver.init stream wants).1.rx <:+ received ∧
      (handleAll Receiver.init stream wants).1.rx.length < linkMaxFrame ∧
      (handleAll Receiver.init stream wants).1.reset = false) ∧
    ∀ (connected : Bool) (linkSequence : UInt16) (flags subCommand : UInt8)
      (payload frame : Bytes) (next : UInt16),
      sendLink connected linkSequence flags subCommand payload = .ok (frame, next) →
        frameSub frame = subCommand ∧ framePayload frame = payload ∧
          ∀ later, scan linkFormat (frame ++ later) =
              (frame :: (scan linkFormat later).1, (scan linkFormat later).2) ∧
            parseRx { Receiver.init with rx := frame ++ later } =
              { rx := (scan linkFormat later).2
                handled := frame :: (scan linkFormat later).1
                reset := false } := by
  refine ⟨?_, ?_⟩
  · intro stream wants
    obtain ⟨received, split, follows⟩ := handleAll_follows Follows.init stream wants
    rw [List.nil_append] at follows
    refine ⟨received, split, ?_, ?_, follows.suffix, follows.length_lt, follows.kept⟩
    · rw [follows.scanned]
    · rw [follows.scanned]
  · intro connected linkSequence flags subCommand payload frame next sent
    unfold sendLink at sent
    split at sent
    · cases sent
    next fits =>
    split at sent
    · cases sent
    obtain ⟨rfl, -⟩ := Prod.mk.inj (Except.ok.inj sent)
    have fits := Nat.le_of_not_lt fits
    refine ⟨rfl, framePayload_linkFrame linkSequence flags subCommand fits, fun later => ?_⟩
    have found : linkFormat.verdict (linkFrame linkSequence flags subCommand payload ++ later) =
        _ := linkVerdict_linkFrame linkSequence flags subCommand fits later
    have scanned := scan_of_frame found
    rw [List.take_left, List.drop_left] at scanned
    refine ⟨scanned, ?_⟩
    rw [parseRx_eq_scan]
    rw [scanned]
    rfl

end SiyiLink
