/-
This file proves that the XFRobot server answers every command of a TCP client once. The frames it
takes are those of the greedy scan of what the client has sent, the replies are sent whole and in
the order of the commands, and there is room for a byte whenever the server receives. Once nothing
more arrives and the client takes the replies, all frames are taken. An update changes the world by
the orders it answers, each carried out once, and by no other.
-/

import CameraGimbal.XfrobotServer

namespace Xfrobot

open Framing Siyi List Option
open Function (update_of_ne update_self)

/-! ### The frames of a stream -/

variable {input : Bytes} {length : Nat}

/-- A frame is as long as its header says, and all of it is there. -/
theorem verdict_frame (isFrame : verdict input = .frame length) :
    72 ≤ length ∧ length ≤ maxPacket ∧ length ≤ input.length := by
  unfold verdict at isFrame
  split at isFrame
  · cases isFrame
  split at isFrame
  · cases isFrame
  next proper =>
  split at isFrame
  · cases isFrame
  next whole =>
  cases isFrame
  simp only [not_or, not_lt] at proper whole
  exact ⟨proper.2.2.1, proper.2.2.2, whole⟩

theorem verdict_skip (isSkip : verdict input = .skip) : 4 ≤ input.length := by
  unfold verdict at isSkip
  split at isSkip
  · cases isSkip
  next long => exact not_lt.mp long

theorem verdict_wait (waits : verdict input = .wait) : input.length < maxPacket := by
  unfold verdict at waits
  split at waits
  · next short => exact short.trans (by decide)
  split at waits
  · cases waits
  next proper =>
  split at waits
  · next partly =>
    simp only [not_or, not_lt] at proper
    exact partly.trans_le proper.2.2.2
  · cases waits

/-- Bytes that come later change no verdict but that to wait. -/
theorem verdict_append (later : Bytes) (decided : verdict input ≠ .wait) :
    verdict (input ++ later) = verdict input := by
  unfold verdict at decided ⊢
  by_cases short : input.length < 4
  · rw [if_pos short] at decided
    exact absurd rfl decided
  · have grown : ¬ (input ++ later).length < 4 := by
      rw [length_append]
      omega
    have word : frameLength (input ++ later) = frameLength input := by
      unfold frameLength getU16le
      rw [byteAt_append later (by omega), byteAt_append later (by omega)]
    rw [if_neg short] at decided ⊢
    rw [if_neg grown, word, byteAt_append later (by omega), byteAt_append later (by omega)]
    split
    · rfl
    next proper =>
    rw [if_neg proper] at decided
    have whole : ¬ input.length < frameLength input := fun partly =>
      decided (if_pos partly)
    rw [if_neg whole, if_neg (by rw [length_append]; omega)]

/-- The frames of a stream: two sync bytes and an allowed length. -/
def format : Format UInt8 where
  verdict := verdict
  skip_nonempty := fun isSkip empty => by
    have long := verdict_skip isSkip
    rw [empty] at long
    exact absurd long (by decide)
  frame_pos := fun isFrame => Nat.lt_of_lt_of_le (by decide) (verdict_frame isFrame).1
  frame_le := fun isFrame => (verdict_frame isFrame).2.2
  stable := verdict_append

/-- The commands of a stream: the frames of the greedy scan that pass the check. -/
def commands (stream : Bytes) : List Bytes := (scan format stream).1.filter accepts

/-- The commands of a stream are found again, in front, in any longer one. -/
theorem commands_mono {first whole : Bytes} (isPrefix : first <+: whole) :
    commands first <+: commands whole := by
  obtain ⟨later, rfl⟩ := isPrefix
  unfold commands
  rw [scan_append, filter_append]
  exact prefix_append _ _

/-! ### Replies -/

theorem length_put16 (output : Bytes) (index : Nat) (word : UInt16) :
    (put16 output index word).length = output.length := by
  unfold put16
  rw [length_set, length_set]

theorem length_putAttitude (output : Bytes) (attitude : Option Attitude) :
    (putAttitude output attitude).length = output.length := by
  cases attitude with
  | none => exact length_put16 _ _ _
  | some attitude => simp only [putAttitude, length_put16]

variable {World : Type} {devices : Devices World}

section

variable (world : World) (order : UInt8) (done : Bool)

theorem length_answer :
    (answer devices world order done).length = replyLength := by
  simp only [answer, length_set, length_put16, length_putAttitude, length_replicate]

/-- An answer names the order that it answers. -/
theorem order_answer :
    byteAt (answer devices world order done) 69 = order := by
  unfold answer byteAt
  rw [getD_eq_getElem?_getD, getElem?_set_ne (by decide),
    getElem?_set_ne (by decide), getElem?_set_ne (by decide),
    getElem?_set_self, getD_some]
  simp only [length_set, length_put16, length_putAttitude, length_replicate]
  decide

/-- The result byte of a reply. -/
theorem result_answer :
    byteAt (answer devices world order done) 70 = if done then 0 else 1 := by
  unfold answer byteAt
  rw [getD_eq_getElem?_getD, getElem?_set_ne (by decide),
    getElem?_set_ne (by decide), getElem?_set_self, getD_some]
  simp only [length_set, length_put16, length_putAttitude, length_replicate]
  decide

end

/-- A reply is given to a command that is accepted, and names its order. -/
theorem reply_eq_some {manualControl : Bool} {world next : World} {data output : Bytes}
    (isReply : reply devices manualControl world data = some (next, output)) :
    accepts data = true ∧ output.length = replyLength ∧ byteAt output 69 = byteAt data 69 := by
  unfold reply at isReply
  split at isReply
  · next accepted =>
    obtain ⟨-, rfl⟩ := Prod.mk.inj (some.inj isReply)
    exact ⟨accepted, length_answer _ _ _, order_answer _ _ _⟩
  · cases isReply

theorem reply_eq_none {manualControl : Bool} {world : World} {data : Bytes}
    (isNone : reply devices manualControl world data = none) : accepts data = false := by
  unfold reply at isNone
  split at isNone
  · cases isNone
  · next refused => exact Bool.eq_false_iff.mpr refused

/-! ### What holds of a client -/

/-- What has happened to a connection. -/
structure History.Sound (history : History) : Prop where
  framed : ∃ buffered, InStep format history.received history.framed buffered
  executed : history.answers.map Prod.fst = history.framed.filter accepts
  whole : ∀ entry ∈ history.answers,
    entry.2.length = replyLength ∧ byteAt entry.2 69 = byteAt entry.1 69
  written : history.written <+: (history.answers.map Prod.snd).flatten
  room : ∀ space ∈ history.spaces, 1 ≤ space

/-- What is left to send of the pending reply. -/
def Client.unsent (client : Client) : Bytes :=
  (client.output.drop client.sent).take client.pending

/-- A connection that is open. -/
structure Slot.Live (slot : Slot) : Prop where
  inStep : InStep format slot.history.received slot.history.framed slot.client.input
  room : slot.client.input.length < maxPacket
  stream : slot.history.written ++ slot.client.unsent =
    (slot.history.answers.map Prod.snd).flatten
  whole : slot.client.pending ≠ 0 →
    slot.client.output.length = replyLength ∧
      slot.client.sent + slot.client.pending = replyLength

structure Slot.Sound (slot : Slot) : Prop where
  history : slot.history.Sound
  live : slot.client.isOpen = true → slot.Live

/-- An open connection without a pending reply, before the loop over its buffer. -/
structure Slot.Ready (slot : Slot) : Prop where
  isOpen : slot.client.isOpen = true
  history : slot.history.Sound
  inStep : InStep format slot.history.received slot.history.framed slot.client.input
  fits : slot.client.input.length ≤ maxPacket
  drained : slot.client.pending = 0
  stream : slot.history.written = (slot.history.answers.map Prod.snd).flatten

/-- There is nothing to send and no frame to take. -/
def Client.Idle (client : Client) : Prop := client.pending = 0 ∧ verdict client.input = .wait

/-- What the loop has left: either nothing to do, or a pending reply to a frame it has taken. -/
structure Slot.Parsed (before after : Slot) : Prop where
  isOpen : after.client.isOpen = true
  sound : after.Sound
  received : after.history.received = before.history.received
  rest : after.client.Idle ∨ after.client.pending = replyLength ∧
    after.client.input.length + 72 ≤ before.client.input.length

variable {slot : Slot}

theorem Slot.Ready.idle (ready : slot.Ready) (waits : verdict slot.client.input = .wait) :
    slot.Parsed slot where
  isOpen := ready.isOpen
  sound :=
    { history := ready.history
      live := fun _ =>
        { inStep := ready.inStep
          room := verdict_wait waits
          stream := by
            rw [Client.unsent, ready.drained, take_zero, append_nil]
            exact ready.stream
          whole := fun pending => absurd ready.drained pending } }
  received := rfl
  rest := .inl ⟨ready.drained, waits⟩

/-- A byte at which no frame begins is dropped. -/
theorem Slot.Ready.drop (ready : slot.Ready) (skips : verdict slot.client.input = .skip) :
    slot.drop.Ready where
  isOpen := ready.isOpen
  history := ready.history
  inStep := ready.inStep.skip skips
  fits := by
    have fits := ready.fits
    show slot.client.input.tail.length ≤ maxPacket
    rw [length_tail]
    omega
  drained := ready.drained
  stream := ready.stream

theorem History.Sound.consume (sound : slot.history.Sound)
    (inStep : InStep format slot.history.received slot.history.framed slot.client.input)
    (isFrame : verdict slot.client.input = .frame length)
    (refused : accepts (slot.client.input.take length) = false) :
    (slot.consume length).history.Sound where
  framed := ⟨_, @InStep.take _ format _ _ _ _ inStep isFrame⟩
  executed := by
    show slot.history.answers.map Prod.fst =
      (slot.history.framed ++ [slot.client.input.take length]).filter accepts
    rw [filter_append, filter_singleton, refused, sound.executed]
    exact (append_nil _).symm
  whole := sound.whole
  written := sound.written
  room := sound.room

/-- A frame that is no command is dropped, and the client stays ready. -/
theorem Slot.Ready.consume (ready : slot.Ready)
    (isFrame : verdict slot.client.input = .frame length)
    (refused : accepts (slot.client.input.take length) = false) : (slot.consume length).Ready where
  isOpen := ready.isOpen
  history := ready.history.consume ready.inStep isFrame refused
  inStep := @InStep.take _ format _ _ _ _ ready.inStep isFrame
  fits := by
    have fits := ready.fits
    show (slot.client.input.drop length).length ≤ maxPacket
    rw [length_drop]
    omega
  drained := ready.drained
  stream := ready.stream

/-- Answering a command is the end of parsing: the answer has to be written first. -/
theorem Slot.Ready.answered (ready : slot.Ready) {output : Bytes}
    (isFrame : verdict slot.client.input = .frame length)
    (accepted : accepts (slot.client.input.take length) = true)
    (whole : output.length = replyLength)
    (named : byteAt output 69 = byteAt (slot.client.input.take length) 69) :
    slot.Parsed ((slot.consume length).answered (slot.client.input.take length) output) := by
  have ⟨long, short, inside⟩ := verdict_frame isFrame
  have fits := ready.fits
  have inStep := @InStep.take _ format _ _ _ _ ready.inStep isFrame
  have replies : ((slot.history.answers ++ [(slot.client.input.take length, output)]).map
      Prod.snd).flatten = slot.history.written ++ output := by
    rw [map_append, flatten_append, ready.stream]
    exact congrArg _ (append_nil _)
  refine ⟨ready.isOpen, ⟨⟨⟨_, inStep⟩, ?_, ?_, ?_, ready.history.room⟩, fun _ =>
    ⟨inStep, ?_, ?_, fun _ => ⟨whole, Nat.zero_add _⟩⟩⟩, rfl, .inr ⟨rfl, ?_⟩⟩
  · show (slot.history.answers ++ [_]).map Prod.fst = (slot.history.framed ++ [_]).filter accepts
    rw [filter_append, filter_singleton, accepted, map_append, ready.history.executed]
    rfl
  · exact forall_mem_append.mpr ⟨ready.history.whole, forall_mem_singleton.mpr ⟨whole, named⟩⟩
  · exact ⟨output, replies.symm⟩
  · show (slot.client.input.drop length).length < maxPacket
    rw [length_drop]
    omega
  · show slot.history.written ++ (output.drop 0).take replyLength = _
    rw [drop_zero, take_of_length_le whole.le]
    exact replies.symm
  · show (slot.client.input.drop length).length + 72 ≤ slot.client.input.length
    rw [length_drop]
    omega

theorem Slot.Parsed.after {before between after : Slot} (parsed : between.Parsed after)
    (received : between.history.received = before.history.received)
    (shorter : between.client.input.length ≤ before.client.input.length) : before.Parsed after where
  isOpen := parsed.isOpen
  sound := parsed.sound
  received := parsed.received.trans received
  rest := parsed.rest.imp_right fun ⟨pending, taken⟩ => ⟨pending, taken.trans shorter⟩

variable (manualControl : Bool)

/-- Parsing ends at an answer, or where more bytes have to come. -/
theorem parse_spec (rounds : Nat) (world : World) (ready : slot.Ready)
    (enough : slot.client.input.length ≤ rounds) :
    slot.Parsed (parse devices manualControl rounds world slot).2 := by
  induction rounds generalizing world slot with
  | zero =>
    have empty := eq_nil_of_length_eq_zero (Nat.le_zero.mp enough)
    exact ready.idle (by rw [empty]; rfl)
  | succ rounds hypothesis =>
    unfold parse
    cases isVerdict : verdict slot.client.input with
    | wait => exact ready.idle isVerdict
    | skip =>
      have shorter : slot.drop.client.input.length ≤ rounds := by
        show slot.client.input.tail.length ≤ rounds
        rw [length_tail]
        omega
      refine (hypothesis world (ready.drop isVerdict) shorter).after rfl ?_
      exact (length_tail ..).le.trans (Nat.sub_le _ _)
    | frame length =>
      have ⟨long, _, _⟩ := verdict_frame isVerdict
      dsimp only
      cases isReply : reply devices manualControl world (slot.client.input.take length) with
      | some result =>
        have ⟨accepted, whole, named⟩ := reply_eq_some isReply
        exact ready.answered isVerdict accepted whole named
      | none =>
        have shorter : (slot.consume length).client.input.length ≤ rounds := by
          show (slot.client.input.drop length).length ≤ rounds
          rw [length_drop]
          omega
        refine (hypothesis world (ready.consume isVerdict (reply_eq_none isReply))
          shorter).after rfl ?_
        exact (length_drop ..).le.trans (Nat.sub_le _ _)

/-! ### A turn -/

/-- No call of a turn says that the connection is lost. -/
structure Io.Keeps (io : Io) : Prop where
  sent : io.sent ≠ .failed ∧ io.sent ≠ .took 0
  received : io.received ≠ .failed ∧ io.received ≠ .ended

/-- A turn in which nothing arrives. -/
def Io.Calm (io : Io) : Prop := io.Keeps ∧ io.received = .again

/-- The client takes something. -/
def Io.takes (io : Io) : Bool :=
  match io.sent with
  | .took _ => true
  | _ => false

theorem parse_waits (rounds : Nat) (world : World)
    (waits : verdict slot.client.input = .wait) :
    parse devices manualControl rounds world slot = (world, slot) := by
  cases rounds with
  | zero => rfl
  | succ rounds => rw [parse, waits]

/-- A client at rest stays so when nothing comes. -/
theorem turn_idle {io : Io} (calm : io.Calm) (world : World)
    (idle : slot.client.Idle) :
    (turn devices manualControl io world slot).2.client = slot.client := by
  unfold turn receive
  split
  · rfl
  · rw [if_pos idle.1, calm.2]
    have waits (rounds : Nat) (history : History) :
        parse devices manualControl rounds world ⟨slot.client, history⟩ =
          (world, ⟨slot.client, history⟩) :=
      parse_waits _ _ _ idle.2
    exact congrArg (fun result : World × Slot => result.2.client) (waits _ _)

/-- What is left to do for a client, as a number that goes down. -/
def Client.load (client : Client) : Nat := client.pending + 2 * client.input.length

theorem Slot.Sound.close (sound : slot.Sound) : slot.close.Sound :=
  ⟨sound.history, nofun⟩

/-- Parsing that does not leave a client at rest takes a command off its load. -/
theorem Slot.Parsed.lighter {before after : Slot} (parsed : before.Parsed after) :
    after.client.Idle ∨ after.client.load + 71 ≤ before.client.load := by
  refine parsed.rest.imp_right fun ⟨pending, taken⟩ => ?_
  have isLength : replyLength = 73 := rfl
  unfold Client.load
  omega

/-- The second half of a turn. -/
structure Slot.Received (before after : Slot) (received : Received) : Prop where
  sound : after.Sound
  stays : received ≠ .failed → received ≠ .ended → after.client.isOpen = true
  calm : received = .again → before.Parsed after

theorem Slot.Ready.called (ready : slot.Ready) (room : slot.client.input.length < maxPacket) :
    Slot.Ready { slot with history := { slot.history with
      spaces := slot.history.spaces ++ [maxPacket - slot.client.input.length] } } where
  isOpen := ready.isOpen
  history :=
    { framed := ready.history.framed
      executed := ready.history.executed
      whole := ready.history.whole
      written := ready.history.written
      room := fun space member => by
        rcases mem_append.mp member with old | new
        · exact ready.history.room space old
        · obtain rfl := mem_singleton.mp new
          exact Nat.sub_pos_of_lt room }
  inStep := ready.inStep
  fits := ready.fits
  drained := ready.drained
  stream := ready.stream

theorem Slot.Ready.took (ready : slot.Ready) {data : Bytes}
    (fits : slot.client.input.length + data.length ≤ maxPacket) : (slot.took data).Ready where
  isOpen := ready.isOpen
  history :=
    { framed := ⟨_, ready.inStep.receive data⟩
      executed := ready.history.executed
      whole := ready.history.whole
      written := ready.history.written
      room := ready.history.room }
  inStep := ready.inStep.receive data
  fits := by
    show (slot.client.input ++ data).length ≤ maxPacket
    rwa [length_append]
  drained := ready.drained
  stream := ready.stream

/-- What a client sends is parsed behind what was there. -/
theorem receive_spec (received : Received) (world : World)
    (ready : slot.Ready) (room : slot.client.input.length < maxPacket) :
    slot.Received (receive devices manualControl received world slot).2 received := by
  have called := ready.called room
  unfold receive
  cases received with
  | ended =>
    exact ⟨⟨called.history, nofun⟩, fun _ notEnded => absurd rfl notEnded, nofun⟩
  | failed =>
    exact ⟨⟨called.history, nofun⟩, fun notFailed => absurd rfl notFailed, nofun⟩
  | again =>
    have parsed := @parse_spec _ devices _ manualControl _ world called le_rfl
    exact ⟨parsed.sound, fun _ _ => parsed.isOpen, fun _ => parsed.after rfl le_rfl⟩
  | bytes first rest =>
    have some : ((first :: rest).take (maxPacket - slot.client.input.length)).length ≠ 0 := by
      rw [length_take, length_cons]
      omega
    have fits : slot.client.input.length +
        ((first :: rest).take (maxPacket - slot.client.input.length)).length ≤ maxPacket := by
      rw [length_take]
      omega
    dsimp only
    rw [if_neg some]
    have parsed := @parse_spec _ devices _ manualControl _ world (called.took fits) le_rfl
    exact ⟨parsed.sound, fun _ _ => parsed.isOpen, nofun⟩

/-- A turn keeps what holds of a client, and leaves it open unless a call says that it is lost. -/
structure Slot.Turned (before after : Slot) (io : Io) : Prop where
  sound : after.Sound
  stays : before.client.isOpen = true → io.Keeps → after.client.isOpen = true
  received : before.client.isOpen = true → io.Calm →
    after.history.received = before.history.received
  lighter : before.client.isOpen = true → io.Calm →
    after.client.Idle ∨ after.client.load + (if io.takes then 1 else 0) ≤ before.client.load

theorem Slot.Live.ready (live : slot.Live) (isOpen : slot.client.isOpen = true)
    (history : slot.history.Sound) (drained : slot.client.pending = 0) : slot.Ready where
  isOpen := isOpen
  history := history
  inStep := live.inStep
  fits := live.room.le
  drained := drained
  stream := by
    have stream := live.stream
    rwa [Client.unsent, drained, take_zero, append_nil] at stream

/-- Writing part of an answer leaves the rest pending. -/
theorem Slot.Sound.wrote (sound : slot.Sound) (isOpen : slot.client.isOpen = true)
    (pending : slot.client.pending ≠ 0) {count : Nat} (inside : count ≤ slot.client.pending) :
    (slot.wrote count).Sound := by
  have live := sound.live isOpen
  have ⟨whole, total⟩ := live.whole pending
  have split : (slot.client.output.drop slot.client.sent).take count ++
      (slot.wrote count).client.unsent = slot.client.unsent := by
    show _ ++ (slot.client.output.drop (slot.client.sent + count)).take
      (slot.client.pending - count) = (slot.client.output.drop slot.client.sent).take _
    rw [← drop_drop]
    conv_rhs => rw [← Nat.add_sub_cancel' inside, take_add]
  have stream : (slot.wrote count).history.written ++ (slot.wrote count).client.unsent =
      (slot.history.answers.map Prod.snd).flatten := by
    rw [← live.stream, ← split, ← append_assoc]
    rfl
  refine ⟨⟨sound.history.framed, sound.history.executed, sound.history.whole, ⟨_, stream⟩,
    sound.history.room⟩, fun _ => ⟨live.inStep, live.room, stream, fun more => ⟨whole, ?_⟩⟩⟩
  show slot.client.sent + count + (slot.client.pending - count) = replyLength
  omega

/-- A turn keeps a client sound, whatever is written and received in it. -/
theorem turn_spec (io : Io) (world : World) (sound : slot.Sound) :
    slot.Turned (turn devices manualControl io world slot).2 io := by
  unfold turn
  split
  · next closed =>
    have shut (isOpen : slot.client.isOpen = true) : False :=
      Bool.false_ne_true (closed.symm.trans isOpen)
    exact ⟨sound, fun isOpen => (shut isOpen).elim, fun isOpen => (shut isOpen).elim,
      fun isOpen => (shut isOpen).elim⟩
  next notClosed =>
  have isOpen : slot.client.isOpen = true := Bool.not_eq_false _ ▸ notClosed
  have live := sound.live isOpen
  split
  · next drained =>
    have result := @receive_spec _ devices _ manualControl io.received world
      (live.ready isOpen sound.history drained) live.room
    refine ⟨result.sound, fun _ keeps => result.stays keeps.received.1 keeps.received.2,
      fun _ calm => (result.calm calm.2).received, fun _ calm => ?_⟩
    refine (result.calm calm.2).lighter.imp_right fun lighter => ?_
    split <;> omega
  next pending =>
  cases isSent : io.sent with
  | again =>
    refine ⟨sound, fun _ _ => isOpen, fun _ _ => rfl, fun _ _ => .inr ?_⟩
    rw [Io.takes, isSent]
    exact le_rfl
  | failed =>
    exact ⟨sound.close, fun _ keeps => absurd isSent keeps.sent.1,
      fun _ calm => absurd isSent calm.1.sent.1, fun _ calm => absurd isSent calm.1.sent.1⟩
  | took count =>
    have takes : io.takes = true := by rw [Io.takes, isSent]
    dsimp only
    split
    · next none =>
      have lost (keeps : io.Keeps) : False := keeps.sent.2 (by rw [isSent]; congr 1; omega)
      exact ⟨sound.close, fun _ keeps => (lost keeps).elim, fun _ calm => (lost calm.1).elim,
        fun _ calm => (lost calm.1).elim⟩
    next some =>
    have after := sound.wrote isOpen pending (Nat.min_le_right count slot.client.pending)
    have lowered : (slot.wrote (min count slot.client.pending)).client.load + 1 ≤
        slot.client.load := by
      show slot.client.pending - min count slot.client.pending +
        2 * slot.client.input.length + 1 ≤ _
      unfold Client.load
      omega
    split
    · next drained =>
      have open' : (slot.wrote (min count slot.client.pending)).client.isOpen = true := isOpen
      have result := @receive_spec _ devices _ manualControl io.received world
        ((after.live open').ready open' after.history drained) live.room
      refine ⟨result.sound, fun _ keeps => result.stays keeps.received.1 keeps.received.2,
        fun _ calm => (result.calm calm.2).received, fun _ calm => ?_⟩
      rw [takes]
      refine (result.calm calm.2).lighter.imp_right fun lighter => ?_
      rw [if_pos rfl]
      omega
    · refine ⟨after, fun _ _ => isOpen, fun _ _ => rfl, fun _ _ => .inr ?_⟩
      rw [takes]
      exact lowered

/-! ### A server -/

variable (server : Server World)

theorem serveDatagrams_slots (datagrams : List Bytes) :
    (serveDatagrams devices server datagrams).slots = server.slots ∧
      (serveDatagrams devices server datagrams).manualControl = server.manualControl := by
  unfold serveDatagrams
  split
  next isOpen =>
    clear isOpen
    induction datagrams.take maxDatagrams generalizing server with
    | nil => exact ⟨rfl, rfl⟩
    | cons datagram rest hypothesis =>
      have kept : (serveDatagram devices server datagram).slots = server.slots ∧
          (serveDatagram devices server datagram).manualControl = server.manualControl := by
        unfold serveDatagram
        split <;> exact ⟨rfl, rfl⟩
      have later := hypothesis (serveDatagram devices server datagram)
      exact ⟨later.1.trans kept.1, later.2.trans kept.2⟩
  · exact ⟨rfl, rfl⟩

variable (io : Fin clients → Io)

/-- Serving clients touches no other one. -/
theorem serveClients_other (order : List (Fin clients))
    (server : Server World) {index : Fin clients} (absent : index ∉ order) :
    (order.foldl (serveClient devices io) server).slots index = server.slots index := by
  induction order generalizing server with
  | nil => rfl
  | cons first rest hypothesis =>
    have ⟨other, later⟩ := not_or.mp (mt mem_cons.mpr absent)
    rw [foldl_cons, hypothesis _ later]
    exact update_of_ne other _ _

/-- A client that is served has one turn, in whatever world it finds. -/
theorem serveClients_slot {order : List (Fin clients)}
    (distinct : order.Nodup) (server : Server World) {index : Fin clients}
    (member : index ∈ order) :
    ∃ world, (order.foldl (serveClient devices io) server).slots index =
      (turn devices server.manualControl (io index) world (server.slots index)).2 := by
  induction order generalizing server with
  | nil => cases member
  | cons first rest hypothesis =>
    have ⟨absent, distinctRest⟩ := nodup_cons.mp distinct
    rw [foldl_cons]
    rcases mem_cons.mp member with rfl | later
    · refine ⟨server.world, ?_⟩
      rw [serveClients_other io rest _ absent]
      exact update_self _ _ _
    · obtain ⟨world, isTurn⟩ := hypothesis distinctRest (serveClient devices io server first) later
      refine ⟨world, isTurn.trans ?_⟩
      have other : index ≠ first := fun same => absent (same ▸ later)
      have kept : (serveClient devices io server first).slots index = server.slots index :=
        update_of_ne other _ _
      rw [kept]
      rfl

/-- A connection that has just been accepted. -/
def Slot.fresh : Slot := { client := { Client.closed with isOpen := true }, history := .fresh }

/-- A connection takes a slot that is free. -/
theorem accept_slot (connection : Bool) (index : Fin clients) :
    (accept server connection).slots index = server.slots index ∨
      (server.slots index).client.isOpen = false ∧
        (accept server connection).slots index = .fresh := by
  unfold accept
  split
  · cases found : (finRange clients).find? fun i => !(server.slots i).client.isOpen with
    | none => exact .inl rfl
    | some free =>
      by_cases same : index = free
      · have isFree := find?_some found
        rw [same]
        exact .inr ⟨Bool.not_eq_true' _ ▸ isFree, update_self _ _ _⟩
      · exact .inl (update_of_ne same _ _)
  · exact .inl rfl

theorem accept_manualControl (connection : Bool) :
    (accept server connection).manualControl = server.manualControl := by
  unfold accept
  split
  · split <;> rfl
  · rfl

/-- In an update a client has one turn, in the slot it had or in a fresh one. -/
theorem update_slot (input : Update) (index : Fin clients) :
    ∃ slot world, (slot = server.slots index ∨
        (server.slots index).client.isOpen = false ∧ slot = .fresh) ∧
      (update devices server input).slots index =
        (turn devices input.manualControl (input.io index) world slot).2 := by
  have accepted := accept_slot { server with manualControl := input.manualControl }
    input.connection index
  have manual := accept_manualControl { server with manualControl := input.manualControl }
    input.connection
  have served := @serveDatagrams_slots _ devices
    (accept { server with manualControl := input.manualControl } input.connection) input.datagrams
  obtain ⟨world, isTurn⟩ := @serveClients_slot _ devices input.io _ (nodup_finRange clients)
    (serveDatagrams devices
      (accept { server with manualControl := input.manualControl } input.connection)
      input.datagrams) index (mem_finRange index)
  rw [served.1, served.2, manual] at isTurn
  exact ⟨_, world, accepted, isTurn⟩

theorem Slot.fresh_sound : Slot.fresh.Sound where
  history :=
    { framed := ⟨[], .start⟩
      executed := rfl
      whole := nofun
      written := nil_prefix
      room := nofun }
  live := fun _ =>
    { inStep := .start
      room := by decide
      stream := rfl
      whole := fun pending => absurd rfl pending }

/-- An update keeps every client sound. -/
theorem update_sound (input : Update) (index : Fin clients) (sound : (server.slots index).Sound) :
    ((update devices server input).slots index).Sound := by
  obtain ⟨slot, world, taken, isTurn⟩ := @update_slot _ devices server input index
  rw [isTurn]
  refine (turn_spec _ _ _ ?_).sound
  rcases taken with rfl | ⟨-, rfl⟩
  · exact sound
  · exact Slot.fresh_sound

/-- A client is sound after every run. -/
theorem run_sound (inputs : List Update) (index : Fin clients)
    (sound : (server.slots index).Sound) : ((run devices server inputs).slots index).Sound := by
  induction inputs generalizing server with
  | nil => exact sound
  | cons input rest hypothesis =>
    exact hypothesis _ (update_sound server input index sound)

theorem update_turned (input : Update) (index : Fin clients)
    (sound : (server.slots index).Sound) (isOpen : (server.slots index).client.isOpen = true) :
    (server.slots index).Turned ((update devices server input).slots index) (input.io index) := by
  obtain ⟨slot, world, taken, isTurn⟩ := @update_slot _ devices server input index
  rw [isTurn]
  rcases taken with rfl | ⟨closed, -⟩
  · exact turn_spec _ _ _ sound
  · exact absurd (closed.symm.trans isOpen) Bool.false_ne_true

/-! ### Runs -/

theorem Slot.Live.load_lt (live : slot.Live) : slot.client.load < 584 := by
  have room := live.room
  have isLimit : maxPacket = 256 := rfl
  have isLength : replyLength = 73 := rfl
  have small : slot.client.pending ≤ 73 := by
    by_cases drained : slot.client.pending = 0
    · omega
    · have total := (live.whole drained).2
      omega
  unfold Client.load
  omega

/-- What a run in which nothing arrives has done for a client. -/
structure Slot.Advanced (before after : Slot) (takes : Nat) : Prop where
  sound : after.Sound
  isOpen : after.client.isOpen = true
  received : after.history.received = before.history.received
  rest : after.client.Idle ∨ after.client.load + takes ≤ before.client.load

/-- While nothing new is sent, each update that takes bytes brings a client on. -/
theorem run_advanced (inputs : List Update) (index : Fin clients)
    (sound : (server.slots index).Sound) (isOpen : (server.slots index).client.isOpen = true)
    (calm : ∀ input ∈ inputs, (input.io index).Calm) :
    (server.slots index).Advanced ((run devices server inputs).slots index)
      (inputs.countP fun input => (input.io index).takes) := by
  induction inputs using reverseRecOn with
  | nil => exact ⟨sound, isOpen, rfl, .inr le_rfl⟩
  | append_singleton inputs input hypothesis =>
    have before := hypothesis fun earlier member =>
      calm earlier (mem_append_left _ member)
    have calmInput := calm input (mem_append_right _ mem_cons_self)
    have turned := @update_turned _ devices (run devices server inputs) input index before.sound
      before.isOpen
    have isRun : run devices server (inputs ++ [input]) =
        update devices (run devices server inputs) input := by
      unfold run
      rw [foldl_append, foldl_cons, foldl_nil]
    rw [isRun, countP_append, countP_singleton]
    refine ⟨turned.sound, turned.stays before.isOpen calmInput.1,
      (turned.received before.isOpen calmInput).trans before.received, ?_⟩
    rcases before.rest with idle | lighter
    · obtain ⟨slot, world, taken, isTurn⟩ := @update_slot _ devices
        (run devices server inputs) input index
      rcases taken with rfl | ⟨closed, -⟩
      · rw [isTurn]
        have kept := @turn_idle _ devices _ input.manualControl _ calmInput world idle
        rw [Client.Idle, kept]
        exact .inl idle
      · exact absurd (closed.symm.trans before.isOpen) Bool.false_ne_true
    · refine (turned.lighter before.isOpen calmInput).imp_right fun lighter' => ?_
      omega

/-! ### What the commands do -/

/-- What a command asks for. -/
inductive Order where
  | nothing
  | neutral
  | angles (attitude : Option Attitude)
  | down
  | record (on : Bool)
  | unsupported

/-- The order of a command, by the byte that names it. -/
def Order.of (command : Bytes) : Order :=
  let name := byteAt command 69
  if name = 0x00 then .nothing
  else if name = 0x03 then .neutral
  else if name = 0x10 then
    .angles (if byteAt command 11 &&& 4 = 0 then none
      else some ⟨getU16le command 5, getU16le command 7, getU16le command 9⟩)
  else if name = 0x13 then .down
  else if name = 0x21 ∧ command.length = 73 ∧ byteAt command 70 ≤ 1 then
    .record (byteAt command 70 != 0)
  else .unsupported

/-- The gimbal is moved. -/
def Order.moves : Order → Bool
  | .neutral | .angles _ | .down => true
  | _ => false

/-- What an order does to the world, and whether it is done. -/
def Order.execute (devices : Devices World) (manualControl : Bool) (world : World)
    (order : Order) : World × Bool :=
  if manualControl && order.moves then (world, false)
  else
    match order with
    | .nothing | .angles none => (world, true)
    | .neutral => devices.setNeutral world
    | .angles (some attitude) => devices.setAngles world attitude
    | .down =>
      match devices.attitude world with
      | some attitude => devices.lookDown world attitude
      | none => (world, false)
    | .record on => devices.setRecording world on
    | .unsupported => (world, false)

/-- The body of `perform` executes the order that the command names. -/
theorem perform_eq (manualControl : Bool) (world : World) (command : Bytes) :
    perform devices manualControl world command =
      (Order.of command).execute devices manualControl world := by
  unfold perform Order.of
  generalize byteAt command 69 = name
  by_cases isNothing : name = 0x00
  · subst isNothing
    simp [Order.execute, Order.moves]
  by_cases isNeutral : name = 0x03
  · subst isNeutral
    simp [Order.execute, Order.moves]
  by_cases isAngles : name = 0x10
  · subst isAngles
    by_cases unset : byteAt command 11 &&& 4 = 0
    · simp [Order.execute, Order.moves, unset]
    · simp [Order.execute, Order.moves, unset]
  by_cases isDown : name = 0x13
  · subst isDown
    simp only [Order.execute, Order.moves]
    cases devices.attitude world with
    | none => simp
    | some attitude => simp
  by_cases isRecord : name = 0x21
  · subst isRecord
    by_cases proper : command.length = 73 ∧ byteAt command 70 ≤ 1
    · simp [Order.execute, Order.moves, proper]
    · simp [Order.execute, Order.moves, proper]
  · simp [Order.execute, Order.moves, isNothing, isNeutral, isAngles, isDown, isRecord]

/-- Commands are carried out one after another, and each is answered by its name and by whether it
was done. -/
def Executed (devices : Devices World) (manualControl : Bool) :
    World → List (Bytes × Bytes) → World → Prop
  | world, [], final => final = world
  | world, (command, output) :: later, final =>
    let result := (Order.of command).execute devices manualControl world
    output = answer devices result.1 (byteAt command 69) result.2 ∧
      byteAt output 69 = byteAt command 69 ∧
      byteAt output 70 = (if result.2 then 0 else 1) ∧
      Executed devices manualControl result.1 later final

variable {manualControl}

theorem Executed.append {first later : List (Bytes × Bytes)}
    {world between final : World} (left : Executed devices manualControl world first between)
    (right : Executed devices manualControl between later final) :
    Executed devices manualControl world (first ++ later) final := by
  induction first generalizing world with
  | nil =>
    obtain rfl := left
    exact right
  | cons entry rest hypothesis =>
    obtain ⟨output, name, result, executed⟩ := left
    exact ⟨output, name, result, hypothesis executed⟩

/-- A reply is what executing its command once in this world comes to. -/
theorem reply_executed {world next : World} {command output : Bytes}
    (isReply : reply devices manualControl world command = some (next, output)) :
    Executed devices manualControl world [(command, output)] next := by
  unfold reply at isReply
  rw [perform_eq] at isReply
  split at isReply
  · cases isReply
    exact ⟨rfl, order_answer _ _ _, result_answer _ _ _, rfl⟩
  · cases isReply

variable (server : Server World)

/-- The datagrams that are commands are carried out. -/
theorem serveDatagrams_executed (datagrams : List Bytes) :
    ∃ served : List (Bytes × Bytes),
      served.map Prod.fst = (if server.udp then ((datagrams.take maxDatagrams).map
        (take (maxPacket + 1))).filter accepts else []) ∧
      Executed devices server.manualControl server.world served
        (serveDatagrams devices server datagrams).world := by
  unfold serveDatagrams
  split
  next isOpen =>
    clear isOpen
    induction datagrams.take maxDatagrams generalizing server with
    | nil => exact ⟨[], rfl, rfl⟩
    | cons datagram rest hypothesis =>
      obtain ⟨served, commands, executed⟩ := hypothesis (serveDatagram devices server datagram)
      rw [map_cons, filter_cons, foldl_cons]
      unfold serveDatagram at executed ⊢
      cases isReply : reply devices server.manualControl server.world
          (datagram.take (maxPacket + 1)) with
      | some result =>
        rw [isReply] at executed
        rw [if_pos (reply_eq_some isReply).1, ← commands]
        exact ⟨_ :: served, rfl, (reply_executed isReply).append executed⟩
      | none =>
        rw [isReply] at executed
        rw [if_neg (Bool.eq_false_iff.mp (reply_eq_none isReply)), ← commands]
        exact ⟨served, rfl, executed⟩
  · exact ⟨[], rfl, rfl⟩

/-- What a turn does for a client: it takes at most one command, which is carried out and answered,
and what it receives is what arrives. -/
structure Takes (devices : Devices World) (manualControl : Bool) (arrives : Received)
    (world : World) (before : History) (final : World) (after : History)
    (taken : List (Bytes × Bytes)) : Prop where
  few : taken.length ≤ 1
  answers : after.answers = before.answers ++ taken
  executed : Executed devices manualControl world taken final
  received : after.received = before.received ∨
    ∃ first rest count, arrives = .bytes first rest ∧
      after.received = before.received ++ (first :: rest).take count

theorem Takes.nothing {arrives : Received} {world : World} {before after : History}
    (answers : after.answers = before.answers) (received : after.received = before.received) :
    Takes devices manualControl arrives world before world after [] where
  few := Nat.zero_le 1
  answers := answers.trans (append_nil _).symm
  executed := rfl
  received := .inl received

/-- Parsing executes at most one command, the one it logs an answer to. -/
theorem parse_takes (arrives : Received) (rounds : Nat) (world : World) (slot : Slot) :
    ∃ taken, Takes devices manualControl arrives world slot.history
        (parse devices manualControl rounds world slot).1
        (parse devices manualControl rounds world slot).2.history taken ∧
      (parse devices manualControl rounds world slot).2.history.received =
        slot.history.received := by
  induction rounds generalizing slot with
  | zero => exact ⟨[], .nothing rfl rfl, rfl⟩
  | succ rounds hypothesis =>
    unfold parse
    split
    · exact ⟨[], .nothing rfl rfl, rfl⟩
    · exact hypothesis slot.drop
    · next length _ =>
      dsimp only
      cases isReply : reply devices manualControl world (slot.client.input.take length) with
      | some result => exact ⟨_, ⟨le_rfl, rfl, reply_executed isReply, .inl rfl⟩, rfl⟩
      | none =>
        obtain ⟨taken, takes, received⟩ := hypothesis (slot.consume length)
        exact ⟨taken, ⟨takes.few, takes.answers, takes.executed, .inl received⟩, received⟩

theorem receive_takes (arrives : Received) (world : World) (slot : Slot) :
    ∃ taken, Takes devices manualControl arrives world slot.history
      (receive devices manualControl arrives world slot).1
      (receive devices manualControl arrives world slot).2.history taken := by
  unfold receive
  cases arrives with
  | ended => exact ⟨[], .nothing rfl rfl⟩
  | failed => exact ⟨[], .nothing rfl rfl⟩
  | again =>
    obtain ⟨taken, takes, received⟩ := @parse_takes _ devices manualControl .again _ world _
    exact ⟨taken, takes.few, takes.answers, takes.executed, .inl received⟩
  | bytes first rest =>
    dsimp only
    split
    · exact ⟨[], .nothing rfl rfl⟩
    · obtain ⟨taken, takes, received⟩ := parse_takes (.bytes first rest) _ world _
      exact ⟨taken, takes.few, takes.answers, takes.executed, .inr ⟨first, rest, _, rfl, received⟩⟩

/-- A turn executes at most one command, the one it logs an answer to. -/
theorem turn_takes (io : Io) (world : World) (slot : Slot) :
    ∃ taken, Takes devices manualControl io.received world slot.history
      (turn devices manualControl io world slot).1
      (turn devices manualControl io world slot).2.history taken := by
  unfold turn
  split
  · exact ⟨[], .nothing rfl rfl⟩
  split
  · exact receive_takes io.received world slot
  split
  · exact ⟨[], .nothing rfl rfl⟩
  · exact ⟨[], .nothing rfl rfl⟩
  · dsimp only
    split
    · exact ⟨[], .nothing rfl rfl⟩
    split
    · obtain ⟨taken, takes⟩ := @receive_takes _ devices manualControl io.received world
        (slot.wrote (min _ slot.client.pending))
      exact ⟨taken, takes.few, takes.answers, takes.executed, takes.received⟩
    · exact ⟨[], .nothing rfl rfl⟩

/-- The clients take their turns one after another. -/
theorem serveClients_takes {order : List (Fin clients)}
    (distinct : order.Nodup) (server : Server World) :
    ∃ taken : Fin clients → List (Bytes × Bytes),
      Executed devices server.manualControl server.world (order.flatMap taken)
        (order.foldl (serveClient devices io) server).world ∧
      ∀ index ∈ order, ∃ world final, Takes devices server.manualControl (io index).received
        world (server.slots index).history final
        ((order.foldl (serveClient devices io) server).slots index).history (taken index) := by
  induction order generalizing server with
  | nil => exact ⟨fun _ => [], rfl, nofun⟩
  | cons first rest hypothesis =>
    obtain ⟨absent, distinctRest⟩ := nodup_cons.mp distinct
    obtain ⟨now, takes⟩ := @turn_takes _ devices server.manualControl (io first) server.world
      (server.slots first)
    obtain ⟨later, executed, slots⟩ := hypothesis distinctRest (serveClient devices io server first)
    refine ⟨Function.update later first now, ?_, fun index member => ?_⟩
    · have others : rest.flatMap (Function.update later first now) = rest.flatMap later := by
        refine flatMap_congr fun index member => update_of_ne ?_ _ _
        exact fun same => absent (same ▸ member)
      rw [flatMap_cons, others, update_self]
      exact takes.executed.append executed
    · by_cases same : index = first
      · subst same
        rw [foldl_cons, serveClients_other io rest _ absent, update_self]
        refine ⟨server.world,
          (turn devices server.manualControl (io index) server.world (server.slots index)).1, ?_⟩
        rw [show (serveClient devices io server index).slots index =
          (turn devices server.manualControl (io index) server.world (server.slots index)).2 from
            update_self _ _ _]
        exact takes
      · obtain ⟨world, final, takes⟩ := slots index ((mem_cons.mp member).resolve_left same)
        rw [update_of_ne same]
        refine ⟨world, final, ?_⟩
        rwa [show (serveClient devices io server first).slots index = server.slots index from
          update_of_ne same _ _] at takes

/-- What an update does to the world are the orders of the datagrams that are commands and then
those that the clients are answered, each carried out once, and nothing else. -/
def Executes (devices : Devices World) (server : Server World) (input : Update) : Prop :=
  ∃ (served : List (Bytes × Bytes))
    (taken : Fin clients → List (Bytes × Bytes)),
    served.map Prod.fst = (if server.udp then ((input.datagrams.take maxDatagrams).map
      (List.take (maxPacket + 1))).filter accepts else []) ∧
    Executed devices input.manualControl server.world
      (served ++ (List.finRange clients).flatMap taken) (update devices server input).world ∧
    ∀ index, ∃ slot world final, (slot = server.slots index ∨
        (server.slots index).client.isOpen = false ∧ slot = .fresh) ∧
      Takes devices input.manualControl (input.io index).received world slot.history final
        ((update devices server input).slots index).history (taken index)

theorem accept_keeps (connection : Bool) :
    (accept server connection).world = server.world ∧
      (accept server connection).udp = server.udp := by
  unfold accept
  split
  · split <;> exact ⟨rfl, rfl⟩
  · exact ⟨rfl, rfl⟩

/-- An update executes the commands of its datagrams, then those of its clients. -/
theorem update_executes (input : Update) :
    Executes devices server input := by
  have slots := accept_slot { server with manualControl := input.manualControl } input.connection
  have manual := accept_manualControl { server with manualControl := input.manualControl }
    input.connection
  obtain ⟨world, udp⟩ := accept_keeps { server with manualControl := input.manualControl }
    input.connection
  unfold Executes update
  generalize accept { server with manualControl := input.manualControl } input.connection =
    accepted at slots manual world udp
  obtain ⟨served, commands, executed⟩ := @serveDatagrams_executed _ devices accepted input.datagrams
  obtain ⟨sameSlots, sameManual⟩ := @serveDatagrams_slots _ devices accepted input.datagrams
  obtain ⟨taken, later, takes⟩ := @serveClients_takes _ devices input.io _
    (nodup_finRange clients) (serveDatagrams devices accepted input.datagrams)
  rw [sameManual, manual] at later takes
  rw [udp] at commands
  rw [world, manual] at executed
  refine ⟨served, taken, commands, executed.append later, fun index => ?_⟩
  obtain ⟨between, final, takes⟩ := takes index (mem_finRange index)
  rw [sameSlots] at takes
  exact ⟨accepted.slots index, between, final, slots index, takes⟩

structure AnswersOnce (devices : Devices World) (server : Server World) (index : Fin clients) :
    Prop where
  /-- The commands executed are the first ones of any stream of which something has arrived. -/
  executed : ∀ stream, (server.slots index).history.received <+: stream →
    (server.slots index).history.answers.map Prod.fst <+: commands stream
  /-- The next update carries the commands out that it answers, each once, and no others. -/
  executes : ∀ input, Executes devices server input
  /-- Each has a whole reply. -/
  whole : ∀ entry ∈ (server.slots index).history.answers,
    entry.2.length = replyLength ∧ byteAt entry.2 69 = byteAt entry.1 69
  /-- What is sent are the replies in their order. -/
  written : (server.slots index).history.written <+:
    ((server.slots index).history.answers.map Prod.snd).flatten
  /-- What is missing is the rest of one reply. -/
  pending : (server.slots index).client.isOpen = true →
    (server.slots index).history.written ++ (server.slots index).client.unsent =
        ((server.slots index).history.answers.map Prod.snd).flatten ∧
      (server.slots index).client.unsent.length = (server.slots index).client.pending ∧
      (server.slots index).client.pending ≤ replyLength
  /-- Every receive call had room. -/
  room : ∀ space ∈ (server.slots index).history.spaces, 1 ≤ space
  /-- The connection is closed only when a call says that it is lost. -/
  stays : ∀ input, (server.slots index).client.isOpen = true → (input.io index).Keeps →
    ((update devices server input).slots index).client.isOpen = true
  /-- When nothing more arrives and the client takes something often enough, all commands are
  executed and all replies are sent. -/
  complete : ∀ inputs, (server.slots index).client.isOpen = true →
    (∀ input ∈ inputs, (input.io index).Calm) →
    584 ≤ inputs.countP (fun input => (input.io index).takes) →
    ((run devices server inputs).slots index).client.isOpen = true ∧
      ((run devices server inputs).slots index).history.received =
        (server.slots index).history.received ∧
      ((run devices server inputs).slots index).history.answers.map Prod.fst =
        commands (server.slots index).history.received ∧
      ((run devices server inputs).slots index).history.written =
        (((run devices server inputs).slots index).history.answers.map Prod.snd).flatten

/-- What was executed are the first commands of what was received. -/
theorem History.Sound.executed_prefix {history : History} (sound : history.Sound) :
    history.answers.map Prod.fst <+: commands history.received := by
  obtain ⟨buffered, inStep⟩ := sound.framed
  unfold commands
  rw [sound.executed, inStep, filter_append]
  exact prefix_append _ _

/-- At rest, every command received is executed and its answer written. -/
theorem Slot.Live.idle (live : slot.Live) (history : slot.history.Sound) (idle : slot.client.Idle) :
    slot.history.answers.map Prod.fst = commands slot.history.received ∧
      slot.history.written = (slot.history.answers.map Prod.snd).flatten := by
  have whole := live.inStep.done idle.2
  have stream := live.stream
  rw [Client.unsent, idle.1, take_zero, append_nil] at stream
  exact ⟨by rw [history.executed, commands, whole], stream⟩

theorem Slot.Live.length_unsent (live : slot.Live) :
    slot.client.unsent.length = slot.client.pending ∧ slot.client.pending ≤ replyLength := by
  unfold Client.unsent
  rw [length_take, length_drop]
  by_cases drained : slot.client.pending = 0
  · rw [drained]
    exact ⟨Nat.zero_min _, Nat.zero_le _⟩
  · have ⟨whole, total⟩ := live.whole drained
    omega

/-- For every stream of bytes, every split of it into receive calls, every way in which the client
takes the replies, and whatever the other clients and the datagrams do. -/
theorem commands_answered_once (devices : Devices World) (tcp udp : Bool) (world : World)
    (inputs : List Update) (index : Fin clients) :
    AnswersOnce devices (run devices (start tcp udp world) inputs) index := by
  have sound := @run_sound _ devices (start tcp udp world) inputs index
    ⟨Slot.fresh_sound.history, nofun⟩
  generalize run devices (start tcp udp world) inputs = server at sound
  exact
    { executed := fun stream arrived =>
        sound.history.executed_prefix.trans (commands_mono arrived)
      executes := update_executes server
      whole := sound.history.whole
      written := sound.history.written
      pending := fun isOpen =>
        ⟨(sound.live isOpen).stream, (sound.live isOpen).length_unsent⟩
      room := sound.history.room
      stays := fun input isOpen keeps =>
        (update_turned server input index sound isOpen).stays isOpen keeps
      complete := fun later isOpen calm often => by
        have advanced := @run_advanced _ devices server later index sound isOpen calm
        have few := (sound.live isOpen).load_lt
        have idle := advanced.rest.resolve_right (by omega)
        have ⟨all, sent⟩ := (advanced.sound.live advanced.isOpen).idle advanced.sound.history idle
        rw [advanced.received] at all
        exact ⟨advanced.isOpen, advanced.received, all, sent⟩ }

end Xfrobot
