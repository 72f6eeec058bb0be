/-
This file is about the queue of the video publisher: frames are pushed by the encoders' threads and
popped by the publisher's, which sends them over a connection that may fail at any point.

Frames are dropped when there are too many of them, and a connection that fails takes the queue
with it. Whatever the order of the two threads' steps is, no frame is sent that a receiver of the
connection cannot decode.
-/

import CameraGimbal.SupportVideo
import CameraGimbal.Transition
import Mathlib.Algebra.BigOperators.Group.List.Basic

namespace SupportQueue

open List

open SupportVideo (Publisher Connection sendFrame)

/-! ### The model -/

/-- `MAX_QUEUED_BYTES`. -/
def maxQueuedBytes : Nat := 2 * 1024 * 1024

/-- `MAX_QUEUED_FRAMES`. -/
def maxQueuedFrames : Nat := 60

/-- A frame in the queue; which one it is of those that were pushed, is its history. -/
structure Frame extends SupportVideo.Frame where
  key : Bool
  number : Nat

/-- A frame that `send_frame` was called with, and whether all of it was sent. -/
structure Sent where
  frame : Frame
  whole : Bool

/-- Where the publisher's thread is: at the top of its loop, at the lock section that pops a frame,
with that frame on the way to `send_frame`, or on the way back from a failure. -/
inductive Phase where
  | testing
  | waiting
  | opening (frame : Frame)
  | checking (frame : Frame)
  | sending (frame : Frame)
  | failed
  | clearing
  | pausing
  | finished

/-- What `connect_publisher` leaves behind: no connection, one that a request failed on, or one
that is ready for frames. -/
inductive Connecting where
  | unreachable
  | refused
  | recording

/-- The publisher. There is a connection when `fd` is not negative; the frames sent on it, the
connections before it and everything that was pushed are the history. -/
structure State where
  queue : List Frame
  queuedBytes : Nat
  queuedFrames : Nat
  waitKey : Bool
  droppedFrames : UInt32
  stop : Bool
  phase : Phase
  keepalive : Nat
  sender : Publisher
  connection : Option (List Sent)
  closed : List (List Sent)
  pushed : List Frame

/-- `ca_support_video_open`. -/
def State.init (codec : SupportVideo.Codec) (ssrc : UInt32) : State where
  queue := []
  queuedBytes := 0
  queuedFrames := 0
  waitKey := true
  droppedFrames := 0
  stop := false
  phase := .testing
  keepalive := 0
  sender := { codec, sequence := 0, ssrc, packets := [] }
  connection := none
  closed := []
  pushed := []

/-! ### The threads of the encoders -/

variable (state : State)

def State.clearFrames : State :=
  { state with queue := [], queuedBytes := 0, queuedFrames := 0, waitKey := true }

/-- The queue is given up, and its frames are counted. -/
def State.drop : State :=
  { state with
    droppedFrames := state.droppedFrames + UInt32.ofNat state.queuedFrames }.clearFrames

/-- The lock section of `ca_support_video_push`. -/
def State.enqueue (frame : Frame) (allocated : Bool) : State :=
  let length := frame.data.length
  let room :=
    if maxQueuedBytes < length ∨ maxQueuedBytes < state.queuedBytes + length ∨
        state.queuedFrames = maxQueuedFrames then state.drop
    else state
  if maxQueuedBytes < length ∨ (room.waitKey = true ∧ frame.key = false) then room
  else if allocated then
    { room with
      queue := room.queue ++ [frame]
      queuedBytes := room.queuedBytes + length
      queuedFrames := room.queuedFrames + 1
      waitKey := false }
  else room.drop

/-- `ca_support_video_push`. Bytes of which there are none are no frame. -/
def State.push (data : Bytes) (timestamp : UInt32) (key allocated : Bool) : State :=
  if data.length = 0 then state
  else
    let frame := { data, timestamp, key, number := state.pushed.length }
    { state with pushed := state.pushed ++ [frame] }.enqueue frame allocated

/-! ### The thread of the publisher -/

/-- The condition of the loop of `publish`, and what is behind the loop. -/
def State.test : State :=
  match state.phase with
  | .testing =>
    if state.stop then
      { state with
        phase := .finished
        connection := none
        closed := state.closed ++ state.connection.toList }
    else { state with phase := .waiting }
  | _ => state

/-- The lock section that pops a frame, unless it has to wait. -/
def State.pop : State :=
  match state.phase with
  | .waiting =>
    match state.queue with
    | [] => if state.stop then { state with droppedFrames := 0, phase := .testing } else state
    | frame :: rest =>
      { state with
        queue := rest
        queuedBytes := state.queuedBytes - frame.data.length
        queuedFrames := state.queuedFrames - 1
        droppedFrames := 0
        phase := .opening frame }
  | _ => state

/-- A connection is made when there is none, for a key frame. -/
def State.open (connecting : Connecting) (now : Nat) : State :=
  match state.phase with
  | .opening frame =>
    match state.connection with
    | some _ => { state with phase := .checking frame }
    | none =>
      if frame.key then
        match connecting with
        | .unreachable => { state with phase := .failed, keepalive := now + 15000 }
        | .refused =>
          { state with phase := .failed, keepalive := now + 15000, connection := some [] }
        | .recording =>
          { state with phase := .checking frame, keepalive := now + 15000, connection := some [] }
      else { state with phase := .failed, keepalive := now + 15000 }
  | _ => state

/-- The request that keeps the connection alive, when it is time for it. -/
def State.keepAlive (now : Nat) (answered : Bool) (later : Nat) : State :=
  match state.phase with
  | .checking frame =>
    if state.keepalive ≤ now then
      { state with
        phase := if answered then .sending frame else .failed
        keepalive := later + 15000 }
    else { state with phase := .sending frame }
  | _ => state

/-- `send_frame` returns. -/
def State.send (transferred : Connection) : State :=
  match state.phase with
  | .sending frame =>
    let sent := sendFrame transferred state.sender frame.toFrame
    { state with
      sender := sent.1
      connection := state.connection.map (· ++ [{ frame, whole := sent.2 }])
      phase := if sent.2 then .testing else .failed }
  | _ => state

/-- The connection is closed after a failure, if there is one. -/
def State.closeConnection : State :=
  match state.phase with
  | .failed =>
    { state with
      phase := .clearing
      connection := none
      closed := state.closed ++ state.connection.toList }
  | _ => state

/-- The lock section that gives up the queue after a failure. -/
def State.clear : State :=
  match state.phase with
  | .clearing => { state.clearFrames with phase := .pausing }
  | _ => state

/-- The pause after a failure is over. -/
def State.resume : State :=
  match state.phase with
  | .pausing => { state with phase := .testing }
  | _ => state

/-! ### Runs -/

/-- A lock section, or what one of the threads does between two of them. -/
inductive Event where
  | push (data : Bytes) (timestamp : UInt32) (key allocated : Bool)
  | test
  | pop
  | open (connecting : Connecting) (now : Nat)
  | keepAlive (now : Nat) (answered : Bool) (later : Nat)
  | send (transferred : Connection)
  | closeConnection
  | clear
  | resume
  | stop

def State.step : Event → State
  | .push data timestamp key allocated => state.push data timestamp key allocated
  | .test => state.test
  | .pop => state.pop
  | .open connecting now => state.open connecting now
  | .keepAlive now answered later => state.keepAlive now answered later
  | .send transferred => state.send transferred
  | .closeConnection => state.closeConnection
  | .clear => state.clear
  | .resume => state.resume
  | .stop => { state with stop := true }

/-- A run of the two threads, in any order of their steps. -/
def run (codec : SupportVideo.Codec) (ssrc : UInt32) (events : List Event) : State :=
  events.foldl State.step (.init codec ssrc)

/-! ### What is sent -/

/-- The frame that is on its way to the connection. -/
def Phase.held : Phase → Option Frame
  | .opening frame | .checking frame | .sending frame => some frame
  | _ => none

/-- The frame that is being sent. -/
def Phase.current : Phase → Option Frame
  | .sending frame => some frame
  | _ => none

/-- What was sent on each of the connections, with what is being sent. -/
def State.connections : List (List Sent) :=
  state.closed ++
    (state.connection.map fun sent =>
      sent ++ state.phase.current.toList.map fun frame => ⟨frame, false⟩).toList

/-- A key frame, or one that was pushed directly behind the last frame that was sent. -/
def Follows (sent : List Sent) (frame : Frame) : Prop :=
  frame.key = true ∨
    ∃ before ∈ sent.getLast?, before.whole = true ∧ before.frame.number + 1 = frame.number

/-- Every frame that is sent follows those that were sent before it. -/
def Decodable (sent : List Sent) : Prop :=
  ∀ earlier one later, sent = earlier ++ one :: later → Follows earlier one.frame

/-! ### The order of the frames -/

/-- Frames in the order in which they were pushed, all of them before the next one. -/
structure InOrder (pushed : List Frame) (next : Nat) (frames : List Frame) : Prop where
  ordered : frames.Pairwise fun first second => first.number < second.number
  below : ∀ frame ∈ frames, frame.number < next
  known : ∀ frame ∈ frames, pushed[frame.number]? = some frame

theorem InOrder.sublist {pushed frames fewer : List Frame} {next : Nat}
    (inOrder : InOrder pushed next frames) (sub : fewer.Sublist frames) :
    InOrder pushed next fewer :=
  ⟨inOrder.ordered.sublist sub, fun frame member => inOrder.below frame (sub.subset member),
    fun frame member => inOrder.known frame (sub.subset member)⟩

theorem InOrder.push {pushed frames : List Frame} {frame : Frame}
    (inOrder : InOrder pushed frame.number frames) (known : pushed[frame.number]? = some frame) :
    InOrder pushed (frame.number + 1) (frames ++ [frame]) := by
  refine ⟨pairwise_append.mpr ⟨inOrder.ordered, pairwise_singleton _ _, ?_⟩, ?_, ?_⟩
  · intro first member last single
    rw [mem_singleton.mp single]
    exact inOrder.below first member
  · intro other member
    cases mem_append.mp member with
    | inl before => exact (inOrder.below other before).trans (Nat.lt_succ_self _)
    | inr single => exact mem_singleton.mp single ▸ Nat.lt_succ_self _
  · intro other member
    cases mem_append.mp member with
    | inl before => exact inOrder.known other before
    | inr single => exact mem_singleton.mp single ▸ known

/-- The frames of a queue: each is a key frame or was pushed directly behind the one in front of
it, where the first of them stands behind the frame that was popped last. -/
def Linked : Option Frame → List Frame → Prop
  | _, [] => True
  | lead, frame :: rest =>
    (frame.key = true ∨ ∃ before ∈ lead, before.number + 1 = frame.number) ∧
      Linked (some frame) rest

/-- The last frame of a queue, or the one that was popped last. -/
def latest : Option Frame → List Frame → Option Frame
  | lead, [] => lead
  | _, frame :: rest => latest (some frame) rest

theorem Linked.push {lead : Option Frame} {queue : List Frame} (linked : Linked lead queue)
    {frame : Frame}
    (follows : frame.key = true ∨ ∃ before ∈ latest lead queue, before.number + 1 = frame.number) :
    Linked lead (queue ++ [frame]) := by
  induction queue generalizing lead with
  | nil => exact ⟨follows, trivial⟩
  | cons first rest hypothesis => exact ⟨linked.1, hypothesis linked.2 follows⟩

theorem latest_push (lead : Option Frame) (queue : List Frame) (frame : Frame) :
    latest lead (queue ++ [frame]) = some frame := by
  induction queue generalizing lead with
  | nil => rfl
  | cons first rest hypothesis => exact hypothesis _

theorem Decodable.nil : Decodable [] := by
  intro earlier one later split
  exact absurd split.symm (append_ne_nil_of_right_ne_nil _ (cons_ne_nil _ _))

theorem Decodable.push {sent : List Sent} (decodable : Decodable sent) {one : Sent}
    (follows : Follows sent one.frame) : Decodable (sent ++ [one]) := by
  intro earlier last later split
  exact Transition.follows_push (fun earlier (last : Sent) => Follows earlier last.frame) decodable
    follows split

/-! ### The invariant -/

/-- The frames sent on the connection that is open. -/
def State.sent : List Sent := state.connection.getD []

/-- The frames that were sent, the one that is on its way, and those in the queue. -/
def State.line : List Frame :=
  (state.closed.flatten ++ state.sent).map Sent.frame ++ state.phase.held.toList ++ state.queue

/-- The frame that was popped last, as far as the next one may follow it. -/
def State.lead : Option Frame :=
  state.phase.held.or (state.sent.getLast?.map Sent.frame)

/-- The queue is given up before the next frame is popped, if there is one. -/
def Phase.GivesUp : Phase → Prop
  | .failed | .clearing | .finished => True
  | _ => False

/-- The publisher has seen to it that there is a connection. -/
def Phase.Connected : Phase → Prop
  | .checking _ | .sending _ => True
  | _ => False

/-- The counters count what is in the queue, and keep to their limits. -/
structure Counted (state : State) : Prop where
  bytes : state.queuedBytes = (state.queue.map (·.data.length)).sum
  bytesLimit : state.queuedBytes ≤ maxQueuedBytes
  frames : state.queuedFrames = state.queue.length
  framesLimit : state.queuedFrames ≤ maxQueuedFrames

/-- What holds in every state. A frame may be queued behind the last one, without being a key
frame, only if it is the next one that is pushed. -/
structure Sound (next : Nat) (state : State) : Prop where
  counted : Counted state
  inOrder : InOrder state.pushed next state.line
  closed : ∀ sent ∈ state.closed, Decodable sent
  sent : Decodable state.sent
  whole : state.phase ≠ .failed → ∀ one ∈ state.sent, one.whole = true
  held : ∀ frame ∈ state.phase.held, Follows state.sent frame
  connected : state.phase.Connected → state.connection.isSome = true
  linked : ¬ state.phase.GivesUp → Linked state.lead state.queue
  latch : ¬ state.phase.GivesUp → state.waitKey = false →
    ∃ before ∈ latest state.lead state.queue, before.number + 1 = next

open State

theorem Sound.init (codec : SupportVideo.Codec) (ssrc : UInt32) : Sound 0 (init codec ssrc) :=
  ⟨⟨rfl, Nat.zero_le _, rfl, Nat.zero_le _⟩, ⟨.nil, nofun, nofun⟩, nofun, .nil, fun _ => nofun,
    nofun, nofun, fun _ => trivial, fun _ => nofun⟩

variable {state : State} {next : Nat}

/-! ### Pushing -/

theorem Sound.clearFrames (sound : Sound next state) {later : Nat} (soon : next ≤ later) :
    Sound later state.clearFrames := by
  obtain ⟨counted, inOrder, closed, sent, whole, held, connected, linked, latch⟩ := sound
  have fewer := inOrder.sublist (sublist_append_left
    ((state.closed.flatten ++ state.sent).map Sent.frame ++ state.phase.held.toList) state.queue)
  refine ⟨⟨rfl, Nat.zero_le _, rfl, Nat.zero_le _⟩, ?_, closed, sent, whole, held,
    connected, fun _ => trivial, fun _ => nofun⟩
  rw [line, show state.clearFrames.queue = [] from rfl, append_nil]
  exact ⟨fewer.ordered, fun frame member => (fewer.below frame member).trans_le soon, fewer.known⟩

theorem Sound.drop (sound : Sound next state) {later : Nat} (soon : next ≤ later) :
    Sound later state.drop := by
  obtain ⟨⟨bytes, bytesLimit, frames, framesLimit⟩, inOrder, closed, sent, whole, held,
    connected, linked, latch⟩ := sound.clearFrames soon
  exact ⟨⟨bytes, bytesLimit, frames, framesLimit⟩, inOrder, closed, sent, whole, held,
    connected, linked, latch⟩

theorem Sound.skip (sound : Sound next state) (waits : state.waitKey = true) :
    Sound (next + 1) state := by
  obtain ⟨counted, ⟨ordered, below, known⟩, closed, sent, whole, held, connected, linked,
    latch⟩ := sound
  exact ⟨counted, ⟨ordered, fun frame member => (below frame member).trans (Nat.lt_succ_self _),
    known⟩, closed, sent, whole, held, connected, linked,
    fun _ resumed => absurd (waits ▸ resumed) nofun⟩

theorem Sound.append {frame : Frame} (sound : Sound frame.number state)
    (known : state.pushed[frame.number]? = some frame)
    (bytes : state.queuedBytes + frame.data.length ≤ maxQueuedBytes)
    (frames : state.queuedFrames ≠ maxQueuedFrames)
    (follows : frame.key = true ∨ state.waitKey = false) :
    Sound (frame.number + 1)
      { state with
        queue := state.queue ++ [frame]
        queuedBytes := state.queuedBytes + frame.data.length
        queuedFrames := state.queuedFrames + 1
        waitKey := false } := by
  obtain ⟨counted, inOrder, closed, sent, whole, held, connected, linked, latch⟩ := sound
  refine ⟨⟨?_, bytes, ?_, ?_⟩, ?_, closed, sent, whole, held, connected,
    fun going => ?_, fun going _ => ?_⟩
  · rw [map_append, sum_append, ← counted.bytes, map_singleton, sum_singleton]
  · rw [length_append, length_singleton, ← counted.frames]
  · exact Nat.lt_of_le_of_ne counted.framesLimit frames
  · rw [line, ← append_assoc]
    exact inOrder.push known
  · refine (linked going).push ?_
    cases follows with
    | inl key => exact .inl key
    | inr resumed => exact .inr (latch going resumed)
  · exact ⟨frame, latest_push _ _ _, rfl⟩

theorem Sound.enqueue {frame : Frame} (sound : Sound frame.number state)
    (known : state.pushed[frame.number]? = some frame) (allocated : Bool) :
    Sound (frame.number + 1) (state.enqueue frame allocated) := by
  unfold State.enqueue
  dsimp only
  split
  · next full =>
    have empty : Sound frame.number state.drop := sound.drop (le_refl _)
    split
    · exact empty.skip rfl
    next taken =>
    obtain ⟨small, key⟩ := not_or.mp taken
    have key : frame.key = true := Bool.not_eq_false _ ▸ fun delta => key ⟨rfl, delta⟩
    split
    · refine empty.append known ?_ (Nat.zero_ne_add_one _) (.inl key)
      rw [show state.drop.queuedBytes = 0 from rfl, zero_add]
      exact not_lt.mp small
    · exact empty.drop (Nat.le_succ _)
  · next room =>
    obtain ⟨small, bytes, frames⟩ := not_or.mp room |>.imp_right not_or.mp
    split
    · next refused =>
      exact sound.skip (refused.resolve_left small).1
    next taken =>
    split
    · refine sound.append known (not_lt.mp bytes) frames ?_
      cases key : frame.key with
      | true => exact .inl rfl
      | false => exact .inr (Bool.eq_false_iff.mpr fun waits => taken (.inr ⟨waits, key⟩))
    · exact sound.drop (Nat.le_succ _)

theorem enqueue_pushed (state : State) (frame : Frame) (allocated : Bool) :
    (state.enqueue frame allocated).pushed = state.pushed := by
  unfold enqueue
  dsimp only
  split_ifs <;> rfl

theorem Sound.push (sound : Sound state.pushed.length state) (data : Bytes)
    (timestamp : UInt32) (key allocated : Bool) :
    Sound (state.push data timestamp key allocated).pushed.length
      (state.push data timestamp key allocated) := by
  unfold State.push
  split
  · exact sound
  let frame : Frame := { data, timestamp, key, number := state.pushed.length }
  obtain ⟨⟨bytes, bytesLimit, frames, framesLimit⟩, ⟨ordered, below, known⟩, closed, sent, whole,
    held, connected, linked, latch⟩ := sound
  have announced : Sound frame.number { state with pushed := state.pushed ++ [frame] } :=
    ⟨⟨bytes, bytesLimit, frames, framesLimit⟩,
      ⟨ordered, below, fun other member =>
        (getElem?_append_left (below other member)).trans (known other member)⟩,
      closed, sent, whole, held, connected, linked, latch⟩
  have queued := announced.enqueue getElem?_concat_length allocated
  rw [enqueue_pushed, length_append, length_singleton]
  exact queued

/-! ### Popping and sending -/

theorem flatten_closing (closed : List (List Sent)) (connection : Option (List Sent)) :
    (closed ++ connection.toList).flatten = closed.flatten ++ connection.getD [] := by
  cases connection with
  | none => simp only [Option.toList_none, append_nil, Option.getD_none]
  | some sent => simp only [Option.toList_some, flatten_append, flatten_singleton, Option.getD_some]

theorem Sound.move (sound : Sound next state) {phase : Phase} {droppedFrames : UInt32}
    {stop : Bool} {keepalive : Nat} {sender : Publisher} (held : phase.held = state.phase.held)
    (going : ¬ state.phase.GivesUp) (connected : phase.Connected → state.connection.isSome = true) :
    Sound next { state with phase, droppedFrames, stop, keepalive, sender } := by
  obtain ⟨⟨bytes, bytesLimit, frames, framesLimit⟩, inOrder, closed, sent, whole, follows, _,
    linked, latch⟩ := sound
  have notFailed : state.phase ≠ .failed := fun failed => going (failed ▸ trivial)
  refine ⟨⟨bytes, bytesLimit, frames, framesLimit⟩, ?_, closed, sent, fun _ => whole notFailed,
    fun frame some => ?_, connected, fun _ => ?_, fun _ resumed => ?_⟩
  · rw [line, held]
    exact inOrder
  · exact follows frame (held ▸ some)
  · rw [lead, held]
    exact linked going
  · rw [lead, held]
    exact latch going resumed

theorem Sound.fail (sound : Sound next state) {keepalive : Nat} :
    Sound next { state with phase := .failed, keepalive } := by
  obtain ⟨⟨bytes, bytesLimit, frames, framesLimit⟩, inOrder, closed, sent, whole, held, connected,
    linked, latch⟩ := sound
  refine ⟨⟨bytes, bytesLimit, frames, framesLimit⟩, inOrder.sublist ?_, closed, sent,
    fun failed => absurd rfl failed, nofun, nofun, fun going => absurd trivial going,
    fun going => absurd trivial going⟩
  exact .append_right (.append_left (nil_sublist _) _) _

theorem Sound.disconnect (sound : Sound next state) {phase : Phase} (givesUp : phase.GivesUp)
    (idle : phase.held = none) (apart : ¬ phase.Connected) :
    Sound next
      { state with
        phase
        connection := none
        closed := state.closed ++ state.connection.toList } := by
  obtain ⟨⟨bytes, bytesLimit, frames, framesLimit⟩, inOrder, closed, sent, whole, held, connected,
    linked, latch⟩ := sound
  refine ⟨⟨bytes, bytesLimit, frames, framesLimit⟩, inOrder.sublist ?_, fun earlier member => ?_,
    .nil, fun _ => nofun, fun frame some => absurd (idle ▸ some) nofun,
    fun reaches => absurd reaches apart, fun going => absurd givesUp going,
    fun going => absurd givesUp going⟩
  · rw [State.line, State.line, idle, flatten_closing]
    refine .append_right ?_ _
    show ((state.closed.flatten ++ state.sent ++ []).map Sent.frame ++ []).Sublist _
    rw [append_nil, append_nil]
    exact sublist_append_left _ _
  · cases mem_append.mp member with
    | inl before => exact closed earlier before
    | inr last =>
      obtain here := Option.mem_toList.mp last
      rw [State.sent, here] at sent
      exact sent

theorem Sound.test (sound : Sound next state) : Sound next state.test := by
  unfold State.test
  split
  · next phase =>
    split
    · exact sound.disconnect trivial rfl id
    · exact sound.move (phase ▸ rfl) (phase ▸ id) nofun
  · exact sound

/-- The frame that is popped follows what was sent, since all of that was. -/
theorem Sound.pop (sound : Sound next state) : Sound next state.pop := by
  unfold State.pop
  split
  · next phase =>
    split
    · split
      · exact sound.move (phase ▸ rfl) (phase ▸ id) nofun
      · exact sound
    next frame rest queue =>
    obtain ⟨⟨bytes, bytesLimit, frames, framesLimit⟩, inOrder, closed, sent, whole, held,
      connected, linked, latch⟩ := sound
    have going : ¬ state.phase.GivesUp := phase ▸ id
    have lead : state.lead = state.sent.getLast?.map Sent.frame := by
      rw [State.lead, phase]
      rfl
    rw [queue, map_cons, sum_cons] at bytes
    rw [queue, length_cons] at frames
    rw [queue] at linked latch
    obtain ⟨follows, behind⟩ := linked going
    refine ⟨⟨?_, (Nat.sub_le _ _).trans bytesLimit, ?_, (Nat.sub_le _ _).trans framesLimit⟩, ?_,
      closed, sent, fun _ => whole (phase ▸ nofun), ?_, nofun, fun _ => behind,
      fun _ resumed => latch going resumed⟩
    · show state.queuedBytes - frame.data.length = _
      rw [bytes, Nat.add_sub_cancel_left]
    · show state.queuedFrames - 1 = _
      rw [frames, Nat.add_sub_cancel]
    · rw [State.line, phase, queue] at inOrder
      have same : (state.closed.flatten ++ state.sent).map Sent.frame ++ [] ++ frame :: rest =
          (state.closed.flatten ++ state.sent).map Sent.frame ++ [frame] ++ rest := by
        rw [append_nil, append_assoc, singleton_append]
      show InOrder state.pushed next
        ((state.closed.flatten ++ state.sent).map Sent.frame ++ [frame] ++ rest)
      rw [← same]
      exact inOrder
    · intro popped here
      obtain rfl := Option.mem_some.mp here
      refine follows.imp_right fun ⟨before, led, number⟩ => ?_
      rw [lead] at led
      obtain ⟨one, last, rfl⟩ := Option.mem_map.mp led
      exact ⟨one, last, whole (phase ▸ nofun) one (mem_of_getLast? last), number⟩
  · exact sound

theorem Sound.open (sound : Sound next state) (connecting : Connecting) (now : Nat) :
    Sound next (state.open connecting now) := by
  unfold State.open
  split
  · next frame phase =>
    split
    · next sent connection =>
      exact sound.move (phase ▸ rfl) (phase ▸ id) fun _ => connection ▸ rfl
    next connection =>
    -- A connection that nothing was sent on is as good as none.
    have made : Sound next { state with connection := some [] } := by
      have none : state.sent = [] := by rw [State.sent, connection]; rfl
      obtain ⟨⟨bytes, bytesLimit, frames, framesLimit⟩, inOrder, closed, sent, whole, held,
        connected, linked, latch⟩ := sound
      rw [State.line, none] at inOrder
      rw [State.lead, none] at linked latch
      rw [none] at held
      exact ⟨⟨bytes, bytesLimit, frames, framesLimit⟩, inOrder, closed, .nil, fun _ => nofun, held,
        fun _ => rfl, linked, latch⟩
    split
    · split
      · exact sound.fail
      · exact made.fail
      · exact made.move (phase ▸ rfl) (phase ▸ id) fun _ => rfl
    · exact sound.fail
  · exact sound

theorem Sound.keepAlive (sound : Sound next state) (now : Nat) (answered : Bool) (later : Nat) :
    Sound next (state.keepAlive now answered later) := by
  unfold State.keepAlive
  split
  · next frame phase =>
    have connected := sound.connected (phase ▸ trivial)
    split
    · cases answered with
      | true => exact sound.move (phase ▸ rfl) (phase ▸ id) fun _ => connected
      | false => exact sound.fail
    · exact sound.move (phase ▸ rfl) (phase ▸ id) fun _ => connected
  · exact sound

theorem Sound.send (sound : Sound next state) (transferred : Connection) :
    Sound next (state.send transferred) := by
  unfold State.send
  split
  · next frame phase =>
    obtain ⟨connection, here⟩ := Option.isSome_iff_exists.mp (sound.connected (phase ▸ trivial))
    obtain ⟨⟨bytes, bytesLimit, frames, framesLimit⟩, inOrder, closed, sent, whole, held, _,
      linked, latch⟩ := sound
    dsimp only
    generalize sendFrame transferred state.sender frame.toFrame = outcome
    let one : Sent := { frame, whole := outcome.2 }
    have grown : (state.connection.map (· ++ [one])).getD [] = state.sent ++ [one] := by
      rw [State.sent, here]
      rfl
    have decodable : Decodable (state.sent ++ [one]) := sent.push (held frame (phase ▸ rfl))
    have line : state.line =
        (state.closed.flatten ++ (state.sent ++ [one])).map Sent.frame ++ [] ++ state.queue := by
      rw [State.line, phase, append_nil]
      show (state.closed.flatten ++ state.sent).map Sent.frame ++ [one].map Sent.frame ++ _ = _
      rw [← map_append, append_assoc state.closed.flatten]
    have lead : state.lead = (state.sent ++ [one]).getLast?.map Sent.frame := by
      rw [State.lead, phase, getLast?_concat]
      rfl
    have going : ¬ state.phase.GivesUp := phase ▸ id
    rw [line, ← grown] at inOrder
    rw [lead, ← grown] at linked latch
    rw [← grown] at decodable
    cases succeeded : outcome.2 with
    | true =>
      have all : ∀ each ∈ (state.connection.map (· ++ [one])).getD [], each.whole = true := by
        intro each member
        rw [grown] at member
        cases mem_append.mp member with
        | inl before => exact whole (phase ▸ nofun) each before
        | inr last => exact mem_singleton.mp last ▸ succeeded
      rw [if_pos rfl, ← succeeded]
      exact ⟨⟨bytes, bytesLimit, frames, framesLimit⟩, inOrder, closed, decodable, fun _ => all,
        nofun, nofun, fun _ => linked going, fun _ => latch going⟩
    | false =>
      rw [if_neg Bool.false_ne_true, ← succeeded]
      exact ⟨⟨bytes, bytesLimit, frames, framesLimit⟩, inOrder, closed, decodable,
        fun running => absurd rfl running, nofun, nofun, fun running => absurd trivial running,
        fun running => absurd trivial running⟩
  · exact sound

theorem Sound.closeConnection (sound : Sound next state) : Sound next state.closeConnection := by
  unfold State.closeConnection
  split
  · exact sound.disconnect trivial rfl id
  · exact sound

theorem Sound.clear (sound : Sound next state) : Sound next state.clear := by
  unfold State.clear
  split
  · next phase =>
    obtain ⟨⟨bytes, bytesLimit, frames, framesLimit⟩, inOrder, closed, sent, whole, _, _, _, _⟩ :=
      sound.clearFrames le_rfl
    refine ⟨⟨bytes, bytesLimit, frames, framesLimit⟩, ?_, closed, sent,
      fun _ => whole (phase ▸ nofun), nofun, nofun, fun _ => trivial, fun _ => nofun⟩
    rw [State.line, show state.clearFrames.phase = .clearing from phase] at inOrder
    exact inOrder
  · exact sound

theorem Sound.resume (sound : Sound next state) : Sound next state.resume := by
  unfold State.resume
  split
  · next phase => exact sound.move (phase ▸ rfl) (phase ▸ id) nofun
  · exact sound

/-! ### Runs -/

theorem step_pushed (state : State) (event : Event)
    (other : ∀ data timestamp key allocated, event ≠ .push data timestamp key allocated) :
    (state.step event).pushed = state.pushed := by
  cases event with
  | push data timestamp key allocated => exact absurd rfl (other data timestamp key allocated)
  | test => simp only [State.step, State.test]; (repeat' split) <;> rfl
  | pop => simp only [State.step, State.pop]; (repeat' split) <;> rfl
  | «open» connecting now => simp only [State.step, State.open]; (repeat' split) <;> rfl
  | keepAlive now answered later => simp only [State.step, State.keepAlive]; (repeat' split) <;> rfl
  | send transferred => simp only [State.step, State.send]; (repeat' split) <;> rfl
  | closeConnection => simp only [State.step, State.closeConnection]; (repeat' split) <;> rfl
  | clear => simp only [State.step, State.clear]; (repeat' split) <;> rfl
  | resume => simp only [State.step, State.resume]; (repeat' split) <;> rfl
  | stop => rfl

theorem Sound.step (sound : Sound state.pushed.length state) (event : Event) :
    Sound (state.step event).pushed.length (state.step event) := by
  cases event with
  | push data timestamp key allocated => exact sound.push data timestamp key allocated
  | test => exact step_pushed state .test nofun ▸ sound.test
  | pop => exact step_pushed state .pop nofun ▸ sound.pop
  | «open» connecting now =>
    exact step_pushed state (.open connecting now) nofun ▸ sound.open connecting now
  | keepAlive now answered later =>
    exact step_pushed state (.keepAlive now answered later) nofun ▸
      sound.keepAlive now answered later
  | send transferred => exact step_pushed state (.send transferred) nofun ▸ sound.send transferred
  | closeConnection => exact step_pushed state .closeConnection nofun ▸ sound.closeConnection
  | clear => exact step_pushed state .clear nofun ▸ sound.clear
  | resume => exact step_pushed state .resume nofun ▸ sound.resume
  | stop =>
    obtain ⟨⟨bytes, bytesLimit, frames, framesLimit⟩, inOrder, closed, sent, whole, held,
      connected, linked, latch⟩ := sound
    exact ⟨⟨bytes, bytesLimit, frames, framesLimit⟩, inOrder, closed, sent, whole, held, connected,
      linked, latch⟩

theorem run_sound (codec : SupportVideo.Codec) (ssrc : UInt32) (events : List Event) :
    Sound (run codec ssrc events).pushed.length (run codec ssrc events) :=
  @foldlRecOn _ _ (fun state => Sound state.pushed.length state) events step _
    (Sound.init codec ssrc) fun _ sound event _ => sound.step event

theorem Sound.connections (sound : Sound next state) :
    ∀ sent ∈ state.connections, Decodable sent := by
  intro sent member
  cases mem_append.mp member with
  | inl before => exact sound.closed sent before
  | inr last =>
    obtain ⟨open', here, rfl⟩ := Option.map_eq_some_iff.mp (Option.mem_toList.mp last)
    have decodable := sound.sent
    have held := sound.held
    rw [State.sent, here] at decodable held
    cases current : state.phase.current with
    | none =>
      show Decodable (open' ++ [])
      rw [append_nil]
      exact decodable
    | some frame =>
      refine decodable.push (held frame ?_)
      cases phase : state.phase with
      | sending frame => rw [phase] at current; exact current
      | testing | waiting | opening | checking | failed | clearing | pausing | finished =>
        rw [phase] at current
        exact nomatch current

theorem current_sublist_held (phase : Phase) : phase.current.toList.Sublist phase.held.toList := by
  cases phase with
  | sending frame => exact .refl _
  | testing | waiting | opening | checking | failed | clearing | pausing | finished =>
    exact nil_sublist _

theorem connections_sublist (state : State) :
    (state.connections.flatten.map Sent.frame).Sublist state.line := by
  have inFront : ((state.closed.flatten ++ state.sent).map Sent.frame ++
      state.phase.current.toList).Sublist state.line :=
    ((Sublist.refl _).append (current_sublist_held state.phase)).trans (sublist_append_left _ _)
  refine Sublist.trans ?_ inFront
  rw [connections, flatten_closing, sent]
  cases state.connection with
  | none => exact sublist_append_left _ _
  | some sent =>
    have one : (state.phase.current.toList.map fun frame => Sent.mk frame false).map Sent.frame =
        state.phase.current.toList := by
      rw [map_map]
      exact map_id _
    rw [Option.map_some, Option.getD_some, Option.getD_some, ← append_assoc, map_append, one]

/-- In every run of the two threads the queue is counted and bounded; what is sent are frames that
were pushed, in their order; and each connection begins with a key frame and carries a frame that is
none only directly behind the one that was pushed just before it. -/
theorem upstream_decodable (codec : SupportVideo.Codec) (ssrc : UInt32) (events : List Event) :
    ((run codec ssrc events).queuedBytes = ((run codec ssrc events).queue.map (·.data.length)).sum ∧
      (run codec ssrc events).queuedBytes ≤ maxQueuedBytes ∧
      (run codec ssrc events).queuedFrames = (run codec ssrc events).queue.length ∧
      (run codec ssrc events).queuedFrames ≤ maxQueuedFrames) ∧
    (∀ one ∈ (run codec ssrc events).connections.flatten,
      (run codec ssrc events).pushed[one.frame.number]? = some one.frame) ∧
    (run codec ssrc events).connections.flatten.Pairwise
      (fun first second => first.frame.number < second.frame.number) ∧
    ∀ sent ∈ (run codec ssrc events).connections,
      (sent.map fun one => one.frame.number).Nodup ∧
      (∀ first ∈ sent.head?, first.frame.key = true) ∧
      ∀ earlier one later, sent = earlier ++ one :: later → one.frame.key = false →
        ∃ before ∈ earlier.getLast?, before.whole = true ∧
          before.frame.number + 1 = one.frame.number := by
  have sound := run_sound codec ssrc events
  generalize run codec ssrc events = state at sound
  have inOrder := sound.inOrder.sublist (connections_sublist state)
  have ordered := List.pairwise_map.mp inOrder.ordered
  refine ⟨⟨sound.counted.bytes, sound.counted.bytesLimit, sound.counted.frames,
    sound.counted.framesLimit⟩, fun one member => ?_, ordered, fun sent member => ⟨?_, ?_, ?_⟩⟩
  · exact inOrder.known one.frame (List.mem_map_of_mem member)
  · have own := ordered.sublist (List.sublist_flatten_of_mem member)
    exact List.pairwise_map.mpr (own.imp Nat.ne_of_lt)
  · intro first head
    obtain ⟨rest, rfl⟩ := List.head?_eq_some_iff.mp head
    exact (sound.connections _ member [] first rest rfl).resolve_right
      fun ⟨before, last, _⟩ => nomatch last
  · intro earlier one later split delta
    exact (sound.connections sent member earlier one later split).resolve_left
      fun key => absurd (delta ▸ key) nofun

example :
    ((run .h264 7
        [.push [0, 0, 1, 0x65] 90 true true, .push [0, 0, 1, 0x41] 93 false true, .test, .pop,
          .open .recording 0, .keepAlive 1 true 2]).connections.map
      fun sent => sent.map fun one => (one.frame.number, one.whole)) = [[(0, false)]] :=
  rfl

end SupportQueue
