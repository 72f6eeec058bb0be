/-
This file is a library on a bounded output queue in front of a transport that
may stop anywhere.

The queue lives in a buffer of fixed capacity, at an offset that moves as the
transport takes symbols; it is moved back to the front only when the tail has no
room left. A channel is a queue with the history of its connection: what was
accepted into it and what the transport took out. Nothing is lost between the
two.
-/

import Mathlib.Data.List.Basic

namespace OutputQueue

open List Option

/-- A buffer of `capacity` symbols, `length` of them queued from `offset` on. -/
structure Queue (Symbol : Type) (capacity : Nat) where
  buffer : List Symbol
  offset : Nat
  length : Nat
  sized : buffer.length = capacity
  fits : offset + length ≤ capacity

/-- What one write to the transport does. A write that takes nothing counts as failed. -/
inductive Transfer where
  | sent (count : Nat)
  | interrupted
  | blocked
  | failed
  deriving DecidableEq, Repr

/-- What the transport does during one flush: its writes, in order, and whether the poll
for more room could be set up again. Writes beyond the listed ones block. -/
structure Transport where
  transfers : List Transfer
  rearmed : Bool
  deriving DecidableEq, Repr

variable {Symbol : Type} {capacity : Nat}

namespace Queue

/-- The queued symbols. -/
def content (queue : Queue Symbol capacity) : List Symbol :=
  (queue.buffer.drop queue.offset).take queue.length

/-- A queue with nothing in it. -/
def fresh (blank : Symbol) : Queue Symbol capacity where
  buffer := List.replicate capacity blank
  offset := 0
  length := 0
  sized := List.length_replicate
  fits := Nat.zero_le capacity

/-- Forget the queued symbols. -/
def clear (queue : Queue Symbol capacity) : Queue Symbol capacity :=
  { queue with offset := 0, length := 0, fits := Nat.zero_le capacity }

/-- The transport took `count` symbols. -/
def advance (queue : Queue Symbol capacity) (count : Nat) (enough : count ≤ queue.length) :
    Queue Symbol capacity :=
  { queue with
    offset := queue.offset + count
    length := queue.length - count
    fits := by have := queue.fits; omega }

/-- An emptied queue starts at the front again. -/
def rewind (queue : Queue Symbol capacity) : Queue Symbol capacity :=
  if queue.length = 0 then
    { queue with offset := 0, fits := by have := queue.fits; omega }
  else queue

/-- Move the queued symbols to the front of the buffer. -/
def compact (queue : Queue Symbol capacity) : Queue Symbol capacity where
  buffer := queue.content ++ queue.buffer.drop queue.length
  offset := 0
  length := queue.length
  sized := by
    have := queue.sized
    have := queue.fits
    simp only [content, List.length_append, List.length_take, List.length_drop]
    omega
  fits := by have := queue.fits; omega

/-- Copy symbols behind the queued ones. -/
def append (queue : Queue Symbol capacity) (symbols : List Symbol)
    (room : queue.offset + queue.length + symbols.length ≤ capacity) : Queue Symbol capacity where
  buffer := queue.buffer.take (queue.offset + queue.length) ++ symbols ++
    queue.buffer.drop (queue.offset + queue.length + symbols.length)
  offset := queue.offset
  length := queue.length + symbols.length
  sized := by
    have := queue.sized
    simp only [List.length_append, List.length_take, List.length_drop]
    omega
  fits := by omega

/-- Queue a packet whole, or refuse it when the buffer has no room for it. -/
def push (queue : Queue Symbol capacity) (packet : List Symbol) :
    Option (Queue Symbol capacity) :=
  if refused : packet.length > capacity - queue.length then none
  else if overflows : queue.offset ≠ 0 ∧
      queue.offset + queue.length + packet.length > capacity then
    some (queue.compact.append packet (by
      have := queue.fits
      simp only [compact]
      omega))
  else
    some (queue.append packet (by have := queue.fits; omega))

/-! ### The queued symbols under each operation -/

variable (queue : Queue Symbol capacity)

theorem content_of_length_zero (empty : queue.length = 0) : queue.content = [] := by
  rw [content, empty, take_zero]

theorem length_content : queue.content.length = queue.length := by
  have := queue.sized
  have := queue.fits
  simp only [content, length_take, length_drop]
  omega

theorem content_advance (count : Nat) (enough : count ≤ queue.length) :
    (queue.advance count enough).content = queue.content.drop count := by
  simp only [content, advance, drop_take, drop_drop]

@[simp] theorem content_rewind : queue.rewind.content = queue.content := by
  unfold rewind
  split
  · next empty =>
    rw [content_of_length_zero queue empty, content_of_length_zero _ (by exact empty)]
  · rfl

theorem content_compact : queue.compact.content = queue.content := by
  have length := queue.length_content
  change ((queue.content ++ queue.buffer.drop queue.length).drop 0).take queue.length =
    queue.content
  rw [drop_zero, take_append_of_le_length (by omega), take_of_length_le (by omega)]

theorem content_append (symbols : List Symbol)
    (room : queue.offset + queue.length + symbols.length ≤ capacity) :
    (queue.append symbols room).content = queue.content ++ symbols := by
  have sized := queue.sized
  have before : (queue.buffer.take (queue.offset + queue.length)).drop queue.offset =
      queue.content := by
    rw [drop_take, content, Nat.add_sub_cancel_left]
  have queued : (queue.content ++ symbols).length = queue.length + symbols.length := by
    rw [length_append, length_content]
  change ((queue.buffer.take (queue.offset + queue.length) ++ symbols ++
    queue.buffer.drop (queue.offset + queue.length + symbols.length)).drop queue.offset).take
      (queue.length + symbols.length) = queue.content ++ symbols
  rw [append_assoc, drop_append_of_le_length (by simp; omega), before,
    ← append_assoc, take_append_of_le_length (by omega),
    take_of_length_le (by omega)]

/-- A packet is queued whole behind what was there. -/
theorem content_push {queue after : Queue Symbol capacity} {packet : List Symbol}
    (pushed : queue.push packet = some after) : after.content = queue.content ++ packet := by
  unfold push at pushed
  split at pushed
  · cases pushed
  · split at pushed
    · cases pushed
      rw [content_append, content_compact]
    · cases pushed
      rw [content_append]

/-- Only a packet that does not fit beside the queued symbols is refused. -/
theorem push_eq_none (packet : List Symbol) :
    queue.push packet = none ↔ capacity < queue.length + packet.length := by
  have := queue.fits
  unfold push
  split
  · simp only [true_iff]
    omega
  · split <;> simp only [reduceCtorEq, false_iff] <;> omega

end Queue

/-! ### Draining into the transport -/

/-- The outcome of offering a queue to the transport. -/
structure Drained (Symbol : Type) (capacity : Nat) where
  queue : Queue Symbol capacity
  written : List Symbol
  failed : Bool

/-- Offer the queue to the transport until it is empty, the transport blocks, or a write
fails. -/
def drain (queue : Queue Symbol capacity) : List Transfer → Drained Symbol capacity
  | [] => { queue, written := [], failed := false }
  | transfer :: later =>
    if queue.length = 0 then { queue, written := [], failed := false }
    else
      match transfer with
      | .sent 0 => { queue, written := [], failed := true }
      | .sent (count + 1) =>
        let taken := min (count + 1) queue.length
        let rest := drain (queue.advance taken (Nat.min_le_right _ _)) later
        { rest with written := queue.content.take taken ++ rest.written }
      | .interrupted => drain queue later
      | .blocked => { queue, written := [], failed := false }
      | .failed => { queue, written := [], failed := true }

/-- Drain the queue, and set up the poll again unless a write failed. -/
def flush (queue : Queue Symbol capacity) (transport : Transport) : Drained Symbol capacity :=
  let drained := drain queue transport.transfers
  if drained.failed then drained
  else { drained with queue := drained.queue.rewind, failed := !transport.rearmed }

/-- What the transport took and what is still queued make up what was queued. -/
theorem drain_content (queue : Queue Symbol capacity) (transfers : List Transfer) :
    (drain queue transfers).written ++ (drain queue transfers).queue.content = queue.content := by
  induction transfers generalizing queue with
  | nil => rfl
  | cons transfer later hypothesis =>
    unfold drain
    split
    · rfl
    · cases transfer with
      | sent count =>
        cases count with
        | zero => rfl
        | succ count =>
          simp only [append_assoc]
          rw [hypothesis, Queue.content_advance, take_append_drop]
      | interrupted => exact hypothesis queue
      | blocked => rfl
      | failed => rfl

theorem flush_content (queue : Queue Symbol capacity) (transport : Transport) :
    (flush queue transport).written ++ (flush queue transport).queue.content = queue.content := by
  simp only [flush]
  split
  · exact drain_content queue transport.transfers
  · simp only [Queue.content_rewind]
    exact drain_content queue transport.transfers

/-! ### A queue and the history of its connection -/

/-- A queue with the packets its connection accepted and the symbols it wrote. -/
structure Channel (Symbol : Type) (capacity : Nat) where
  queue : Queue Symbol capacity
  accepted : List (List Symbol)
  written : List Symbol

namespace Channel

/-- Nothing is lost, duplicated or reordered: what was written, followed by what is queued, is
what was accepted. -/
def Lossless (channel : Channel Symbol capacity) : Prop :=
  channel.written ++ channel.queue.content = channel.accepted.flatten

/-- The channel of a connection that has just been opened over an old buffer. -/
def restart (channel : Channel Symbol capacity) : Channel Symbol capacity :=
  { queue := channel.queue.clear, accepted := [], written := [] }

/-- Flush the queue; the result says whether that failed. -/
def flush (channel : Channel Symbol capacity) (transport : Transport) :
    Channel Symbol capacity × Bool :=
  let drained := OutputQueue.flush channel.queue transport
  ({ channel with queue := drained.queue, written := channel.written ++ drained.written },
    drained.failed)

/-- Queue a packet, or refuse it. -/
def push (channel : Channel Symbol capacity) (packet : List Symbol) :
    Option (Channel Symbol capacity) :=
  (channel.queue.push packet).map fun queue =>
    { channel with queue, accepted := channel.accepted ++ [packet] }

theorem Lossless.fresh (blank : Symbol) :
    ({ queue := Queue.fresh blank, accepted := [], written := [] } :
      Channel Symbol capacity).Lossless := rfl

theorem Lossless.restart (channel : Channel Symbol capacity) : channel.restart.Lossless := rfl

variable {channel : Channel Symbol capacity}

/-- Flushing loses nothing, wherever the transport stops. -/
theorem Lossless.flush (lossless : channel.Lossless) (transport : Transport) :
    (channel.flush transport).1.Lossless := by
  unfold Lossless at lossless ⊢
  simp only [Channel.flush]
  rw [append_assoc, flush_content, lossless]

/-- Queueing loses nothing. -/
theorem Lossless.push {after : Channel Symbol capacity} (lossless : channel.Lossless)
    {packet : List Symbol} (pushed : channel.push packet = some after) : after.Lossless := by
  obtain ⟨queue, queued, rfl⟩ := map_eq_some_iff.mp pushed
  unfold Lossless at lossless ⊢
  simp only [Queue.content_push queued, flatten_append, flatten_singleton]
  rw [← append_assoc, lossless]

/-- What a lossless channel has written is a prefix of what it has accepted. -/
theorem Lossless.written_prefix (lossless : channel.Lossless) :
    channel.written <+: channel.accepted.flatten :=
  ⟨channel.queue.content, lossless⟩

theorem push_eq_none (channel : Channel Symbol capacity) (packet : List Symbol) :
    channel.push packet = none ↔ capacity < channel.queue.length + packet.length := by
  unfold push
  rw [map_eq_none_iff, Queue.push_eq_none]

end Channel

end OutputQueue
