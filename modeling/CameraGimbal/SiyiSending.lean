/-
This file says what sending can do to the SIYI server: whichever route a reply
takes and whatever the transports do with it, every stream keeps its incoming
half or is closed, and nothing else the receiving side rests on changes.
-/

import CameraGimbal.SiyiServer

namespace SiyiServer

open Siyi OutputQueue PendingTable List

theorem triple_inj {α β γ : Type} {first first' : α} {second second' : β} {third third' : γ}
    (same : (first, second, third) = (first', second', third')) :
    first = first' ∧ second = second' ∧ third = third' := by
  simpa only [Prod.mk.injEq] using same

/-! ### Changing one stream -/

variable (server : Server) (port : Port) (stream : Stream)

@[simp] theorem setStream_self : (server.setStream port stream).streams port = stream :=
  Function.update_self ..

theorem setStream_other {port other : Port} (different : other ≠ port) :
    (server.setStream port stream).streams other = server.streams other :=
  Function.update_of_ne different ..

/-! ### What sending leaves alone -/

/-- Sending leaves the incoming half of a stream alone, or closes the stream. -/
def Stream.Spared (before after : Stream) : Prop :=
  (after.isOpen = before.isOpen ∧ after.inbound = before.inbound) ∨
    (before.isOpen = true ∧ after.isOpen = false ∧
      after.inbound = { before.inbound with input := [] })

theorem Stream.Spared.refl : stream.Spared stream := .inl ⟨rfl, rfl⟩

theorem Stream.Spared.trans {first second third : Stream} (before : first.Spared second)
    (after : second.Spared third) : first.Spared third := by
  rcases before with ⟨sameOpen, sameInbound⟩ | ⟨wasOpen, isClosed, emptied⟩
  · rcases after with ⟨sameOpen', sameInbound'⟩ | ⟨wasOpen', isClosed', emptied'⟩
    · exact .inl ⟨sameOpen'.trans sameOpen, sameInbound'.trans sameInbound⟩
    · exact .inr ⟨sameOpen ▸ wasOpen', isClosed', by rw [emptied', sameInbound]⟩
  · rcases after with ⟨sameOpen', sameInbound'⟩ | ⟨wasOpen', -, -⟩
    · exact .inr ⟨wasOpen, sameOpen'.trans isClosed, sameInbound'.trans emptied⟩
    · rw [isClosed] at wasOpen'
      cases wasOpen'

theorem Stream.Spared.of_open {before after : Stream} (spared : before.Spared after)
    (isOpen : after.isOpen = true) : before.isOpen = true ∧ after.inbound = before.inbound := by
  rcases spared with ⟨sameOpen, sameInbound⟩ | ⟨-, isClosed, -⟩
  · exact ⟨sameOpen ▸ isOpen, sameInbound⟩
  · rw [isClosed] at isOpen
    cases isOpen

theorem Stream.Spared.requests {before after : Stream} (spared : before.Spared after) :
    after.inbound.requests = before.inbound.requests := by
  rcases spared with ⟨-, sameInbound⟩ | ⟨-, -, emptied⟩
  · rw [sameInbound]
  · rw [emptied]

/-- What no reply changes. -/
structure Spared (before after : Server) : Prop where
  streams : ∀ port, (before.streams port).Spared (after.streams port)
  generation : after.generation = before.generation
  accepts : after.history.accepts = before.history.accepts
  active : after.active = before.active
  last : after.last = before.last
  inputFull : after.history.inputFull = before.history.inputFull

theorem Spared.refl : Spared server server :=
  ⟨fun _ => .refl _, rfl, rfl, rfl, rfl, rfl⟩

variable {first second third : Server}

theorem Spared.trans (before : Spared first second)
    (after : Spared second third) : Spared first third where
  streams port := (before.streams port).trans (after.streams port)
  generation := after.generation.trans before.generation
  accepts := after.accepts.trans before.accepts
  active := after.active.trans before.active
  last := after.last.trans before.last
  inputFull := after.inputFull.trans before.inputFull

/-- What sending down a route changes is in the streams and the history of datagrams. -/
structure Sent (before after : Server) : Prop extends Spared before after where
  replyClosed : after.history.replyClosed = before.history.replyClosed
  answered : after.history.answered = before.history.answered
  pending : after.pending = before.pending

theorem Sent.refl : Sent server server :=
  ⟨.refl server, rfl, rfl, rfl⟩

theorem Sent.trans (before : Sent first second)
    (after : Sent second third) : Sent first third :=
  ⟨before.toSpared.trans after.toSpared, after.replyClosed.trans before.replyClosed,
    after.answered.trans before.answered, after.pending.trans before.pending⟩

theorem Sent.setStream {server : Server} {port : Port} {stream : Stream}
    (spared : (server.streams port).Spared stream) :
    Sent server (server.setStream port stream) := by
  refine ⟨⟨fun other => ?_, rfl, rfl, rfl, rfl, rfl⟩, rfl, rfl, rfl⟩
  by_cases same : other = port
  · subst same
    rw [setStream_self]
    exact spared
  · rw [setStream_other server stream same]
    exact .refl _

theorem Sent.setOutbound (outbound : Channel UInt8 outputBuffer) :
    Sent server (server.setOutbound port outbound) :=
  .setStream (.inl ⟨rfl, rfl⟩)

/-! ### Every way of sending -/

theorem closeStream_sent : Sent server (closeStream server port) := by
  unfold closeStream
  split
  · next isOpen => exact .setStream (.inr ⟨isOpen, rfl, rfl⟩)
  · exact .refl server

theorem flushStream_sent (transport : Transport) :
    Sent server (flushStream server port transport).1 :=
  .setOutbound ..

theorem queueClient_sent (slot : Slot) (packet : Bytes) (transport : Transport) :
    Sent server (queueClient server slot packet transport).1 := by
  unfold queueClient
  split
  · exact .refl server
  · exact (Sent.setOutbound ..).trans (flushStream_sent ..)

theorem queueUart_sent (packet : Bytes) (transport : Transport) :
    Sent server (queueUart server packet transport).1 := by
  unfold queueUart
  split
  · exact .refl server
  · next outbound _ =>
    have flushed := (Sent.setOutbound server .uart outbound).trans
      (flushStream_sent _ .uart transport)
    unfold flushUart
    split
    · next equal => rwa [equal] at flushed
    · next equal =>
      rw [equal] at flushed
      exact flushed.trans (closeStream_sent ..)

theorem sendRoute_sent (route : Route) (packet : Bytes) (network : Network) :
    Sent server (sendRoute server route packet network).1 := by
  unfold sendRoute
  split
  · cases route with
    | udp address => exact ⟨⟨fun _ => .refl _, rfl, rfl, rfl, rfl, rfl⟩, rfl, rfl, rfl⟩
    | tcp slot generation => exact queueClient_sent ..
    | uart => exact queueUart_sent ..
  · exact .refl server

theorem deliver_sent (route : Route) (reply : Reply) :
    Sent server (deliver server route reply) := by
  have sent := sendRoute_sent server route reply.packet reply.network
  unfold deliver
  split
  · next equal => rwa [equal] at sent
  · next equal =>
    rw [equal] at sent
    split
    · exact sent.trans (closeStream_sent ..)
    · exact sent

theorem broadcastClient_sent (packet : Bytes) (network : Network) (server : Server)
    (slot : Slot) : Sent server (broadcastClient packet network server slot) := by
  unfold broadcastClient
  split
  · have sent := queueClient_sent server slot packet (network.transport (.client slot))
    split
    · next equal => rwa [equal] at sent
    · next equal =>
      rw [equal] at sent
      exact sent.trans (closeStream_sent ..)
  · exact .refl server

theorem broadcastUnmatched_sent (packet : Bytes) (network : Network) :
    Sent server (broadcastUnmatched server packet network) := by
  have clients : Sent server
      ((finRange tcpClients).foldl (broadcastClient packet network) server) :=
    foldlRecOn _ _ (.refl server) fun _ sent slot _ =>
      sent.trans (broadcastClient_sent packet network _ slot)
  unfold broadcastUnmatched
  simp only
  split
  · next route _ =>
    have peers := clients.trans (sendRoute_sent _ route packet network)
    split
    · exact peers.trans (sendRoute_sent ..)
    · exact peers
  · split
    · exact clients.trans (sendRoute_sent ..)
    · exact clients

theorem takePending_spared (opcode : UInt8) (now : Nat) :
    Spared server (takePending server opcode now).1 ∧
      (takePending server opcode now).1.history.replyClosed = server.history.replyClosed ∧
      (takePending server opcode now).1.streams = server.streams := by
  unfold takePending
  split <;> exact ⟨⟨fun _ => .refl _, rfl, rfl, rfl, rfl, rfl⟩, rfl, rfl⟩

theorem emitMatched_spared (opcode : UInt8) (reply : Reply) :
    Spared server (emitMatched server opcode reply) ∧
      (emitMatched server opcode reply).history.replyClosed = server.history.replyClosed := by
  obtain ⟨taken, same, -⟩ := takePending_spared server opcode reply.now
  have after {sent : Server} (sending : Sent (takePending server opcode reply.now).1 sent) :
      Spared server sent ∧ sent.history.replyClosed = server.history.replyClosed :=
    ⟨taken.trans sending.toSpared, sending.replyClosed.trans same⟩
  unfold emitMatched
  split
  · next equal =>
    rw [equal] at after
    exact after (deliver_sent ..)
  · next equal =>
    rw [equal] at after
    split
    · split
      · exact after (deliver_sent ..)
      · exact after (broadcastUnmatched_sent ..)
    · exact after (broadcastUnmatched_sent ..)

theorem emitActive_spared (route : Route) (reply : Reply) :
    Spared server (emitActive server route reply) ∧
      (emitActive server route reply).history.replyClosed =
        (server.history.replyClosed ||
          closedBetween server (emitActive server route reply) route) := by
  have sent := deliver_sent { server with activeEmitted := true } route reply
  refine ⟨⟨sent.streams, sent.generation, sent.accepts, sent.active, sent.last, sent.inputFull⟩, ?_⟩
  have same := sent.replyClosed
  simp only [emitActive, same]
  rfl

theorem emit_spared (reply : Reply) : Spared server (emit server reply) := by
  unfold emit
  split
  · exact .refl server
  · split
    · exact (emitActive_spared ..).1
    · split
      · split
        · exact (emitMatched_spared ..).1
        · exact (broadcastUnmatched_sent ..).toSpared
      · exact (broadcastUnmatched_sent ..).toSpared

theorem emit_replyClosed_idle {server : Server} (idle : server.active = none) (reply : Reply) :
    (emit server reply).history.replyClosed = server.history.replyClosed := by
  unfold emit
  rw [idle]
  split
  · rfl
  · simp only
    split
    · split
      · exact (emitMatched_spared ..).2
      · exact (broadcastUnmatched_sent ..).replyClosed
    · exact (broadcastUnmatched_sent ..).replyClosed

theorem closedBetween_self (route : Route) : closedBetween server server route = false := by
  unfold closedBetween
  split <;> simp

theorem closedBetween_trans (before : Spared first second)
    (after : Spared second third) (route : Route) :
    closedBetween first third route =
      (closedBetween first second route || closedBetween second third route) := by
  unfold closedBetween
  cases route.port with
  | none => rfl
  | some port =>
    have earlier := before.streams port
    have later := after.streams port
    simp only
    rcases earlier with ⟨same, -⟩ | ⟨wasOpen, isClosed, -⟩
    · rw [same]
      cases (first.streams port).isOpen <;> simp
    · rcases later with ⟨same', -⟩ | ⟨wasOpen', -, -⟩
      · simp [wasOpen, isClosed, same']
      · rw [isClosed] at wasOpen'
        cases wasOpen'

theorem emit_replyClosed_active {server : Server} {route : Route}
    (active : server.active = some route) (reply : Reply) :
    (emit server reply).history.replyClosed =
      (server.history.replyClosed || closedBetween server (emit server reply) route) := by
  unfold emit
  split
  · rw [closedBetween_self, Bool.or_false]
  · rw [active]
    exact (emitActive_spared ..).2

theorem emitAll_spared (replies : List Reply) : Spared server (replies.foldl emit server) :=
  foldlRecOn _ _ (.refl server) fun _ spared reply _ =>
    spared.trans (emit_spared _ reply)

theorem emitAll_replyClosed (route : Route) (active : server.active = some route)
    (replies : List Reply) :
    (replies.foldl emit server).history.replyClosed =
      (server.history.replyClosed || closedBetween server (replies.foldl emit server) route) := by
  induction replies generalizing server with
  | nil => simp [closedBetween_self]
  | cons reply rest hypothesis =>
    have spared := emit_spared server reply
    rw [foldl_cons, hypothesis _ (spared.active.trans active),
      emit_replyClosed_active active, closedBetween_trans spared (emitAll_spared _ rest),
      Bool.or_assoc]

/-- The callback has run: what is left of the request is who it was recorded for. -/
theorem serve_history (route : Route) (packet : Packet) (answer : Answer) :
    (serve server route packet answer).streams =
        (answer.replies.foldl emit (activate server route packet)).streams ∧
      (serve server route packet answer).history =
        (answer.replies.foldl emit (activate server route packet)).history ∧
      (serve server route packet answer).generation =
        (answer.replies.foldl emit (activate server route packet)).generation ∧
      (serve server route packet answer).active = none := by
  simp only [serve]
  split <;> exact ⟨rfl, rfl, rfl, rfl⟩

end SiyiServer
