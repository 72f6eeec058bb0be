/-
This file proves that the output queues of the SIYI server lose nothing.

What an open stream has written, followed by what it has queued, is exactly the
packets it has accepted, each whole and in order. Every way of sending keeps
that, wherever the transport stops, and so does every event.
-/

import CameraGimbal.SiyiInvariant

namespace SiyiServer

open Siyi OutputQueue PendingTable List

/-- An open stream is lossless; a closed one has written a prefix of what it accepted. -/
structure Stream.Queued (stream : Stream) : Prop where
  lossless : stream.isOpen = true → stream.outbound.Lossless
  written : stream.outbound.written <+: stream.outbound.accepted.flatten

theorem Stream.Queued.of_lossless {stream : Stream} (lossless : stream.outbound.Lossless) :
    stream.Queued :=
  ⟨fun _ => lossless, lossless.written_prefix⟩

theorem Stream.Queued.close {stream : Stream} (queued : stream.Queued) : stream.close.Queued :=
  ⟨fun isOpen => absurd isOpen (by simp [Stream.close]), queued.written⟩

/-- Every stream of the server keeps account of its packets. -/
def AllQueued (server : Server) : Prop := ∀ port, (server.streams port).Queued

namespace AllQueued

variable {server : Server} (queued : AllQueued server)

include queued

theorem setStream {port : Port} {stream : Stream} (own : stream.Queued) :
    AllQueued (server.setStream port stream) := by
  intro other
  by_cases same : other = port
  · subst same
    rwa [setStream_self]
  · rw [setStream_other server stream same]
    exact queued other

/-! ### Every way of sending -/

theorem closeStream (port : Port) : AllQueued (closeStream server port) := by
  unfold SiyiServer.closeStream
  split
  · exact queued.setStream (queued port).close
  · exact queued

theorem flushStream {port : Port} (isOpen : (server.streams port).isOpen = true)
    (transport : Transport) : AllQueued (flushStream server port transport).1 :=
  queued.setStream (.of_lossless (((queued port).lossless isOpen).flush transport))

theorem pushed {port : Port} (isOpen : (server.streams port).isOpen = true)
    {packet : Bytes} {outbound : Channel UInt8 outputBuffer}
    (accepted : (server.streams port).outbound.push packet = some outbound)
    (transport : Transport) :
    AllQueued (SiyiServer.flushStream (server.setOutbound port outbound) port transport).1 := by
  have lossless := ((queued port).lossless isOpen).push accepted
  have stillOpen : ((server.setOutbound port outbound).streams port).isOpen = true := by
    simpa only [Server.setOutbound, setStream_self] using isOpen
  exact flushStream (queued.setStream (.of_lossless lossless)) stillOpen transport

theorem queueClient {slot : Slot} (isOpen : (server.streams (.client slot)).isOpen = true)
    (packet : Bytes) (transport : Transport) :
    AllQueued (queueClient server slot packet transport).1 := by
  unfold SiyiServer.queueClient
  split
  · exact queued
  · next accepted => exact queued.pushed isOpen accepted transport

theorem queueUart (isOpen : (server.streams .uart).isOpen = true) (packet : Bytes)
    (transport : Transport) : AllQueued (queueUart server packet transport).1 := by
  unfold SiyiServer.queueUart
  split
  · exact queued
  · next accepted =>
    have sent := queued.pushed isOpen accepted transport
    unfold flushUart
    split
    · next equal => rwa [equal] at sent
    · next equal =>
      rw [equal] at sent
      exact sent.closeStream .uart

theorem sendRoute (route : Route) (packet : Bytes) (network : Network) :
    AllQueued (sendRoute server route packet network).1 := by
  unfold SiyiServer.sendRoute
  split
  · next valid =>
    cases route with
    | udp address => exact queued
    | tcp slot generation => exact queued.queueClient (Bool.and_eq_true_iff.mp valid).1 _ _
    | uart => exact queued.queueUart valid _ _
  · exact queued

theorem deliver (route : Route) (reply : Reply) : AllQueued (deliver server route reply) := by
  have sent := queued.sendRoute route reply.packet reply.network
  unfold SiyiServer.deliver
  split
  · next equal => rwa [equal] at sent
  · next equal =>
    rw [equal] at sent
    split
    · exact sent.closeStream _
    · exact sent

theorem broadcastClient (packet : Bytes) (network : Network) (slot : Slot) :
    AllQueued (broadcastClient packet network server slot) := by
  unfold SiyiServer.broadcastClient
  split
  · next isOpen =>
    have sent := queued.queueClient isOpen packet (network.transport (.client slot))
    split
    · next equal => rwa [equal] at sent
    · next equal =>
      rw [equal] at sent
      exact sent.closeStream _
  · exact queued

theorem broadcastUnmatched (packet : Bytes) (network : Network) :
    AllQueued (broadcastUnmatched server packet network) := by
  have clients : AllQueued
      ((finRange tcpClients).foldl (SiyiServer.broadcastClient packet network) server) :=
    foldlRecOn _ _ queued fun _ sent slot _ => sent.broadcastClient packet network slot
  unfold SiyiServer.broadcastUnmatched
  simp only
  split
  · next route _ =>
    have peers := clients.sendRoute route packet network
    split
    · exact peers.sendRoute _ _ _
    · exact peers
  · split
    · exact clients.sendRoute _ _ _
    · exact clients

theorem emitMatched (opcode : UInt8) (reply : Reply) :
    AllQueued (emitMatched server opcode reply) := by
  have taken : AllQueued (takePending server opcode reply.now).1 := by
    intro port
    rw [(takePending_spared server opcode reply.now).2.2]
    exact queued port
  unfold SiyiServer.emitMatched
  split
  · next equal =>
    rw [equal] at taken
    exact taken.deliver _ _
  · next equal =>
    rw [equal] at taken
    split
    · split
      · exact taken.deliver _ _
      · exact taken.broadcastUnmatched _ _
    · exact taken.broadcastUnmatched _ _

theorem emit (reply : Reply) : AllQueued (emit server reply) := by
  unfold SiyiServer.emit
  split
  · exact queued
  split
  · have started : AllQueued { server with activeEmitted := true } := queued
    exact started.deliver _ reply
  split
  · split
    · exact queued.emitMatched _ _
    · exact queued.broadcastUnmatched _ _
  · exact queued.broadcastUnmatched _ _

theorem serve (route : Route) (packet : Packet) (answer : Answer) :
    AllQueued (serve server route packet answer) := by
  have active : AllQueued (activate server route packet) := by
    unfold activate noteRequest
    split
    · exact queued
    · next port _ => exact queued.setStream ⟨(queued port).lossless, (queued port).written⟩
  have handled : AllQueued (answer.replies.foldl SiyiServer.emit (activate server route packet)) :=
    foldlRecOn _ _ active fun _ sent reply _ => sent.emit reply
  intro port
  rw [(serve_history server route packet answer).1]
  exact handled port

end AllQueued

/-! ### Every event -/

theorem AllQueued.preserved : Preserved AllQueued where
  inbound _ port _ _ queued := queued.setStream ⟨(queued port).lossless, (queued port).written⟩
  inputFull _ queued := queued
  serve _ route packet answer _ queued := queued.serve route packet answer
  emit _ reply queued := queued.emit reply
  flush _ _ transport isOpen queued := queued.flushStream isOpen transport
  close _ port queued := queued.closeStream port
  openClient _ _ _ queued := queued.setStream (.of_lossless (Channel.Lossless.restart _))

theorem AllQueued.start (uart : Bool) : AllQueued (start uart) := by
  intro port
  cases port <;> exact .of_lossless (.fresh 0)

inductive QueueCall where
  | queue (packet : Bytes) (transport : Transport)
  | flush (transport : Transport)

/-- Queue or flush on an open stream, whatever its earlier calls have returned. -/
def queueCall (port : Port) (server : Server) (call : QueueCall) : Server :=
  if (server.streams port).isOpen then
    match call, port with
    | .queue packet transport, .client slot => (queueClient server slot packet transport).1
    | .queue packet transport, .uart => (queueUart server packet transport).1
    | .flush transport, port => (flushStream server port transport).1
  else server

theorem AllQueued.queueCall {server : Server} (queued : AllQueued server) (port : Port)
    (call : QueueCall) : AllQueued (queueCall port server call) := by
  unfold SiyiServer.queueCall
  split
  · next isOpen =>
    split
    · exact queued.queueClient isOpen _ _
    · exact queued.queueUart isOpen _ _
    · exact queued.flushStream isOpen _
  · exact queued

/-- The packet a call adds to what the stream has accepted: that of a queue call on an open
stream with room for it. -/
def acceptedBy (stream : Stream) : QueueCall → List Bytes
  | .queue packet _ =>
    if stream.isOpen = true ∧ packet.length ≤ outputBuffer - stream.outbound.queue.length then
      [packet]
    else []
  | .flush _ => []

theorem push_accepted {channel : Channel UInt8 outputBuffer} {packet : Bytes}
    (room : packet.length ≤ outputBuffer - channel.queue.length) :
    ∃ after, channel.push packet = some after ∧ after.accepted = channel.accepted ++ [packet] := by
  have fits := channel.queue.fits
  cases pushed : channel.push packet with
  | none =>
    have := (Channel.push_eq_none channel packet).mp pushed
    omega
  | some after =>
    refine ⟨after, rfl, ?_⟩
    obtain ⟨queue, -, rfl⟩ := Option.map_eq_some_iff.mp pushed
    rfl

variable (server : Server)

theorem flushStream_accepted (port : Port) (transport : Transport) :
    ((flushStream server port transport).1.streams port).outbound.accepted =
      (server.streams port).outbound.accepted := by
  simp only [flushStream, Server.setOutbound, setStream_self, Channel.flush]

theorem closeStream_accepted (port : Port) :
    ((closeStream server port).streams port).outbound.accepted =
      (server.streams port).outbound.accepted := by
  unfold closeStream
  split
  · rw [setStream_self]
    rfl
  · rfl

theorem queueCall_refused {server : Server} {port : Port} {packet : Bytes}
    (tooLong : outputBuffer - (server.streams port).outbound.queue.length < packet.length)
    (transport : Transport) : queueCall port server (.queue packet transport) = server := by
  have refused : (server.streams port).outbound.push packet = none :=
    (Channel.push_eq_none ..).mpr (by omega)
  unfold queueCall
  split
  · cases port with
    | client slot => simp only [queueClient, refused]
    | uart => simp only [queueUart, refused]
  · rfl

theorem queueCall_accepted (port : Port) (call : QueueCall) :
    ((queueCall port server call).streams port).outbound.accepted =
      (server.streams port).outbound.accepted ++ acceptedBy (server.streams port) call := by
  cases isOpen : (server.streams port).isOpen with
  | false => cases call <;> simp [queueCall, acceptedBy, isOpen]
  | true =>
    cases call with
    | flush transport =>
      simp only [queueCall, isOpen, if_true, acceptedBy, append_nil]
      exact flushStream_accepted ..
    | queue packet transport =>
      by_cases room : packet.length ≤ outputBuffer - (server.streams port).outbound.queue.length
      · obtain ⟨outbound, pushed, accepted⟩ := push_accepted room
        have set : ((server.setOutbound port outbound).streams port).outbound.accepted =
            (server.streams port).outbound.accepted ++ [packet] := by
          simpa only [Server.setOutbound, setStream_self] using accepted
        have flushed := (flushStream_accepted (server.setOutbound port outbound) port
          transport).trans set
        simp only [queueCall, isOpen, if_true, acceptedBy, room, and_self]
        cases port with
        | client slot =>
          simp only [queueClient, pushed]
          exact flushed
        | uart =>
          simp only [queueUart, pushed]
          split
          · next equal =>
            rw [show flushStream _ _ _ = _ from equal] at flushed
            exact flushed
          · next equal =>
            rw [show flushStream _ _ _ = _ from equal] at flushed
            exact (closeStream_accepted ..).trans flushed
      · rw [queueCall_refused (by omega)]
        simp [acceptedBy, room]

/-- In every state a run reaches, and after any further calls on one of its streams, the queue
of that stream stays within its buffer; what it has written is a prefix of the packets it has
accepted, the rest of which is what an open stream has queued; every call accepts the packet it
queues whole and last, if there is room; and a packet without room changes nothing. -/
theorem output_queues_lossless (uart : Bool) (events : List Event) (server : Server)
    (ran : run (start uart) events = .ok server) (port : Port) (calls : List QueueCall) :
    let after := calls.foldl (queueCall port) server
    let stream := after.streams port
    stream.outbound.queue.offset + stream.outbound.queue.length ≤ outputBuffer ∧
      stream.outbound.written <+: stream.outbound.accepted.flatten ∧
      (stream.isOpen = true →
        stream.outbound.written ++ stream.outbound.queue.content =
          stream.outbound.accepted.flatten) ∧
      (∀ call, ((queueCall port after call).streams port).outbound.accepted =
        stream.outbound.accepted ++ acceptedBy stream call) ∧
      ∀ packet transport,
        outputBuffer - stream.outbound.queue.length < packet.length →
          queueCall port after (.queue packet transport) = after := by
  intro after stream
  have reached : AllQueued server := AllQueued.preserved.run (.start uart) ran
  have queued : AllQueued after :=
    List.foldlRecOn _ _ reached fun _ earlier call _ => earlier.queueCall port call
  exact ⟨stream.outbound.queue.fits, (queued port).written, (queued port).lossless,
    queueCall_accepted after port, fun packet transport tooLong =>
      queueCall_refused tooLong transport⟩

/-- A UART whose transport takes three bytes and blocks keeps the rest of the packet queued. -/
theorem output_queues_lossless_blocked :
    ∃ server, run (start true) [] = .ok server ∧
      (let after := [QueueCall.queue [0x55, 0x66, 0x02, 0x00, 0x00, 0x00, 0x00, 0x0a, 0x00, 0x00]
          { transfers := [.interrupted, .sent 3, .blocked], rearmed := true }].foldl
          (queueCall .uart) server
       let stream := after.streams .uart
       stream.outbound.queue.offset + stream.outbound.queue.length ≤ outputBuffer ∧
        stream.outbound.written <+: stream.outbound.accepted.flatten ∧
        (stream.isOpen = true →
          stream.outbound.written ++ stream.outbound.queue.content =
            stream.outbound.accepted.flatten) ∧
        (∀ call, ((queueCall .uart after call).streams .uart).outbound.accepted =
          stream.outbound.accepted ++ acceptedBy stream call) ∧
        ∀ packet transport,
          outputBuffer - stream.outbound.queue.length < packet.length →
            queueCall .uart after (.queue packet transport) = after) :=
  ⟨start true, rfl, output_queues_lossless true [] (start true) rfl .uart _⟩

end SiyiServer
