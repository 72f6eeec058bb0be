/-
This file models the SIYI server: UDP peers, TCP clients and a UART that send
requests, and the routes replies take back to them.

The callback that handles a request, the sockets and the clock are outside the
program. An event carries everything they do while it is handled, so that the
server is a function of its state and the event.
-/

import CameraGimbal.OutputQueue
import CameraGimbal.PendingTable
import CameraGimbal.Siyi
import CameraGimbal.Transition

namespace SiyiServer

open Siyi OutputQueue PendingTable

def tcpClients : Nat := 8

def streamBuffer : Nat := maxPacket * 2

/-- The bytes queued for one outgoing stream. -/
def outputBuffer : Nat := maxPacket * 4

/-- The number of requests that can wait for a reply. -/
def pendingRoutes : Nat := 64

/-- How long a request waits for a reply. -/
def pendingMs : Nat := 2000

/-- The longest datagram that is read whole. -/
def datagramBuffer : Nat := 4096

abbrev Slot := Fin tcpClients

theorem tcpClients_pos : 0 < tcpClients := by decide

/-- The address of a UDP peer. -/
structure Address where
  host : UInt32
  port : UInt16
  deriving DecidableEq, Repr

/-- Where a reply goes. -/
inductive Route where
  | udp (address : Address)
  | tcp (slot : Slot) (generation : UInt32)
  | uart
  deriving DecidableEq, Repr

/-- The two kinds of byte streams: a TCP client's slot, and the UART. -/
inductive Port where
  | client (slot : Slot)
  | uart
  deriving DecidableEq, Repr

/-- The stream a route goes through. -/
def Route.port : Route → Option Port
  | .udp _ => none
  | .tcp slot _ => some (.client slot)
  | .uart => some .uart

/-! ### The world outside -/

/-- What the transports do with one reply. -/
structure Network where
  transport : Port → Transport
  datagramSent : Bool

/-- A reply handed to the server: its bytes, what the transports do with it, and the clock. -/
structure Reply where
  packet : Bytes
  network : Network
  now : Nat

/-- The errors of the request callback the server tells apart. -/
inductive Errno where
  | protocol
  | other
  deriving DecidableEq, Repr

/-- What the request callback does with one request: the replies it emits before it returns,
the error it returns, and the clock afterwards. -/
structure Answer where
  replies : List Reply
  failure : Option Errno
  now : Nat

/-- A callback that does nothing. -/
def Answer.silent : Answer := { replies := [], failure := none, now := 0 }

/-- The result of one read. A read of no bytes is the end of the stream. -/
inductive Receive where
  | bytes (chunk : Bytes)
  | interrupted
  | blocked
  | failed
  deriving DecidableEq, Repr

/-! ### The state -/

/-- The incoming half of a stream: the bytes not consumed yet. What the connection has
received, the packets it has dispatched and the requests it has made are its history. -/
structure Inbound where
  input : Bytes
  received : Bytes
  framed : List Bytes
  requests : List Packet
  deriving DecidableEq

/-- A TCP client or the UART. -/
structure Stream where
  isOpen : Bool
  inbound : Inbound
  outbound : Channel UInt8 outputBuffer

/-- What has happened since the server started. Nothing in the server reads it. -/
structure History where
  accepts : Slot → Nat
  answered : List Nat
  datagrams : List (Address × Bytes)
  replyClosed : Bool
  inputFull : Bool

structure Server where
  udpOpen : Bool
  streams : Port → Stream
  generation : Slot → UInt32
  active : Option Route
  activeEmitted : Bool
  last : UInt8 → Option Route
  lastUdp : Option Route
  pending : Table UInt8 Route pendingRoutes
  history : History

/-- The incoming half of a connection that has just been opened. -/
def Inbound.fresh : Inbound := { input := [], received := [], framed := [], requests := [] }

/-- A stream that has never been open. -/
def Stream.unused : Stream where
  isOpen := false
  inbound := .fresh
  outbound := { queue := .fresh 0, accepted := [], written := [] }

/-- The server after `ca_siyi_server_open`, with or without its UART. -/
def start (uart : Bool) : Server where
  udpOpen := true
  streams := fun
    | .client _ => .unused
    | .uart => { Stream.unused with isOpen := uart }
  generation := fun _ => 0
  active := none
  activeEmitted := false
  last := fun _ => none
  lastUdp := none
  pending := .empty { used := false, key := 0, route := .uart, order := 0, deadline := 0 }
  history :=
    { accepts := fun _ => 0, answered := [], datagrams := [], replyClosed := false,
      inputFull := false }

variable (server : Server)

def Server.setStream (port : Port) (stream : Stream) : Server :=
  { server with streams := Function.update server.streams port stream }

def Server.setInput (port : Port) (input : Bytes) : Server :=
  let stream := server.streams port
  server.setStream port { stream with inbound := { stream.inbound with input } }

def Server.setOutbound (port : Port) (outbound : Channel UInt8 outputBuffer) : Server :=
  server.setStream port { server.streams port with outbound }

/-! ### Closing -/

/-- A stream whose descriptor has been closed: both buffers are forgotten. -/
def Stream.close (stream : Stream) : Stream :=
  { isOpen := false
    inbound := { stream.inbound with input := [] }
    outbound := { stream.outbound with queue := stream.outbound.queue.clear } }

def closeStream (port : Port) : Server :=
  if (server.streams port).isOpen then server.setStream port (server.streams port).close
  else server

def closeClient (slot : Slot) : Server :=
  closeStream server (.client slot)

def disableUart : Server :=
  closeStream server .uart

/-! ### Sending -/

/-- A route still leads to the peer it was made for. -/
def routeValid : Route → Bool
  | .udp _ => server.udpOpen
  | .uart => (server.streams .uart).isOpen
  | .tcp slot generation =>
    (server.streams (.client slot)).isOpen && server.generation slot == generation

/-- Write what a stream has queued; false when that fails. -/
def flushStream (port : Port) (transport : Transport) : Server × Bool :=
  let (outbound, failed) := (server.streams port).outbound.flush transport
  (server.setOutbound port outbound, !failed)

def flushClient (slot : Slot) (transport : Transport) : Server × Bool :=
  flushStream server (.client slot) transport

def flushUart (transport : Transport) : Server × Bool :=
  flushStream server .uart transport

/-- Queue a packet on a client's stream and flush it. A packet there is no room for is refused
with `ENOBUFS` and changes nothing. -/
def queueClient (slot : Slot) (packet : Bytes) (transport : Transport) : Server × Bool :=
  match (server.streams (.client slot)).outbound.push packet with
  | none => (server, false)
  | some outbound => flushClient (server.setOutbound (.client slot) outbound) slot transport

/-- Queue a packet on the UART and flush it. Unlike a client, the UART is disabled here when
the flush fails; a refused packet leaves it open. -/
def queueUart (packet : Bytes) (transport : Transport) : Server × Bool :=
  match (server.streams .uart).outbound.push packet with
  | none => (server, false)
  | some outbound =>
    match flushUart (server.setOutbound .uart outbound) transport with
    | (flushed, true) => (flushed, true)
    | (flushed, false) => (disableUart flushed, false)

/-- Send a packet down a route; false when that fails. -/
def sendRoute (route : Route) (packet : Bytes) (network : Network) : Server × Bool :=
  if routeValid server route then
    match route with
    | .udp address =>
      ({ server with history :=
          { server.history with datagrams := server.history.datagrams ++ [(address, packet)] } },
        network.datagramSent)
    | .uart => queueUart server packet (network.transport .uart)
    | .tcp slot _ => queueClient server slot packet (network.transport (.client slot))
  else (server, false)

/-- One client's part of a broadcast: a client that cannot take the packet is closed. -/
def broadcastClient (packet : Bytes) (network : Network) (server : Server) (slot : Slot) :
    Server :=
  if (server.streams (.client slot)).isOpen then
    match queueClient server slot packet (network.transport (.client slot)) with
    | (sent, true) => sent
    | (sent, false) => closeClient sent slot
  else server

/-- Send a packet nobody asked for to every client, the last UDP peer and the UART. -/
def broadcastUnmatched (packet : Bytes) (network : Network) : Server :=
  let clients := (List.finRange tcpClients).foldl (broadcastClient packet network) server
  let peers :=
    match clients.lastUdp with
    | some route => (sendRoute clients route packet network).1
    | none => clients
  if (peers.streams .uart).isOpen then (sendRoute peers .uart packet network).1 else peers

/-! ### Pending requests -/

def addPending (opcode : UInt8) (route : Route) (now : Nat) : Server :=
  { server with pending := server.pending.add opcode route now pendingMs }

/-- The route of the oldest request of this opcode that can still be answered. -/
def takePending (opcode : UInt8) (now : Nat) : Server × Option Route :=
  match server.pending.take opcode (routeValid server) now with
  | (pending, none) => ({ server with pending }, none)
  | (pending, some entry) =>
    ({ server with
        pending
        history := { server.history with answered := server.history.answered ++ [entry.order] } },
      some entry.route)

/-! ### Replies -/

/-- Send a reply down the route chosen for it; a client it cannot be sent to is closed. -/
def deliver (route : Route) (reply : Reply) : Server :=
  match sendRoute server route reply.packet reply.network with
  | (sent, true) => sent
  | (sent, false) =>
    match route with
    | .tcp slot _ => closeClient sent slot
    | _ => sent

/-- The stream of a route was open before and is closed now. -/
def closedBetween (before after : Server) (route : Route) : Bool :=
  match route.port with
  | some port => (before.streams port).isOpen && !(after.streams port).isOpen
  | none => false

/-- A reply to the request that is being handled. -/
def emitActive (route : Route) (reply : Reply) : Server :=
  let sent := deliver { server with activeEmitted := true } route reply
  { sent with history :=
      { sent.history with
        replyClosed := sent.history.replyClosed || closedBetween server sent route } }

/-- A well-formed reply while no request is being handled: to the oldest pending request of its
opcode, else to the last requester of its opcode, else to everyone. -/
def emitMatched (opcode : UInt8) (reply : Reply) : Server :=
  match takePending server opcode reply.now with
  | (taken, some route) => deliver taken route reply
  | (taken, none) =>
    match taken.last opcode with
    | some route =>
      if routeValid taken route then deliver taken route reply
      else broadcastUnmatched taken reply.packet reply.network
    | none => broadcastUnmatched taken reply.packet reply.network

/-- `ca_siyi_server_emit`. -/
def emit (reply : Reply) : Server :=
  if reply.packet = [] then server
  else
    match server.active with
    | some route => emitActive server route reply
    | none =>
      match parseOne reply.packet with
      | .packet parsed consumed =>
        if consumed = reply.packet.length then emitMatched server parsed.opcode reply
        else broadcastUnmatched server reply.packet reply.network
      | _ => broadcastUnmatched server reply.packet reply.network

/-! ### Requests -/

/-- The one-byte keepalive of the vendor's TCP service. -/
def isKeepalive (route : Route) (packet : Packet) : Bool :=
  match route with
  | .tcp _ _ => packet.opcode == 0 && packet.payloadLength == 1 && packet.payload == [0]
  | _ => false

/-- Record a packet of a stream that has been dispatched. -/
def noteFramed (route : Route) (packet : Bytes) : Server :=
  match route.port with
  | none => server
  | some port =>
    let stream := server.streams port
    server.setStream port
      { stream with
        inbound := { stream.inbound with framed := stream.inbound.framed ++ [packet] } }

/-- Record a request of a stream that is handed to the callback. -/
def noteRequest (route : Route) (packet : Packet) : Server :=
  match route.port with
  | none => server
  | some port =>
    let stream := server.streams port
    server.setStream port
      { stream with
        inbound := { stream.inbound with requests := stream.inbound.requests ++ [packet] } }

/-- The server while the callback handles a request. -/
def activate (route : Route) (packet : Packet) : Server :=
  { noteRequest server route packet with
    last := Function.update server.last packet.opcode (some route)
    lastUdp :=
      match route with
      | .udp _ => some route
      | _ => server.lastUdp
    active := some route
    activeEmitted := false }

/-- Hand a request to the callback; one it does not answer at once is left pending. -/
def serve (route : Route) (packet : Packet) (answer : Answer) : Server :=
  let handled := answer.replies.foldl emit (activate server route packet)
  let idle := { handled with active := none }
  if handled.activeEmitted then idle else addPending idle packet.opcode route answer.now

/-- Dispatch one packet. The result is the error and the answers that are left. -/
def dispatchPacket (route : Route) (packet : Bytes)
    (answers : List Answer) : Server × Option Errno × List Answer :=
  match parseOne packet with
  | .packet parsed consumed =>
    if consumed ≠ packet.length then (server, some .protocol, answers)
    else if isKeepalive route parsed then (noteFramed server route packet, none, answers)
    else
      let answer := answers.headD .silent
      (serve (noteFramed server route packet) route parsed answer, answer.failure, answers.tail)
  | _ => (server, some .protocol, answers)

/-! ### Byte streams -/

/-- Arithmetic and moves that C leaves undefined, with the state they happen in. -/
inductive Fault where
  | underflow (server : Server) (minuend subtrahend : Nat)
  | overrun (server : Server) (length : Nat)

/-- Move the input down by `count` bytes: `memmove` and the subtraction from the length. -/
def removeFront (port : Port) (count : Nat) : Except Fault Server :=
  let input := (server.streams port).inbound.input
  if input.length < count then .error (.underflow server input.length count)
  else if streamBuffer < input.length then .error (.overrun server input.length)
  else .ok (server.setInput port (input.drop count))

/-- The first place the input has the header bytes at, or its last byte. -/
def scanStart : Bytes → Nat
  | first :: second :: rest =>
    if first ≠ 0x55 ∨ second ≠ 0x66 then scanStart (second :: rest) + 1 else 0
  | _ => 0

/-- One turn of the loop that starts at a header: the state, the answers left, and whether to
go on. -/
def frameStep (port : Port) (route : Route) (answers : List Answer) :
    Except Fault (Server × List Answer × Bool) :=
  let input := (server.streams port).inbound.input
  if input.length < minPacket then .ok (server, answers, false)
  else
    let total := declaredTotal input
    if total > maxPacket then
      (removeFront server port 1).map fun server => (server, answers, true)
    else if input.length < total then .ok (server, answers, false)
    else
      match dispatchPacket server route (input.take total) answers with
      | (server, some .protocol, answers) =>
        (removeFront server port 1).map fun server => (server, answers, true)
      | (server, _, answers) =>
        (removeFront server port total).map fun server => (server, answers, true)

/-- One turn of the loop over the input. -/
def streamStep (port : Port) (route : Route) (answers : List Answer) :
    Except Fault (Server × List Answer × Bool) :=
  let start := scanStart (server.streams port).inbound.input
  if start ≠ 0 then
    match removeFront server port start with
    | .ok server => frameStep server port route answers
    | .error fault => .error fault
  else frameStep server port route answers

/-- Consume what the input holds. The loop ends after as many turns as there are bytes. -/
def processLoop (port : Port) (route : Route) :
    Nat → Server → List Answer → Except Fault (Server × List Answer)
  | 0, server, answers => .ok (server, answers)
  | turns + 1, server, answers =>
    if (server.streams port).inbound.input = [] then .ok (server, answers)
    else
      match streamStep server port route answers with
      | .ok (server, answers, true) => processLoop port route turns server answers
      | .ok (server, answers, false) => .ok (server, answers)
      | .error fault => .error fault

def processStream (port : Port) (route : Route) (answers : List Answer) :
    Except Fault (Server × List Answer) :=
  processLoop port route (server.streams port).inbound.input.length server answers

/-- Bytes have been read behind the input. -/
def receive (port : Port) (chunk : Bytes) : Server :=
  let stream := server.streams port
  server.setStream port
    { stream with
      inbound :=
        { stream.inbound with
          input := stream.inbound.input ++ chunk
          received := stream.inbound.received ++ chunk } }

/-- The buffer is full although everything that can be consumed has been. -/
def noteInputFull : Server :=
  { server with history := { server.history with inputFull := true } }

/-- Consume and read in turns until reading blocks; the result says whether it failed. The end
of the stream is a failure of a client only. Reads beyond the listed ones block. -/
def readStream (port : Port) (route : Route) (endFails : Bool) :
    List Receive → Server → List Answer → Except Fault (Server × Bool)
  | receives, server, answers =>
    match processStream server port route answers with
    | .error fault => .error fault
    | .ok (server, answers) =>
      let stream := server.streams port
      if stream.inbound.input.length = streamBuffer then .ok (noteInputFull server, true)
      else if !stream.isOpen then .ok (server, true)
      else
        match receives with
        | [] => .ok (server, false)
        | .bytes chunk :: later =>
          let taken := chunk.take (streamBuffer - stream.inbound.input.length)
          if taken = [] then .ok (server, endFails)
          else readStream port route endFails later (receive server port taken) answers
        | .interrupted :: later => readStream port route endFails later server answers
        | .blocked :: _ => .ok (server, false)
        | .failed :: _ => .ok (server, true)

def readClient (slot : Slot) (receives : List Receive)
    (answers : List Answer) : Except Fault (Server × Bool) :=
  readStream (.client slot) (.tcp slot (server.generation slot)) true receives server answers

def readUart (receives : List Receive) (answers : List Answer) : Except Fault (Server × Bool) :=
  readStream .uart .uart false receives server answers

/-! ### Events -/

/-- Dispatch the packets of one datagram, which is dropped from the first malformed one on. -/
def dispatchDatagram (route : Route) :
    Nat → Bytes → Server → List Answer → Server × List Answer
  | 0, _, server, answers => (server, answers)
  | fuel + 1, datagram, server, answers =>
    match parseOne datagram with
    | .packet _ consumed =>
      let (server, _, answers) := dispatchPacket server route (datagram.take consumed) answers
      dispatchDatagram route fuel (datagram.drop consumed) server answers
    | _ => (server, answers)

/-- Read the datagrams that have arrived. -/
def handleUdp (server : Server) (answers : List Answer) :
    List (Address × Bytes) → Server
  | [] => server
  | (address, bytes) :: later =>
    let datagram := bytes.take datagramBuffer
    let (server, answers) :=
      dispatchDatagram (.udp address) datagram.length datagram server answers
    handleUdp server answers later

/-- Put a new connection into a slot. -/
def openClient (slot : Slot) : Server :=
  let stream := server.streams (.client slot)
  let next := server.generation slot + 1
  { server.setStream (.client slot)
      { isOpen := true, inbound := .fresh, outbound := stream.outbound.restart } with
    generation := Function.update server.generation slot (if next = 0 then 1 else next)
    history :=
      { server.history with
        accepts := Function.update server.history.accepts slot
          (server.history.accepts slot + 1) } }

/-- Accept the connections that wait. Each is given with whether it can be polled; there is no
slot for it when all clients are connected. -/
def acceptClients (server : Server) : List Bool → Server
  | [] => server
  | polled :: later =>
    match (List.finRange tcpClients).find? fun slot => !(server.streams (.client slot)).isOpen with
    | none => acceptClients server later
    | some slot =>
      if polled then acceptClients (openClient server slot) later
      else closeClient (openClient server slot) slot

/-- What the poll reports of a stream: bytes to read, room to write, an error or the peer's
end. -/
structure Ready where
  input : Option (List Receive)
  output : Option Transport
  hungUp : Bool
  answers : List Answer

/-- Flush a stream that is still open and has not failed. -/
def flushReady (port : Port) (failed : Bool) :
    Option Transport → Server × Bool
  | none => (server, failed)
  | some transport =>
    if !failed && (server.streams port).isOpen then
      match flushStream server port transport with
      | (flushed, sent) => (flushed, !sent)
    else (server, failed)

/-- Read a stream when there are bytes to read. -/
def readReady (ready : Ready)
    (read : Server → List Receive → List Answer → Except Fault (Server × Bool)) :
    Except Fault (Server × Bool) :=
  match ready.input with
  | some receives => read server receives ready.answers
  | none => .ok (server, false)

def handleUart (ready : Ready) : Except Fault Server :=
  match readReady server ready readUart with
  | .error fault => .error fault
  | .ok (server, failed) =>
    match flushReady server .uart failed ready.output with
    | (server, failed) =>
      if failed || ready.hungUp then .ok (disableUart server) else .ok server

/-- A poll event of a client counts for the connection it was set up for. -/
def handleClient (slot : Slot) (generation : UInt32) (ready : Ready) : Except Fault Server :=
  if !(server.streams (.client slot)).isOpen || server.generation slot != generation then
    .ok server
  else
    match readReady server ready fun server => readClient server slot with
    | .error fault => .error fault
    | .ok (server, failed) =>
      match flushReady server (.client slot) failed ready.output with
      | (server, failed) =>
        if failed || ready.hungUp then .ok (closeClient server slot) else .ok server

/-- Everything that can happen to the server: what its poll reports, and replies from outside
a request. -/
inductive Event where
  | datagrams (arrived : List (Address × Bytes)) (answers : List Answer)
  | connections (polled : List Bool)
  | uart (ready : Ready)
  | client (slot : Slot) (generation : UInt32) (ready : Ready)
  | reply (reply : Reply)

def handle : Event → Except Fault Server
  | .datagrams arrived answers => .ok (handleUdp server answers arrived)
  | .connections polled => .ok (acceptClients server polled)
  | .uart ready => handleUart server ready
  | .client slot generation ready => handleClient server slot generation ready
  | .reply reply => .ok (emit server reply)

/-- Handle events one after another. -/
def run (server : Server) (events : List Event) : Except Fault Server :=
  Transition.run handle server events

/-- A request for the configuration: opcode 0x0a, no payload. -/
def configurationRequest : Bytes :=
  [0x55, 0x66, 0x01, 0x00, 0x00, 0x00, 0x00, 0x0a, 0x0f, 0x75]

/-- A run passes a check on the state it ends in. -/
def endsWith (check : Server → Bool) : Except Fault Server → Bool
  | .ok server => check server
  | .error _ => false

theorem exists_of_endsWith (outcome : Except Fault Server) (check : Server → Bool)
    (passes : endsWith check outcome = true) :
    ∃ server, outcome = .ok server ∧ check server = true := by
  cases outcome with
  | ok server => exact ⟨server, rfl, passes⟩
  | error fault => cases passes

end SiyiServer
