/-
This file models how the MAVLink server sends: frames to its TCP clients, to UDP
peers, to the UART and to the support proxy. The MAVLink library that encodes a
message is a parameter.

A TCP client is sent a frame by a single non-blocking `send`, with nothing
queued behind it; the UART has an output queue. The file proves that a frame is
torn only where a TCP `send` is short: the UART always, and every client as long
as no `send` takes part of a frame, carries whole frames.
-/

import CameraGimbal.Bytes
import CameraGimbal.OutputQueue
import Mathlib.Data.List.FinRange
import Mathlib.Data.List.Sublists

namespace MavlinkLink

open OutputQueue List Function

/-- The number of TCP clients. -/
def mavlinkClients : Nat := 4

/-- The longest frame. -/
def maxPacketLen : Nat := 280

/-- The bytes queued for the UART. -/
def uartOutput : Nat := maxPacketLen * 16

def gimbalComponentId : UInt8 := 154

abbrev Slot := Fin mavlinkClients

structure Address where
  host : UInt32
  port : UInt16
  deriving DecidableEq, Repr

inductive Route where
  | tcp (client : Slot)
  | udp (address : Address)
  | uart
  | proxy
  deriving DecidableEq, Repr

/-- The library that stamps and encodes messages. No bytes mean that a message cannot be
encoded. -/
structure Codec (Message Status : Type) where
  component : Message → UInt8
  restamp : Message → Status → Message × Status
  toWire : Message → Bytes

/-- What the transports do with one frame. -/
structure Network where
  tcp : Slot → List Transfer
  datagramSent : Bool
  uart : Transport

/-! ### The state -/

/-- A TCP client. What it was offered and what it took is the history of its connection. -/
structure Client where
  isOpen : Bool
  offered : List Bytes
  written : Bytes

/-- The UART, with the frames it was offered. -/
structure Uart where
  isOpen : Bool
  channel : Channel UInt8 uartOutput
  offered : List Bytes

/-- A parameter list that is being sent down a route. -/
structure ExtParameterList where
  active : Bool
  route : Route

structure Server (Message Status : Type) where
  support : Bool
  udpOpen : Bool
  clients : Slot → Client
  uart : Uart
  lastUdp : Option Address
  flightControllerRoute : Option Route
  extLists : Slot → ExtParameterList
  systemId : UInt8
  cameraTx : Status
  gimbalTx : Status
  /-- The messages the support proxy was handed, for the history. -/
  proxied : List Message
  /-- The datagrams sent, for the history. -/
  datagrams : List (Address × Bytes)
  /-- A `send` has taken part of a frame, for the history. -/
  shortSend : Bool

variable {Message Status : Type}

/-- The server before anyone has connected. -/
def start (support uart : Bool) (systemId : UInt8) (status : Status) :
    Server Message Status where
  support := support
  udpOpen := true
  clients := fun _ => { isOpen := false, offered := [], written := [] }
  uart :=
    { isOpen := uart
      channel := { queue := .fresh 0, accepted := [], written := [] }
      offered := [] }
  lastUdp := none
  flightControllerRoute := none
  extLists := fun slot => { active := false, route := .tcp slot }
  systemId := systemId
  cameraTx := status
  gimbalTx := status
  proxied := []
  datagrams := []
  shortSend := false

def routeValid (server : Server Message Status) : Route → Bool
  | .udp _ => server.udpOpen
  | .uart => server.uart.isOpen
  | .proxy => false
  | .tcp client => (server.clients client).isOpen

/-! ### Closing -/

/-- Close the UART: what it has queued is forgotten, and so is a flight controller behind
it. -/
def disableUart (server : Server Message Status) : Server Message Status :=
  if server.uart.isOpen then
    { server with
      flightControllerRoute :=
        if server.flightControllerRoute = some .uart then none else server.flightControllerRoute
      uart :=
        { server.uart with
          isOpen := false
          channel := { server.uart.channel with queue := server.uart.channel.queue.clear } } }
  else server

/-- Close a client, with its parameter lists and a flight controller behind it. -/
def closeClient (server : Server Message Status) (slot : Slot) : Server Message Status :=
  if (server.clients slot).isOpen then
    { server with
      extLists := fun index =>
        let list := server.extLists index
        if list.route = .tcp slot then { list with active := false } else list
      flightControllerRoute :=
        if server.flightControllerRoute = some (.tcp slot) then none
        else server.flightControllerRoute
      clients := Function.update server.clients slot { server.clients slot with isOpen := false } }
  else server

/-! ### Sending -/

/-- How many bytes of a frame one `send` takes, retried while it is interrupted. -/
def sendTaken (frame : Bytes) : List Transfer → Nat
  | .interrupted :: later => sendTaken frame later
  | .sent count :: _ => min count frame.length
  | _ => 0

/-- Send a frame to a client. Whatever is left of it after one `send` is dropped: the error
is returned, and the client stays open. -/
def sendTcp (server : Server Message Status) (slot : Slot) (frame : Bytes)
    (transfers : List Transfer) : Server Message Status × Bool :=
  let client := server.clients slot
  let taken := sendTaken frame transfers
  ({ server with
      clients := Function.update server.clients slot
        { client with
          offered := client.offered ++ [frame]
          written := client.written ++ frame.take taken }
      shortSend := server.shortSend || (decide (0 < taken) && decide (taken < frame.length)) },
    taken == frame.length)

def flushUart (server : Server Message Status) (transport : Transport) :
    Server Message Status × Bool :=
  let (channel, failed) := server.uart.channel.flush transport
  ({ server with uart := { server.uart with channel } }, !failed)

/-- Queue a frame on the UART whole, or refuse it; the UART is disabled when flushing fails. -/
def queueUart (server : Server Message Status) (frame : Bytes) (transport : Transport) :
    Server Message Status × Bool :=
  let offered :=
    { server with uart := { server.uart with offered := server.uart.offered ++ [frame] } }
  match server.uart.channel.push frame with
  | none => (offered, false)
  | some channel =>
    match flushUart { offered with uart := { offered.uart with channel } } transport with
    | (flushed, true) => (flushed, true)
    | (flushed, false) => (disableUart flushed, false)

def sendRoute (server : Server Message Status) (route : Route) (frame : Bytes)
    (network : Network) : Server Message Status × Bool :=
  if routeValid server route then
    match route with
    | .udp address =>
      ({ server with datagrams := server.datagrams ++ [(address, frame)] }, network.datagramSent)
    | .tcp client => sendTcp server client frame (network.tcp client)
    | _ => queueUart server frame network.uart
  else (server, false)

variable (codec : Codec Message Status)

/-- Stamp a message with the next sequence number of its component. -/
def restamp (server : Server Message Status) (message : Message) :
    Server Message Status × Message :=
  if codec.component message = gimbalComponentId then
    let (message, status) := codec.restamp message server.gimbalTx
    ({ server with gimbalTx := status }, message)
  else
    let (message, status) := codec.restamp message server.cameraTx
    ({ server with cameraTx := status }, message)

/-- Send a message down a route. Nothing is sent before the server knows its system id. The
message is stamped in place, so it is returned. -/
def sendMessage (server : Server Message Status) (route : Route) (message : Message)
    (network : Network) : Server Message Status × Message :=
  if server.systemId = 0 then (server, message)
  else
    let (stamped, message) := restamp codec server message
    if route = .proxy then ({ stamped with proxied := stamped.proxied ++ [message] }, message)
    else
      match codec.toWire message with
      | [] => (stamped, message)
      | frame => ((sendRoute stamped route frame network).1, message)

def broadcastClient (network : Network) (state : Server Message Status × Message) (slot : Slot) :
    Server Message Status × Message :=
  if (state.1.clients slot).isOpen then sendMessage codec state.1 (.tcp slot) state.2 network
  else state

/-- Send a message to the support proxy, every client, the UDP peer and the UART. -/
def broadcastMessage (server : Server Message Status) (message : Message) (network : Network) :
    Server Message Status :=
  let proxied :=
    if server.support then sendMessage codec server .proxy message network else (server, message)
  let clients := (List.finRange mavlinkClients).foldl (broadcastClient codec network) proxied
  let peers :=
    match clients.1.lastUdp with
    | some address => sendMessage codec clients.1 (.udp address) clients.2 network
    | none => clients
  if peers.1.uart.isOpen then (sendMessage codec peers.1 .uart peers.2 network).1 else peers.1

/-! ### Events -/

/-- A connection is put into a free slot, closed again when it cannot be polled. -/
def acceptClient (server : Server Message Status) (polled : Bool) : Server Message Status :=
  match (List.finRange mavlinkClients).find? fun slot => !(server.clients slot).isOpen with
  | none => server
  | some slot =>
    let opened :=
      { server with
        clients := Function.update server.clients slot
          { isOpen := true, offered := [], written := [] } }
    if polled then opened else closeClient opened slot

/-- Everything that sends, opens or closes, and what is learned of the peers. -/
inductive Event (Message : Type) where
  | message (route : Route) (message : Message) (network : Network)
  | broadcast (message : Message) (network : Network)
  | forward (route : Route) (frame : Bytes) (network : Network)
  | writable (transport : Transport)
  | uartFailed
  | accept (polled : Bool)
  | close (slot : Slot)
  | heard (peer : Option Address) (flightController : Option Route) (systemId : UInt8)

def handle (server : Server Message Status) : Event Message → Server Message Status
  | .message route message network => (sendMessage codec server route message network).1
  | .broadcast message network => broadcastMessage codec server message network
  | .forward route frame network => (sendRoute server route frame network).1
  | .writable transport =>
    if server.uart.isOpen then
      match flushUart server transport with
      | (flushed, true) => flushed
      | (flushed, false) => disableUart flushed
    else server
  | .uartFailed => disableUart server
  | .accept polled => acceptClient server polled
  | .close slot => closeClient server slot
  | .heard peer flightController systemId =>
    { server with
      lastUdp := peer
      flightControllerRoute := flightController
      systemId := if server.systemId = 0 then systemId else server.systemId }

/-- Handle events one after another. -/
def run (server : Server Message Status) (events : List (Event Message)) :
    Server Message Status :=
  events.foldl (handle codec) server

/-! ### Whole frames -/

/-- What was written is a prefix of whole frames, in the order they were offered. -/
def Untorn (offered : List Bytes) (written : Bytes) : Prop :=
  ∃ whole : List Bytes, whole.Sublist offered ∧ written <+: whole.flatten

instance (offered : List Bytes) (written : Bytes) :
    Decidable (Untorn offered written) :=
  decidable_of_iff (∃ whole ∈ offered.sublists, written <+: whole.flatten)
    (by simp only [Untorn, List.mem_sublists])

def Client.Whole (client : Client) : Prop :=
  ∃ whole : List Bytes, whole.Sublist client.offered ∧ client.written = whole.flatten

theorem Client.Whole.untorn {client : Client} (isWhole : client.Whole) :
    Untorn client.offered client.written := by
  obtain ⟨whole, offered, written⟩ := isWhole
  exact ⟨whole, offered, [], by rw [written, append_nil]⟩

theorem Client.Whole.send {client : Client} (isWhole : client.Whole) {frame : Bytes}
    {taken : Nat} (atOnce : taken = 0 ∨ frame.length ≤ taken) :
    Client.Whole
      { client with
        offered := client.offered ++ [frame]
        written := client.written ++ frame.take taken } := by
  obtain ⟨whole, offered, written⟩ := isWhole
  rcases atOnce with none | all
  · refine ⟨whole, offered.trans (sublist_append_left _ _), ?_⟩
    simp only [none, take_zero, append_nil, written]
  · refine ⟨whole ++ [frame], offered.append (Sublist.refl _), ?_⟩
    simp only [take_of_length_le all, written, flatten_append, flatten_singleton]

/-- A UART that has written a prefix of what it accepted, whole frames of those offered. -/
structure Uart.Whole (uart : Uart) : Prop where
  lossless : uart.isOpen = true → uart.channel.Lossless
  written : uart.channel.written <+: uart.channel.accepted.flatten
  offered : uart.channel.accepted.Sublist uart.offered

variable {uart : Uart}

theorem Uart.Whole.untorn (isWhole : uart.Whole) :
    Untorn uart.offered uart.channel.written :=
  ⟨uart.channel.accepted, isWhole.offered, isWhole.written⟩

theorem Uart.Whole.flush (isWhole : uart.Whole) (isOpen : uart.isOpen = true)
    (transport : Transport) :
    Uart.Whole { uart with channel := (uart.channel.flush transport).1 } := by
  have lossless := (isWhole.lossless isOpen).flush transport
  exact ⟨fun _ => lossless, lossless.written_prefix, isWhole.offered⟩

theorem Uart.Whole.refuse (isWhole : uart.Whole) (frame : Bytes) :
    Uart.Whole { uart with offered := uart.offered ++ [frame] } :=
  ⟨isWhole.lossless, isWhole.written, isWhole.offered.trans (sublist_append_left _ _)⟩

theorem Uart.Whole.push (isWhole : uart.Whole) (isOpen : uart.isOpen = true)
    {frame : Bytes} {channel : Channel UInt8 uartOutput}
    (pushed : uart.channel.push frame = some channel) :
    Uart.Whole { uart with offered := uart.offered ++ [frame], channel } := by
  have lossless := (isWhole.lossless isOpen).push pushed
  refine ⟨fun _ => lossless, lossless.written_prefix, ?_⟩
  obtain ⟨queue, -, rfl⟩ := Option.map_eq_some_iff.mp pushed
  exact isWhole.offered.append (Sublist.refl _)

/-- The UART carries whole frames, and so do the clients while no `send` has been short. -/
structure Whole (server : Server Message Status) : Prop where
  uart : server.uart.Whole
  clients : server.shortSend = false → ∀ slot, (server.clients slot).Whole

namespace Whole

variable {server : Server Message Status} (isWhole : Whole server)

include isWhole

theorem setClient (slot : Slot) (client : Client) (own : server.shortSend = false → client.Whole) :
    Whole { server with clients := update server.clients slot client } := by
  refine ⟨isWhole.uart, fun kept other => ?_⟩
  simp only
  by_cases same : other = slot
  · subst same
    rw [update_self]
    exact own kept
  · rw [update_of_ne same]
    exact isWhole.clients kept other

theorem closeClient (slot : Slot) : Whole (closeClient server slot) := by
  unfold MavlinkLink.closeClient
  split
  · have closed := isWhole.setClient slot { server.clients slot with isOpen := false }
      fun kept => isWhole.clients kept slot
    exact ⟨closed.uart, closed.clients⟩
  · exact isWhole

theorem disableUart : Whole (disableUart server) := by
  unfold MavlinkLink.disableUart
  split
  · have closed : Uart.Whole
        { server.uart with
          isOpen := false
          channel := { server.uart.channel with queue := server.uart.channel.queue.clear } } :=
      ⟨fun isOpen => absurd isOpen (by simp), isWhole.uart.written, isWhole.uart.offered⟩
    exact ⟨closed, isWhole.clients⟩
  · exact isWhole

/-- Only a short `send` can leave part of a frame with a client. -/
theorem sendTcp (slot : Slot) (frame : Bytes) (transfers : List Transfer) :
    Whole (sendTcp server slot frame transfers).1 := by
  refine ⟨isWhole.uart, fun kept other => ?_⟩
  obtain ⟨before, now⟩ := Bool.or_eq_false_iff.mp kept
  have atOnce : sendTaken frame transfers = 0 ∨ frame.length ≤ sendTaken frame transfers := by
    simp only [Bool.and_eq_false_iff, decide_eq_false_iff_not] at now
    omega
  have sent := ((isWhole.clients before slot).send atOnce)
  simp only [MavlinkLink.sendTcp]
  by_cases same : other = slot
  · subst same
    rw [update_self]
    exact sent
  · rw [update_of_ne same]
    exact isWhole.clients before other

theorem flushUart (isOpen : server.uart.isOpen = true) (transport : Transport) :
    Whole (flushUart server transport).1 :=
  ⟨isWhole.uart.flush isOpen transport, isWhole.clients⟩

theorem queueUart (isOpen : server.uart.isOpen = true) (frame : Bytes)
    (transport : Transport) : Whole (queueUart server frame transport).1 := by
  unfold MavlinkLink.queueUart
  simp only
  split
  · exact ⟨isWhole.uart.refuse frame, isWhole.clients⟩
  · next channel pushed =>
    have queued : Whole
        { server with
          uart := { server.uart with offered := server.uart.offered ++ [frame], channel } } :=
      ⟨isWhole.uart.push isOpen pushed, isWhole.clients⟩
    have flushed := queued.flushUart isOpen transport
    split
    · next equal => rwa [equal] at flushed
    · next equal =>
      rw [equal] at flushed
      exact flushed.disableUart

theorem sendRoute (route : Route) (frame : Bytes) (network : Network) :
    Whole (sendRoute server route frame network).1 := by
  unfold MavlinkLink.sendRoute
  split
  · next valid =>
    cases route with
    | tcp client => exact isWhole.sendTcp ..
    | udp address => exact ⟨isWhole.uart, isWhole.clients⟩
    | uart => exact isWhole.queueUart valid ..
    | proxy => cases valid
  · exact isWhole

variable (codec : Codec Message Status)

theorem restamp (message : Message) : Whole (restamp codec server message).1 := by
  unfold MavlinkLink.restamp
  split <;> exact ⟨isWhole.uart, isWhole.clients⟩

theorem sendMessage (route : Route) (message : Message) (network : Network) :
    Whole (sendMessage codec server route message network).1 := by
  have stamped := isWhole.restamp codec message
  unfold MavlinkLink.sendMessage
  split
  · exact isWhole
  simp only
  split
  · exact ⟨stamped.uart, stamped.clients⟩
  split
  · exact stamped
  · exact stamped.sendRoute ..

theorem broadcastMessage (message : Message) (network : Network) :
    Whole (broadcastMessage codec server message network) := by
  unfold MavlinkLink.broadcastMessage
  simp only
  set proxied :=
    if server.support then MavlinkLink.sendMessage codec server .proxy message network
    else (server, message) with proxiedEq
  have isProxied : Whole proxied.1 := by
    rw [proxiedEq]
    split
    · exact isWhole.sendMessage ..
    · exact isWhole
  set clients := (finRange mavlinkClients).foldl (MavlinkLink.broadcastClient codec network) proxied
  have areClients : Whole clients.1 := by
    refine foldlRecOn (motive := fun state : Server Message Status × Message => Whole state.1)
      _ _ isProxied fun state isState slot _ => ?_
    unfold MavlinkLink.broadcastClient
    split
    · exact Whole.sendMessage isState ..
    · exact isState
  set peers :=
    match clients.1.lastUdp with
    | some address => MavlinkLink.sendMessage codec clients.1 (.udp address) clients.2 network
    | none => clients with peersEq
  have arePeers : Whole peers.1 := by
    rw [peersEq]
    split
    · exact areClients.sendMessage ..
    · exact areClients
  split
  · exact arePeers.sendMessage ..
  · exact arePeers

theorem acceptClient (polled : Bool) : Whole (acceptClient server polled) := by
  unfold MavlinkLink.acceptClient
  split
  · exact isWhole
  · next slot _ =>
    have opened := isWhole.setClient slot { isOpen := true, offered := [], written := [] }
      fun _ => ⟨[], Sublist.refl [], rfl⟩
    split
    · exact opened
    · exact opened.closeClient slot

theorem handle (event : Event Message) : Whole (handle codec server event) := by
  cases event with
  | message route message network => exact isWhole.sendMessage ..
  | broadcast message network => exact isWhole.broadcastMessage ..
  | forward route frame network => exact isWhole.sendRoute ..
  | writable transport =>
    simp only [MavlinkLink.handle]
    split
    · next isOpen =>
      have flushed := isWhole.flushUart isOpen transport
      split
      · next equal => rwa [equal] at flushed
      · next equal =>
        rw [equal] at flushed
        exact flushed.disableUart
    · exact isWhole
  | uartFailed => exact isWhole.disableUart
  | accept polled => exact isWhole.acceptClient polled
  | close slot => exact isWhole.closeClient slot
  | heard peer flightController systemId => exact ⟨isWhole.uart, isWhole.clients⟩

end Whole

theorem Whole.start (support uart : Bool) (systemId : UInt8) (status : Status) :
    Whole (start support uart systemId status : Server Message Status) :=
  ⟨⟨fun _ => .fresh 0, nil_prefix, Sublist.refl []⟩, fun _ _ => ⟨[], Sublist.refl [], rfl⟩⟩

variable (support uart : Bool) (systemId : UInt8) (status : Status)
  (events : List (Event Message))

theorem run_whole : Whole (run codec (start support uart systemId status) events) :=
  foldlRecOn _ _ (.start support uart systemId status) fun _ isWhole event _ =>
    isWhole.handle codec event

/-- In every run in which no `send` to a client takes only part of a frame, the UART and every
client have been written whole frames in order, the last one possibly not to its end. -/
theorem untorn_of_no_short_send
    (kept : (run codec (start support uart systemId status) events).shortSend = false) :
    let server := run codec (start support uart systemId status) events
    Untorn server.uart.offered server.uart.channel.written ∧
      ∀ slot, Untorn (server.clients slot).offered (server.clients slot).written := by
  have isWhole := run_whole codec support uart systemId status events
  exact ⟨isWhole.uart.untorn, fun slot => (isWhole.clients kept slot).untorn⟩

/-! ### A torn frame -/

/-- Frames that are their own messages. -/
def frameCodec : Codec Bytes Unit where
  component _ := 100
  restamp message status := (message, status)
  toWire message := message

/-- Two heartbeats of a camera, one after another. -/
def firstHeartbeat : Bytes :=
  [0xfd, 0x09, 0x00, 0x00, 0x00, 0x01, 0x64, 0x00, 0x00, 0x00,
    0x00, 0x00, 0x00, 0x00, 0x1e, 0x08, 0x00, 0x04, 0x03, 0x61, 0x88]

def secondHeartbeat : Bytes :=
  [0xfd, 0x09, 0x00, 0x00, 0x01, 0x01, 0x64, 0x00, 0x00, 0x00,
    0x00, 0x00, 0x00, 0x00, 0x1e, 0x08, 0x00, 0x04, 0x03, 0x71, 0x06]

/-- A network on which a client takes this many bytes of a frame. -/
def takingNetwork (count : Nat) : Network where
  tcp _ := [.interrupted, .sent count]
  datagramSent := true
  uart := { transfers := [], rearmed := true }

/-- A client connects and is sent two heartbeats, taking this much of the first. -/
def heartbeatRun (count : Nat) : List (Event Bytes) :=
  [.accept true,
    .message (.tcp ⟨0, by decide⟩) firstHeartbeat (takingNetwork count),
    .message (.tcp ⟨0, by decide⟩) secondHeartbeat (takingNetwork 280)]

theorem untorn_of_no_short_send_heartbeats :
    let server := run frameCodec (start false true 1 ()) (heartbeatRun 280)
    server.shortSend = false ∧
      Untorn server.uart.offered server.uart.channel.written ∧
      ∀ slot, Untorn (server.clients slot).offered (server.clients slot).written :=
  have kept : (run frameCodec (start false true 1 ()) (heartbeatRun 280)).shortSend = false := by
    decide
  ⟨kept, untorn_of_no_short_send frameCodec false true 1 () (heartbeatRun 280) kept⟩

/-- A client that takes five bytes of a frame is sent the next frame behind them. -/
theorem torn_after_short_send :
    let client := (run frameCodec (start false true 1 ()) (heartbeatRun 5)).clients ⟨0, by decide⟩
    client.isOpen = true ∧ client.written = firstHeartbeat.take 5 ++ secondHeartbeat ∧
      ¬ Untorn client.offered client.written := by
  decide

end MavlinkLink
