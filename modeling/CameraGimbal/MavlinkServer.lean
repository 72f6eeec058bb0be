/-
This file models the connections of the MAVLink server over time: clients that
connect and leave, messages read from them, from UDP peers, from the UART and from
the support proxy, the flight controller's route, and the extended parameter lists
that are sent step by step down the route they were asked on.

What else the server answers to a message is any messages on the route it came
from, and any broadcasts. The connection a route was recorded for, and everything
sent down a TCP route, are kept as history.
-/

import CameraGimbal.MavlinkLink

namespace MavlinkServer

open MavlinkLink OutputQueue

/-- A system and one of its components. -/
structure Requester where
  system : UInt8
  component : UInt8
  deriving DecidableEq, Repr

/-- The extended parameters of a build. The camera mode is always among them. -/
structure ParameterTable where
  count : Nat
  nonempty : 0 < count

/-- The type of a ground station in a heartbeat. -/
def typeGcs : UInt8 := 6

/-- The autopilot of a component that is none. -/
def autopilotInvalid : UInt8 := 8

def compIdAutopilot : UInt8 := 1

/-- What the server reads from a message. -/
inductive Content where
  | heartbeat (length : Nat) (type autopilot : UInt8)
  | extRequestList (targetSystem targetComponent : UInt8)
  | other
  deriving DecidableEq, Repr

structure Incoming where
  sender : Requester
  content : Content
  deriving DecidableEq, Repr

/-- What is sent in answer to a message. -/
inductive Response (Message : Type) where
  | reply (message : Message) (network : Network)
  | broadcast (message : Message) (network : Network)

/-- A message that was received, and what is sent in answer to it. -/
structure Received (Message : Type) where
  incoming : Incoming
  responses : List (Response Message)

/-- A route, and the connection it stands for. -/
structure Destination where
  route : Route
  connection : Nat
  deriving DecidableEq

/-- Something sent down a TCP route: the connection it was for, and the one that was there. -/
structure Delivery where
  client : Slot
  addressedTo : Nat
  reached : Nat
  deriving DecidableEq

/-- Who asked for a parameter list, and the parameter it is at. -/
structure ListProgress where
  requester : Requester
  next : Nat

/-- The server. The entries of the parameter lists are partly in the link (`extLists`) and partly
here (`lists`). -/
structure Server (Message Status : Type) where
  link : MavlinkLink.Server Message Status
  cameraComponentId : UInt8
  autopilotSystemId : UInt8
  autopilotComponentId : UInt8
  lists : Slot → ListProgress
  /-- The connections accepted so far, for the history. -/
  accepted : Nat
  /-- The last connection of every slot, for the history. -/
  connection : Slot → Nat
  /-- The connections that the lists were asked for on, for the history. -/
  listConnection : Slot → Nat
  /-- The connection behind the route of the flight controller, for the history. -/
  flightControllerConnection : Nat
  /-- Everything sent down TCP routes to one peer, for the history. -/
  deliveries : List Delivery

variable {Message Status : Type}

/-- The server before anyone has connected. -/
def start (support uart : Bool) (systemId cameraComponentId : UInt8) (status : Status) :
    Server Message Status where
  link := MavlinkLink.start support uart systemId status
  cameraComponentId := cameraComponentId
  autopilotSystemId := 0
  autopilotComponentId := 0
  lists := fun _ => { requester := ⟨0, 0⟩, next := 0 }
  accepted := 0
  connection := fun _ => 0
  listConnection := fun _ => 0
  flightControllerConnection := 0
  deliveries := []

/-! ### Sending -/

variable (codec : Codec Message Status)

/-- Note what is sent down a TCP route whose slot is occupied. -/
def note (server : Server Message Status) (destination : Destination) : Server Message Status :=
  match destination.route with
  | .tcp client =>
    if (server.link.clients client).isOpen then
      { server with
        deliveries := server.deliveries ++
          [{ client
             addressedTo := destination.connection
             reached := server.connection client }] }
    else server
  | _ => server

/-- `send_message` on a route. -/
def deliver (server : Server Message Status) (destination : Destination) (message : Message)
    (network : Network) : Server Message Status :=
  let noted := note server destination
  { noted with link := (sendMessage codec noted.link destination.route message network).1 }

/-- `send_route` of a frame that came from the support proxy. -/
def forward (server : Server Message Status) (destination : Destination) (frame : Bytes)
    (network : Network) : Server Message Status :=
  let noted := note server destination
  { noted with link := (sendRoute noted.link destination.route frame network).1 }

def broadcast (server : Server Message Status) (sent : Message × Network) :
    Server Message Status :=
  { server with link := broadcastMessage codec server.link sent.1 sent.2 }

def respond (destination : Destination) (server : Server Message Status) :
    Response Message → Server Message Status
  | .reply message network => deliver codec server destination message network
  | .broadcast message network => broadcast codec server (message, network)

/-! ### Extended parameter lists -/

def targetMatches (server : Server Message Status) (targetSystem targetComponent : UInt8)
    (component : UInt8) : Bool :=
  (targetSystem == 0 || targetSystem == server.link.systemId) &&
    (targetComponent == 0 || targetComponent == component)

/-- The loop over the lists that looks for the requester's own active one and remembers the first
one that is not active. -/
def findList (server : Server Message Status) (requester : Requester) :
    List Slot → Option Slot → Option Slot
  | [], list => list
  | candidate :: rest, list =>
    let active := (server.link.extLists candidate).active
    if active = true ∧ (server.lists candidate).requester = requester then some candidate
    else findList server requester rest
      (if active = false ∧ list = none then some candidate else list)

/-- Start a list for a requester, from the first parameter on; without a free entry the request
is dropped. -/
def requestList (server : Server Message Status) (destination : Destination)
    (requester : Requester) : Server Message Status :=
  match findList server requester (List.finRange mavlinkClients) none with
  | some list =>
    { server with
      link :=
        { server.link with
          extLists := Function.update server.link.extLists list
            { active := true, route := destination.route } }
      lists := Function.update server.lists list { requester, next := 0 }
      listConnection := Function.update server.listConnection list destination.connection }
  | none => server

variable (table : ParameterTable)

variable (server : Server Message Status)

/-- `send_ext_parameter`: the message that reports a parameter is sent, when there is such a
parameter and its value can be read. -/
def sendExtParameter (destination : Destination) (index : Nat)
    (report : Nat → Option Message) (network : Network) : Server Message Status :=
  if index < table.count then
    match report index with
    | some message => deliver codec server destination message network
    | none => server
  else server

/-- The values of the parameters as one list finds them, and what the network does. -/
structure ListStep (Message : Type) where
  report : Nat → Option Message
  network : Network

/-- One list of a periodic step: the next parameter, and the end behind the last one. -/
def stepList (steps : Slot → ListStep Message) (server : Server Message Status) (slot : Slot) :
    Server Message Status :=
  let list := server.link.extLists slot
  let progress := server.lists slot
  if list.active then
    let sent := sendExtParameter codec table server
      { route := list.route, connection := server.listConnection slot } progress.next
      (steps slot).report (steps slot).network
    { sent with
      link :=
        { sent.link with
          extLists := Function.update sent.link.extLists slot
            { list with active := decide (progress.next + 1 < table.count) } }
      lists := Function.update sent.lists slot { progress with next := progress.next + 1 } }
  else server

/-! ### Receiving -/

/-- The autopilot is known from its first heartbeat on, and with it the system id, unless that is
configured. -/
def discoverAutopilot (incoming : Incoming) : Server Message Status :=
  match incoming.content with
  | .heartbeat length type autopilot =>
    if 6 ≤ length ∧ incoming.sender.system ≠ 0 ∧ type ≠ typeGcs ∧ autopilot ≠ autopilotInvalid ∧
        server.autopilotSystemId = 0 then
      { server with
        autopilotSystemId := incoming.sender.system
        autopilotComponentId := incoming.sender.component
        link :=
          { server.link with
            systemId :=
              if server.link.systemId = 0 then incoming.sender.system
              else server.link.systemId } }
    else server
  | _ => server

def processMessage (destination : Destination)
    (received : Received Message) : Server Message Status :=
  let server := discoverAutopilot server received.incoming
  if server.link.systemId = 0 then server
  else
    match received.incoming.content with
    | .extRequestList targetSystem targetComponent =>
      if targetMatches server targetSystem targetComponent server.cameraComponentId then
        requestList server destination received.incoming.sender
      else server
    | _ => received.responses.foldl (respond codec destination) server

/-- Handle a message that was parsed from a transport; the route of a heartbeat of the autopilot
is the route to the flight controller. -/
def feed (destination : Destination) (server : Server Message Status)
    (received : Received Message) : Server Message Status :=
  let processed := processMessage codec server destination received
  match received.incoming.content with
  | .heartbeat _ _ autopilot =>
    if received.incoming.sender.system = processed.link.systemId ∧
        received.incoming.sender.component = compIdAutopilot ∧ autopilot ≠ autopilotInvalid then
      { processed with
        link := { processed.link with flightControllerRoute := some destination.route }
        flightControllerConnection := destination.connection }
    else processed
  | _ => processed

/-! ### Connections -/

def close (server : Server Message Status) (slot : Slot) : Server Message Status :=
  if (server.link.clients slot).isOpen then
    { server with link := closeClient server.link slot }
  else server

/-- A client is put into a free slot and sent a heartbeat of the camera and of the gimbal; it is
closed again when it cannot be polled. -/
def accept (polled : Bool) (camera gimbal : Message × Network) : Server Message Status :=
  match (List.finRange mavlinkClients).find? fun slot => !(server.link.clients slot).isOpen with
  | none => server
  | some slot =>
    let opened :=
      { server with
        link := acceptClient server.link true
        accepted := server.accepted + 1
        connection := Function.update server.connection slot server.accepted }
    let destination := { route := .tcp slot, connection := server.accepted }
    if polled then
      deliver codec (deliver codec opened destination camera.1 camera.2) destination gimbal.1
        gimbal.2
    else close opened slot

/-! ### Events -/

/-- A message from the support proxy: it is forwarded to the flight controller, and handled. -/
structure Proxied (Message : Type) where
  frame : Bytes
  network : Network
  received : Received Message

/-- What happens in a periodic step: the messages from the support proxy, and the broadcasts
before and after the parameter lists are served. -/
structure Periodic (Message : Type) where
  proxied : List (Proxied Message)
  before : List (Message × Network)
  lists : Slot → ListStep Message
  after : List (Message × Network)

inductive Event (Message : Type) where
  | accept (polled : Bool) (camera gimbal : Message × Network)
  | hangUp (slot : Slot)
  | read (slot : Slot) (received : List (Received Message)) (ends : Bool)
  | readUdp (address : Address) (received : List (Received Message))
  | readUart (received : List (Received Message)) (failed : Bool)
  | writable (transport : Transport)
  | uartFailed
  | periodic (work : Periodic Message)

def handleProxied (proxied : Proxied Message) : Server Message Status :=
  let forwarded :=
    match server.link.flightControllerRoute with
    | some route =>
      if proxied.frame = [] then server
      else
        forward server { route, connection := server.flightControllerConnection } proxied.frame
          proxied.network
    | none => server
  processMessage codec forwarded { route := .proxy, connection := 0 } proxied.received

/-- The parameter lists of a periodic step. -/
def serveLists (steps : Slot → ListStep Message) : Server Message Status :=
  (List.finRange mavlinkClients).foldl (stepList codec table steps) server

def periodic (work : Periodic Message) : Server Message Status :=
  let handled := work.proxied.foldl (handleProxied codec) server
  let reported := work.before.foldl (broadcast codec) handled
  work.after.foldl (broadcast codec) (serveLists codec table reported work.lists)

def handle : Event Message → Server Message Status
  | .accept polled camera gimbal => accept codec server polled camera gimbal
  | .hangUp slot => close server slot
  | .read slot received ends =>
    if (server.link.clients slot).isOpen then
      let destination := { route := .tcp slot, connection := server.connection slot }
      let fed := received.foldl (feed codec destination) server
      if ends then close fed slot else fed
    else server
  | .readUdp address received =>
    if server.link.udpOpen then
      received.foldl (feed codec { route := .udp address, connection := 0 })
        { server with link := { server.link with lastUdp := some address } }
    else server
  | .readUart received failed =>
    if server.link.uart.isOpen then
      let fed := received.foldl (feed codec { route := .uart, connection := 0 }) server
      if failed then { fed with link := disableUart fed.link } else fed
    else server
  | .writable transport =>
    if server.link.uart.isOpen then
      match flushUart server.link transport with
      | (flushed, true) => { server with link := flushed }
      | (flushed, false) => { server with link := disableUart flushed }
    else server
  | .uartFailed => { server with link := disableUart server.link }
  | .periodic work => periodic codec table server work

/-- Handle events one after another. -/
def run (events : List (Event Message)) : Server Message Status :=
  events.foldl (handle codec table) server

end MavlinkServer
