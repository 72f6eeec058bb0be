/-
This file models who the MAVLink server is and whom it listens to: its own system id, the autopilot
that it has found, and what it takes from telemetry, on top of the connections and with every
message that it handles.
-/

import CameraGimbal.VehicleTelemetry

namespace MavlinkIdentity

open MavlinkLink MavlinkServer OutputQueue Vehicle List

/-- A message that was received: telemetry, which nothing is sent in answer to, or another one. -/
inductive Report (Message : Type) where
  | telemetry (sender : Requester) (message : Telemetry) (clocks : Clocks)
  | other (received : Received Message)

variable {Message Status : Type}

/-- The message as the connections see it. -/
def Report.received : Report Message → Received Message
  | .telemetry sender _ _ => { incoming := { sender, content := .other }, responses := [] }
  | .other received => received

/-- Something that was taken, who sent it, and who was the autopilot then. -/
structure Entry where
  sender : Requester
  autopilot : Requester
  datum : Datum
  deriving DecidableEq

/-- The server with what it knows of the vehicle. -/
structure Server (Message Status : Type) where
  base : MavlinkServer.Server Message Status
  vehicle : Vehicle.State
  /-- The messages that were handled, for the history. -/
  heard : List Incoming
  /-- What was taken from them, for the history. -/
  taken : List Entry

namespace Server

def systemId (server : Server Message Status) : UInt8 := server.base.link.systemId

/-- The system and the component of the autopilot, zero before it is known. -/
def autopilot (server : Server Message Status) : Requester :=
  { system := server.base.autopilotSystemId, component := server.base.autopilotComponentId }

end Server

/-- The server before anyone has connected, with the system id of the configuration. -/
def start (support uart : Bool) (systemId cameraComponentId : UInt8) (status : Status) :
    Server Message Status where
  base := MavlinkServer.start support uart systemId cameraComponentId status
  vehicle := State.empty
  heard := []
  taken := []

variable (codec : Codec Message Status) (trigonometry : Trigonometry)

/-- What the handlers take from a message, when it is telemetry. -/
def data (server : Server Message Status) : Report Message → List Datum
  | .telemetry sender message clocks =>
    handleTelemetry trigonometry server.autopilot
      (fun system component => targetMatches server.base system component gimbalComponentId)
      server.vehicle clocks sender message
  | .other _ => []

/-- The handlers of telemetry in `process_message`, which are not reached without a system id. -/
def takeTelemetry (server : Server Message Status) (report : Report Message) :
    Server Message Status :=
  if server.systemId = 0 then server
  else
    let data := data trigonometry server report
    { server with
      vehicle := data.foldl State.take server.vehicle
      taken := server.taken ++ data.map fun datum =>
        { sender := report.received.incoming.sender, autopilot := server.autopilot, datum } }

/-- A message goes through the connections by a function of theirs, and its telemetry is taken. -/
def handleReport
    (step : MavlinkServer.Server Message Status → Received Message →
      MavlinkServer.Server Message Status)
    (server : Server Message Status) (report : Report Message) : Server Message Status :=
  takeTelemetry trigonometry
    { server with
      base := step server.base report.received
      heard := server.heard ++ [report.received.incoming] } report

/-- `feed`, for one message. -/
def feed (destination : Destination) : Server Message Status → Report Message →
    Server Message Status :=
  handleReport trigonometry (MavlinkServer.feed codec destination)

/-- A message from the support proxy. -/
structure Relayed (Message : Type) where
  frame : Bytes
  network : Network
  report : Report Message

def handleProxied (server : Server Message Status) (relayed : Relayed Message) :
    Server Message Status :=
  handleReport trigonometry
    (fun base received => MavlinkServer.handleProxied codec base
      { frame := relayed.frame, network := relayed.network, received }) server relayed.report

/-- What happens: a batch of messages from a transport, a periodic step, or an event of the
connections without a message. -/
inductive Event (Message : Type) where
  | accept (polled : Bool) (camera gimbal : Message × Network)
  | hangUp (slot : Slot)
  | read (slot : Slot) (reports : List (Report Message)) (ends : Bool)
  | readUdp (address : Address) (reports : List (Report Message))
  | readUart (reports : List (Report Message)) (failed : Bool)
  | writable (transport : Transport)
  | uartFailed
  | periodic (relayed : List (Relayed Message)) (before : List (Message × Network))
      (lists : Slot → ListStep Message) (after : List (Message × Network))

def Event.base : Event Message → MavlinkServer.Event Message
  | .accept polled camera gimbal => .accept polled camera gimbal
  | .hangUp slot => .hangUp slot
  | .read slot reports ends => .read slot (reports.map Report.received) ends
  | .readUdp address reports => .readUdp address (reports.map Report.received)
  | .readUart reports failed => .readUart (reports.map Report.received) failed
  | .writable transport => .writable transport
  | .uartFailed => .uartFailed
  | .periodic relayed before lists after =>
    .periodic
      { proxied := relayed.map fun message =>
          { frame := message.frame
            network := message.network
            received := message.report.received }
        before, lists, after }

variable (table : ParameterTable)

def handle (server : Server Message Status) (event : Event Message) : Server Message Status :=
  match event with
  | .read slot reports ends =>
    if (server.base.link.clients slot).isOpen then
      let destination := { route := .tcp slot, connection := server.base.connection slot }
      let fed := reports.foldl (feed codec trigonometry destination) server
      if ends then { fed with base := close fed.base slot } else fed
    else server
  | .readUdp address reports =>
    if server.base.link.udpOpen then
      reports.foldl (feed codec trigonometry { route := .udp address, connection := 0 })
        { server with
          base :=
            { server.base with link := { server.base.link with lastUdp := some address } } }
    else server
  | .readUart reports failed =>
    if server.base.link.uart.isOpen then
      let fed := reports.foldl (feed codec trigonometry { route := .uart, connection := 0 }) server
      if failed then
        { fed with base := { fed.base with link := disableUart fed.base.link } }
      else fed
    else server
  | .periodic relayed before lists after =>
    let handled := relayed.foldl (handleProxied codec trigonometry) server
    { handled with
      base := MavlinkServer.periodic codec table handled.base
        { proxied := [], before, lists, after } }
  | _ => { server with base := MavlinkServer.handle codec table server.base event.base }

/-- Handle events one after another. -/
def run (server : Server Message Status) (events : List (Event Message)) :
    Server Message Status :=
  events.foldl (handle codec trigonometry table) server

/-! ### The connections below -/

variable (server : Server Message Status)

theorem takeTelemetry_base (report : Report Message) :
    (takeTelemetry trigonometry server report).base = server.base := by
  unfold takeTelemetry
  split
  · rfl
  · rfl

theorem handleReport_base (step : MavlinkServer.Server Message Status → Received Message →
      MavlinkServer.Server Message Status)
    (server : Server Message Status) (report : Report Message) :
    (handleReport trigonometry step server report).base = step server.base report.received :=
  takeTelemetry_base ..

theorem foldl_feed_base (destination : Destination) (server : Server Message Status)
    (reports : List (Report Message)) :
    (reports.foldl (feed codec trigonometry destination) server).base =
      (reports.map Report.received).foldl (MavlinkServer.feed codec destination) server.base := by
  induction reports generalizing server with
  | nil => rfl
  | cons report rest hypothesis =>
    rw [foldl_cons, hypothesis, map_cons, foldl_cons]
    congr 1
    exact handleReport_base ..

theorem foldl_handleProxied_base (relayed : List (Relayed Message)) :
    (relayed.foldl (handleProxied codec trigonometry) server).base =
      (relayed.map fun message =>
        ({ frame := message.frame
           network := message.network
           received := message.report.received } : Proxied Message)).foldl
        (MavlinkServer.handleProxied codec) server.base := by
  induction relayed generalizing server with
  | nil => rfl
  | cons message rest hypothesis =>
    rw [foldl_cons, hypothesis, map_cons, foldl_cons]
    congr 1
    exact handleReport_base ..

theorem handle_base (event : Event Message) :
    (handle codec trigonometry table server event).base =
      MavlinkServer.handle codec table server.base event.base := by
  cases event with
  | accept polled camera gimbal => rfl
  | hangUp slot => rfl
  | writable transport => rfl
  | uartFailed => rfl
  | read slot reports ends =>
    simp only [handle, Event.base, MavlinkServer.handle]
    split
    · split
      · simp only [foldl_feed_base]
      · rw [foldl_feed_base]
    · rfl
  | readUdp address reports =>
    simp only [handle, Event.base, MavlinkServer.handle]
    split
    · rw [foldl_feed_base]
    · rfl
  | readUart reports failed =>
    simp only [handle, Event.base, MavlinkServer.handle]
    split
    · split
      · simp only [foldl_feed_base]
      · rw [foldl_feed_base]
    · rfl
  | periodic relayed before lists after =>
    simp only [handle, Event.base, MavlinkServer.handle, MavlinkServer.periodic,
      foldl_handleProxied_base, foldl_nil]

theorem run_base (events : List (Event Message)) :
    (run codec trigonometry table server events).base =
      MavlinkServer.run codec table server.base (events.map Event.base) := by
  unfold run MavlinkServer.run
  induction events generalizing server with
  | nil => rfl
  | cons event rest hypothesis =>
    rw [foldl_cons, hypothesis, map_cons, foldl_cons, handle_base]

end MavlinkIdentity
