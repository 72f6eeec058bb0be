/-
This file models the XFRobot server: the check of a command, the reply to it, and one update, which
accepts a connection, answers up to eight datagrams and then gives every TCP client a turn. In a
turn the reply that is pending is sent first; only when none of it is left are bytes received and
the frames at the front of the buffer handled, up to the first one that is answered.

What the server calls of the backend and of the media layer is a parameter. Its angles are the
16-bit words of the wire, so that the conversions between them and radians belong to it too.
-/

import CameraGimbal.Siyi

namespace Xfrobot

open Framing Siyi

/-- `CLIENTS`. -/
def clients : Nat := 4

/-- `MAX_PACKET`. -/
def maxPacket : Nat := 256

def replyLength : Nat := 73

def maxDatagrams : Nat := 8

/-! ### Commands -/

/-- The angles of the gimbal, as they are sent. -/
structure Attitude where
  roll : UInt16
  pitch : UInt16
  yaw : UInt16

/-- What is called of the backend and of the media layer. A call that changes something says
whether it succeeded. -/
structure Devices (World : Type) where
  setNeutral : World → World × Bool
  setAngles : World → Attitude → World × Bool
  lookDown : World → Attitude → World × Bool
  setRecording : World → Bool → World × Bool
  attitude : World → Option Attitude
  zoom : World → UInt16
  recording : World → Bool

/-- The check of a command: its length, the sync bytes, the version and the CRC. -/
def accepts (data : Bytes) : Bool :=
  72 ≤ data.length && data.length ≤ maxPacket && byteAt data 0 == 0xa8 && byteAt data 1 == 0xe5 &&
    (getU16le data 2).toNat == data.length && byteAt data 4 == 2 && crc16 data == 0

variable {World : Type} (devices : Devices World)

/-- An order, and whether it succeeded. Manual control blocks the orders that move the gimbal. -/
def perform (manualControl : Bool) (world : World) (data : Bytes) : World × Bool :=
  let order := byteAt data 69
  if manualControl && (order == 0x03 || order == 0x10 || order == 0x13) then (world, false)
  else if order = 0 then (world, true)
  else if order = 0x03 then devices.setNeutral world
  else if order = 0x10 then
    if byteAt data 11 &&& 4 = 0 then (world, true)
    else devices.setAngles world
      { roll := getU16le data 5, pitch := getU16le data 7, yaw := getU16le data 9 }
  else if order = 0x13 then
    match devices.attitude world with
    | some attitude => devices.lookDown world attitude
    | none => (world, false)
  else if order = 0x21 then
    if data.length = 73 ∧ byteAt data 70 ≤ 1 then devices.setRecording world (byteAt data 70 != 0)
    else (world, false)
  else (world, false)

def put16 (output : Bytes) (index : Nat) (word : UInt16) : Bytes :=
  (output.set index word.toUInt8).set (index + 1) (word >>> (8 : UInt16)).toUInt8

/-- The angles of a reply, or the flag that there are none. -/
def putAttitude (output : Bytes) : Option Attitude → Bytes
  | some attitude =>
    put16 (put16 (put16 (put16 (put16 output 12 attitude.pitch) 14 attitude.roll) 16 attitude.yaw)
      18 attitude.roll) 20 attitude.pitch
  | none => put16 output 41 ((1 : UInt16) <<< (7 : UInt16))

/-- The reply to an order. -/
def answer (world : World) (order : UInt8) (done : Bool) : Bytes :=
  let blank := List.replicate replyLength 0
  let head := ((put16 ((blank.set 0 0x8a).set 1 0x5e) 2 73).set 4 2).set 5 0x10
  let posed := (putAttitude head (devices.attitude world)).set 37 1
  let zoomed := put16 posed 59 (devices.zoom world)
  let recorded := put16 zoomed 64 (if devices.recording world then 16 else 0)
  let body := (recorded.set 69 order).set 70 (if done then 0 else 1)
  let crc := crc16 (body.take 71)
  (body.set 71 (crc >>> (8 : UInt16)).toUInt8).set 72 crc.toUInt8

/-- A command that passes the check is performed and answered. -/
def reply (manualControl : Bool) (world : World) (data : Bytes) :
    Option (World × Bytes) :=
  if accepts data then
    let (next, done) := perform devices manualControl world data
    some (next, answer devices next (byteAt data 69) done)
  else none

/-! ### The state -/

/-- `struct client`: the bytes received and not consumed, and the reply with how much of it has
been sent and how much has not. -/
structure Client where
  isOpen : Bool
  input : Bytes
  output : Bytes
  sent : Nat
  pending : Nat

/-- What has happened to the connection of a client since it was accepted. Nothing in the server
reads it. -/
structure History where
  received : Bytes
  framed : List Bytes
  answers : List (Bytes × Bytes)
  written : Bytes
  spaces : List Nat

structure Slot where
  client : Client
  history : History

structure Server (World : Type) where
  tcp : Bool
  udp : Bool
  manualControl : Bool
  slots : Fin clients → Slot
  world : World

/-- A client after `close_client`. -/
def Client.closed : Client :=
  { isOpen := false, input := [], output := [], sent := 0, pending := 0 }

def History.fresh : History :=
  { received := [], framed := [], answers := [], written := [], spaces := [] }

/-- The server after `ca_xfrobot_server_open`, with the sockets that could be opened. -/
def start (tcp udp : Bool) (world : World) : Server World where
  tcp := tcp
  udp := udp
  manualControl := false
  slots := fun _ => { client := .closed, history := .fresh }
  world := world

/-! ### The turn of a client -/

/-- The result of a `send`. -/
inductive Sent where
  | took (count : Nat)
  | again
  | failed

/-- The result of a `recv`, or the bytes that it can choose from. -/
inductive Received where
  | bytes (first : UInt8) (rest : Bytes)
  | again
  | ended
  | failed

structure Io where
  sent : Sent
  received : Received

def Slot.close (slot : Slot) : Slot := { slot with client := .closed }

/-- Bytes of the pending reply have been sent. -/
def Slot.wrote (slot : Slot) (count : Nat) : Slot where
  client := { slot.client with
    sent := slot.client.sent + count, pending := slot.client.pending - count }
  history := { slot.history with
    written := slot.history.written ++ (slot.client.output.drop slot.client.sent).take count }

/-- Bytes have been received. -/
def Slot.took (slot : Slot) (data : Bytes) : Slot where
  client := { slot.client with input := slot.client.input ++ data }
  history := { slot.history with received := slot.history.received ++ data }

/-- The first byte is dropped. -/
def Slot.drop (slot : Slot) : Slot :=
  { slot with client := { slot.client with input := slot.client.input.tail } }

/-- The frame at the front is removed. -/
def Slot.consume (slot : Slot) (length : Nat) : Slot where
  client := { slot.client with input := slot.client.input.drop length }
  history := { slot.history with
    framed := slot.history.framed ++ [slot.client.input.take length] }

/-- A reply is pending. -/
def Slot.answered (slot : Slot) (command output : Bytes) : Slot where
  client := { slot.client with output, sent := 0, pending := replyLength }
  history := { slot.history with answers := slot.history.answers ++ [(command, output)] }

/-- The length that a frame at the front has by its third and fourth byte. -/
def frameLength (input : Bytes) : Nat := (getU16le input 2).toNat

/-- What the loop does with the bytes at the front. -/
def verdict (input : Bytes) : Verdict :=
  if input.length < 4 then .wait
  else if byteAt input 0 ≠ 0xa8 ∨ byteAt input 1 ≠ 0xe5 ∨ frameLength input < 72 ∨
      maxPacket < frameLength input then .skip
  else if input.length < frameLength input then .wait
  else .frame (frameLength input)

/-- The loop over the buffer. A round consumes at least one byte, so that there are at most as many
rounds as bytes. -/
def parse (manualControl : Bool) : Nat → World → Slot → World × Slot
  | 0, world, slot => (world, slot)
  | rounds + 1, world, slot =>
    match verdict slot.client.input with
    | .wait => (world, slot)
    | .skip => parse manualControl rounds world slot.drop
    | .frame length =>
      let command := slot.client.input.take length
      match reply devices manualControl world command with
      | some (next, output) => (next, (slot.consume length).answered command output)
      | none => parse manualControl rounds world (slot.consume length)

/-- The second half of a turn: receive what there is room for, and handle the frames. -/
def receive (manualControl : Bool) (received : Received) (world : World) (slot : Slot) :
    World × Slot :=
  let space := maxPacket - slot.client.input.length
  let called :=
    { slot with history := { slot.history with spaces := slot.history.spaces ++ [space] } }
  match received with
  | .ended | .failed => (world, called.close)
  | .again => parse devices manualControl called.client.input.length world called
  | .bytes first rest =>
    let data := (first :: rest).take space
    if data.length = 0 then (world, called.close)
    else
      let filled := called.took data
      parse devices manualControl filled.client.input.length world filled

def turn (manualControl : Bool) (io : Io) (world : World) (slot : Slot) : World × Slot :=
  if slot.client.isOpen = false then (world, slot)
  else if slot.client.pending = 0 then receive devices manualControl io.received world slot
  else
    match io.sent with
    | .again => (world, slot)
    | .failed => (world, slot.close)
    | .took count =>
      let sent := min count slot.client.pending
      if sent = 0 then (world, slot.close)
      else
        let after := slot.wrote sent
        if after.client.pending = 0 then receive devices manualControl io.received world after
        else (world, after)

/-! ### The update -/

/-- What an update finds: whether there is a connection to accept, the datagrams, and what the
calls for each client give. -/
structure Update where
  manualControl : Bool
  connection : Bool
  datagrams : List Bytes
  io : Fin clients → Io

def Server.setSlot (server : Server World) (index : Fin clients) (slot : Slot) : Server World :=
  { server with slots := Function.update server.slots index slot }

/-- A connection takes the first slot that is free, and is closed when there is none. -/
def accept (server : Server World) (connection : Bool) : Server World :=
  if server.tcp && connection then
    match (List.finRange clients).find? fun index => !(server.slots index).client.isOpen with
    | some index =>
      server.setSlot index { client := { Client.closed with isOpen := true }, history := .fresh }
    | none => server
  else server

/-- A datagram is cut to one byte more than a packet can have. Its reply goes to the sender. -/
def serveDatagram (server : Server World) (datagram : Bytes) : Server World :=
  match reply devices server.manualControl server.world (datagram.take (maxPacket + 1)) with
  | some (next, _) => { server with world := next }
  | none => server

def serveDatagrams (server : Server World) (datagrams : List Bytes) : Server World :=
  if server.udp then (datagrams.take maxDatagrams).foldl (serveDatagram devices) server else server

def serveClient (io : Fin clients → Io) (server : Server World) (index : Fin clients) :
    Server World :=
  let (next, slot) := turn devices server.manualControl (io index) server.world (server.slots index)
  { server.setSlot index slot with world := next }

/-- `ca_xfrobot_server_update`. -/
def update (server : Server World) (input : Update) : Server World :=
  let accepted := accept { server with manualControl := input.manualControl } input.connection
  (List.finRange clients).foldl (serveClient devices input.io)
    (serveDatagrams devices accepted input.datagrams)

def run (server : Server World) (inputs : List Update) : Server World :=
  inputs.foldl (update devices) server

end Xfrobot
