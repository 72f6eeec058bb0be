/-
This file models the MAVFTP service that hands out the camera definition: its four sessions, and
the reply to a request, written byte by byte into its 251 bytes.

A copy that would leave a buffer has no result. The definition is generated before the server
answers requests and never changes; its length fits the 32-bit numbers of the protocol.
-/

import CameraGimbal.CText
import CameraGimbal.SessionSlots
import CameraGimbal.Siyi

namespace CameraFtp

open CText SessionSlots
open Siyi (byteAt)

/-! ### Requests -/

/-- The bytes of a request or of a reply. -/
abbrev payloadSize : Nat := 251

/-- Whom a session belongs to, and its id. -/
structure SessionKey where
  system : UInt8
  component : UInt8
  id : UInt8
  deriving DecidableEq, Repr

/-- The sessions, with the time of their last use in milliseconds. -/
abbrev Sessions := Table 4 SessionKey UInt64

/-- Before the first request, no session is active. -/
def Sessions.initial : Sessions :=
  fun _ => { key := { system := 0, component := 0, id := 0 }, active := false, lastUse := 0 }

/-- A `FILE_TRANSFER_PROTOCOL` message from a client, at a time. `handle_camera_ftp` passes on
what is addressed to the camera, with the system and component of its sender. -/
structure Request where
  system : UInt8
  component : UInt8
  now : UInt64
  payload : Bytes
  sized : payload.length = payloadSize

def Request.session (request : Request) : UInt8 := byteAt request.payload 2

def Request.opcode (request : Request) : UInt8 := byteAt request.payload 3

def Request.size (request : Request) : UInt8 := byteAt request.payload 4

def get32 (data : Bytes) (index : Nat) : UInt32 :=
  (byteAt data index).toUInt32 ||| ((byteAt data (index + 1)).toUInt32 <<< 8) |||
    ((byteAt data (index + 2)).toUInt32 <<< 16) ||| ((byteAt data (index + 3)).toUInt32 <<< 24)

def put32 (value : UInt32) : Bytes :=
  [value.toUInt8, (value >>> 8).toUInt8, (value >>> 16).toUInt8, (value >>> 24).toUInt8]

def Request.offset (request : Request) : UInt32 := get32 request.payload 8

def Request.key (request : Request) : SessionKey :=
  { system := request.system, component := request.component, id := request.session }

/-- The session is one of the client that sent the request. -/
def Request.owns (request : Request) (key : SessionKey) : Bool :=
  decide (key.system = request.system) && decide (key.component = request.component)

structure Definition where
  text : Bytes
  small : text.length < 2 ^ 32

/-! ### Buffers -/

/-- `memcpy` to an index of a buffer. -/
def write (buffer : Bytes) (index : Nat) (data : Bytes) : Option Bytes :=
  if index + data.length ≤ buffer.length then
    some (buffer.take index ++ data ++ buffer.drop (index + data.length))
  else none

/-- What `memcpy` reads from an index of a buffer. -/
def copied (buffer : Bytes) (index count : Nat) : Option Bytes :=
  if index + count ≤ buffer.length then some ((buffer.drop index).take count) else none

def requestPath (request : Request) : Option Text := do
  let data ← copied request.payload 12 request.size.toNat
  let path ← write (List.replicate 240 0) 0 data
  some (cString path)

/-- `CA_CAMERA_DEFINITION_PATH`. -/
def definitionPath : Text := bytes "/camera.xml"

/-! ### The operations -/

/-- What an operation leaves: the sessions, the reply, and the error, if any. -/
structure Done where
  sessions : Sessions
  response : Bytes
  error : UInt8

/-- `ResetSessions`. -/
def resetSessions (sessions : Sessions) (request : Request) (response : Bytes) : Done :=
  { sessions := endWhere sessions fun slot => request.owns slot.key, response, error := 0 }

variable (definition : Definition) (sessions : Sessions) (request : Request) (response : Bytes)

/-- `ListDirectory`, with the modification time or without. -/
def listDirectory : Option Done := do
  let path ← requestPath request
  if path ≠ [] ∧ path ≠ bytes "/" ∧ path ≠ bytes "." ∧ path ≠ bytes "./" then
    some { sessions, response, error := 10 }
  else if request.offset ≠ 0 then some { sessions, response, error := 6 }
  else
    let entry := bytes "F" ++ definitionPath.drop 1 ++ bytes "\t" ++
      printNat definition.text.length ++ (if request.opcode = 16 then bytes "\t0" else [])
    -- `snprintf` ends what fits with a zero
    let response ← write response 12 (entry.take 238 ++ [0])
    if 239 ≤ entry.length then some { sessions, response, error := 3 }
    else
      let response ← write response 4 [UInt8.ofNat (entry.length + 1)]
      some { sessions, response, error := 0 }

/-- `OpenFileRO`. -/
def openFileRO : Option Done := do
  let path ← requestPath request
  if path ≠ definitionPath ∧ path ≠ definitionPath.drop 1 then
    some { sessions, response, error := 10 }
  else
    match place sessions request.key with
    | none => some { sessions, response, error := 5 }
    | some slot =>
      let response ← write response 4 [4]
      let response ← write response 12 (put32 (UInt32.ofNat definition.text.length))
      some
        { sessions := Function.update sessions slot
            { key := request.key, active := true, lastUse := request.now }
          response
          error := 0 }

/-- `TerminateSession`. -/
def terminateSession (sessions : Sessions) (request : Request) (response : Bytes) : Done :=
  match lookup sessions request.key with
  | some slot =>
    { sessions := Function.update sessions slot { sessions slot with active := false }, response
      error := 0 }
  | none => { sessions, response, error := 4 }

/-- `ReadFile` and `BurstReadFile`. -/
def readFile : Option Done :=
  match lookup sessions request.key with
  | none => some { sessions, response, error := 4 }
  | some slot =>
    if request.size = 0 then some { sessions, response, error := 3 }
    else if definition.text.length ≤ request.offset.toNat then
      some { sessions, response, error := 6 }
    else do
      let left := definition.text.length - request.offset.toNat
      let count := if request.size.toNat < left then request.size.toNat else left
      let response ← write response 4 [UInt8.ofNat count]
      let response ← write response 6 [if request.opcode = 15 then 1 else 0]
      let data ← copied definition.text request.offset.toNat count
      let response ← write response 12 data
      some
        { sessions := Function.update sessions slot
            { sessions slot with lastUse := request.now }
          response
          error := 0 }

/-- The operation that a request asks for. -/
def operate : Option Done :=
  let opcode := request.opcode
  if 239 < request.size then some { sessions, response, error := 3 }
  else if opcode = 2 then some (resetSessions sessions request response)
  else if opcode = 3 ∨ opcode = 16 then listDirectory definition sessions request response
  else if opcode = 4 then openFileRO definition sessions request response
  else if opcode = 1 then some (terminateSession sessions request response)
  else if opcode = 5 ∨ opcode = 15 then readFile definition sessions request response
  else some { sessions, response, error := 7 }

/-! ### The reply -/

/-- A session that was not used for a minute. -/
def idle (now : UInt64) (slot : Slot SessionKey UInt64) : Bool :=
  decide (60000 < now - slot.lastUse)

/-- The sessions that a request finds. -/
def expire (now : UInt64) (sessions : Sessions) : Sessions := endWhere sessions (idle now)

/-- The zeroed reply with its sequence number and what it takes over from the request. -/
def blankReply (request : Request) : Option Bytes := do
  let sequence :=
    ((byteAt request.payload 0).toUInt16 ||| ((byteAt request.payload 1).toUInt16 <<< 8)) + 1
  let response := List.replicate payloadSize 0
  let response ← write response 0 [sequence.toUInt8, (sequence >>> 8).toUInt8]
  let response ← write response 2 [request.session]
  let response ← write response 3 [128]
  let response ← write response 5 [request.opcode]
  let offset ← copied request.payload 8 4
  write response 8 offset

/-- `ca_camera_ftp_reply`. -/
def reply (definition : Definition) (sessions : Sessions) (request : Request) :
    Option (Sessions × Bytes) := do
  let response ← blankReply request
  let done ← operate definition (expire request.now sessions) request response
  if done.error = 0 then some (done.sessions, done.response)
  else
    let response ← write done.response 3 [129]
    let response ← write response 4 [1]
    let response ← write response 12 [done.error]
    some (done.sessions, response)

/-- The replies to requests one after another. -/
def run (definition : Definition) (sessions : Sessions) :
    List Request → Option (Sessions × List Bytes)
  | [] => some (sessions, [])
  | request :: rest => do
    let (next, response) ← reply definition sessions request
    let (last, responses) ← run definition next rest
    some (last, response :: responses)

end CameraFtp
