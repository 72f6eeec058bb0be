/-
This file models the capture of still pictures by the MAVLink server. A command takes one picture
at once and may leave a sequence that the periodic step goes on with: how many pictures remain, the
index of the next one, the interval, and the time before which it is not taken. A negative number
of remaining pictures stands for a sequence without an end.
-/

import CameraGimbal.Pacing
import CameraGimbal.SinglePrecision

namespace ImageCapture

/-- The messages to every peer after an attempt or a stop, with what they say of the capture. -/
inductive Broadcast where
  | imageCaptured (imageIndex : Int32) (captureResult : Int)
  | captureStatus (imageInterval : Float32) (imageStatus : Nat) (imageCount : UInt32)

/-- One call of `capture_one`, at a reading of the clock. -/
structure Attempt where
  index : Int32
  time : Nat
  success : Bool
deriving DecidableEq

/-- The part of `struct ca_mavlink_server` that captures use, and the rest of the system. The
attempts are a history that the code does not keep. -/
structure Server (Rest : Type) where
  nextCaptureMs : Nat
  imageCount : UInt32
  nextImageIndex : Int32
  capturesRemaining : Int32
  captureInterval : Float32
  rest : Rest
  sent : List Broadcast
  attempts : List Attempt

/-- `MAV_RESULT`. -/
inductive Result where
  | accepted
  | failed
  | denied
deriving DecidableEq

/-- The parameters of `MAV_CMD_IMAGE_START_CAPTURE`. -/
structure Request where
  interval : Float32
  count : Float32
  index : Float32

variable {Rest : Type}

def broadcastCaptureStatus (server : Server Rest) : Server Rest :=
  { server with
    sent := server.sent ++ [.captureStatus server.captureInterval
      (if server.capturesRemaining ≠ 0 then 1 else 0) server.imageCount] }

variable (capturePhoto : Rest → Rest × Bool) (server : Server Rest)

/-- `capture_one`, at a reading of the clock. -/
def captureOne (now : Nat) (index : Int32) : Server Rest × Result :=
  let (rest, success) := capturePhoto server.rest
  (broadcastCaptureStatus { server with
    rest := rest
    imageCount := if success then server.imageCount + 1 else server.imageCount
    sent := server.sent ++ [.imageCaptured index (if success then 1 else -1)]
    attempts := server.attempts ++ [⟨index, now, success⟩] },
   if success then .accepted else .failed)

/-- `(int32_t)`, towards zero. A value that does not fit, for which C does not say what the
conversion gives, is clamped as the processor does. -/
def toInt32 (x : Float32) : Int32 := x.toModel.toInt32

/-- The number of pictures a request asks for; 0 stands for no end. -/
def Request.pictures (request : Request) : Int32 :=
  if request.count.isFinite then toInt32 request.count else 1

/-- The index of the first picture. -/
def startIndex (server : Server Rest) (request : Request) : Int32 :=
  if request.index.isFinite && decide (0 < request.index) then toInt32 request.index
  else server.nextImageIndex

/-- The interval, at least a tenth of a second. -/
def Request.raised (request : Request) : Float32 :=
  if request.interval < 0.1 then 0.1 else request.interval

/-- `(uint64_t)(server->capture_interval_s * 1000.0f)`. -/
def milliseconds (interval : Float32) : Nat := (interval * 1000).toUInt64.toNat

/-- The branch for `MAV_CMD_IMAGE_START_CAPTURE` of `handle_camera_command`. -/
def imageStartCapture (request : Request) (now : Nat) : Server Rest × Result :=
  let count := request.pictures
  let index := startIndex server request
  if count < 0 ∨ request.interval.isFinite = false ∨ request.interval < 0 then
    (server, .denied)
  else if count = 1 then
    captureOne capturePhoto { server with
      nextImageIndex := index + 1
      capturesRemaining := 0
      captureInterval := 0 } now index
  else
    captureOne capturePhoto { server with
      nextImageIndex := index + 1
      captureInterval := request.raised
      capturesRemaining := if count = 0 then -1 else count - 1
      nextCaptureMs := now + milliseconds request.raised } now index

/-- The branch for `MAV_CMD_IMAGE_STOP_CAPTURE`. -/
def imageStopCapture (server : Server Rest) : Server Rest :=
  broadcastCaptureStatus { server with capturesRemaining := 0, captureInterval := 0 }

/-- `if (server->captures_remaining > 0) server->captures_remaining--;`. -/
def countDown (server : Server Rest) : Server Rest :=
  if 0 < server.capturesRemaining then
    { server with capturesRemaining := server.capturesRemaining - 1 }
  else server

/-- The time of the next picture, when there is one. -/
def schedule (server : Server Rest) (now : Nat) : Server Rest :=
  if server.capturesRemaining ≠ 0 then
    { server with nextCaptureMs := now + milliseconds server.captureInterval }
  else { server with captureInterval := 0 }

/-- The part of `ca_mavlink_server_periodic` that captures. -/
def periodic (now : Nat) : Server Rest :=
  if server.capturesRemaining ≠ 0 ∧ server.nextCaptureMs ≤ now then
    schedule (countDown (captureOne capturePhoto
      { server with nextImageIndex := server.nextImageIndex + 1 } now server.nextImageIndex).1) now
  else server

/-- What happens to the server. Every other message, and every other part of the periodic step,
leaves the fields of the capture alone, but may send messages of the same kinds. -/
inductive Event (Rest : Type) where
  | imageStart (request : Request) (now : Nat)
  | imageStop
  | periodic (now : Nat)
  | other (change : Rest → Rest) (messages : List Broadcast)

def step : Event Rest → Server Rest
  | .imageStart request now => (imageStartCapture capturePhoto server request now).1
  | .imageStop => imageStopCapture server
  | .periodic now => ImageCapture.periodic capturePhoto server now
  | .other change messages =>
    { server with rest := change server.rest, sent := server.sent ++ messages }

def run (events : List (Event Rest)) : Server Rest :=
  events.foldl (step capturePhoto) server

/-- A message that neither starts nor stops a capture, or a periodic step. -/
def Event.isQuiet : Event Rest → Bool
  | .imageStart .. => false
  | .imageStop => false
  | .periodic _ => true
  | .other .. => true

/-- The readings of the clock in the periodic steps of a run. -/
def clocks (events : List (Event Rest)) : List Nat :=
  events.filterMap fun
    | .periodic now => some now
    | _ => none

end ImageCapture
