/-
This file models the commands that the MAVLink server takes for the camera and the gimbal:
`handle_command_long`, `handle_camera_command`, `set_zoom` and `set_focus`. The parameters of a
command are numbers in single precision that the sender may choose freely, and many of them are
converted to integers. A conversion or an addition whose result the type does not hold has no
result here, and neither has the command then.

What the backend and the media layer answer is a parameter.
-/

import CameraGimbal.Config
import CameraGimbal.FloatOrder
import CameraGimbal.ImageCapture

namespace CameraCommands

open Config SinglePrecision

/-- The parameters of a command are numbered from zero to six. -/
instance neZeroParameters : NeZero 7 := ⟨by decide⟩

/-! ### Targets -/

/-- `APCAM_HAVE_PHOTO`. -/
def havePhoto : Target → Bool
  | .z1mini => false
  | _ => true

/-- `APCAM_HAVE_ZOOM`. -/
def haveZoom : Target → Bool
  | .z1mini => false
  | _ => true

/-- `APCAM_HAVE_FOCUS`. -/
def haveFocus : Target → Bool
  | .mt11 => true
  | _ => false

/-- `APCAM_ZOOM_NATIVE_RATE`. -/
def zoomNativeRate : Target → Bool
  | .zr10 => true
  | _ => false

/-- `APCAM_ZOOM_CONTROL_MAX`. -/
def zoomControlMax : Target → Float32
  | .a8 => 6
  | .zr10 | .mt11 => 10
  | .z1mini => 8

/-- `APCAM_NUM_STREAMS`. -/
def numStreams : Nat := 2

/-! ### Numbers -/

/-- `(unsigned)` and `(uint32_t)`. -/
def toUInt32 (x : Float32) : Option Int := convert 0 4294967295 x

/-- `(int32_t)`. -/
def toInt32 (x : Float32) : Option Int := convert (-2147483648) 2147483647 x

/-- `(uint8_t)`. -/
def toUInt8 (x : Float32) : Option Int := convert 0 255 x

/-- `(uint64_t)`. -/
def toUInt64 (x : Float32) : Option Int := convert 0 18446744073709551615 x

/-- A sum, when the type holds it. -/
def inRange (low high number : Int) : Option Int :=
  if low ≤ number ∧ number ≤ high then some number else none

/-- `floorf` of a finite number. -/
def floorf (x : Float32) : Float32 := .ofModel (.ofInt ⌊value x⌋)

def nan : Float32 := .ofBits 0x7fc00000

/-! ### The server -/

/-- `MAV_CMD`, with the commands that are not served taken together. -/
inductive Command where
  | requestMessage
  | requestAutopilotCapabilities
  | requestCameraInformation
  | requestCameraSettings
  | requestStorageInformation
  | requestCameraCaptureStatus
  | requestVideoStreamInformation
  | requestVideoStreamStatus
  | setCameraMode
  | setCameraZoom
  | setCameraFocus
  | setCameraSource
  | imageStartCapture
  | imageStopCapture
  | videoStartCapture
  | videoStopCapture
  | videoStartStreaming
  | videoStopStreaming
  | other (command : UInt16)
  deriving DecidableEq

/-- `MAV_RESULT`. -/
inductive Result where
  | accepted
  | denied
  | unsupported
  | failed
  deriving DecidableEq

/-- What is sent down the route of a command. -/
inductive Reply where
  | protocolCapabilities
  | cameraInformation
  | cameraSettings
  | storageInformation
  | captureStatus
  | streamInformation (stream : Nat)
  | streamStatus (stream : Nat)
  | gimbalInformation
  | gimbalStatus
  | ack (component : UInt8) (command : Command) (result : Result)
  deriving DecidableEq

/-- What the backend and the media layer answer, and the clock. -/
structure Devices where
  zoom : Float32
  setZoom : Float32 → Bool
  setZoomRate : Float32 → Bool
  autofocus : Bool
  manualFocus : Int → Bool
  setFocusPercent : Float32 → Bool
  setThermalMain : Bool → Bool
  setRecording : Bool → Bool
  capturePhoto : Bool
  monotonicMs : Nat

/-- The part of `struct ca_mavlink_server` that commands use. The messages about captures, which
go to every peer, are in the part that captures use. -/
structure Server where
  systemId : UInt8
  cameraComponentId : UInt8
  capture : ImageCapture.Server Unit
  cameraMode : UInt8
  streamEnabled : Fin numStreams → Bool
  zoomRate : Float32
  focusPercent : Float32
  recordingStartedMs : Nat
  sent : List Reply

structure CommandLong where
  length : Nat
  targetSystem : UInt8
  targetComponent : UInt8
  command : Command
  params : Fin 7 → Float32

def gimbalComponentId : UInt8 := 154

def autopilotVersionId : Int := 148
def cameraInformationId : Int := 259
def cameraSettingsId : Int := 260
def storageInformationId : Int := 261
def cameraCaptureStatusId : Int := 262
def videoStreamInformationId : Int := 269
def videoStreamStatusId : Int := 270
def gimbalDeviceInformationId : Int := 283
def gimbalDeviceAttitudeStatusId : Int := 285

def send (server : Server) (replies : List Reply) : Server :=
  { server with sent := server.sent ++ replies }

def targetMatches (server : Server) (targetSystem targetComponent component : UInt8) : Bool :=
  (targetSystem == 0 || targetSystem == server.systemId) &&
    (targetComponent == 0 || targetComponent == component)

/-- Accepted when the call succeeds. -/
def succeeds (success : Bool) : Result := if success then .accepted else .failed

/-! ### Commands -/

def setZoom (target : Target) (devices : Devices) (server : Server) (type number : Float32) :
    Option (Server × Result) :=
  if !haveZoom target then some (server, .unsupported)
  else if !type.isFinite || !number.isFinite then some (server, .denied)
  else if type < 0 || 2 < type || !(floorf type == type) then some (server, .unsupported)
  else if !(type == 2) && (number < -1 || 1 < number) then some (server, .denied)
  else if zoomNativeRate target && type == 1 then
    some (server, succeeds (devices.setZoomRate number))
  else do
    let zoomType ← toUInt32 type
    if zoomType = 2 then
      if !number.isFinite || number < 0 || 100 < number then some (server, .denied)
      else
        let zoom := 1 + number * ((zoomControlMax target - 1) / 100)
        some ({ server with zoomRate := 0 }, succeeds (devices.setZoom zoom))
    else if zoomType = 1 then
      if !number.isFinite || number < -1 || 1 < number then some (server, .denied)
      else some ({ server with zoomRate := number }, .accepted)
    else if zoomType = 0 && number.isFinite then
      if number == 0 then some (server, .accepted)
      else
        let zoom := devices.zoom + (if number < 0 then -0.1 else 0.1)
        let zoom := if zoom < 1 then 1 else zoom
        let zoom := if zoomControlMax target < zoom then zoomControlMax target else zoom
        some (server, succeeds (devices.setZoom zoom))
    else some (server, .unsupported)

def setFocus (target : Target) (devices : Devices) (server : Server) (type number : Float32) :
    Option (Server × Result) :=
  if !haveFocus target then some (server, .unsupported)
  else do
    let focusType ← toUInt32 type
    if focusType = 4 ∨ focusType = 5 ∨ focusType = 6 then
      if devices.autofocus then some ({ server with focusPercent := nan }, .accepted)
      else some (server, .failed)
    else if focusType = 1 then
      let direction : Int := if 0.01 < number then 1 else if number < -0.01 then -1 else 0
      if !devices.manualFocus direction then some (server, .failed)
      else if direction ≠ 0 then some ({ server with focusPercent := nan }, .accepted)
      else some (server, .accepted)
    else if focusType = 2 then
      if !number.isFinite || number < 0 || 100 < number then some (server, .denied)
      else if !devices.setFocusPercent number then some (server, .failed)
      else some ({ server with focusPercent := number }, .accepted)
    else some (server, .unsupported)

/-- `send_stream_selection`: one stream, or all of them for zero. -/
def sendStreamSelection (server : Server) (reply : Nat → Reply) (stream : Int) : Option Server :=
  if (numStreams : Int) < stream then none
  else if stream = 0 then some (send server ((List.range numStreams).map fun i => reply (i + 1)))
  else some (send server [reply stream.toNat])

/-- What is sent of the streams, or the result when there is no such stream. -/
def selectStream (server : Server) (reply : Nat → Reply) (stream : Int) (otherwise : Result) :
    Server × Result :=
  match sendStreamSelection server reply stream with
  | some selected => (selected, .accepted)
  | none => (server, otherwise)

/-- `isfinite(params[1]) ? (unsigned)params[1] : 0U`. -/
def instanceOf (params : Fin 7 → Float32) : Option Int :=
  if (params 1).isFinite then toUInt32 (params 1) else some 0

/-- The branch for `MAV_CMD_REQUEST_MESSAGE`. -/
def requestMessage (server : Server) (params : Fin 7 → Float32) : Option (Server × Result) := do
  let requested ← toUInt32 (params 0)
  let stream ← instanceOf params
  if requested = autopilotVersionId then
    some (send server [.protocolCapabilities], .accepted)
  else if requested = cameraInformationId then some (send server [.cameraInformation], .accepted)
  else if requested = cameraSettingsId then some (send server [.cameraSettings], .accepted)
  else if requested = storageInformationId then
    some (send server [.storageInformation], .accepted)
  else if requested = cameraCaptureStatusId then some (send server [.captureStatus], .accepted)
  else if requested = videoStreamInformationId ∨ requested = videoStreamStatusId then
    let reply := if requested = videoStreamInformationId then Reply.streamInformation
      else Reply.streamStatus
    some (selectStream server reply stream .unsupported)
  else some (server, .unsupported)

/-- The branches for `MAV_CMD_REQUEST_VIDEO_STREAM_INFORMATION` and
`MAV_CMD_REQUEST_VIDEO_STREAM_STATUS`. -/
def requestStream (server : Server) (reply : Nat → Reply) (params : Fin 7 → Float32) :
    Option (Server × Result) := do
  let stream ← toUInt32 (params 0)
  some (selectStream server reply stream .denied)

/-- The branch for `MAV_CMD_SET_CAMERA_MODE`. -/
def setCameraMode (target : Target) (server : Server) (params : Fin 7 → Float32) :
    Option (Server × Result) :=
  if !(params 1).isFinite || (!(params 1 == 0) && !(params 1 == 1)) ||
      (!havePhoto target && params 1 == 0) then some (server, .unsupported)
  else do
    let mode ← toUInt8 (params 1)
    some (send { server with cameraMode := .ofNat mode.toNat } [.cameraSettings], .accepted)

/-- The branch for `MAV_CMD_SET_CAMERA_SOURCE`. -/
def setCameraSource (devices : Devices) (server : Server) (params : Fin 7 → Float32) :
    Option (Server × Result) := do
  let source ← toUInt32 (params 1)
  if source = 2 then some (server, succeeds (devices.setThermalMain true))
  else if source = 0 ∨ source = 1 then some (server, succeeds (devices.setThermalMain false))
  else some (server, .unsupported)

def captureOne (devices : Devices) (server : Server) (begun : ImageCapture.Server Unit)
    (index : Int) : Server × Result :=
  let (capture, result) := ImageCapture.captureOne (fun rest => (rest, devices.capturePhoto)) begun
    devices.monotonicMs (.ofInt index)
  ({ server with capture }, succeeds (result == .accepted))

/-- `isfinite(params[2]) ? (int32_t)params[2] : 1`. -/
def countOf (params : Fin 7 → Float32) : Option Int :=
  if (params 2).isFinite then toInt32 (params 2) else some 1

def givesIndex (params : Fin 7 → Float32) : Bool := (params 3).isFinite && 0 < params 3

/-- The index of the first picture: the one of the command or else the next one. -/
def indexOf (server : Server) (params : Fin 7 → Float32) : Option Int :=
  if givesIndex params then toInt32 (params 3) else some server.capture.nextImageIndex.toInt

/-- The branch for `MAV_CMD_IMAGE_START_CAPTURE`. -/
def imageStartCapture (devices : Devices) (server : Server) (params : Fin 7 → Float32) :
    Option (Server × Result) := do
  let count ← countOf params
  let index ← indexOf server params
  if count < 0 || !(params 1).isFinite || params 1 < 0 then some (server, .denied)
  else
    let next ← inRange (-2147483648) 2147483647 (index + 1)
    let begun := { server.capture with nextImageIndex := .ofInt next }
    if count = 1 then
      some (captureOne devices server { begun with capturesRemaining := 0, captureInterval := 0 }
        index)
    else
      let interval := if params 1 < 0.1 then 0.1 else params 1
      let wait ← toUInt64 (interval * 1000)
      let due ← inRange 0 18446744073709551615 (devices.monotonicMs + wait)
      some (captureOne devices server
        { begun with
          captureInterval := interval
          capturesRemaining := if count = 0 then -1 else .ofInt (count - 1)
          nextCaptureMs := due.toNat } index)

/-- The branches for `MAV_CMD_VIDEO_START_STREAMING` and `MAV_CMD_VIDEO_STOP_STREAMING`. -/
def switchStreaming (server : Server) (enabled : Bool) (params : Fin 7 → Float32) :
    Option (Server × Result) := do
  let stream ← toUInt32 (params 0)
  if stream = 0 then
    some (send { server with streamEnabled := fun _ => enabled } [.streamStatus 1], .accepted)
  else if stream ≤ numStreams then
    some (send
      { server with
        streamEnabled := fun index =>
          if (index : Int) = stream - 1 then enabled else server.streamEnabled index }
      [.streamStatus stream.toNat], .accepted)
  else some (server, .denied)

/-- The branches for `MAV_CMD_VIDEO_START_CAPTURE` and `MAV_CMD_VIDEO_STOP_CAPTURE`. -/
def switchRecording (devices : Devices) (server : Server) (recording : Bool) : Server × Result :=
  if !devices.setRecording recording then (server, .failed)
  else
    ({ server with
        recordingStartedMs :=
          if !recording then 0
          else if server.recordingStartedMs = 0 then devices.monotonicMs
          else server.recordingStartedMs
        capture := ImageCapture.broadcastCaptureStatus server.capture }, .accepted)

def handleCameraCommand (target : Target) (devices : Devices) (server : Server)
    (command : Command) (params : Fin 7 → Float32) : Option (Server × Result) :=
  match command with
  | .requestMessage => requestMessage server params
  | .requestAutopilotCapabilities => some (send server [.protocolCapabilities], .accepted)
  | .requestCameraInformation => some (send server [.cameraInformation], .accepted)
  | .requestCameraSettings => some (send server [.cameraSettings], .accepted)
  | .requestStorageInformation => some (send server [.storageInformation], .accepted)
  | .requestCameraCaptureStatus => some (send server [.captureStatus], .accepted)
  | .requestVideoStreamInformation => requestStream server .streamInformation params
  | .requestVideoStreamStatus => requestStream server .streamStatus params
  | .setCameraMode => setCameraMode target server params
  | .setCameraZoom => do
    let (zoomed, result) ← setZoom target devices server (params 0) (params 1)
    some (if result = .accepted then send zoomed [.cameraSettings] else zoomed, result)
  | .setCameraFocus => setFocus target devices server (params 0) (params 1)
  | .setCameraSource => setCameraSource devices server params
  | .imageStartCapture => imageStartCapture devices server params
  | .imageStopCapture =>
    some ({ server with capture := ImageCapture.imageStopCapture server.capture }, .accepted)
  | .videoStartCapture => some (switchRecording devices server true)
  | .videoStopCapture => some (switchRecording devices server false)
  | .videoStartStreaming => switchStreaming server true params
  | .videoStopStreaming => switchStreaming server false params
  | .other _ => some (server, .unsupported)

/-- The part of `handle_command_long` for the camera. -/
def commandCamera (target : Target) (devices : Devices) (server : Server)
    (message : CommandLong) : Option Server :=
  if targetMatches server message.targetSystem message.targetComponent
      server.cameraComponentId then do
    let (handled, result) ←
      handleCameraCommand target devices server message.command message.params
    some (send handled [.ack server.cameraComponentId message.command result])
  else some server

def handleCommandLong (target : Target) (devices : Devices) (server : Server)
    (message : CommandLong) : Option Server :=
  if message.length < 32 then some server
  else if targetMatches server message.targetSystem message.targetComponent gimbalComponentId then
    -- the gimbal looks at the parameter first, also of a message to every component
    if message.command = .requestMessage then do
      let requested ← toUInt32 (message.params 0)
      if requested = gimbalDeviceInformationId then
        some (send server
          [.gimbalInformation, .ack gimbalComponentId message.command .accepted])
      else if requested = gimbalDeviceAttitudeStatusId then
        some (send server [.gimbalStatus, .ack gimbalComponentId message.command .accepted])
      else if message.targetComponent = gimbalComponentId then
        some (send server [.ack gimbalComponentId message.command .unsupported])
      else commandCamera target devices server message
    else if message.targetComponent = gimbalComponentId then
      some (send server [.ack gimbalComponentId message.command .unsupported])
    else commandCamera target devices server message
  else commandCamera target devices server message

end CameraCommands
