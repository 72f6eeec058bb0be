/-
This file models the gimbal backends: what each of them does with a vendor
request, with the motion calls of the other protocols, and with the frames of the
gimbal controller. The A8 and the ZR10 talk to the controller over the SIYI link,
the MT11 over its private link; the Z1-Mini sends a pose it holds.

The angle target last sent is remembered, so that sending it again can be
suppressed. Floating-point arithmetic is a parameter of the model: nothing proved
about the backends depends on it.
-/

import CameraGimbal.Config
import CameraGimbal.Siyi

namespace Gimbal

open Siyi (byteAt getU16le parseOne)
open Config (Target)

/-! ### Requests and commands -/

/-- A SIYI packet, less its length and checksum. -/
structure Request where
  control : UInt8
  sequence : UInt16
  opcode : UInt8
  payload : Bytes
  deriving DecidableEq, Repr

def Request.packetLength (request : Request) : Nat :=
  request.payload.length + Siyi.minPacket

def Request.ofPacket (packet : Siyi.Packet) : Request where
  control := packet.control
  sequence := packet.sequence
  opcode := packet.opcode
  payload := packet.payload

/-- A command that has reached the gimbal controller: a SIYI packet through the tunnel, a
native command of the SIYI link, or a new pose or new rates for the Z1-Mini to hold. -/
inductive Command (Number : Type) where
  | tunnel (request : Request)
  | native (sub : UInt8) (payload : Bytes)
  | pose (pitch yaw : Number)
  | rates (pitch yaw : Number)
  deriving DecidableEq

/-- The payload of opcode `0c` that selects a gimbal mode. -/
def selectsMode (opcode : UInt8) (payload : Bytes) : Bool :=
  opcode == 0x0c && payload.length == 1 && decide (3 ≤ byteAt payload 0) &&
    decide (byteAt payload 0 ≤ 5)

/-- A request that moves the gimbal or changes its mode. -/
def isMotion (opcode : UInt8) (payload : Bytes) : Bool :=
  opcode == 0x07 || opcode == 0x08 || opcode == 0x0e || opcode == 0x40 ||
    opcode == 0x55 || opcode == 0x56 || selectsMode opcode payload

/-- A command moves the gimbal or changes its mode. The native commands `06`, `07` and `15`
turn, centre and select the mode; without a payload `15` is a query. -/
def Command.isMotion {Number : Type} : Command Number → Bool
  | .tunnel request => Gimbal.isMotion request.opcode request.payload
  | .native sub payload => sub == 0x06 || sub == 0x07 || (sub == 0x15 && !payload.isEmpty)
  | .pose _ _ => true
  | .rates _ _ => true

/-- The two flags of the web's manual control that the backends read. -/
structure Manual where
  active : Bool
  executing : Bool
  deriving DecidableEq

/-- `ca_backend_manual_blocked`: vendor motion must not override the web's lease. -/
def manualBlocked (manual : Manual) (opcode : UInt8) (payload : Bytes) : Bool :=
  if !manual.active || manual.executing then false else isMotion opcode payload

/-! ### The remembered angle target -/

/-- Two angles in the units they are sent in. -/
structure AnglePair where
  yaw : Int16
  pitch : Int16
  deriving DecidableEq

/-- The target sent last, and when. -/
structure AngleTarget where
  pair : AnglePair
  sentMs : UInt64
  deriving DecidableEq

/-- The gimbal's angles and rates. -/
structure Attitude (Number : Type) where
  roll : Number
  pitch : Number
  yaw : Number
  rollRate : Number
  pitchRate : Number
  yawRate : Number
  timestampMs : UInt64
  deriving DecidableEq

/-- The requests after which the target sent last is no longer known to be the gimbal's. -/
def invalidates (opcode : UInt8) (payload : Bytes) : Bool :=
  opcode == 0x07 || opcode == 0x08 || opcode == 0x0e || opcode == 0x40 ||
    selectsMode opcode payload

/-- `ca_angle_target_invalidate_siyi`. -/
def invalidateSiyi (angleTarget : Option AngleTarget) (opcode : UInt8) (payload : Bytes) :
    Option AngleTarget :=
  if invalidates opcode payload then none else angleTarget

/-- `APCAM_SUPPRESS_DUPLICATE_ANGLES`. -/
def suppressDuplicateAngles : Target → Bool
  | .z1mini => false
  | _ => true

/-- The four bytes an angle pair is sent as. -/
def anglePayload (pair : AnglePair) : Bytes :=
  [pair.yaw.toUInt16.toUInt8, (pair.yaw.toUInt16 >>> 8).toUInt8,
    pair.pitch.toUInt16.toUInt8, (pair.pitch.toUInt16 >>> 8).toUInt8]

/-! ### The world around the backends -/

/-- One build of the firmware: its target, and its floating-point functions. A pose is given
in roll, pitch and yaw. -/
structure Build (Number : Type) where
  target : Target
  zero : Number
  nan : Number
  /-- `isfinite`. -/
  finite : Number → Bool
  /-- A number of the web interface, in degrees per second, in radians per second. -/
  radians : Rat → Number
  /-- A zoom ratio of the web interface. -/
  ratio : Rat → Number
  sub : Number → Number → Number
  /-- `wrap_pi_f`. -/
  wrapPi : Number → Number
  /-- Pitch and yaw of `quaternion_to_euler`. -/
  euler : Number × Number × Number × Number → Number × Number
  /-- The clamped and transformed angles in tenths of a degree, by whether the mount is
  inverted, for a pitch and a yaw. -/
  anglePair : Bool → Number → Number → AnglePair
  /-- The attitude is within the tolerance of a pitch and a yaw, or still moving. -/
  reachedOrMoving : Attitude Number → Number → Number → Bool
  /-- The rate bytes for yaw and pitch, by whether the mount is inverted. -/
  rateBytes : Bool → Number → Number → UInt8 × UInt8
  /-- Pitch and yaw within the limits of the Z1-Mini. -/
  poseLimits : Number → Number → Number × Number
  /-- Rates within the limits of the Z1-Mini. -/
  rateLimits : Number → Number → Number × Number
  /-- The pose for the angles of a feedback frame, by whether the frame came through the
  tunnel and whether the mount is inverted. -/
  pose : Bool → Bool → Int16 × Int16 × Int16 → Number × Number × Number
  /-- The rates for the rates of a feedback frame. -/
  feedbackRates : Bool → Bool → Int16 × Int16 × Int16 → Number × Number × Number
  /-- Whole part and tenths of a zoom ratio; none for one that is out of range. -/
  zoomTenths : Number → Option (UInt8 × UInt8)
  /-- The direction byte of a zoom rate; none for one that is out of range. -/
  zoomDirection : Number → Option UInt8
  /-- Equality of two numbers that are finite. -/
  same : Number → Number → Bool
  /-- Pitch and yaw in radians for the roll, pitch and yaw of an XFRobot command, by whether the
  mount is inverted. -/
  xfrobotAngles : Bool → Int16 × Int16 × Int16 → Number × Number
  /-- The pitch of a gimbal that looks straight down. -/
  straightDown : Number

/-- What the rest of the world does while one event is handled: the clock, whether the
transport takes each frame sent to the controller, whether the camera does what it is asked
for, and the payload of its reply to each opcode. -/
structure World where
  now : UInt64
  accepts : List Bool
  cameraSucceeds : Bool
  replyPayload : UInt8 → Bytes

inductive Errno where
  | protocol
  | invalid
  | messageSize
  | unsupported
  | again
  | io
  | camera
  deriving DecidableEq, Repr

inductive Orientation where
  | auto
  | upright
  | inverted
  deriving DecidableEq, Repr

/-- The state of a backend. The answers of the transport still to come are the world's, and
the commands that have reached the controller are the backend's history. -/
structure Backend (Number : Type) where
  orientation : Orientation
  publicSequence : UInt16
  gimbalMode : UInt8
  mountingDirection : UInt8
  mountingKnown : Bool
  mountingInferred : Bool
  mountingQueryMs : UInt64
  zoomQueryMs : UInt64
  thermalContinuous : Bool
  thermalLastEmitMs : UInt64
  replyToMcu : Bool
  attitude : Option (Attitude Number)
  angleTarget : Option AngleTarget
  accepts : List Bool
  delivered : List (Command Number)

/-- The backend after `ca_backend_open`. -/
def Backend.opened {Number : Type} (orientation : Orientation) (now : UInt64) :
    Backend Number where
  orientation := orientation
  publicSequence := 1
  gimbalMode := 0
  mountingDirection := if orientation = .inverted then 2 else 1
  mountingKnown := orientation ≠ .auto
  mountingInferred := false
  mountingQueryMs := now
  zoomQueryMs := 0
  thermalContinuous := false
  thermalLastEmitMs := 0
  replyToMcu := false
  attitude := none
  angleTarget := none
  accepts := []
  delivered := []

variable {Number : Type}

/-- `ca_angle_target_suppress`. -/
def suppress (build : Build Number) (angleTarget : Option AngleTarget) (pair : AnglePair)
    (pitch yaw : Number) (attitude : Option (Attitude Number)) (now : UInt64) : Bool :=
  match angleTarget with
  | none => false
  | some sent =>
    suppressDuplicateAngles build.target && sent.pair == pair &&
      (decide (now - sent.sentMs < 1000) ||
        match attitude with
        | some attitude =>
          decide (now - attitude.timestampMs < 1000) && build.reachedOrMoving attitude pitch yaw
        | none => false)

def Backend.inverted (backend : Backend Number) : Bool :=
  backend.mountingDirection == 2

/-! ### Sending -/

/-- Send a command; it reaches the controller when the transport takes it. -/
def send (backend : Backend Number) (command : Command Number) : Backend Number × Option Errno :=
  match backend.accepts with
  | [] => (backend, some .io)
  | false :: later => ({ backend with accepts := later }, some .io)
  | true :: later =>
    ({ backend with accepts := later, delivered := backend.delivered ++ [command] }, none)

def linkMaxPayload : Target → Nat
  | .mt11 => 4096
  | _ => 255

def sendLink (backend : Backend Number) (sub : UInt8) (payload : Bytes) :
    Backend Number × Option Errno :=
  if 255 < payload.length then (backend, some .messageSize)
  else send backend (.native sub payload)

/-- Send a whole SIYI packet as the payload of one frame. -/
def sendTunnel (target : Target) (backend : Backend Number) (request : Request) :
    Backend Number × Option Errno :=
  if linkMaxPayload target < request.packetLength then (backend, some .messageSize)
  else send backend (.tunnel request)

/-- Reply to a request. The reply to a request of the controller goes to the controller, any
other to the clients. -/
def emitLocal (target : Target) (world : World) (backend : Backend Number) (opcode : UInt8) :
    Backend Number :=
  let reply : Request :=
    { control := 2, sequence := backend.publicSequence, opcode,
      payload := world.replyPayload opcode }
  let numbered := { backend with publicSequence := backend.publicSequence + 1 }
  if numbered.replyToMcu then (sendTunnel target numbered reply).1 else numbered

/-! ### Vendor requests -/

/-- What becomes of a request. -/
inductive Handling where
  | reply (opcode : UInt8)
  | silent
  | thermal (mode : UInt8)
  | fails (errno : Errno)
  | mode (mode : UInt8)
  | forward
  deriving DecidableEq

/-- The handling of a request that the camera may fail. -/
def ifCamera (world : World) (handling : Handling) : Handling :=
  if world.cameraSucceeds then handling else .fails .camera

def zoomStep (world : World) (direction : UInt8) : Handling :=
  if direction = 1 ∨ direction = 0xff ∨ direction = 0 then ifCamera world (.reply 0x05)
  else .fails .invalid

/-- The requests the A8 and the ZR10 serve themselves; the rest is the controller's
business. -/
def siyiHandling (world : World) (request : Request) : Handling :=
  let length := request.payload.length
  let first := byteAt request.payload 0
  if request.opcode = 0x0c then
    if length ≠ 1 then .forward
    else if first ≤ 2 then .reply 0x0b
    else if first ≤ 5 then .mode (first - 3)
    else .forward
  else if request.opcode = 0x0b then if length ≠ 0 then .forward else .reply 0x0b
  else if request.opcode = 0x04 then
    if length ≠ 1 ∧ length ≠ 5 then .forward else .reply 0x04
  else if request.opcode = 0x06 then if length ≠ 1 then .forward else .reply 0x06
  else if request.opcode = 0x0a then if length ≠ 0 then .forward else .reply 0x0a
  else if request.opcode = 0x10 then if length ≠ 0 then .forward else .reply 0x10
  else if request.opcode = 0x11 then
    if length = 2 ∨ length = 1 then .reply 0x11 else .forward
  else if request.opcode = 0x16 then if length ≠ 0 then .forward else .reply 0x16
  else if request.opcode = 0x18 then if length ≠ 0 then .forward else .reply 0x18
  else if request.opcode = 0x0f then if length ≠ 2 then .forward else .reply 0x0f
  else if request.opcode = 0x05 then if length ≠ 1 then .forward else zoomStep world first
  else if request.opcode = 0x37 then
    if length ≠ 0 then .forward else ifCamera world (.reply 0x37)
  else if request.opcode = 0x38 then
    if length ≠ 1 ∨ 1 < first then .forward else ifCamera world .silent
  else if request.opcode = 0x1a then
    if length ≠ 0 then .forward else ifCamera world (.reply 0x1a)
  else if request.opcode = 0x1b then
    if length ≠ 1 then .forward else ifCamera world (.reply 0x1b)
  else if request.opcode = 0x30 then .reply 0x30
  else if request.opcode = 0x14 then .silent
  else .forward

/-- The requests the MT11 serves itself. -/
def mt11Handling (world : World) (request : Request) : Handling :=
  let opcode := request.opcode
  let length := request.payload.length
  let first := byteAt request.payload 0
  if opcode = 0x0c ∧ length = 1 ∧ first = 2 then .reply 0x0b
  else if opcode = 0x04 ∧ (length = 1 ∨ length = 5) ∧ first = 1 then .reply 0x04
  else if opcode = 0x04 then .fails .invalid
  else if opcode = 0x06 then .reply 0x06
  else if opcode = 0x0c ∧ length = 1 ∧ (first = 0 ∨ first = 1) then .reply 0x0b
  else if opcode = 0x0b ∧ length = 0 then .reply 0x0b
  else if opcode = 0x14 ∧ length = 1 ∧ first ≤ 2 then .thermal first
  else if opcode = 0x37 ∧ length = 0 then ifCamera world (.reply 0x37)
  else if opcode = 0x38 ∧ length = 1 ∧ first ≤ 1 then ifCamera world .silent
  else if opcode = 0x37 ∨ opcode = 0x38 then .fails .invalid
  else if opcode = 0x1a ∧ length = 0 then ifCamera world (.reply 0x1a)
  else if opcode = 0x1b ∧ length = 1 ∧ first ≤ 11 ∧ first ≠ 1 then ifCamera world (.reply 0x1b)
  else if opcode = 0x1a ∨ opcode = 0x1b then .fails .invalid
  else if opcode = 0x30 then .reply 0x30
  else if opcode = 0x0a ∧ length = 0 then .reply 0x0a
  else if opcode = 0x10 ∧ length = 0 then .reply 0x10
  else if opcode = 0x11 ∧ length = 2 then .reply 0x11
  else if opcode = 0x11 ∧ length = 1 ∧ (first = 3 ∨ first = 5) then .reply 0x11
  else if opcode = 0x16 ∧ length = 0 then .reply 0x16
  else if opcode = 0x18 ∧ length = 0 then .reply 0x18
  else if opcode = 0x0f ∧ length = 2 then .reply 0x0f
  else if opcode = 0x05 ∧ length = 1 then zoomStep world first
  else if selectsMode opcode request.payload then .mode (first - 3)
  else .forward

/-- What the ZR10 does with a request before the A8's handling: it translates some to native
commands, and hands those of the lens to the controller, unless they come from there. -/
inductive Zr10Handling where
  | native (sub : UInt8)
  | invalid
  | lens
  | common
  deriving DecidableEq

def zr10Handling (request : Request) : Zr10Handling :=
  let length := request.payload.length
  let first := byteAt request.payload 0
  let second := byteAt request.payload 1
  if request.opcode = 0x05 ∨ request.opcode = 0x06 then
    if length ≠ 1 ∨ first.toInt8 < -1 ∨ 1 < first.toInt8 then .invalid
    else .native (if request.opcode = 0x05 then 0x04 else 0x05)
  else if request.opcode = 0x07 then
    if length ≠ 2 ∨ first.toInt8 < -100 ∨ 100 < first.toInt8 ∨ second.toInt8 < -100 ∨
        100 < second.toInt8 then .invalid
    else .native 0x06
  else if request.opcode = 0x08 then
    if length ≠ 1 ∨ first < 1 ∨ 3 < first then .invalid else .native 0x07
  else if request.opcode = 0x0f then
    if length ≠ 2 ∨ first < 1 ∨ 10 < first ∨ 9 < second ∨ (first = 10 ∧ second ≠ 0) then .invalid
    else .native 0x37
  else if request.opcode = 0x04 ∨ request.opcode = 0x16 ∨ request.opcode = 0x18 then .lens
  else .common

/-- The handling that the A8 and the ZR10 share. -/
def serve (target : Target) (world : World) (backend : Backend Number) (request : Request) :
    Backend Number × Option Errno :=
  match siyiHandling world request with
  | .reply opcode => (emitLocal target world backend opcode, none)
  | .silent | .thermal _ => (backend, none)
  | .fails errno => (backend, some errno)
  | .mode mode => sendLink { backend with gimbalMode := mode } 0x15 [mode]
  | .forward =>
    -- a request of the controller is not sent back to it
    if backend.replyToMcu then (backend, some .unsupported)
    else sendTunnel target backend request

variable (target : Target) (manual : Manual) (world : World) (backend : Backend Number)

/-- `ca_backend_handle_siyi` of the A8 and the ZR10, from the parsed packet on. -/
def handleUartRequest (request : Request) : Backend Number × Option Errno :=
  if manualBlocked manual request.opcode request.payload then (backend, none)
  else
    let forgotten := { backend with
      angleTarget := invalidateSiyi backend.angleTarget request.opcode request.payload }
    if target = .zr10 then
      match zr10Handling request with
      | .invalid => (forgotten, some .invalid)
      | .native sub => sendLink forgotten sub request.payload
      | .lens =>
        if forgotten.replyToMcu then (forgotten, some .unsupported)
        else sendTunnel target forgotten request
      | .common => serve target world forgotten request
    else serve target world forgotten request

/-- Emit the thermal range; there is none before the first radiometric frame. -/
def emitThermalRange (world : World) (backend : Backend Number) : Backend Number :=
  if world.cameraSucceeds then
    { emitLocal .mt11 world backend 0x14 with thermalLastEmitMs := world.now }
  else backend

/-- The MT11 hands a request to the controller. -/
def forwardMt11 (backend : Backend Number) (request : Request) : Backend Number × Option Errno :=
  sendTunnel .mt11 { backend with
    angleTarget := invalidateSiyi backend.angleTarget request.opcode request.payload } request

/-- `ca_backend_handle_siyi` of the MT11, from the parsed packet on. -/
def handleMt11Request (manual : Manual) (world : World) (backend : Backend Number)
    (request : Request) : Backend Number × Option Errno :=
  if manualBlocked manual request.opcode request.payload then (backend, none)
  else
    match mt11Handling world request with
    | .reply opcode => (emitLocal .mt11 world backend opcode, none)
    | .silent => (backend, none)
    | .thermal mode =>
      let continuous := { backend with thermalContinuous := mode == 2 }
      (if mode = 0 then continuous else emitThermalRange world continuous, none)
    | .fails errno => (backend, some errno)
    | .mode mode => forwardMt11 { backend with gimbalMode := mode } request
    | .forward => forwardMt11 backend request

/-- A parsed request, on each target. -/
def handleRequest (request : Request) : Backend Number × Option Errno :=
  match target with
  | .a8 | .zr10 => handleUartRequest target manual world backend request
  | .mt11 => handleMt11Request manual world backend request
  | .z1mini => (backend, some .unsupported)

/-- `ca_backend_handle_siyi`: the data has to be one packet. -/
def handleSiyi (data : Bytes) : Backend Number × Option Errno :=
  if target = .z1mini then (backend, some .unsupported)
  else
    match parseOne data with
    | .packet packet consumed =>
      if consumed = data.length then
        handleRequest target manual world backend (.ofPacket packet)
      else (backend, some .protocol)
    | _ => (backend, some .protocol)

/-! ### Calls of the other protocols -/

/-- Send a SIYI command of the camera's own. -/
def sendPublicCommand (opcode : UInt8) (payload : Bytes) :
    Backend Number × Option Errno :=
  let request : Request := { control := 1, sequence := backend.publicSequence, opcode, payload }
  let numbered := { backend with
    publicSequence := backend.publicSequence + 1
    angleTarget := invalidateSiyi backend.angleTarget opcode payload }
  match target with
  -- the ZR10 treats its own commands like those of a client
  | .zr10 => handleUartRequest target manual world numbered request
  | _ => sendTunnel target numbered request

/-- The Z1-Mini has heard from its gimbal recently. -/
def fresh (backend : Backend Number) (now : UInt64) : Bool :=
  match backend.attitude with
  | some attitude => decide (now - attitude.timestampMs ≤ 250)
  | none => false

/-- A new pose or new rates for the Z1-Mini to hold. -/
def hold (build : Build Number) (world : World) (backend : Backend Number)
    (first second : Number) (command : Command Number) : Backend Number × Option Errno :=
  if !fresh backend world.now then (backend, some .again)
  else if !build.finite first || !build.finite second then (backend, some .invalid)
  else ({ backend with delivered := backend.delivered ++ [command] }, none)

/-- Send an angle pair that is not suppressed; the target is remembered once the transport has
taken it. -/
def sendAngles (pair : AnglePair) : Backend Number × Option Errno :=
  match sendPublicCommand target manual world backend 0x0e (anglePayload pair) with
  | (sent, none) => ({ sent with angleTarget := some { pair, sentMs := world.now } }, none)
  | (sent, some errno) => (sent, some errno)

/-- A call of `ca_backend_set_gimbal_angles` is skipped as a duplicate. -/
def anglesSuppressed (build : Build Number) (backend : Backend Number) (now : UInt64)
    (pitch yaw : Number) : Bool :=
  suppress build backend.angleTarget (build.anglePair backend.inverted pitch yaw) pitch yaw
    backend.attitude now

variable (build : Build Number) (manual : Manual) (world : World) (backend : Backend Number)

/-- `ca_backend_set_gimbal_angles`. -/
def setGimbalAngles (pitch yaw : Number) : Backend Number × Option Errno :=
  if build.target = .z1mini then
    let held := build.poseLimits pitch yaw
    hold build world backend pitch yaw (.pose held.1 held.2)
  else if anglesSuppressed build backend world.now pitch yaw then (backend, none)
  else
    sendAngles build.target manual world backend (build.anglePair backend.inverted pitch yaw)

/-- `ca_backend_set_gimbal_rates`. -/
def setGimbalRates (pitch yaw : Number) : Backend Number × Option Errno :=
  if build.target = .z1mini then
    let held := build.rateLimits pitch yaw
    hold build world backend pitch yaw (.rates held.1 held.2)
  else
    let (yawByte, pitchByte) := build.rateBytes backend.inverted pitch yaw
    sendPublicCommand build.target manual world backend 0x07 [yawByte, pitchByte]

/-- `ca_backend_set_gimbal_neutral`. -/
def setGimbalNeutral : Backend Number × Option Errno :=
  if build.target = .z1mini then
    setGimbalAngles build manual world backend build.zero build.zero
  else sendPublicCommand build.target manual world backend 0x08 [1]

/-- `ca_backend_set_zoom`. Only the ZR10 zooms in the gimbal. -/
def setZoom (ratio : Number) : Backend Number × Option Errno :=
  if build.target = .z1mini then (backend, some .unsupported)
  else
    match build.zoomTenths ratio with
    | none => (backend, some .invalid)
    | some (whole, tenths) =>
      if build.target = .zr10 then
        sendPublicCommand .zr10 manual world backend 0x0f [whole, tenths]
      else (backend, if world.cameraSucceeds then none else some .camera)

/-- `ca_backend_set_zoom_rate`. -/
def setZoomRate (rate : Number) : Backend Number × Option Errno :=
  if build.target = .zr10 then
    match build.zoomDirection rate with
    | none => (backend, some .invalid)
    | some direction => sendPublicCommand .zr10 manual world backend 0x05 [direction]
  else (backend, some .unsupported)

/-- `ca_backend_request_gimbal_attitude`. -/
def requestGimbalAttitude (target : Target) (manual : Manual) (world : World)
    (backend : Backend Number) : Backend Number × Option Errno :=
  if target = .z1mini then (backend, none)
  else sendPublicCommand target manual world backend 0x0d []

/-- `ca_backend_gimbal_attitude`. -/
def gimbalAttitude (target : Target) (backend : Backend Number) (now : UInt64) :
    Option (Attitude Number) :=
  if target = .z1mini ∧ !fresh backend now then none else backend.attitude

/-- `ca_backend_periodic`, with the autofocus frame the ZR10 may have to hand on. -/
def periodic (target : Target) (manual : Manual) (world : World) (backend : Backend Number)
    (focus : Option Bytes) : Backend Number :=
  match target with
  | .z1mini => backend
  | .mt11 =>
    if backend.thermalContinuous ∧
        (backend.thermalLastEmitMs = 0 ∨ 200 ≤ world.now - backend.thermalLastEmitMs) then
      emitThermalRange world backend
    else backend
  | .a8 => queryMounting backend
  | .zr10 => queryMounting (queryZoom (handFocus backend))
where
  /-- Hand on the frame of the autofocus. -/
  handFocus (backend : Backend Number) : Backend Number :=
    match focus with
    | some frame => (sendLink backend 0x02 frame).1
    | none => backend
  /-- Ask for the zoom once a second. -/
  queryZoom (backend : Backend Number) : Backend Number :=
    if 1000 ≤ world.now - backend.zoomQueryMs then
      (sendPublicCommand target manual world { backend with zoomQueryMs := world.now } 0x18 []).1
    else backend
  /-- Ask for the mounting direction while it is not known. -/
  queryMounting (backend : Backend Number) : Backend Number :=
    if backend.orientation ≠ .auto ∨ backend.mountingKnown then backend
    else if world.now - backend.mountingQueryMs < 1000 then backend
    else (sendLink { backend with mountingQueryMs := world.now } 0x17 []).1

/-! ### Frames of the gimbal controller -/

/-- A frame of the controller whose checksums have been verified. -/
structure McuFrame where
  flags : UInt8
  source : UInt8
  destination : UInt8
  link : UInt8
  command : UInt8
  payload : Bytes

/-- The little-endian signed number at an index. -/
def getI16le (payload : Bytes) (index : Nat) : Int16 :=
  (getU16le payload index).toInt16

/-- The orientation that follows from a direction the gimbal reports. -/
def invertedBy (orientation : Orientation) (direction : UInt8) : Bool :=
  match orientation with
  | .auto => direction == 2
  | .upright => false
  | .inverted => true

/-- The direction that stands for an orientation. -/
def directionOf (inverted : Bool) : UInt8 :=
  if inverted then 2 else 1

/-- A target sent in another mounting direction is forgotten. -/
def Backend.mount (backend : Backend Number) (direction : UInt8) : Backend Number :=
  { backend with
    angleTarget := if backend.mountingDirection = direction then backend.angleTarget else none
    mountingDirection := direction }

/-- Apply a mounting direction; false when it is not one or the camera fails to follow. -/
def applyMountingDirection (world : World) (backend : Backend Number) (direction : UInt8) :
    Backend Number × Bool :=
  if direction < 1 ∨ 2 < direction then (backend, false)
  else if !world.cameraSucceeds then (backend, false)
  else
    let mounted := backend.mount (directionOf (invertedBy backend.orientation direction))
    ({ mounted with mountingKnown := true }, true)

/-- An inverted mount shows in a raw pitch beyond 90 degrees. -/
def inferMounting (world : World) (backend : Backend Number) (rawPitch : Int16) :
    Backend Number :=
  if backend.orientation = .auto ∧ !backend.mountingKnown ∧ (rawPitch < -900 ∨ 900 < rawPitch) then
    match applyMountingDirection world backend 2 with
    | (applied, true) => { applied with mountingInferred := true }
    | (refused, false) => refused
  else backend

/-- The attitude in a frame. Without rates in the frame, those known stay. -/
def readAttitude (build : Build Number) (world : World) (backend : Backend Number)
    (payload : Bytes) (hasRates tunnelled : Bool) : Attitude Number :=
  let value (index : Nat) := getI16le payload (2 * index)
  let (roll, pitch, yaw) :=
    build.pose tunnelled backend.inverted (value 2, value 1, value 0)
  let (rollRate, pitchRate, yawRate) :=
    if hasRates then
      build.feedbackRates tunnelled backend.inverted (value 5, value 4, value 3)
    else
      match backend.attitude with
      | some known => (known.rollRate, known.pitchRate, known.yawRate)
      | none => (build.zero, build.zero, build.zero)
  { roll, pitch, yaw, rollRate, pitchRate, yawRate, timestampMs := world.now }

def updateAttitude (build : Build Number) (world : World) (backend : Backend Number)
    (payload : Bytes) (hasRates tunnelled : Bool) : Backend Number :=
  let mounted := inferMounting world backend (getI16le payload 2)
  { mounted with attitude := some (readAttitude build world mounted payload hasRates tunnelled) }

/-- A packet the controller has sent through the tunnel. -/
def handleTunnelReply (build : Build Number) (world : World) (backend : Backend Number)
    (payload : Bytes) : Backend Number :=
  match parseOne payload with
  | .packet packet consumed =>
    if consumed ≠ payload.length then backend
    else if build.target = .zr10 ∧ packet.control &&& 2 = 0 then backend
    else if packet.opcode = 0x0d ∧ 12 ≤ packet.payload.length then
      if build.target = .mt11 then
        { backend with
          attitude := some (readAttitude build world backend packet.payload true true) }
      else updateAttitude build world backend packet.payload true true
    else if packet.opcode = 0x19 ∧ packet.payload.length = 1 ∧ byteAt packet.payload 0 ≤ 2 then
      { backend with gimbalMode := byteAt packet.payload 0 }
    else backend
  | _ => backend

/-- `handle_frame` of the A8 and the ZR10. -/
def handleFrame (frame : McuFrame) : Backend Number :=
  if frame.source ≠ 0x2e ∨ frame.link ≠ 0x6b then backend
  else if build.target = .zr10 ∧ (frame.destination ≠ 0x2c ∨ frame.flags &&& 0x1c ≠ 8) then backend
  else if build.target = .zr10 ∧ frame.command = 0x35 then
    -- a request the controller delegates; what answers it goes back to the controller
    let handled := (handleSiyi .zr10 manual world { backend with replyToMcu := true }
      frame.payload).1
    { handled with replyToMcu := false }
  else if frame.command = 0x50 then
    if 6 ≤ frame.payload.length then updateAttitude build world backend frame.payload false false
    else backend
  else if frame.command = 0x16 then handleTunnelReply build world backend frame.payload
  else if frame.command = 0x17 then
    if frame.payload.length = 1 ∧ !backend.mountingInferred then
      (applyMountingDirection world backend (byteAt frame.payload 0)).1
    else backend
  else if frame.command = 0x15 then
    if frame.payload.length = 1 ∧ byteAt frame.payload 0 ≤ 2 then
      { backend with gimbalMode := byteAt frame.payload 0 }
    else backend
  else backend

/-- `handle_private` of the MT11. -/
def handlePrivate (build : Build Number) (world : World) (backend : Backend Number)
    (frame : McuFrame) : Backend Number :=
  let first := byteAt frame.payload 0
  if frame.source ≠ 0x2e ∨ frame.destination ≠ 0x34 ∨ frame.link ≠ 0x6b then backend
  else if frame.command = 0x16 then handleTunnelReply build world backend frame.payload
  else if frame.command = 0x0a ∧ frame.payload ≠ [] then
    if first = 2 ∨ first = 0 then emitLocal .mt11 world backend 0x0b else backend
  else if frame.command = 0x17 ∧ frame.payload ≠ [] ∧ 1 ≤ first ∧ first ≤ 2 then
    -- a direction the camera fails to follow is believed all the same
    backend.mount
      (if world.cameraSucceeds then directionOf (invertedBy backend.orientation first) else first)
  else backend

/-- The feedback of the Z1-Mini: its pose, and no rates. -/
def handleFeedback (build : Build Number) (world : World) (backend : Backend Number)
    (frame : McuFrame) : Backend Number :=
  let value (index : Nat) := getI16le frame.payload index
  let (roll, pitch, yaw) :=
    build.pose false (backend.orientation == .inverted) (value 12, value 14, value 22)
  { backend with
    attitude := some
      { roll, pitch, yaw, rollRate := build.nan, pitchRate := build.nan, yawRate := build.nan
        timestampMs := world.now } }

/-- A frame of the controller, on each target. -/
def handleMcuFrame (frame : McuFrame) : Backend Number :=
  match build.target with
  | .a8 | .zr10 => handleFrame build manual world backend frame
  | .mt11 => handlePrivate build world backend frame
  | .z1mini => handleFeedback build world backend frame

end Gimbal
