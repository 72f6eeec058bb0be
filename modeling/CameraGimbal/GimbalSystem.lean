/-
This file puts the gimbal backend together with everything that may move the
gimbal: the web's manual control, vendor requests, MAVLink messages and target
tracking, XFRobot frames, and the frames of the controller itself. They are taken
one after another, in any order.
-/

import CameraGimbal.GimbalTarget
import CameraGimbal.ManualControl
import CameraGimbal.Transition

namespace Gimbal

open Config (Target)
open Siyi (byteAt getU16le)

variable {Number : Type}

/-! ### The state -/

/-- What the MAVLink server knows about the location it tracks. -/
structure Tracking (Number : Type) where
  locationActive : Bool
  rateActive : Bool
  lastLocationMs : UInt64
  targetLat : Int32
  targetLon : Int32
  targetAlt : Number
  positionTargeting : Bool
  byRate : Bool

structure System (Number : Type) where
  control : ManualControl.Control
  tracking : Tracking Number
  backend : Backend Number

def System.opened (build : Build Number) (zoomMax : Rat) (orientation : Orientation)
    (positionTargeting byRate : Bool) (now : UInt64) : System Number where
  control := ManualControl.start zoomMax
  tracking :=
    { locationActive := false, rateActive := false, lastLocationMs := 0, targetLat := 0
      targetLon := 0, targetAlt := build.zero, positionTargeting, byRate }
  backend := .opened orientation now

/-- The flags of the manual control, which the backend reads through pointers. -/
def System.manual (system : System Number) : Manual :=
  { active := system.control.active, executing := system.control.executing }

def System.setBackend (system : System Number) (backend : Backend Number) : System Number :=
  { system with backend }

/-! ### MAVLink -/

variable (build : Build Number) (world : World) (system : System Number)

def stopTrackingRate : System Number :=
  let stopped :=
    if system.tracking.rateActive then
      system.setBackend
        (setGimbalRates build system.manual world system.backend build.zero build.zero).1
    else system
  { stopped with tracking := { stopped.tracking with rateActive := false } }

/-- `ca_mavlink_server_suspend_gimbal`. -/
def suspendGimbal : System Number :=
  let stopped := stopTrackingRate build world system
  { stopped with tracking := { stopped.tracking with lastLocationMs := 0 } }

def clearTargetLocation : System Number :=
  stopTrackingRate build world
    { system with tracking := { system.tracking with locationActive := false } }

/-- A `GIMBAL_DEVICE_SET_ATTITUDE` message, and the yaw and yaw rate of the vehicle when they
are current. -/
structure SetAttitude (Number : Type) where
  longEnough : Bool
  addressed : Bool
  flags : UInt16
  pitchRate : Number
  yawRate : Number
  quaternion : Number × Number × Number × Number
  vehicle : Option (Number × Number)

def inEarthFrame (flags : UInt16) : Bool :=
  if flags &&& 64 ≠ 0 then true
  else if flags &&& 32 ≠ 0 then false
  else flags &&& 16 ≠ 0

/-- The rates, or the angles, that a request asks for. -/
def moveAsAsked
    (request : SetAttitude Number) (earthYaw : Bool) (vehicleYaw vehicleYawRate : Number) :
    System Number :=
  let finite := build.finite
  if finite request.pitchRate || finite request.yawRate then
    let pitchRate := if finite request.pitchRate then request.pitchRate else build.zero
    let yawRate := if finite request.yawRate then request.yawRate else build.zero
    let yawRate := if earthYaw then build.sub yawRate vehicleYawRate else yawRate
    system.setBackend
      (setGimbalRates build system.manual world system.backend pitchRate yawRate).1
  else if finite request.quaternion.1 then
    let (pitch, yaw) := build.euler request.quaternion
    let yaw := if earthYaw then build.wrapPi (build.sub yaw vehicleYaw) else yaw
    system.setBackend (setGimbalAngles build system.manual world system.backend pitch yaw).1
  else system

def handleGimbalSetAttitude (request : SetAttitude Number) : System Number :=
  if system.control.active then system
  else if !request.longEnough then system
  else if !request.addressed then system
  else
    let cleared := clearTargetLocation build world system
    -- retract or neutral
    if request.flags &&& 3 ≠ 0 then
      cleared.setBackend (setGimbalNeutral build cleared.manual world cleared.backend).1
    else if inEarthFrame request.flags then
      match request.vehicle with
      | none => cleared
      | some (yaw, yawRate) => moveAsAsked build world cleared request true yaw yawRate
    else moveAsAsked build world cleared request false build.zero build.zero

/-- A `COMMAND_INT` message. -/
structure CommandInt (Number : Type) where
  longEnough : Bool
  addressed : Bool
  command : UInt16
  frame : UInt8
  x : Int32
  y : Int32
  z : Number

/-- A location a region of interest can be. -/
def locationValid (build : Build Number) (request : CommandInt Number) : Bool :=
  (request.frame == 0 || request.frame == 5) &&
    decide (-900000000 ≤ request.x) && decide (request.x ≤ 900000000) &&
    decide (-1800000000 ≤ request.y) && decide (request.y ≤ 1800000000) &&
    build.finite request.z

/-- `handle_command_int`: a region of interest is set (195) or cleared (197). -/
def handleCommandInt (request : CommandInt Number) : System Number :=
  if !request.longEnough then system
  else if !request.addressed then system
  else if system.control.active && (request.command == 195 || request.command == 197) then system
  else if request.command = 195 then
    if !system.tracking.positionTargeting then system
    else if !locationValid build request then system
    else
      let old := system.tracking
      let unchanged := old.locationActive && old.targetLat == request.x &&
        old.targetLon == request.y && build.same old.targetAlt request.z
      { system with tracking :=
        { old with
          targetLat := request.x
          targetLon := request.y
          targetAlt := request.z
          locationActive := true
          lastLocationMs := if unchanged then old.lastLocationMs else 0 } }
  else if request.command = 197 then clearTargetLocation build world system
  else system

/-- A change of the running configuration, as far as the gimbal is concerned, and what the
media layer makes of it. -/
structure ConfigChange where
  changesPipeline : Bool
  wasRecording : Bool
  mediaConfigured : Bool
  restApplied : Bool
  positionTargeting : Bool
  byRate : Bool

/-- No rate command is left running while the media is reopened. -/
def stopForReopen (change : ConfigChange) : System Number :=
  if change.changesPipeline && !change.wasRecording then stopTrackingRate build world system
  else system

/-- The new settings take effect. -/
def adoptConfig (change : ConfigChange) : System Number :=
  let settled :=
    if change.byRate != system.tracking.byRate || !change.positionTargeting then
      suspendGimbal build world system
    else system
  { settled with tracking :=
    { settled.tracking with
      locationActive := settled.tracking.locationActive && change.positionTargeting
      positionTargeting := change.positionTargeting
      byRate := change.byRate } }

/-- `apply_runtime_config`; false when the change is refused. -/
def applyRuntimeConfig (change : ConfigChange) : System Number × Bool :=
  let stopped := stopForReopen build world system change
  if !change.mediaConfigured then (stopped, false)
  else if !change.restApplied then (stopped, false)
  else (adoptConfig build world stopped change, true)

/-- `apply_camera_config`: a change that cannot be saved is taken back. -/
def applyCameraConfig
    (change : ConfigChange) (saved : Bool) (rollback : ConfigChange) : System Number :=
  match applyRuntimeConfig build world system change with
  | (refused, false) => refused
  | (applied, true) =>
    if saved then applied
    else
      let restored := (applyRuntimeConfig build world applied
        { rollback with
          positionTargeting := system.tracking.positionTargeting
          byRate := system.tracking.byRate }).1
      { restored with tracking :=
        { restored.tracking with locationActive := system.tracking.locationActive } }

/-- What a tracking step finds: the pitch and yaw of the target, unless the vehicle's position
or attitude is missing, and the rates of the controller, unless its prediction fails. -/
structure Sight (Number : Type) where
  aim : Option (Number × Number)
  rates : Option (Number × Number)

/-- The gimbal's attitude is known and current enough to control rates by. -/
def attitudeCurrent (target : Target) (backend : Backend Number) (now : UInt64) : Bool :=
  match gimbalAttitude target backend now with
  | some attitude =>
    decide (attitude.timestampMs ≤ now) && decide (now - attitude.timestampMs ≤ 500)
  | none => false

/-- How far apart the tracking steps are. -/
def Tracking.intervalMs (tracking : Tracking Number) : UInt64 :=
  if tracking.byRate then 50 else 100

/-- Follow the target by rates; when they cannot be had or sent, the gimbal is stopped. -/
def trackByRate (rates : Option (Number × Number)) : System Number :=
  if !attitudeCurrent build.target system.backend world.now then
    stopTrackingRate build world system
  else
    match rates with
    | none => stopTrackingRate build world system
    | some (pitch, yaw) =>
      match setGimbalRates build system.manual world system.backend pitch yaw with
      | (sent, none) =>
        { system with backend := sent, tracking := { system.tracking with rateActive := true } }
      | (refused, some _) => stopTrackingRate build world (system.setBackend refused)

def updateTargetLocation (sight : Sight Number) : System Number :=
  let tracking := system.tracking
  if system.control.active then system
  else if !tracking.locationActive || !tracking.positionTargeting then
    stopTrackingRate build world system
  else if world.now - tracking.lastLocationMs < tracking.intervalMs then system
  else
    let timed := { system with tracking := { tracking with lastLocationMs := world.now } }
    match sight.aim with
    | none => stopTrackingRate build world timed
    | some (pitch, yaw) =>
      if tracking.byRate then trackByRate build world timed sight.rates
      else
        let stopped := stopTrackingRate build world timed
        stopped.setBackend
          (setGimbalAngles build stopped.manual world stopped.backend pitch yaw).1

/-! ### XFRobot -/

/-- The data is a whole XFRobot command. -/
def xfrobotValid (data : Bytes) : Bool :=
  decide (72 ≤ data.length) && decide (data.length ≤ 256) && byteAt data 0 == 0xa8 &&
    byteAt data 1 == 0xe5 && (getU16le data 2).toNat == data.length && byteAt data 4 == 2 &&
    Siyi.crc16 data == 0

/-- The part of `reply` that moves the gimbal. -/
def xfrobotReply (data : Bytes) : System Number :=
  let order := byteAt data 69
  let inverted := decide (system.backend.orientation = .inverted)
  if !xfrobotValid data then system
  else if system.control.active && (order == 0x03 || order == 0x10 || order == 0x13) then system
  else if order = 0x03 then
    system.setBackend (setGimbalNeutral build system.manual world system.backend).1
  else if order = 0x10 then
    if byteAt data 11 &&& 4 = 0 then system
    else
      let (pitch, yaw) := build.xfrobotAngles inverted
        (getI16le data 5, getI16le data 7, getI16le data 9)
      system.setBackend (setGimbalAngles build system.manual world system.backend pitch yaw).1
  else if order = 0x13 then
    match gimbalAttitude build.target system.backend world.now with
    | some attitude =>
      system.setBackend
        (setGimbalAngles build system.manual world system.backend build.straightDown
          attitude.yaw).1
    | none => system
  else system

/-! ### Web -/

/-- The steps of the manual control. An update is its deadlines followed by datagrams. -/
inductive WebStep where
  | deadlines (tick : ManualControl.Tick)
  | datagram (datagram : ManualControl.Datagram)
  | close (attempt : ManualControl.Attempt)

def webControl (control : ManualControl.Control) : WebStep → ManualControl.Control
  | .deadlines tick => ManualControl.checkDeadlines control tick
  | .datagram datagram =>
    if control.isOpen then ManualControl.receive control datagram else control
  | .close attempt => ManualControl.close control attempt

/-- A gimbal call of the manual control, made while it marks itself as executing. The call
fails when the transport refuses its command. -/
def applyCall (build : Build Number) (world : World) (backend : Backend Number)
    (call : ManualControl.Call) : Backend Number :=
  let manual : Manual := { active := true, executing := true }
  let answered (failed : Bool) := { backend with accepts := [!failed] }
  match call with
  | .rates pitch yaw failed =>
    (setGimbalRates build manual world (answered failed) (build.radians pitch)
      (build.radians yaw)).1
  | .neutral failed => (setGimbalNeutral build manual world (answered failed)).1
  | .zoom ratio failed =>
    (setZoom build manual world (answered failed) ((ratio.map build.ratio).getD build.nan)).1

/-- A step of the manual control, with the calls it makes. A lease that is acquired suspends
the tracking before it becomes active. -/
def handleWeb (webStep : WebStep) : System Number :=
  let control := webControl system.control webStep
  let calls := control.calls.drop system.control.calls.length
  let called := calls.foldl (applyCall build world) system.backend
  let moved := system.setBackend { called with accepts := world.accepts }
  let suspended :=
    if system.control.suspensions < control.suspensions then suspendGimbal build world moved
    else moved
  { suspended with control }

/-! ### The system -/

inductive Event (Number : Type) where
  | web (webStep : WebStep)
  | siyi (data : Bytes)
  | xfrobot (data : Bytes)
  | setAttitude (request : SetAttitude Number)
  | commandInt (request : CommandInt Number)
  | track (sight : Sight Number)
  | reload (change : ConfigChange)
  | parameter (change : ConfigChange) (saved : Bool) (rollback : ConfigChange)
  | zoom (ratio : Number)
  | zoomRate (rate : Number)
  | attitudeRequest
  | mcuFrame (frame : McuFrame)
  | periodic (focus : Option Bytes)
  | closeMavlink

/-- An event of the manual control itself. -/
def Event.isWeb : Event Number → Bool
  | .web _ => true
  | _ => false

/-- Handle an event, with the answers of the transport that the world has ready for it. -/
def handleEvent :
    Event Number → System Number
  | .web webStep => handleWeb build world system webStep
  | .siyi data =>
    system.setBackend (handleSiyi build.target system.manual world system.backend data).1
  | .xfrobot data => xfrobotReply build world system data
  | .setAttitude request => handleGimbalSetAttitude build world system request
  | .commandInt request => handleCommandInt build world system request
  | .track sight => updateTargetLocation build world system sight
  | .reload change => (applyRuntimeConfig build world system change).1
  | .parameter change saved rollback =>
    applyCameraConfig build world system change saved rollback
  | .zoom ratio => system.setBackend (setZoom build system.manual world system.backend ratio).1
  | .zoomRate rate =>
    system.setBackend (setZoomRate build system.manual world system.backend rate).1
  | .attitudeRequest =>
    system.setBackend (requestGimbalAttitude build.target system.manual world system.backend).1
  | .mcuFrame frame =>
    system.setBackend (handleMcuFrame build system.manual world system.backend frame)
  | .periodic focus =>
    system.setBackend (periodic build.target system.manual world system.backend focus)
  | .closeMavlink => stopTrackingRate build world system

/-- The system with the transport's answers for one event. -/
def System.facing (system : System Number) (world : World) : System Number :=
  system.setBackend { system.backend with accepts := world.accepts }

def step (build : Build Number) (system : System Number) (event : Event Number × World) :
    System Number :=
  handleEvent build event.2 (system.facing event.2) event.1

def run (build : Build Number) (system : System Number) (events : List (Event Number × World)) :
    System Number :=
  events.foldl (step build) system

/-! ### Runs to try -/

/-- The arithmetic of a gimbal that only ever stands level: it is right for the number zero and
the identity quaternion. A value that is not a number is `none`. -/
def levelBuild (target : Target) : Build (Option Rat) where
  target := target
  zero := some 0
  nan := none
  finite := Option.isSome
  radians := some
  ratio := some
  sub := fun _ _ => some 0
  wrapPi := fun number => number
  euler := fun _ => (some 0, some 0)
  anglePair := fun _ _ _ => { yaw := 0, pitch := 0 }
  reachedOrMoving := fun _ _ _ => true
  rateBytes := fun _ _ _ => (0, 0)
  poseLimits := fun pitch yaw => (pitch, yaw)
  rateLimits := fun pitch yaw => (pitch, yaw)
  pose := fun _ _ _ => (some 0, some 0, some 0)
  feedbackRates := fun _ _ _ => (some 0, some 0, some 0)
  zoomTenths := fun _ => none
  zoomDirection := fun _ => none
  same := fun _ _ => true
  xfrobotAngles := fun _ _ => (some 0, some 0)
  straightDown := some (-9000)

/-- The transport takes what it is given, and the camera does as it is told. -/
def World.calm : World :=
  { now := 0, accepts := [true, true], cameraSucceeds := true, replyPayload := fun _ => [] }

/-- A request of the web server for the lease, whose stop succeeds. -/
def acquireRequest : ManualControl.Datagram where
  size := ManualControl.packetSize
  loopback := true
  packet := ManualControl.request .acquire
  around := ManualControl.smooth

def rateRequest : Bytes :=
  [0x55, 0x66, 0x01, 0x02, 0x00, 0x00, 0x00, 0x07, 0x64, 0x64, 0x3d, 0xcf]

def trackingRequest : Bytes :=
  [0x55, 0x66, 0x01, 0x01, 0x00, 0x00, 0x00, 0x55, 0x01, 0x32, 0x6a]

def lookAhead : SetAttitude (Option Rat) :=
  { longEnough := true, addressed := true, flags := 32, pitchRate := none, yawRate := none
    quaternion := (some 1, some 0, some 0, some 0), vehicle := none }

end Gimbal
