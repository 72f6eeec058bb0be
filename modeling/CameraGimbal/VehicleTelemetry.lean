/-
This file models what the MAVLink server takes from the messages of the autopilot: the handlers of
the gimbal state, of ATTITUDE, of GLOBAL_POSITION_INT and of SYSTEM_TIME, with what each of them
checks and where the data go, and the heading that is predicted from the last gimbal state.

The trigonometric functions of the C library are a parameter.
-/

import CameraGimbal.MavlinkServer

namespace Vehicle

open MavlinkServer (Requester)

/-- The trigonometric functions of the C library. -/
structure Trigonometry where
  atan2f : Float32 → Float32 → Float32
  asinf : Float32 → Float32
  cosf : Float32 → Float32
  sinf : Float32 → Float32

def nan : Float32 := .ofBits 0x7fc00000

/-! ### What is taken -/

/-- The heading that the server keeps. -/
structure Attitude where
  yaw : Float32
  yawRate : Float32
  updatedMs : UInt64
  deriving DecidableEq

/-- The position that the server keeps. -/
structure Position where
  latE7 : Int32
  lonE7 : Int32
  altAmsl : Float32
  north : Float32
  east : Float32
  down : Float32
  updatedMs : UInt64
  deriving DecidableEq

/-- One thing taken from a message: into the server's own members, into the metadata, or into the
clock of the system. -/
inductive Datum where
  | attitude (attitude : Attitude)
  | position (position : Position)
  | metadataAttitude (roll pitch yaw yawRate : Float32)
  | metadataVelocity (north east down : Float32)
  | metadataPosition (latE7 lonE7 : Int32) (altAmsl altRelative heading : Float32)
  | systemTime (seconds nanoseconds : Nat)
  deriving DecidableEq

/-- What the server keeps of the vehicle; the flags `have_vehicle_attitude` and
`have_vehicle_position` say what there is. -/
structure State where
  attitude : Option Attitude
  position : Option Position
  deriving DecidableEq

def State.empty : State := { attitude := none, position := none }

def State.take (state : State) : Datum → State
  | .attitude attitude => { state with attitude := some attitude }
  | .position position => { state with position := some position }
  | _ => state

/-! ### Messages -/

/-- AUTOPILOT_STATE_FOR_GIMBAL_DEVICE, with the length it was sent with. -/
structure AutopilotState where
  length : Nat
  targetSystem : UInt8
  targetComponent : UInt8
  q : Fin 4 → Float32
  vx : Float32
  vy : Float32
  vz : Float32
  feedForwardAngularVelocityZ : Float32
  angularVelocityZ : Float32

structure AttitudeMessage where
  roll : Float32
  pitch : Float32
  yaw : Float32
  pitchspeed : Float32
  yawspeed : Float32

structure GlobalPosition where
  lat : Int32
  lon : Int32
  alt : Int32
  relativeAlt : Int32
  vx : Int16
  vy : Int16
  vz : Int16
  hdg : UInt16

inductive Telemetry where
  | autopilotState (state : AutopilotState)
  | attitude (attitude : AttitudeMessage)
  | globalPosition (position : GlobalPosition)
  | systemTime (unixUsec : UInt64)

/-- The clocks while a message is handled: the monotonic one, the seconds of the system's one when
it can be read, and whether that can be set. -/
structure Clocks where
  monotonicMs : UInt64
  realtime : Option Int
  settable : Bool

/-! ### Handlers -/

/-- `VEHICLE_ATTITUDE_TIMEOUT_MS`. -/
def attitudeTimeoutMs : UInt64 := 1000

def quaternionToEuler (trigonometry : Trigonometry) (q : Fin 4 → Float32) :
    Float32 × Float32 × Float32 :=
  let sinPitch := 2 * (q 0 * q 2 - q 3 * q 1)
  let sinPitch := if 1 < sinPitch then 1 else sinPitch
  let sinPitch := if sinPitch < -1 then -1 else sinPitch
  (trigonometry.atan2f (2 * (q 0 * q 1 + q 2 * q 3)) (1 - 2 * (q 1 * q 1 + q 2 * q 2)),
    trigonometry.asinf sinPitch,
    trigonometry.atan2f (2 * (q 0 * q 3 + q 1 * q 2)) (1 - 2 * (q 2 * q 2 + q 3 * q 3)))

def squares (q : Fin 4 → Float32) : Float32 :=
  0 + q 0 * q 0 + q 1 * q 1 + q 2 * q 2 + q 3 * q 3

/-- A quaternion that is scaled to length one, unless it has no length. -/
def normalized (q : Fin 4 → Float32) : Option (Fin 4 → Float32) :=
  if (List.finRange 4).any fun i => !(q i).isFinite then none
  else if !(squares q).isFinite || decide (squares q < 0.000001) then none
  else some fun i => q i / (squares q).sqrt

/-- The rate of a gimbal state: the measured one when it was sent, then the one that is asked
for. -/
def AutopilotState.yawRate (state : AutopilotState) : Float32 :=
  let yawRate := if 57 ≤ state.length then state.angularVelocityZ else nan
  let yawRate := if yawRate.isFinite then yawRate else state.feedForwardAngularVelocityZ
  if yawRate.isFinite then yawRate else 0

/-- `ca_metadata_set_velocity` ignores a velocity that is not finite. -/
def setVelocity (north east down : Float32) : List Datum :=
  if north.isFinite && east.isFinite && down.isFinite then [.metadataVelocity north east down]
  else []

/-- `handle_autopilot_state_for_gimbal`, behind the check of the sender. -/
def autopilotStateData (trigonometry : Trigonometry) (targetMatches : UInt8 → UInt8 → Bool)
    (now : UInt64) (state : AutopilotState) : List Datum :=
  if targetMatches state.targetSystem state.targetComponent then
    match normalized state.q with
    | none => []
    | some q =>
      let (roll, pitch, yaw) := quaternionToEuler trigonometry q
      [.metadataAttitude roll pitch yaw state.yawRate] ++
        setVelocity state.vx state.vy state.vz ++
          [.attitude { yaw, yawRate := state.yawRate, updatedMs := now }]
  else []

/-- `handle_attitude`, behind the check of the sender: for the metadata only, and only while there
is no fresh gimbal state. -/
def attitudeData (trigonometry : Trigonometry) (kept : Option Attitude) (now : UInt64)
    (attitude : AttitudeMessage) : List Datum :=
  if !attitude.roll.isFinite || !attitude.pitch.isFinite || !attitude.yaw.isFinite then []
  else if kept.any fun last => now - last.updatedMs < attitudeTimeoutMs then []
  else
    let cp := trigonometry.cosf attitude.pitch
    -- body rates into the rate of the heading
    let yawRate :=
      if 0.01 < cp.abs then
        (attitude.pitchspeed * trigonometry.sinf attitude.roll +
          attitude.yawspeed * trigonometry.cosf attitude.roll) / cp
      else nan
    [.metadataAttitude attitude.roll attitude.pitch attitude.yaw yawRate]

/-- The first of September 2026. -/
def earliestValidTime : Nat := 1788220800

/-- `handle_system_time`, behind the check of the sender. -/
def systemTimeData (clocks : Clocks) (unixUsec : UInt64) : List Datum :=
  if unixUsec.toNat < earliestValidTime * 1000000 then []
  else
    match clocks.realtime with
    | none => []
    | some seconds =>
      if (earliestValidTime : Int) ≤ seconds then []
      else if clocks.settable then
        [.systemTime (unixUsec.toNat / 1000000) (unixUsec.toNat % 1000000 * 1000)]
      else []

/-- `(float)(M_PI / 180.0)`. -/
def radiansPerDegree : Float32 := 0.017453292519943295

/-- The value of an integer in single precision. -/
def ofInt (number : Int) : Float32 := .ofModel (.ofInt number)

/-- `handle_global_position_int`, behind the check of the sender. -/
def globalPositionData (now : UInt64) (position : GlobalPosition) : List Datum :=
  if position.lat < -900000000 || 900000000 < position.lat ||
      position.lon < -1800000000 || 1800000000 < position.lon then []
  else
    let heading :=
      if position.hdg = 0xffff then nan
      else ofInt position.hdg.toNat * 0.01 * radiansPerDegree
    let north := ofInt position.vx.toInt * 0.01
    let east := ofInt position.vy.toInt * 0.01
    let down := ofInt position.vz.toInt * 0.01
    [.metadataPosition position.lat position.lon (ofInt position.alt.toInt * 0.001)
        (ofInt position.relativeAlt.toInt * 0.001) heading] ++
      setVelocity north east down ++
        [.position
          { latE7 := position.lat
            lonE7 := position.lon
            altAmsl := ofInt position.alt.toInt * 0.001
            north, east, down
            updatedMs := now }]

/-- What the handlers take from a message of the autopilot. -/
def telemetryData (trigonometry : Trigonometry) (targetMatches : UInt8 → UInt8 → Bool)
    (state : State) (clocks : Clocks) : Telemetry → List Datum
  | .autopilotState message =>
    autopilotStateData trigonometry targetMatches clocks.monotonicMs message
  | .attitude message => attitudeData trigonometry state.attitude clocks.monotonicMs message
  | .globalPosition message => globalPositionData clocks.monotonicMs message
  | .systemTime unixUsec => systemTimeData clocks unixUsec

/-- The four handlers, each of which first checks that the sender is the autopilot. -/
def handleTelemetry (trigonometry : Trigonometry) (autopilot : Requester)
    (targetMatches : UInt8 → UInt8 → Bool) (state : State) (clocks : Clocks)
    (sender : Requester) (message : Telemetry) : List Datum :=
  if sender ≠ autopilot then []
  else telemetryData trigonometry targetMatches state clocks message

/-! ### The predicted heading -/

def piF : Float32 := 3.14159265358979323846

/-- `VEHICLE_PREDICTION_MS`. -/
def predictionMs : Float32 := 250

/-- `fminf`: a number that is none counts as missing. -/
def fminf (x y : Float32) : Float32 :=
  if x.isNaN then y else if y.isNaN then x else if y < x then y else x

/-- `while (angle > PI_F) angle -= 2.0f * PI_F`, for so many rounds at most. -/
def wrapDown : Nat → Float32 → Option Float32
  | 0, angle => if piF < angle then none else some angle
  | rounds + 1, angle => if piF < angle then wrapDown rounds (angle - 2 * piF) else some angle

/-- `while (angle < -PI_F) angle += 2.0f * PI_F`, for so many rounds at most. -/
def wrapUp : Nat → Float32 → Option Float32
  | 0, angle => if angle < -piF then none else some angle
  | rounds + 1, angle => if angle < -piF then wrapUp rounds (angle + 2 * piF) else some angle

/-- `wrap_pi_f`, when its loops end within so many rounds each. -/
def wrapPiF (rounds : Nat) (angle : Float32) : Option Float32 :=
  (wrapDown rounds angle).bind (wrapUp rounds)

/-- The time since the last gimbal state that the heading is predicted for. -/
def elapsed (attitude : Attitude) (now : UInt64) : Float32 :=
  fminf (ofInt (now - attitude.updatedMs).toNat / 1000) (predictionMs * 0.001)

/-- What `current_vehicle_attitude` gives `wrap_pi_f`, when it calls it. -/
def wrapArgument (state : State) (now : UInt64) : Option Float32 :=
  match state.attitude with
  | none => none
  | some attitude =>
    if attitudeTimeoutMs < now - attitude.updatedMs then none
    else some (attitude.yaw + attitude.yawRate * elapsed attitude now)

/-- `current_vehicle_attitude`: the heading, and the rate of the heading. There is none when there
is no fresh gimbal state; the loops may not end within the rounds. -/
def currentVehicleAttitude (rounds : Nat) (state : State) (now : UInt64) :
    Option (Option (Float32 × Float32)) :=
  match state.attitude, wrapArgument state now with
  | some attitude, some argument =>
    (wrapPiF rounds argument).map fun yaw => some (yaw, attitude.yawRate)
  | _, _ => some none

end Vehicle
