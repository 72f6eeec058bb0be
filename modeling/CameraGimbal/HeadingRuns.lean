/-
This file proves that the loops of `wrap_pi_f` end in every run of the MAVLink server as long as
every gimbal state that is taken turns slowly enough: its heading and a quarter of its rate make an
angle below two to the number of mantissa bits. The handler checks only that the rate is finite, and
for a very large one the loops do not end.
-/

import CameraGimbal.MavlinkLatch
import CameraGimbal.VehicleHeading

namespace MavlinkIdentity

open MavlinkLink MavlinkServer OutputQueue SinglePrecision Transition Vehicle

variable {Message Status : Type}

/-! ### Gimbal states -/

/-- The heading and a quarter of the rate make an angle that the loops can wrap. -/
def CalmState (trigonometry : Trigonometry) (state : AutopilotState) : Prop :=
  ∀ q, normalized state.q = some q →
    |value (quaternionToEuler trigonometry q).2.2 + value state.yawRate / 4| < 2 ^ 24 - 1 / 2

/-- A message that is not a gimbal state, or one that the handler drops, or a calm one. -/
def Steady (trigonometry : Trigonometry) (server : Server Message Status) :
    Report Message → Prop
  | .telemetry sender (.autopilotState state) _ =>
    server.systemId ≠ 0 → sender = server.autopilot →
      targetMatches server.base state.targetSystem state.targetComponent gimbalComponentId = true →
        CalmState trigonometry state
  | _ => True

/-- The heading that is kept, when there is one, can be predicted. -/
def Predictable (state : Vehicle.State) : Prop :=
  ∀ attitude, state.attitude = some attitude → attitude.Calm

theorem predictable_empty : Predictable State.empty := by
  intro attitude kept
  cases kept

variable {trigonometry : Trigonometry}

theorem calm_of_autopilotStateData (documented : trigonometry.Documented)
    {targetMatches : UInt8 → UInt8 → Bool} {now : UInt64} {state : AutopilotState}
    (calm : targetMatches state.targetSystem state.targetComponent = true →
      CalmState trigonometry state) {attitude : Attitude}
    (member : .attitude attitude ∈ autopilotStateData trigonometry targetMatches now state) :
    attitude.Calm := by
  unfold autopilotStateData at member
  split at member
  · next isTarget =>
    split at member
    · cases member
    · next q isScaled =>
      split at member
      next roll pitch yaw isEuler =>
      have isAttitude : attitude = { yaw, yawRate := state.yawRate, updatedMs := now } := by
        unfold setVelocity at member
        split at member
        · simpa using member
        · simpa using member
      have heading := heading_within documented (normalized_within isScaled)
      have small := calm isTarget q isScaled
      rw [isEuler] at heading small
      rw [isAttitude]
      exact { heading, finiteRate := state.yawRate_isFinite, small }
  · cases member

variable {server : Server Message Status}

theorem calm_of_telemetryData (documented : trigonometry.Documented) {sender : Requester}
    {message : Telemetry} {clocks : Clocks} (known : server.systemId ≠ 0)
    (steady : Steady trigonometry server (.telemetry sender message clocks : Report Message))
    {attitude : Attitude} (member : .attitude attitude ∈
      data trigonometry server (.telemetry sender message clocks : Report Message)) :
    attitude.Calm := by
  simp only [data, handleTelemetry] at member
  split at member
  · cases member
  next isAutopilot =>
  cases message with
  | autopilotState state =>
    exact @calm_of_autopilotStateData _ documented
      (fun system component => targetMatches server.base system component gimbalComponentId) _ _
      (steady known (not_not.mp isAutopilot)) _ member
  | attitude attitude =>
    simp only [telemetryData, attitudeData] at member
    split at member
    · cases member
    split at member
    · cases member
    · simp at member
  | globalPosition position =>
    simp only [telemetryData, globalPositionData, setVelocity] at member
    split at member
    · cases member
    split at member
    · simp at member
    · simp at member
  | systemTime unixUsec =>
    simp only [telemetryData, systemTimeData] at member
    split at member
    · cases member
    split at member
    · cases member
    split at member
    · cases member
    split at member
    · simp at member
    · cases member

/-! ### Messages -/

variable {frames : List (Bytes)}

theorem Predictable.foldl {data : List Datum} {state : Vehicle.State}
    (predictable : Predictable state)
    (calm : ∀ attitude, .attitude attitude ∈ data → attitude.Calm) :
    Predictable (data.foldl State.take state) := by
  refine List.foldlRecOn data State.take predictable fun next reached datum member => ?_
  cases datum with
  | attitude taken =>
    intro attitude isTaken
    cases isTaken
    exact calm taken member
  | _ => exact reached

/-- A steady message leaves a heading that can be predicted. -/
theorem predictable_handleReport (documented : trigonometry.Documented)
    {server : Server Message Status} (predictable : Predictable server.vehicle)
    {step : MavlinkServer.Server Message Status → Received Message →
      MavlinkServer.Server Message Status} {report : Report Message}
    (hears : Hears frames report.received.incoming server.base (step server.base report.received))
    (steady : Steady trigonometry server report) :
    Predictable (handleReport trigonometry step server report).vehicle := by
  unfold handleReport takeTelemetry
  split
  · exact predictable
  next known =>
  refine Predictable.foldl predictable fun attitude member => ?_
  cases report with
  | other received => cases member
  | telemetry sender message clocks =>
    have same := hears.telemetry
    have taken := data_eq trigonometry server same
      (server.heard ++ [{ sender, content := .other }]) (.telemetry sender message clocks)
    have systemId := congrArg Identity.systemId same
    exact calm_of_telemetryData documented (fun isZero => known (systemId.trans isZero)) steady
      (Eq.mp (congrArg (.attitude attitude ∈ ·) taken) member)

/-! ### Runs -/

variable {codec : Codec Message Status} (table : ParameterTable)

theorem predictable_handle (documented : trigonometry.Documented)
    (predictable : Predictable server.vehicle) {event : Event Message}
    (steady : Throughout codec trigonometry (Steady trigonometry) server event) :
    Predictable (handle codec trigonometry table server event).vehicle :=
  @handle_keeps _ _ codec trigonometry table (fun state => Predictable state.vehicle) _
    (fun _ _ predictable => predictable)
    (fun _ _ _ _ hears steady predictable =>
      predictable_handleReport documented predictable hears steady)
    server predictable event steady

/-- In every run with steady messages, whatever the clock shows, the argument of `wrap_pi_f` is
finite and below two to the number of mantissa bits, its loops end, and so does
`current_vehicle_attitude`. -/
theorem heading_wraps (documented : trigonometry.Documented) (support uart : Bool)
    (configured cameraComponentId : UInt8) (status : Status) (events : List (Event Message))
    (steady : Along (handle codec trigonometry table)
      (Throughout codec trigonometry (Steady trigonometry))
      (start support uart configured cameraComponentId status) events)
    (now : UInt64) :
    let vehicle := (run codec trigonometry table
      (start support uart configured cameraComponentId status) events).vehicle
    (∀ argument, wrapArgument vehicle now = some argument →
      argument.isFinite = true ∧ |value argument| < 2 ^ 24 ∧
        ∃ rounds, (wrapPiF rounds argument).isSome = true) ∧
    ∃ rounds, (currentVehicleAttitude rounds vehicle now).isSome = true := by
  intro vehicle
  have predictable : Predictable vehicle :=
    @foldl_keeps _ _ (fun state : Server Message Status => Predictable state.vehicle) _ _
      (fun _ _ allowed reached => predictable_handle table documented reached allowed) _
      predictable_empty events steady
  have wraps {argument : Float32} (isArgument : wrapArgument vehicle now = some argument) :
      Wraps argument := by
    unfold wrapArgument at isArgument
    split at isArgument
    · cases isArgument
    next attitude kept =>
    split at isArgument
    · cases isArgument
    next fresh =>
    rw [← Option.some.inj isArgument]
    exact (predictable attitude kept).wraps fresh
  exact ⟨fun argument isArgument =>
    ⟨(wraps isArgument).finite, (wraps isArgument).small, wrapPiF_isSome (wraps isArgument)⟩,
    currentVehicleAttitude_isSome fun argument isArgument => wrapPiF_isSome (wraps isArgument)⟩

/-! ### A rate that is too large -/

def pilot : Requester := { system := 1, component := 1 }

/-- A gimbal state that looks north and turns at a rate. -/
def turning (rate : Float32) : AutopilotState where
  length := 57
  targetSystem := 1
  targetComponent := 154
  q := ![1, 0, 0, 0]
  vx := 0
  vy := 0
  vz := 0
  feedForwardAngularVelocityZ := 0
  angularVelocityZ := rate

/-- A heartbeat of the autopilot, and then such a state from it. -/
def turningEvents (rate : Float32) : List (Event Unit) :=
  [.readUart
    [.other { incoming := { sender := pilot, content := .heartbeat 9 2 3 }, responses := [] },
      .telemetry pilot (.autopilotState (turning rate))
        { monotonicMs := 1000, realtime := none, settable := false }] false]

def afterTurning (rate : Float32) : Server Unit Unit :=
  run silentCodec flat oneParameter (start false true 1 100 ()) (turningEvents rate)

theorem flat_documented : flat.Documented := by
  refine fun _ _ _ _ => ⟨value_zero.1, ?_⟩
  show |value 0| ≤ value piF
  rw [value_zero.2, value_piF.2]
  norm_num

theorem turning_calm : CalmState flat (turning 1) := by
  intro q _
  show |value 0 + value (turning 1).yawRate / 4| < 2 ^ 24 - 1 / 2
  have isOne : value (turning 1).yawRate = 1 := value_one.2
  rw [value_zero.2, isOne]
  norm_num

/-- A rate of one radian a second. -/
theorem turning_wraps :
    wrapArgument (afterTurning 1).vehicle 1250 = some 0.25 ∧
      (0.25 : Float32).isFinite = true ∧ |value 0.25| < 2 ^ 24 ∧
        (∃ rounds, (wrapPiF rounds 0.25).isSome = true) ∧
        ∃ rounds, (currentVehicleAttitude rounds (afterTurning 1).vehicle 1250).isSome = true := by
  have isArgument : wrapArgument (afterTurning 1).vehicle 1250 = some 0.25 := by decide
  obtain ⟨wraps, ends⟩ := heading_wraps oneParameter flat_documented false true 1 100 ()
    (turningEvents 1) ⟨fun _ => ⟨trivial, fun _ _ _ => turning_calm, trivial⟩, trivial⟩ 1250
  obtain ⟨finite, small, loops⟩ := wraps 0.25 isArgument
  exact ⟨isArgument, finite, small, loops, ends⟩

/-- A rate of ten to the twelve radians a second is taken, and a quarter of a second later the loop
never ends. -/
theorem turning_endless :
    wrapArgument (afterTurning 1000000000000).vehicle 1250 = some 250000000000 ∧
      ¬ |value 250000000000| < 2 ^ 24 ∧ ∀ rounds, wrapPiF rounds 250000000000 = none := by
  refine ⟨by decide, by decide +kernel, fun rounds => ?_⟩
  unfold wrapPiF
  rw [wrapDown_of_stays (by decide +kernel) (by decide), Option.bind_none]

end MavlinkIdentity
