/-
This file models the gimbal backend of the Z1-Mini in exact rational arithmetic: the pose that is
held, what moves it, the feedback it is taken from, and the command frames, which may go out in
several writes.

Every reading of the clock is a parameter of the call that takes it. What was accepted, moved,
composed and written is kept as a history.
-/

import CameraGimbal.Z1Feedback
import Mathlib.Data.Rat.Floor

namespace Z1Control

open List

open Siyi (byteAt getU16le crc16)

/-! ### Angles -/

/-- Roll, pitch and yaw. -/
structure Pose where
  roll : Rat
  pitch : Rat
  yaw : Rat
  deriving DecidableEq

/-- The literal in `CD_RAD`. -/
def piLiteral : Rat := 314159265358979323846 / 100000000000000000000

/-- `CD_RAD`: a hundredth of a degree. -/
def cdRad : Rat := piLiteral / 18000

/-- `FRESH_MS`. -/
def freshMs : Nat := 250

/-- `RATE_TIMEOUT_MS`. -/
def rateTimeoutMs : Nat := 300

def clamp (value low high : Rat) : Rat := min high (max low value)

/-- `APCAM_GIMBAL_PITCH_MIN * 100 * CD_RAD`. -/
def pitchMin : Rat := -90 * 100 * cdRad

/-- `APCAM_GIMBAL_PITCH_MAX * 100 * CD_RAD`. -/
def pitchMax : Rat := 30 * 100 * cdRad

/-- `APCAM_GIMBAL_YAW_MIN * 100 * CD_RAD`. -/
def yawMin : Rat := -180 * 100 * cdRad

/-- `APCAM_GIMBAL_YAW_MAX * 100 * CD_RAD`. -/
def yawMax : Rat := 180 * 100 * cdRad

/-- The largest rate that is accepted. -/
def rateMax : Rat := 6000 * cdRad

/-- `apcam_wrap_degrees`: its first loop subtracts full turns, its second one adds them. -/
def wrapDegrees (degrees : Rat) : Rat :=
  let lowered := degrees - 360 * ⌈(degrees - 180) / 360⌉.toNat
  lowered + 360 * ⌈(-180 - lowered) / 360⌉.toNat

/-- `apcam_transform` with `apcam_feedback` or `apcam_angle_command`: on this target the matrices
are the identity and the offsets zero, whichever way up the camera is. -/
def transform (degrees : Pose) : Pose where
  roll := wrapDegrees degrees.roll
  pitch := wrapDegrees degrees.pitch
  yaw := wrapDegrees degrees.yaw

def angle (data : Bytes) (index : Nat) : Rat := (getU16le data index).toInt16.toInt * cdRad

/-- `lroundf`: halves go away from zero. -/
def lround (value : Rat) : Int := if 0 ≤ value then ⌊value + 1 / 2⌋ else -⌊-value + 1 / 2⌋

def putAngle (radians : Rat) : Bytes :=
  let cd := (Int16.ofInt (lround (radians / cdRad))).toUInt16
  [cd.toUInt8, (cd >>> 8).toUInt8]

def feedbackPose (frame : Bytes) : Pose :=
  let degrees := transform
    { roll := angle frame 12 * (180 / piLiteral)
      pitch := angle frame 14 * (180 / piLiteral)
      yaw := angle frame 22 * (180 / piLiteral) }
  { roll := degrees.roll * (100 * cdRad)
    pitch := degrees.pitch * (100 * cdRad)
    yaw := degrees.yaw * (100 * cdRad) }

/-- The command frame for a pose. The frame that wakes the motor controller has neither pitch nor
yaw. -/
def commandFrame (wake : Bool) (pose : Pose) : Bytes :=
  let command := transform
    { roll := pose.roll / (100 * cdRad)
      pitch := pose.pitch / (100 * cdRad)
      yaw := pose.yaw / (100 * cdRad) }
  let body := [0xa9, 0x5b, 0x20, 0xc0, 0x10] ++ putAngle (command.roll * (100 * cdRad)) ++
    (if wake then [0x50, 0, 0, 0x40, 0, 0]
    else [0x10] ++ putAngle (command.pitch * (100 * cdRad)) ++ [0] ++
      putAngle (command.yaw * (100 * cdRad))) ++
    List.replicate 13 0 ++ [30, 0xf4, 1] ++ List.replicate 9 0
  let crc := crc16 body
  body ++ [(crc >>> 8).toUInt8, crc.toUInt8]

/-! ### The backend -/

/-- What the history keeps: a valid feedback frame, with the readings of the clock that its
freshness was checked with and that it was stamped with; an accepted pose; accepted rates; by how
much the pose was moved by rates; a composed frame; and bytes that were written. -/
inductive Entry where
  | feedback (checked stamped : Nat) (frame : Bytes)
  | angles (checked : Nat) (pitch yaw : Rat)
  | rates (checked time : Nat) (pitch yaw : Rat)
  | moved (now checked : Nat) (pitch yaw : Rat)
  | composed (checked : Nat) (frame : Bytes)
  | wrote (bytes : Bytes)
  deriving DecidableEq

/-- `struct ca_backend`: `rx` has the bytes up to `used`. The log is its history. -/
structure Backend where
  rx : Bytes
  attitude : Pose
  timestamp : Nat
  pitch : Rat
  yaw : Rat
  roll : Rat
  pitchRate : Rat
  yawRate : Rat
  lastTx : Nat
  rateTime : Nat
  initialized : Bool
  tx : Bytes
  txPending : Nat
  log : List Entry

/-- What `ca_backend_open` leaves: all zero. -/
def Backend.opened : Backend where
  rx := []
  attitude := ⟨0, 0, 0⟩
  timestamp := 0
  pitch := 0
  yaw := 0
  roll := 0
  pitchRate := 0
  yawRate := 0
  lastTx := 0
  rateTime := 0
  initialized := false
  tx := List.replicate 40 0
  txPending := 0
  log := []

def Backend.fresh (backend : Backend) (now : Nat) : Bool :=
  backend.initialized && decide (now - backend.timestamp ≤ freshMs)

def Backend.pose (backend : Backend) : Pose := ⟨backend.roll, backend.pitch, backend.yaw⟩

/-! ### Feedback -/

/-- What `ca_backend_handle_fd` does with a frame. -/
def Backend.accept (backend : Backend) (checked stamped : Nat) (frame : Bytes) : Backend :=
  let reported :=
    { backend with
      attitude := feedbackPose frame
      timestamp := stamped
      log := backend.log ++ [.feedback checked stamped frame] }
  if backend.fresh checked then reported
  else
    -- an old partial command is discarded after a link loss
    { reported with
      txPending := 0
      roll := (feedbackPose frame).roll
      pitch := (feedbackPose frame).pitch
      yaw := (feedbackPose frame).yaw
      pitchRate := 0
      yawRate := 0
      initialized := true }

/-- A byte of a read, with the readings of the clock for the case that it completes a frame. -/
structure Arrival where
  byte : UInt8
  checked : Nat
  stamped : Nat

/-- One byte. The window always has room for it. -/
def Backend.take (backend : Backend) (arrival : Arrival) : Backend :=
  match receive backend.rx arrival.byte with
  | none => backend
  | some (rx, none) => { backend with rx }
  | some (rx, some frame) => { backend with rx }.accept arrival.checked arrival.stamped frame

/-- `ca_backend_handle_fd`, with the bytes that `read` gives. -/
def Backend.handleFd (backend : Backend) (data : List Arrival) : Backend :=
  data.foldl Backend.take backend

/-! ### Commands -/

/-- `errno`. -/
inductive Errno where
  | again
  | invalid
  deriving DecidableEq

/-- `ca_backend_set_gimbal_angles`; an angle that is not finite is none. -/
def Backend.setGimbalAngles (backend : Backend) (checked : Nat) (pitch yaw : Option Rat) :
    Backend × Option Errno :=
  if !backend.fresh checked then (backend, some .again)
  else
    match pitch, yaw with
    | some pitch, some yaw =>
      let pitch := clamp pitch pitchMin pitchMax
      let yaw := clamp yaw yawMin yawMax
      ({ backend with
          pitch, yaw
          pitchRate := 0
          yawRate := 0
          log := backend.log ++ [.angles checked pitch yaw] },
        none)
    | _, _ => (backend, some .invalid)

/-- `ca_backend_set_gimbal_rates`. -/
def Backend.setGimbalRates (backend : Backend) (checked time : Nat) (pitch yaw : Option Rat) :
    Backend × Option Errno :=
  if !backend.fresh checked then (backend, some .again)
  else
    match pitch, yaw with
    | some pitch, some yaw =>
      let pitch := clamp pitch (-rateMax) rateMax
      let yaw := clamp yaw (-rateMax) rateMax
      ({ backend with
          pitchRate := pitch
          yawRate := yaw
          rateTime := time
          log := backend.log ++ [.rates checked time pitch yaw] },
        none)
    | _, _ => (backend, some .invalid)

/-- `ca_backend_set_gimbal_neutral`. -/
def Backend.setGimbalNeutral (backend : Backend) (checked : Nat) : Backend × Option Errno :=
  backend.setGimbalAngles checked (some 0) (some 0)

/-! ### The periodic step -/

def Backend.stopped (backend : Backend) : Backend := { backend with pitchRate := 0, yawRate := 0 }

/-- `write` takes so many of the bytes that are pending; none when it fails. -/
def Backend.write (backend : Backend) (taken : Nat) : Backend :=
  let count := min taken backend.txPending
  let bytes := (backend.tx.drop (backend.tx.length - backend.txPending)).take count
  if 0 < count then
    { backend with
      txPending := backend.txPending - count
      log := backend.log ++ [.wrote bytes] }
  else backend

/-- An angle that a rate has moved for some seconds. -/
def advance (position rate seconds low high : Rat) : Rat :=
  if rate ≠ 0 then clamp (position + rate * seconds) low high else position

/-- The seconds since the last frame, at most a twentieth. -/
def seconds (since now : Nat) : Rat := min ((now - since : Nat) * (1 / 1000)) (1 / 20)

/-- Integrate the rates over the time since the last frame. -/
def Backend.integrate (backend : Backend) (now checked : Nat) : Backend :=
  let elapsed := seconds backend.lastTx now
  let sent := { backend with lastTx := now }
  let driven := if rateTimeoutMs < now - backend.rateTime then sent.stopped else sent
  let pitch := advance driven.pitch driven.pitchRate elapsed pitchMin pitchMax
  let yaw := advance driven.yaw driven.yawRate elapsed yawMin yawMax
  { driven with
    pitch, yaw
    log := driven.log ++ [.moved now checked (pitch - driven.pitch) (yaw - driven.yaw)] }

/-- Put the next frame together. -/
def Backend.compose (backend : Backend) (checked : Nat) : Backend :=
  let frame := commandFrame (!backend.fresh checked) backend.pose
  { backend with
    tx := frame
    txPending := frame.length
    log := backend.log ++ [.composed checked frame] }

/-- `ca_backend_periodic`, with its two readings of the clock. -/
def Backend.periodic (backend : Backend) (now checked taken : Nat) : Backend :=
  let ready := if backend.fresh checked then backend else backend.stopped
  if ready.txPending ≠ 0 then ready.write taken
  else if now - ready.lastTx < 20 then ready
  else ((ready.integrate now checked).compose checked).write taken

/-! ### Runs -/

inductive Event where
  | read (data : List Arrival)
  | angles (checked : Nat) (pitch yaw : Option Rat)
  | rates (checked time : Nat) (pitch yaw : Option Rat)
  | neutral (checked : Nat)
  | periodic (now checked taken : Nat)

/-- The readings of the clock that an event may take, in their order. -/
def Event.readings : Event → List Nat
  | .read data => data.flatMap fun arrival => [arrival.checked, arrival.stamped]
  | .angles checked _ _ => [checked]
  | .rates checked time _ _ => [checked, time]
  | .neutral checked => [checked]
  | .periodic now checked _ => [now, checked]

def step (backend : Backend) : Event → Backend
  | .read data => backend.handleFd data
  | .angles checked pitch yaw => (backend.setGimbalAngles checked pitch yaw).1
  | .rates checked time pitch yaw => (backend.setGimbalRates checked time pitch yaw).1
  | .neutral checked => (backend.setGimbalNeutral checked).1
  | .periodic now checked taken => backend.periodic now checked taken

def run (events : List Event) : Backend := events.foldl step .opened

/-! ### The frames that are accepted -/

/-- A feedback frame that was accepted. -/
def Entry.accepted : Entry → Option Bytes
  | .feedback _ _ frame => some frame
  | _ => none

def Backend.frames (backend : Backend) : List Bytes := backend.log.filterMap Entry.accepted

/-- The bytes that an event reads. -/
def Event.received : Event → Bytes
  | .read data => data.map Arrival.byte
  | _ => []

theorem frames_push (log : List Entry) (entry : Entry) :
    (log ++ [entry]).filterMap Entry.accepted =
      log.filterMap Entry.accepted ++ entry.accepted.toList := by
  rw [filterMap_append]
  cases entry <;> rfl

/-- A call that reads nothing leaves the window alone and accepts no frame. -/
structure Deaf (before after : Backend) : Prop where
  rx : after.rx = before.rx
  frames : after.frames = before.frames

variable {backend : Backend}

theorem Deaf.trans {first second third : Backend} (earlier : Deaf first second)
    (later : Deaf second third) : Deaf first third :=
  ⟨later.rx.trans earlier.rx, later.frames.trans earlier.frames⟩

open Backend

theorem Deaf.log {after : Backend} {entry : Entry} (rx : after.rx = backend.rx)
    (logged : after.log = backend.log ++ [entry]) (silent : entry.accepted = none) :
    Deaf backend after where
  rx := rx
  frames := by
    unfold Backend.frames
    rw [logged, frames_push, silent]
    exact append_nil _

theorem setGimbalAngles_deaf (backend : Backend) (checked : Nat) (pitch yaw : Option Rat) :
    Deaf backend (backend.setGimbalAngles checked pitch yaw).1 := by
  unfold setGimbalAngles
  split
  · exact ⟨rfl, rfl⟩
  split
  · exact .log rfl rfl rfl
  · exact ⟨rfl, rfl⟩

theorem write_deaf (backend : Backend) (taken : Nat) : Deaf backend (backend.write taken) := by
  unfold write
  dsimp only
  split
  · exact .log rfl rfl rfl
  · exact ⟨rfl, rfl⟩

theorem integrate_deaf (backend : Backend) (now checked : Nat) :
    Deaf backend (backend.integrate now checked) := by
  unfold integrate
  split
  · exact .log rfl rfl rfl
  · exact .log rfl rfl rfl

theorem periodic_deaf (backend : Backend) (now checked taken : Nat) :
    Deaf backend (backend.periodic now checked taken) := by
  have ready : Deaf backend (if backend.fresh checked then backend else backend.stopped) := by
    split
    · exact ⟨rfl, rfl⟩
    · exact ⟨rfl, rfl⟩
  have composed (before : Backend) : Deaf before (before.compose checked) := .log rfl rfl rfl
  unfold periodic
  dsimp only
  generalize (if backend.fresh checked then backend else backend.stopped) = held at ready ⊢
  split
  · exact ready.trans (write_deaf _ _)
  split
  · exact ready
  · exact ((ready.trans (integrate_deaf _ _ _)).trans (composed _)).trans (write_deaf _ _)

variable {received : Bytes}

theorem take_follows (follows : Follows backend.rx backend.frames received) (arrival : Arrival) :
    Follows (backend.take arrival).rx (backend.take arrival).frames
      (received ++ [arrival.byte]) := by
  obtain ⟨next, frame, taken, follows⟩ := receive_follows follows arrival.byte
  unfold Backend.take
  rw [taken]
  cases frame with
  | none => exact (append_nil backend.frames) ▸ follows
  | some frame =>
    have pushed := frames_push backend.log (.feedback arrival.checked arrival.stamped frame)
    unfold Backend.accept Backend.frames
    dsimp only
    split
    · exact pushed ▸ follows
    · exact pushed ▸ follows

theorem handleFd_follows (data : List Arrival)
    (follows : Follows backend.rx backend.frames received) :
    Follows (backend.handleFd data).rx (backend.handleFd data).frames
      (received ++ data.map Arrival.byte) := by
  induction data generalizing backend received with
  | nil => rwa [map_nil, append_nil]
  | cons arrival rest hypothesis =>
    have later := hypothesis (take_follows follows arrival)
    rwa [append_assoc] at later

theorem step_follows (follows : Follows backend.rx backend.frames received) (event : Event) :
    Follows (step backend event).rx (step backend event).frames (received ++ event.received) := by
  have deaf {after : Backend} (deaf : Deaf backend after) :
      Follows after.rx after.frames (received ++ []) := by
    rwa [deaf.rx, deaf.frames, append_nil]
  cases event with
  | read data => exact handleFd_follows data follows
  | angles checked pitch yaw => exact deaf (setGimbalAngles_deaf _ _ _ _)
  | rates checked time pitch yaw =>
    refine deaf ?_
    unfold step setGimbalRates
    dsimp only
    split
    · exact ⟨rfl, rfl⟩
    split
    · exact .log rfl rfl rfl
    · exact ⟨rfl, rfl⟩
  | neutral checked => exact deaf (setGimbalAngles_deaf _ _ _ _)
  | periodic now checked taken => exact deaf (periodic_deaf _ _ _ _)

theorem events_follow (events : List Event)
    (follows : Follows backend.rx backend.frames received) :
    Follows (events.foldl step backend).rx (events.foldl step backend).frames
      (received ++ events.flatMap Event.received) := by
  induction events generalizing backend received with
  | nil => rwa [flatMap_nil, append_nil]
  | cons event rest hypothesis =>
    have later := hypothesis (step_follows follows event)
    rwa [append_assoc] at later

/-- Whatever is read, in whatever pieces and with whatever calls between them, every byte has room
in the window, the inner loop ends, and the frames accepted are those of the greedy scan of
windows. -/
theorem scanner_greedy :
    (∀ events : List Event,
      (run events).frames = (Framing.scan windowFormat (events.flatMap Event.received)).1 ∧
        (run events).rx.length < frameSize ∧
        ∀ byte, (receive (run events).rx byte).isSome = true) ∧
    ∀ rx : Bytes, shiftOut rx <:+ rx ∧ (shiftOut rx = [] ∨ misplaced (shiftOut rx) = false) := by
  refine ⟨fun events => ?_, shiftOut_ends⟩
  have follows : Follows (run events).rx (run events).frames _ := events_follow events Follows.start
  refine ⟨?_, follows.length_lt, fun byte => ?_⟩
  · rw [List.nil_append] at follows
    rw [← scan_eager, follows]
  · obtain ⟨next, frame, taken, -⟩ := receive_follows follows byte
    rw [taken]
    rfl

end Z1Control
