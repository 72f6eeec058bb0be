/-
This file proves that the lease of the web's manual control excludes every other
source of motion: while it is held, nothing but the holder's own commands makes
the backend send a command that moves the gimbal or changes its mode.

The lock is checked at each entry point. What the entry points that do not check
it rely on is that a lease, when it is acquired, ends the tracking by rates.
-/

import CameraGimbal.GimbalSystem

namespace Gimbal

open ManualControl

open Outputs (Adds)

variable {Number : Type}

/-! ### Who changes the manual control -/

variable (build : Build Number) (world : World)

@[simp] theorem stopTrackingRate_control (system : System Number) :
    (stopTrackingRate build world system).control = system.control := by
  unfold stopTrackingRate
  cases system.tracking.rateActive <;> rfl

@[simp] theorem stopTrackingRate_manual (system : System Number) :
    (stopTrackingRate build world system).manual = system.manual := by
  unfold System.manual
  rw [stopTrackingRate_control]

variable {system : System Number}

theorem stopTrackingRate_idle (idle : system.tracking.rateActive = false) :
    (stopTrackingRate build world system).backend = system.backend := by
  unfold stopTrackingRate
  rw [idle]
  rfl

section

variable (system : System Number)

@[simp] theorem suspendGimbal_control :
    (suspendGimbal build world system).control = system.control :=
  stopTrackingRate_control build world system

@[simp] theorem clearTargetLocation_control :
    (clearTargetLocation build world system).control = system.control :=
  stopTrackingRate_control build world _

theorem moveAsAsked_control (request : SetAttitude Number)
    (earthYaw : Bool) (vehicleYaw vehicleYawRate : Number) :
    (moveAsAsked build world system request earthYaw vehicleYaw vehicleYawRate).control =
      system.control := by
  unfold moveAsAsked
  simp only
  split
  · rfl
  split <;> rfl

theorem handleGimbalSetAttitude_control (request : SetAttitude Number) :
    (handleGimbalSetAttitude build world system request).control = system.control := by
  unfold handleGimbalSetAttitude
  split
  · rfl
  split
  · rfl
  split
  · rfl
  split
  · exact clearTargetLocation_control build world system
  split
  · split
    · exact clearTargetLocation_control build world system
    · rw [moveAsAsked_control, clearTargetLocation_control]
  · rw [moveAsAsked_control, clearTargetLocation_control]

theorem handleCommandInt_control (request : CommandInt Number) :
    (handleCommandInt build world system request).control = system.control := by
  unfold handleCommandInt
  split
  · rfl
  split
  · rfl
  split
  · rfl
  split
  · split
    · rfl
    split <;> rfl
  split
  · exact clearTargetLocation_control build world system
  · rfl

section

variable (change : ConfigChange)

@[simp] theorem stopForReopen_control :
    (stopForReopen build world system change).control = system.control := by
  unfold stopForReopen
  split
  · exact stopTrackingRate_control build world system
  · rfl

@[simp] theorem adoptConfig_control :
    (adoptConfig build world system change).control = system.control := by
  unfold adoptConfig
  split
  · exact suspendGimbal_control build world system
  · rfl

theorem applyRuntimeConfig_control :
    (applyRuntimeConfig build world system change).1.control = system.control := by
  unfold applyRuntimeConfig
  split
  · exact stopForReopen_control build world system change
  split
  · exact stopForReopen_control build world system change
  · rw [adoptConfig_control, stopForReopen_control]

theorem applyCameraConfig_control (saved : Bool)
    (rollback : ConfigChange) :
    (applyCameraConfig build world system change saved rollback).control = system.control := by
  have applied := applyRuntimeConfig_control build world system change
  unfold applyCameraConfig
  split
  · next refused same =>
    rw [same] at applied
    exact applied
  · next after same =>
    rw [same] at applied
    split
    · exact applied
    · exact (applyRuntimeConfig_control build world after _).trans applied

end

theorem trackByRate_control (rates : Option (Number × Number)) :
    (trackByRate build world system rates).control = system.control := by
  unfold trackByRate
  split
  · exact stopTrackingRate_control build world system
  split
  · exact stopTrackingRate_control build world system
  · split
    · rfl
    · exact stopTrackingRate_control build world _

theorem updateTargetLocation_control (sight : Sight Number) :
    (updateTargetLocation build world system sight).control = system.control := by
  unfold updateTargetLocation
  simp only
  split
  · rfl
  split
  · exact stopTrackingRate_control build world system
  split
  · rfl
  split
  · exact stopTrackingRate_control build world _
  · split
    · exact trackByRate_control build world _ _
    · exact stopTrackingRate_control build world _

theorem xfrobotReply_control (data : Bytes) :
    (xfrobotReply build world system data).control = system.control := by
  unfold xfrobotReply
  simp only
  split
  · rfl
  split
  · rfl
  split
  · rfl
  split
  · split <;> rfl
  split
  · split <;> rfl
  · rfl

theorem handleEvent_control {event : Event Number}
    (other : event.isWeb = false) :
    (handleEvent build world system event).control = system.control := by
  cases event with
  | web webStep => cases other
  | siyi data => rfl
  | xfrobot data => exact xfrobotReply_control build world system data
  | setAttitude request => exact handleGimbalSetAttitude_control build world system request
  | commandInt request => exact handleCommandInt_control build world system request
  | track sight => exact updateTargetLocation_control build world system sight
  | reload change => exact applyRuntimeConfig_control build world system change
  | parameter change saved rollback =>
    exact applyCameraConfig_control build world system change saved rollback
  | zoom ratio => rfl
  | zoomRate rate => rfl
  | attitudeRequest => rfl
  | mcuFrame frame => rfl
  | periodic focus => rfl
  | closeMavlink => exact stopTrackingRate_control build world system

end

/-! ### A lease ends the tracking by rates -/

/-- While the lease is held, the tracking by rates is off. -/
def Suspended (system : System Number) : Prop :=
  system.control.active = true → system.tracking.rateActive = false

theorem webControl_active {control : Control} {webStep : WebStep}
    (active : (webControl control webStep).active = true) :
    control.active = true ∨ control.suspensions < (webControl control webStep).suspensions := by
  cases held : control.active with
  | true => exact .inl rfl
  | false =>
    right
    cases webStep with
    | deadlines tick =>
      exfalso
      simp only [webControl, checkDeadlines, stopDue,
        expire, held, Bool.false_and, if_neg Bool.false_ne_true] at active
      split at active
      · simp [stopMotion, held] at active
      · rw [held] at active
        cases active
    | datagram datagram =>
      have kept : control.active ≠ true := by
        rw [held]
        exact Bool.false_ne_true
      simp only [webControl, receive] at active ⊢
      split at active
      · next isOpen =>
        rw [if_pos isOpen]
        split at active
        · exact absurd active kept
        next sized =>
        rw [if_neg sized]
        split at active
        · exact absurd active kept
        next magic =>
        rw [if_neg magic]
        exact command_acquires held active
      · exact absurd active kept
    | close attempt => cases active

/-! ### While the lease is held -/

/-- A step that leaves the lease alone, moves nothing and starts no tracking by rates. -/
structure Undisturbed (before after : System Number) : Prop where
  idle : after.tracking.rateActive = false
  quiet : Quiet before.backend after.backend

theorem Undisturbed.of_backend {backend : Backend Number}
    (idle : system.tracking.rateActive = false) (quiet : Quiet system.backend backend) :
    Undisturbed system (system.setBackend backend) :=
  ⟨idle, quiet⟩

theorem Undisturbed.refl (idle : system.tracking.rateActive = false) : Undisturbed system system :=
  ⟨idle, .refl system.backend⟩

theorem stopTrackingRate_undisturbed (idle : system.tracking.rateActive = false) :
    Undisturbed system (stopTrackingRate build world system) := by
  refine ⟨rfl, ?_⟩
  rw [stopTrackingRate_idle build world idle]
  exact .refl system.backend

theorem suspendGimbal_undisturbed (idle : system.tracking.rateActive = false) :
    Undisturbed system (suspendGimbal build world system) :=
  ⟨rfl, (stopTrackingRate_undisturbed build world idle).quiet⟩

theorem Undisturbed.trans {before middle after : System Number}
    (first : Undisturbed before middle) (second : Undisturbed middle after) :
    Undisturbed before after :=
  ⟨second.idle, first.quiet.trans second.quiet⟩

section

variable (idle : system.tracking.rateActive = false) (change : ConfigChange)

include idle

theorem stopForReopen_undisturbed
    : Undisturbed system (stopForReopen build world system change) := by
  unfold stopForReopen
  split
  · exact stopTrackingRate_undisturbed build world idle
  · exact .refl idle

theorem adoptConfig_undisturbed : Undisturbed system (adoptConfig build world system change) := by
  unfold adoptConfig
  split
  · exact ⟨rfl, (suspendGimbal_undisturbed build world idle).quiet⟩
  · exact ⟨idle, .refl system.backend⟩

theorem applyRuntimeConfig_undisturbed :
    Undisturbed system (applyRuntimeConfig build world system change).1 := by
  have stopped := stopForReopen_undisturbed build world idle change
  unfold applyRuntimeConfig
  split
  · exact stopped
  split
  · exact stopped
  · exact stopped.trans (adoptConfig_undisturbed build world stopped.idle change)

theorem applyCameraConfig_undisturbed (saved : Bool) (rollback : ConfigChange) :
    Undisturbed system (applyCameraConfig build world system change saved rollback) := by
  have applied := applyRuntimeConfig_undisturbed build world idle change
  unfold applyCameraConfig
  split
  · next refused same =>
    rw [same] at applied
    exact applied
  · next after same =>
    rw [same] at applied
    split
    · exact applied
    · have restored := applied.trans
        (applyRuntimeConfig_undisturbed build world applied.idle { rollback with
          positionTargeting := system.tracking.positionTargeting
          byRate := system.tracking.byRate })
      exact ⟨restored.idle, restored.quiet⟩

end

section

variable (active : system.control.active = true) (idle : system.tracking.rateActive = false)

include active idle

theorem xfrobotReply_undisturbed (data : Bytes) :
    Undisturbed system (xfrobotReply build world system data) := by
  have unchanged : xfrobotReply build world system data = system := by
    unfold xfrobotReply
    simp only [active, Bool.true_and]
    split
    · rfl
    split
    · rfl
    next free =>
    simp only [Bool.or_eq_true, beq_iff_eq, not_or] at free
    rw [if_neg free.1.1, if_neg free.1.2, if_neg free.2]
  rw [unchanged]
  exact .refl idle

theorem handleCommandInt_undisturbed (request : CommandInt Number) :
    Undisturbed system (handleCommandInt build world system request) := by
  have unchanged : handleCommandInt build world system request = system := by
    unfold handleCommandInt
    simp only [active, Bool.true_and]
    split
    · rfl
    split
    · rfl
    split
    · rfl
    next free =>
    simp only [Bool.or_eq_true, beq_iff_eq, not_or] at free
    rw [if_neg free.1, if_neg free.2]
  rw [unchanged]
  exact .refl idle

end

/-- With the lease held and the tracking by rates off, an event of any other source moves
nothing. -/
theorem handleEvent_undisturbed (held : system.manual.Held)
    (idle : system.tracking.rateActive = false) {event : Event Number}
    (other : event.isWeb = false) : Undisturbed system (handleEvent build world system event) := by
  have active : system.control.active = true := held.1
  cases event with
  | web webStep => cases other
  | siyi data => exact .of_backend idle (handleSiyi_quiet build.target held world _ data)
  | xfrobot data => exact xfrobotReply_undisturbed build world active idle data
  | setAttitude request =>
    have unchanged : handleGimbalSetAttitude build world system request = system := if_pos active
    show Undisturbed system (handleGimbalSetAttitude build world system request)
    rw [unchanged]
    exact .refl idle
  | commandInt request => exact handleCommandInt_undisturbed build world active idle request
  | track sight =>
    have unchanged : updateTargetLocation build world system sight = system := if_pos active
    show Undisturbed system (updateTargetLocation build world system sight)
    rw [unchanged]
    exact .refl idle
  | reload change => exact applyRuntimeConfig_undisturbed build world idle change
  | parameter change saved rollback =>
    exact applyCameraConfig_undisturbed build world idle change saved rollback
  | zoom ratio => exact .of_backend idle (setZoom_quiet build _ world _ ratio)
  | zoomRate rate => exact .of_backend idle (setZoomRate_quiet build _ world _ rate)
  | attitudeRequest =>
    exact .of_backend idle (requestGimbalAttitude_quiet build.target _ world _)
  | mcuFrame frame => exact .of_backend idle (handleMcuFrame_quiet build held world _ frame)
  | periodic focus => exact .of_backend idle (periodic_quiet build.target _ world _ focus)
  | closeMavlink => exact stopTrackingRate_undisturbed build world idle

/-! ### Every run -/

theorem webControl_executing {control : Control} (idle : control.executing = false)
    (webStep : WebStep) : (webControl control webStep).executing = false := by
  cases webStep with
  | deadlines tick => exact checkDeadlines_executing idle tick
  | datagram datagram =>
    simp only [webControl]
    split
    · exact receive_executing idle datagram
    · exact idle
  | close attempt => exact close_executing idle attempt

/-- What holds between two events. -/
structure Resting (system : System Number) : Prop where
  suspended : Suspended system
  running : system.control.executing = false

theorem handleWeb_resting (resting : Resting system) (webStep : WebStep) :
    Resting (handleWeb build world system webStep) := by
  refine ⟨fun active => ?_, webControl_executing resting.running webStep⟩
  unfold handleWeb at active ⊢
  simp only at active ⊢
  split
  · rfl
  · next kept =>
    exact resting.suspended ((webControl_active active).resolve_right kept)

theorem handleEvent_resting (resting : Resting system) (event : Event Number) :
    Resting (handleEvent build world system event) := by
  cases web : event.isWeb with
  | true =>
    cases event with
    | web webStep => exact handleWeb_resting build world resting webStep
    | _ => cases web
  | false =>
    have kept := handleEvent_control build world system web
    refine ⟨fun active => ?_, kept ▸ resting.running⟩
    rw [kept] at active
    exact (handleEvent_undisturbed build world ⟨active, resting.running⟩
      (resting.suspended active) web).idle

theorem run_resting (resting : Resting system) (events : List (Event Number × World)) :
    Resting (run build system events) := by
  refine List.foldlRecOn events (step build) resting fun system earlier event _ => ?_
  have facing : Resting (system.facing event.2) := ⟨earlier.suspended, earlier.running⟩
  exact handleEvent_resting build event.2 facing event.1

theorem Resting.opened (zoomMax : Rat) (orientation : Orientation) (positionTargeting byRate : Bool)
    (now : UInt64) :
    Resting (System.opened build zoomMax orientation positionTargeting byRate now) := by
  refine ⟨fun active => ?_, rfl⟩
  cases active

/-- In every reachable state in which the lease of the manual control is held, and not
executing a command, no event of any other source makes a command that moves the gimbal or
changes its mode reach the gimbal controller. -/
theorem lease_excludes_motion (build : Build Number) (zoomMax : Rat) (orientation : Orientation)
    (positionTargeting byRate : Bool) (now : UInt64) (events : List (Event Number × World))
    (event : Event Number × World) :
    let system := run build
      (System.opened build zoomMax orientation positionTargeting byRate now) events
    system.control.active = true → system.control.executing = false →
      event.1.isWeb = false →
        Adds (fun command => command.isMotion = false) system.backend.delivered
          (step build system event).backend.delivered := by
  intro system active running other
  have resting : Resting system :=
    run_resting build (.opened build zoomMax orientation positionTargeting byRate now) events
  have held : (system.facing event.2).manual.Held := ⟨active, running⟩
  exact (handleEvent_undisturbed build event.2 held (resting.suspended active) other).quiet.adds

/-- With the lease acquired, a client's request to turn reaches nobody. -/
theorem lease_excludes_motion_rates :
    let system := run (levelBuild .mt11) (.opened (levelBuild .mt11) 10 .upright true true 0)
      [(.web (.datagram acquireRequest), .calm)]
    Adds (fun command => command.isMotion = false) system.backend.delivered
      (step (levelBuild .mt11) system (.siyi rateRequest, .calm)).backend.delivered :=
  lease_excludes_motion (levelBuild .mt11) 10 .upright true true 0
    [(.web (.datagram acquireRequest), .calm)] (.siyi rateRequest, .calm)
    (by decide) (by decide) rfl

end Gimbal
