/-
This file proves when a repeated angle target is suppressed rightly: in every run
in which no request of the tracking modes reaches the controller while a target is
remembered, a call that is suppressed asks for what the last command that moved
the gimbal has sent. A request of the tracking modes moves the gimbal like those
that make the target unknown, but it does not make it unknown.
-/

import CameraGimbal.GimbalLease

namespace Gimbal

open Config (Target)

variable {Number : Type} {build : Build Number}

/-! ### Every event keeps what is remembered true -/

section Events

variable (siyi : build.target ≠ .z1mini) (world : World) {system : System Number}
  (remembered : Remembered system.backend)

include siyi remembered

theorem stopTrackingRate_remembered : Remembered (stopTrackingRate build world system).backend := by
  unfold stopTrackingRate
  cases system.tracking.rateActive with
  | true => exact setGimbalRates_remembered siyi _ world _ _ _
  | false => exact remembered

theorem clearTargetLocation_remembered :
    Remembered (clearTargetLocation build world system).backend := by
  have kept : Remembered { system with
      tracking := { system.tracking with locationActive := false } }.backend := remembered
  exact stopTrackingRate_remembered siyi world kept

theorem moveAsAsked_remembered (free : system.control.active = false)
    (request : SetAttitude Number) (earthYaw : Bool) (vehicleYaw vehicleYawRate : Number) :
    Remembered
      (moveAsAsked build world system request earthYaw vehicleYaw vehicleYawRate).backend := by
  unfold moveAsAsked
  simp only
  split
  · exact setGimbalRates_remembered siyi _ world _ _ _
  split
  · exact setGimbalAngles_remembered siyi (.inl free) world _ _ remembered
  · exact remembered

theorem handleGimbalSetAttitude_remembered (request : SetAttitude Number) :
    Remembered (handleGimbalSetAttitude build world system request).backend := by
  have cleared := clearTargetLocation_remembered siyi world remembered
  unfold handleGimbalSetAttitude
  split
  · exact remembered
  next free =>
  rw [Bool.not_eq_true, ← clearTargetLocation_control build world] at free
  split
  · exact remembered
  split
  · exact remembered
  split
  · exact setGimbalNeutral_remembered siyi _ world _
  split
  · split
    · exact cleared
    · exact moveAsAsked_remembered siyi world cleared free _ _ _ _
  · exact moveAsAsked_remembered siyi world cleared free _ _ _ _

theorem handleCommandInt_remembered (request : CommandInt Number) :
    Remembered (handleCommandInt build world system request).backend := by
  unfold handleCommandInt
  split
  · exact remembered
  split
  · exact remembered
  split
  · exact remembered
  split
  · split
    · exact remembered
    split <;> exact remembered
  split
  · exact clearTargetLocation_remembered siyi world remembered
  · exact remembered

theorem applyRuntimeConfig_remembered (change : ConfigChange) :
    Remembered (applyRuntimeConfig build world system change).1.backend := by
  have stopped : Remembered (stopForReopen build world system change).backend := by
    unfold stopForReopen
    split
    · exact stopTrackingRate_remembered siyi world remembered
    · exact remembered
  unfold applyRuntimeConfig
  split
  · exact stopped
  split
  · exact stopped
  · unfold adoptConfig
    simp only
    split
    · exact stopTrackingRate_remembered siyi world stopped
    · exact stopped

theorem applyCameraConfig_remembered (change : ConfigChange) (saved : Bool)
    (rollback : ConfigChange) :
    Remembered (applyCameraConfig build world system change saved rollback).backend := by
  have applied := applyRuntimeConfig_remembered siyi world remembered change
  unfold applyCameraConfig
  split
  · next refused same =>
    rw [same] at applied
    exact applied
  · next after same =>
    rw [same] at applied
    split
    · exact applied
    · exact applyRuntimeConfig_remembered siyi world applied _

theorem trackByRate_remembered (rates : Option (Number × Number)) :
    Remembered (trackByRate build world system rates).backend := by
  unfold trackByRate
  split
  · exact stopTrackingRate_remembered siyi world remembered
  split
  · exact stopTrackingRate_remembered siyi world remembered
  · next pitch yaw =>
    have sent := setGimbalRates_remembered siyi system.manual world system.backend pitch yaw
    split
    · next after same =>
      rw [same] at sent
      exact sent
    · next after errno same =>
      rw [same] at sent
      have refused : Remembered (system.setBackend after).backend := sent
      exact stopTrackingRate_remembered siyi world refused

theorem updateTargetLocation_remembered (sight : Sight Number) :
    Remembered (updateTargetLocation build world system sight).backend := by
  have timed : Remembered { system with
      tracking := { system.tracking with lastLocationMs := world.now } }.backend := remembered
  unfold updateTargetLocation
  simp only
  split
  · exact remembered
  next free =>
  rw [Bool.not_eq_true] at free
  split
  · exact stopTrackingRate_remembered siyi world remembered
  split
  · exact remembered
  split
  · exact stopTrackingRate_remembered siyi world timed
  · split
    · exact trackByRate_remembered siyi world timed _
    · refine setGimbalAngles_remembered siyi (.inl ?_) world _ _
        (stopTrackingRate_remembered siyi world timed)
      rw [stopTrackingRate_manual]
      exact free

theorem xfrobotReply_remembered (data : Bytes) :
    Remembered (xfrobotReply build world system data).backend := by
  unfold xfrobotReply
  simp only
  split
  · exact remembered
  split
  · exact remembered
  next unblocked =>
  have free (order : Siyi.byteAt data 69 = 0x10 ∨ Siyi.byteAt data 69 = 0x13) :
      system.manual.active = false := by
    cases active : system.control.active with
    | false => exact active
    | true =>
      rw [active] at unblocked
      rcases order with same | same <;> simp [same] at unblocked
  split
  · exact setGimbalNeutral_remembered siyi _ world _
  split
  · next isAngles =>
    split
    · exact remembered
    · exact setGimbalAngles_remembered siyi (.inl (free (.inl isAngles))) world _ _ remembered
  split
  · next isDown =>
    split
    · exact setGimbalAngles_remembered siyi (.inl (free (.inr isDown))) world _ _ remembered
    · exact remembered
  · exact remembered

end Events

theorem applyCall_remembered (siyi : build.target ≠ .z1mini) (world : World)
    {backend : Backend Number} (remembered : Remembered backend) (call : ManualControl.Call) :
    Remembered (applyCall build world backend call) := by
  cases call with
  | rates pitch yaw failed => exact setGimbalRates_remembered siyi _ world _ _ _
  | neutral failed => exact setGimbalNeutral_remembered siyi _ world _
  | zoom ratio failed =>
    have answered : Remembered { backend with accepts := [!failed] } := remembered
    exact (setZoom_quiet build _ world _ _).remembered answered

theorem handleWeb_remembered (siyi : build.target ≠ .z1mini) (world : World)
    {system : System Number} (remembered : Remembered system.backend) (webStep : WebStep) :
    Remembered (handleWeb build world system webStep).backend := by
  have called (calls : List ManualControl.Call) :
      Remembered (calls.foldl (applyCall build world) system.backend) :=
    List.foldlRecOn calls _ remembered fun _ earlier call _ =>
      applyCall_remembered siyi world earlier call
  unfold handleWeb
  simp only
  split
  · exact stopTrackingRate_remembered siyi world (called _)
  · exact called _

/-- A client's request of the tracking modes reaches the controller while a target is
remembered. -/
def overtaking (build : Build Number) (system : System Number) (event : Event Number × World) :
    Bool :=
  match event.1 with
  | .siyi data =>
    overtakesBytes build.target system.manual (system.facing event.2).backend data
  | _ => false

theorem step_remembered (siyi : build.target ≠ .z1mini) {system : System Number}
    (remembered : Remembered system.backend) {event : Event Number × World}
    (behind : overtaking build system event = false) :
    Remembered (step build system event).backend := by
  obtain ⟨event, world⟩ := event
  have facing : Remembered (system.facing world).backend := remembered
  unfold step
  cases event with
  | web webStep => exact handleWeb_remembered siyi world facing webStep
  | siyi data => exact handleSiyi_remembered world facing behind
  | xfrobot data => exact xfrobotReply_remembered siyi world facing data
  | setAttitude request => exact handleGimbalSetAttitude_remembered siyi world facing request
  | commandInt request => exact handleCommandInt_remembered siyi world facing request
  | track sight => exact updateTargetLocation_remembered siyi world facing sight
  | reload change => exact applyRuntimeConfig_remembered siyi world facing change
  | parameter change saved rollback =>
    exact applyCameraConfig_remembered siyi world facing change saved rollback
  | zoom ratio => exact (setZoom_quiet build _ world _ ratio).remembered facing
  | zoomRate rate => exact (setZoomRate_quiet build _ world _ rate).remembered facing
  | attitudeRequest =>
    exact (requestGimbalAttitude_quiet build.target _ world _).remembered facing
  | mcuFrame frame => exact handleMcuFrame_remembered build _ world frame facing
  | periodic focus => exact (periodic_quiet build.target _ world _ focus).remembered facing
  | closeMavlink => exact stopTrackingRate_remembered siyi world facing

/-! ### Every run -/

/-- In every run of the A8, the ZR10 or the MT11 in which no request of the tracking modes
reaches the controller while a target is remembered: a call to set the angles is suppressed
only when the last command that moved the gimbal or changed its mode sent the same pair. So did
it when a call that no lease holds back succeeds and delivers nothing. -/
theorem suppressed_of_last_sent (siyi : build.target ≠ .z1mini) (zoomMax : Rat)
    (orientation : Orientation) (positionTargeting byRate : Bool) (start : UInt64)
    (events : List (Event Number × World))
    (behind : Transition.Along (step build)
      (fun system event => overtaking build system event = false)
      (.opened build zoomMax orientation positionTargeting byRate start) events) :
    let system := run build
      (.opened build zoomMax orientation positionTargeting byRate start) events
    let backend := system.backend
    (∀ now pitch yaw, anglesSuppressed build backend now pitch yaw = true →
      LastSent backend (build.anglePair backend.inverted pitch yaw)) ∧
    ∀ (manual : Manual) (world : World) pitch yaw,
      manual.active = false ∨ manual.executing = true →
      let call := setGimbalAngles build manual world (system.facing world).backend pitch yaw
      call.2 = none → call.1.delivered = backend.delivered →
        LastSent backend (build.anglePair backend.inverted pitch yaw) := by
  intro system backend
  have opened : Remembered
      (System.opened build zoomMax orientation positionTargeting byRate start).backend :=
    .of_forgotten rfl
  have remembered : Remembered backend :=
    @Transition.foldl_keeps _ _ (fun system => Remembered system.backend) _ _
      (fun _ _ behind remembered => step_remembered siyi remembered behind) _ opened _ behind
  refine ⟨fun now pitch yaw suppressed => remembered.suppressed suppressed, ?_⟩
  intro manual world pitch yaw free call succeeds nothing
  have facing : Remembered (system.facing world).backend := remembered
  obtain ⟨request, last, sent⟩ := setGimbalAngles_lastSent siyi free facing succeeds
  exact ⟨request, nothing ▸ last, sent⟩

/-- An angle command is remembered, and the same call is suppressed: it succeeds and delivers
nothing. -/
theorem suppressed_of_last_sent_ahead :
    let system := run (levelBuild .mt11)
      (.opened (levelBuild .mt11) 10 .upright true true 0) [(.setAttitude lookAhead, .calm)]
    let call := setGimbalAngles (levelBuild .mt11) ⟨false, false⟩ .calm
      (system.facing .calm).backend (some 0) (some 0)
    anglesSuppressed (levelBuild .mt11) system.backend 500 (some 0) (some 0) = true ∧
      call.2 = none ∧ call.1.delivered = system.backend.delivered ∧
      LastSent system.backend { yaw := 0, pitch := 0 } :=
  have sent := suppressed_of_last_sent (by decide) 10 .upright true true 0
    [(.setAttitude lookAhead, .calm)] ⟨by decide, trivial⟩
  ⟨by decide, by decide, by decide,
    sent.2 ⟨false, false⟩ .calm (some 0) (some 0) (.inl rfl) (by decide) (by decide)⟩

/-- After a request of the tracking modes, the angles sent before it are still remembered: a
call to return to them is suppressed. -/
theorem suppressed_after_tracking :
    ¬ ∀ events : List (Event (Option Rat) × World),
      let backend := (run (levelBuild .mt11)
        (.opened (levelBuild .mt11) 10 .upright true true 0) events).backend
      ∀ now pitch yaw, anglesSuppressed (levelBuild .mt11) backend now pitch yaw = true →
        LastSent backend ((levelBuild .mt11).anglePair backend.inverted pitch yaw) := by
  intro sound
  obtain ⟨request, last, isAngles, _⟩ :=
    sound [(.setAttitude lookAhead, .calm), (.siyi trackingRequest, .calm)] 500 (some 0) (some 0)
      (by decide +kernel)
  have tracking : Outputs.last Command.isMotion (run (levelBuild .mt11)
      (.opened (levelBuild .mt11) 10 .upright true true 0)
      [(.setAttitude lookAhead, .calm), (.siyi trackingRequest, .calm)]).backend.delivered =
      some (.tunnel { control := 1, sequence := 0, opcode := 0x55, payload := [1] }) := by
    decide +kernel
  rw [tracking] at last
  obtain rfl := Command.tunnel.inj (Option.some.inj last)
  exact absurd isAngles (by decide)

end Gimbal
