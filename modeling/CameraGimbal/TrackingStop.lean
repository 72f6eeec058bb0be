/-
This file proves when target tracking leaves the gimbal turning. The flag that remembers a rate
the tracking has sent is cleared with the attempt to stop, whether or not the stop is delivered.
As long as no such stop is refused, the flag is set whenever the gimbal turns at a rate of the
tracking, and the next tracking step that does not go on by rates stops it.
-/

import CameraGimbal.GimbalLease

namespace Gimbal

open List

variable {Number : Type}

/-! ### Commands that are delivered -/

/-- A command that moves the gimbal has been delivered since. -/
def Moves (before after : Backend Number) : Prop :=
  ∃ added, after.delivered = before.delivered ++ added ∧
    ∃ command ∈ added, command.isMotion = true

variable {before after : Backend Number}

theorem Moves.one (command : Command Number) (motion : command.isMotion = true)
    (delivered : after.delivered = before.delivered ++ [command]) : Moves before after :=
  ⟨[command], delivered, command, mem_singleton.mpr rfl, motion⟩

theorem Moves.of_prefix {middle : Backend Number} (grown : before.delivered <+: middle.delivered)
    (moves : Moves middle after) : Moves before after := by
  obtain ⟨early, isEarly⟩ := grown
  obtain ⟨late, delivered, command, member, motion⟩ := moves
  refine ⟨early ++ late, ?_, command, mem_append_right early member, motion⟩
  rw [delivered, ← isEarly, append_assoc]

theorem Moves.then_prefix {middle : Backend Number} (moves : Moves before middle)
    (grown : middle.delivered <+: after.delivered) : Moves before after := by
  obtain ⟨early, delivered, command, member, motion⟩ := moves
  obtain ⟨late, isLate⟩ := grown
  refine ⟨early ++ late, ?_, command, mem_append_left late member, motion⟩
  rw [← isLate, delivered, append_assoc]

theorem send_grows (backend : Backend Number) (command : Command Number) :
    backend.delivered <+: (send backend command).1.delivered := by
  unfold send
  split
  · exact prefix_rfl
  · exact prefix_rfl
  · exact prefix_append _ _

theorem sendLink_grows (backend : Backend Number) (sub : UInt8) (payload : Bytes) :
    backend.delivered <+: (sendLink backend sub payload).1.delivered := by
  unfold sendLink
  split
  · exact prefix_rfl
  · exact send_grows backend _

section

variable (target : Config.Target)

theorem sendTunnel_grows (backend : Backend Number) (request : Request) :
    backend.delivered <+: (sendTunnel target backend request).1.delivered := by
  unfold sendTunnel
  split
  · exact prefix_rfl
  · exact send_grows backend _

theorem emitLocal_grows (world : World) (backend : Backend Number)
    (opcode : UInt8) : backend.delivered <+: (emitLocal target world backend opcode).delivered := by
  unfold emitLocal
  simp only
  split
  · exact sendTunnel_grows target { backend with publicSequence := backend.publicSequence + 1 } _
  · exact prefix_rfl

theorem serve_grows (world : World) (backend : Backend Number)
    (request : Request) :
    backend.delivered <+: (serve target world backend request).1.delivered := by
  unfold serve
  split
  · exact emitLocal_grows target world backend _
  · exact prefix_rfl
  · exact prefix_rfl
  · exact prefix_rfl
  · next mode _ => exact sendLink_grows { backend with gimbalMode := mode } 0x15 [mode]
  · split
    · exact prefix_rfl
    · exact sendTunnel_grows target backend request

section

variable (manual : Manual) (world : World) (backend : Backend Number)

theorem handleUartRequest_grows (request : Request) :
    backend.delivered <+: (handleUartRequest target manual world backend request).1.delivered := by
  unfold handleUartRequest
  split
  · exact prefix_rfl
  simp only
  split
  · split
    · exact prefix_rfl
    · exact sendLink_grows { backend with
        angleTarget := invalidateSiyi backend.angleTarget request.opcode request.payload } _ _
    · split
      · exact prefix_rfl
      · exact sendTunnel_grows target { backend with
          angleTarget := invalidateSiyi backend.angleTarget request.opcode request.payload } _
    · exact serve_grows target world { backend with
        angleTarget := invalidateSiyi backend.angleTarget request.opcode request.payload } _
  · exact serve_grows target world { backend with
      angleTarget := invalidateSiyi backend.angleTarget request.opcode request.payload } _

theorem sendPublicCommand_grows (opcode : UInt8) (payload : Bytes) :
    backend.delivered <+:
      (sendPublicCommand target manual world backend opcode payload).1.delivered := by
  unfold sendPublicCommand
  split
  · exact handleUartRequest_grows .zr10 manual world { backend with
      publicSequence := backend.publicSequence + 1
      angleTarget := invalidateSiyi backend.angleTarget opcode payload } _
  · exact sendTunnel_grows target { backend with
      publicSequence := backend.publicSequence + 1
      angleTarget := invalidateSiyi backend.angleTarget opcode payload } _

end

end

theorem hold_grows (build : Build Number) (world : World) (backend : Backend Number)
    (first second : Number) (command : Command Number) :
    backend.delivered <+: (hold build world backend first second command).1.delivered := by
  unfold hold
  split
  · exact prefix_rfl
  split
  · exact prefix_rfl
  · exact prefix_append _ _

section

variable (build : Build Number) (manual : Manual) (world : World) (backend : Backend Number)

theorem setGimbalAngles_grows (pitch yaw : Number) :
    backend.delivered <+: (setGimbalAngles build manual world backend pitch yaw).1.delivered := by
  unfold setGimbalAngles
  split
  · exact hold_grows build world backend _ _ _
  split
  · exact prefix_rfl
  · have grows := sendPublicCommand_grows build.target manual world backend 0x0e
      (anglePayload (build.anglePair backend.inverted pitch yaw))
    unfold sendAngles
    split <;> next result => rw [result] at grows; exact grows

theorem setGimbalRates_grows (pitch yaw : Number) :
    backend.delivered <+: (setGimbalRates build manual world backend pitch yaw).1.delivered := by
  unfold setGimbalRates
  split
  · exact hold_grows build world backend _ _ _
  · exact sendPublicCommand_grows build.target manual world backend _ _

theorem setGimbalNeutral_grows :
    backend.delivered <+: (setGimbalNeutral build manual world backend).1.delivered := by
  unfold setGimbalNeutral
  split
  · exact setGimbalAngles_grows build manual world backend _ _
  · exact sendPublicCommand_grows build.target manual world backend _ _

theorem setZoom_grows (ratio : Number) :
    backend.delivered <+: (setZoom build manual world backend ratio).1.delivered := by
  unfold setZoom
  split
  · exact prefix_rfl
  split
  · exact prefix_rfl
  · split
    · exact sendPublicCommand_grows .zr10 manual world backend _ _
    · exact prefix_rfl

end

section

variable (build : Build Number) (world : World) (backend : Backend Number)

theorem applyCall_grows (call : ManualControl.Call) :
    backend.delivered <+: (applyCall build world backend call).delivered := by
  cases call with
  | rates pitch yaw failed =>
    exact setGimbalRates_grows build _ world { backend with accepts := [!failed] } _ _
  | neutral failed =>
    exact setGimbalNeutral_grows build _ world { backend with accepts := [!failed] }
  | zoom ratio failed =>
    exact setZoom_grows build _ world { backend with accepts := [!failed] } _

theorem applyCalls_grows (calls : List ManualControl.Call) :
    backend.delivered <+: (calls.foldl (applyCall build world) backend).delivered := by
  induction calls generalizing backend with
  | nil => exact prefix_rfl
  | cons call rest hypothesis =>
    exact (applyCall_grows build world backend call).trans (hypothesis _)

end

/-! ### A stop that is delivered -/

variable {backend : Backend Number}

theorem sendTunnel_moves {target : Config.Target} {request : Request}
    (motion : isMotion request.opcode request.payload = true)
    (taken : (sendTunnel target backend request).2 = none) :
    Moves backend (sendTunnel target backend request).1 :=
  .one (.tunnel request) motion (sendTunnel_taken taken)

theorem sendLink_taken {sub : UInt8} {payload : Bytes}
    (taken : (sendLink backend sub payload).2 = none) :
    (sendLink backend sub payload).1.delivered = backend.delivered ++ [.native sub payload] := by
  unfold sendLink at taken ⊢
  split at taken
  · cases taken
  next fits =>
  rw [if_neg fits]
  unfold send at taken ⊢
  split at taken
  · cases taken
  · cases taken
  · rfl

theorem handleUartRequest_moves {manual : Manual} {world : World} {request : Request}
    (isRates : request.opcode = 0x07) (free : manual.active = false)
    (taken : (handleUartRequest .zr10 manual world backend request).2 = none) :
    Moves backend (handleUartRequest .zr10 manual world backend request).1 := by
  have unblocked : manualBlocked manual request.opcode request.payload = false :=
    manualBlocked_of_free (.inl free) _ _
  have handling : zr10Handling request = .invalid ∨ zr10Handling request = .native 0x06 := by
    unfold zr10Handling
    simp only [isRates]
    split
    · next wrong => exact absurd wrong (by decide)
    · split
      · split
        · exact .inl rfl
        · exact .inr rfl
      · next notRates => exact absurd trivial notRates
  unfold handleUartRequest at taken ⊢
  rw [unblocked, if_neg Bool.false_ne_true] at taken ⊢
  simp only [if_true] at taken ⊢
  rcases handling with invalid | native
  · rw [invalid] at taken
    cases taken
  · rw [native] at taken ⊢
    have delivered := sendLink_taken taken
    exact .one (.native 0x06 request.payload) rfl delivered

theorem sendPublicCommand_moves {target : Config.Target} {manual : Manual} {world : World}
    {payload : Bytes} (free : manual.active = false)
    (taken : (sendPublicCommand target manual world backend 0x07 payload).2 = none) :
    Moves backend (sendPublicCommand target manual world backend 0x07 payload).1 := by
  cases target with
  | zr10 => exact handleUartRequest_moves rfl free taken
  | a8 => exact sendTunnel_moves rfl taken
  | mt11 => exact sendTunnel_moves rfl taken
  | z1mini => exact sendTunnel_moves rfl taken

theorem setGimbalRates_moves {build : Build Number} {manual : Manual} {world : World}
    {pitch yaw : Number} (free : manual.active = false)
    (taken : (setGimbalRates build manual world backend pitch yaw).2 = none) :
    Moves backend (setGimbalRates build manual world backend pitch yaw).1 := by
  unfold setGimbalRates at taken ⊢
  split at taken
  · next held =>
    rw [if_pos held]
    unfold hold at taken ⊢
    split at taken
    · cases taken
    next recent =>
    split at taken
    · cases taken
    next finite =>
    rw [if_neg recent, if_neg finite]
    exact .one (.rates _ _) rfl rfl
  · next siyi =>
    rw [if_neg siyi]
    exact sendPublicCommand_moves free taken

variable (build : Build Number) (world : World) (system : System Number)

/-- The zero rate of `stop_tracking_rate` is refused. -/
def refusesStop : Bool :=
  system.tracking.rateActive &&
    (setGimbalRates build system.manual world system.backend build.zero build.zero).2.isSome

/-- Rates of the tracking are still remembered, or a motion command has been delivered since. -/
def Minds (before after : System Number) : Prop :=
  before.tracking.rateActive = true →
    after.tracking.rateActive = true ∨ Moves before.backend after.backend

theorem Minds.of_rateActive {before after : System Number}
    (same : after.tracking.rateActive = before.tracking.rateActive) : Minds before after :=
  fun active => .inl (same.trans active)

theorem Minds.then_grows {before middle after : System Number} (minds : Minds before middle)
    (same : after.tracking.rateActive = middle.tracking.rateActive)
    (grown : middle.backend.delivered <+: after.backend.delivered) : Minds before after := by
  intro active
  rcases minds active with still | moves
  · exact .inl (same.trans still)
  · exact .inr (moves.then_prefix grown)

theorem Minds.of_grows {before middle after : System Number}
    (same : middle.tracking.rateActive = before.tracking.rateActive)
    (grown : before.backend.delivered <+: middle.backend.delivered)
    (minds : Minds middle after) : Minds before after := by
  intro active
  exact (minds (same.trans active)).imp_right fun moves => moves.of_prefix grown

theorem stopTrackingRate_grows :
    system.backend.delivered <+: (stopTrackingRate build world system).backend.delivered := by
  unfold stopTrackingRate
  cases system.tracking.rateActive with
  | true => exact setGimbalRates_grows build system.manual world system.backend _ _
  | false => exact prefix_rfl

theorem stopTrackingRate_minds {build : Build Number} {world : World} {system : System Number}
    (suspended : Suspended system) (taken : refusesStop build world system = false) :
    Minds system (stopTrackingRate build world system) := by
  intro active
  right
  have free : system.manual.active = false := by
    cases held : system.control.active with
    | false => exact held
    | true => exact absurd ((suspended held).symm.trans active) Bool.false_ne_true
  unfold refusesStop at taken
  rw [active, Bool.true_and, Option.isSome_eq_false_iff, Option.isNone_iff_eq_none] at taken
  unfold stopTrackingRate
  rw [active]
  exact setGimbalRates_moves free taken

/-! ### What a step does about the rates of the tracking -/

/-- `trackByRate` attempts a stop that is refused. -/
def trackByRateRefused (rates : Option (Number × Number)) : Bool :=
  if !attitudeCurrent build.target system.backend world.now then refusesStop build world system
  else
    match rates with
    | none => refusesStop build world system
    | some (pitch, yaw) =>
      match setGimbalRates build system.manual world system.backend pitch yaw with
      | (_, none) => false
      | (refused, some _) => refusesStop build world (system.setBackend refused)

def trackRefused (sight : Sight Number) : Bool :=
  let tracking := system.tracking
  if system.control.active then false
  else if !tracking.locationActive || !tracking.positionTargeting then
    refusesStop build world system
  else if world.now - tracking.lastLocationMs < tracking.intervalMs then false
  else
    let timed := { system with tracking := { tracking with lastLocationMs := world.now } }
    match sight.aim with
    | none => refusesStop build world timed
    | some _ =>
      if tracking.byRate then trackByRateRefused build world timed sight.rates
      else refusesStop build world timed

def configRefused (change : ConfigChange) : Bool :=
  (change.changesPipeline && !change.wasRecording && refusesStop build world system) ||
    (change.mediaConfigured && change.restApplied &&
      (change.byRate != system.tracking.byRate || !change.positionTargeting) &&
      refusesStop build world (stopForReopen build world system change))

/-- The system behind the calls of a step of the manual control. -/
def called (webStep : WebStep) :
    System Number :=
  system.setBackend
    { ((webControl system.control webStep).calls.drop system.control.calls.length).foldl
        (applyCall build world) system.backend with accepts := world.accepts }

/-- In this event, `stop_tracking_rate` attempts to stop a rate of the tracking, and the attempt
is refused. -/
def stopRefused :
    Event Number → Bool
  | .web webStep =>
    decide (system.control.suspensions < (webControl system.control webStep).suspensions) &&
      refusesStop build world (called build world system webStep)
  | .setAttitude request =>
    !system.control.active && request.longEnough && request.addressed &&
      refusesStop build world system
  | .commandInt request =>
    request.longEnough && request.addressed && !system.control.active &&
      request.command == 197 && refusesStop build world system
  | .track sight => trackRefused build world system sight
  | .reload change => configRefused build world system change
  | .parameter change saved rollback =>
    configRefused build world system change ||
      match applyRuntimeConfig build world system change with
      | (_, false) => false
      | (applied, true) => !saved && configRefused build world applied
          { rollback with
            positionTargeting := system.tracking.positionTargeting
            byRate := system.tracking.byRate }
  | .closeMavlink => refusesStop build world system
  | _ => false

/-- In this event, the tracking delivers rates. -/
def tracksAtRate :
    Event Number → Bool
  | .track sight =>
    !system.control.active && system.tracking.locationActive &&
      system.tracking.positionTargeting &&
      !decide (world.now - system.tracking.lastLocationMs < system.tracking.intervalMs) &&
      sight.aim.isSome && system.tracking.byRate &&
      attitudeCurrent build.target system.backend world.now &&
      match sight.rates with
      | none => false
      | some (pitch, yaw) =>
        (setGimbalRates build system.manual world system.backend pitch yaw).2.isNone
  | _ => false

/-! ### Each event minds the rates -/

variable {build : Build Number} {world : World} {system : System Number}

theorem clearTargetLocation_minds (suspended : Suspended system)
    (taken : refusesStop build world system = false) :
    Minds system (clearTargetLocation build world system) :=
  stopTrackingRate_minds
    (show Suspended { system with
      tracking := { system.tracking with locationActive := false } } from suspended) taken

variable {rates : Option (Number × Number)}

theorem moveAsAsked_grows (request : SetAttitude Number) (earthYaw : Bool)
    (vehicleYaw vehicleYawRate : Number) :
    system.backend.delivered <+: (moveAsAsked build world system request earthYaw vehicleYaw
      vehicleYawRate).backend.delivered ∧
    (moveAsAsked build world system request earthYaw vehicleYaw
      vehicleYawRate).tracking = system.tracking := by
  unfold moveAsAsked
  simp only
  split
  · exact ⟨setGimbalRates_grows build _ world _ _ _, rfl⟩
  split
  · exact ⟨setGimbalAngles_grows build _ world _ _ _, rfl⟩
  · exact ⟨prefix_rfl, rfl⟩

section

variable (suspended : Suspended system)

include suspended

theorem handleGimbalSetAttitude_minds (request : SetAttitude Number)
    (taken : stopRefused build world system (.setAttitude request) = false) :
    Minds system (handleGimbalSetAttitude build world system request) := by
  unfold handleGimbalSetAttitude
  split
  · exact .of_rateActive rfl
  next free =>
  split
  · exact .of_rateActive rfl
  next long =>
  split
  · exact .of_rateActive rfl
  next addressed =>
  have cleared : Minds system (clearTargetLocation build world system) := by
    refine clearTargetLocation_minds suspended ?_
    have isLong : request.longEnough = true := by simpa using long
    have isAddressed : request.addressed = true := by simpa using addressed
    simpa [stopRefused, free, isLong, isAddressed] using taken
  split
  · exact cleared.then_grows rfl (setGimbalNeutral_grows build _ world _)
  split
  · split
    · exact cleared
    · next yaw yawRate _ =>
      obtain ⟨grown, same⟩ := @moveAsAsked_grows Number build world
        (clearTargetLocation build world system) request true yaw yawRate
      exact cleared.then_grows (congrArg Tracking.rateActive same) grown
  · obtain ⟨grown, same⟩ := @moveAsAsked_grows Number build world
      (clearTargetLocation build world system) request false build.zero build.zero
    exact cleared.then_grows (congrArg Tracking.rateActive same) grown

theorem handleCommandInt_minds (request : CommandInt Number)
    (taken : stopRefused build world system (.commandInt request) = false) :
    Minds system (handleCommandInt build world system request) := by
  unfold handleCommandInt
  split
  · exact .of_rateActive rfl
  next long =>
  split
  · exact .of_rateActive rfl
  next addressed =>
  split
  · exact .of_rateActive rfl
  next unlocked =>
  split
  · split
    · exact .of_rateActive rfl
    split
    · exact .of_rateActive rfl
    · exact .of_rateActive rfl
  split
  · next clears =>
    refine clearTargetLocation_minds suspended ?_
    have free : system.control.active = false := by
      simpa [clears] using unlocked
    have isLong : request.longEnough = true := by simpa using long
    have isAddressed : request.addressed = true := by simpa using addressed
    simpa [stopRefused, free, isLong, isAddressed, clears] using taken
  · exact .of_rateActive rfl

theorem trackByRate_minds (taken : trackByRateRefused build world system rates = false) :
    Minds system (trackByRate build world system rates) := by
  unfold trackByRate
  unfold trackByRateRefused at taken
  split
  · next stale =>
    rw [if_pos stale] at taken
    exact stopTrackingRate_minds suspended taken
  next current =>
  rw [if_neg current] at taken
  split
  · exact stopTrackingRate_minds suspended taken
  · next pitch yaw =>
    have grows := setGimbalRates_grows build system.manual world system.backend pitch yaw
    simp only at taken
    split
    · exact fun _ => .inl rfl
    · next refused errno result =>
      rw [result] at taken grows
      have held : Suspended (system.setBackend refused) := suspended
      have minds := stopTrackingRate_minds held taken
      have same : (system.setBackend refused).tracking.rateActive = system.tracking.rateActive :=
        rfl
      exact Minds.of_grows same grows minds

theorem updateTargetLocation_minds (sight : Sight Number)
    (taken : trackRefused build world system sight = false) :
    Minds system (updateTargetLocation build world system sight) := by
  have timed : Suspended { system with
      tracking := { system.tracking with lastLocationMs := world.now } } := suspended
  unfold updateTargetLocation
  unfold trackRefused at taken
  simp only at taken ⊢
  split
  · exact .of_rateActive rfl
  next free =>
  rw [if_neg free] at taken
  split
  · next ended =>
    rw [if_pos ended] at taken
    exact stopTrackingRate_minds suspended taken
  next goesOn =>
  rw [if_neg goesOn] at taken
  split
  · exact .of_rateActive rfl
  next due =>
  rw [if_neg due] at taken
  split
  · next noAim =>
    rw [noAim] at taken
    exact stopTrackingRate_minds timed taken
  · next pitch yaw aim =>
    rw [aim] at taken
    split
    · next byRate =>
      rw [if_pos byRate] at taken
      exact trackByRate_minds timed taken
    · next byAngle =>
      rw [if_neg byAngle] at taken
      exact (stopTrackingRate_minds timed taken).then_grows rfl
        (setGimbalAngles_grows build _ world _ _ _)

theorem suspendGimbal_minds (taken : refusesStop build world system = false) :
    Minds system (suspendGimbal build world system) :=
  stopTrackingRate_minds suspended taken

theorem stopForReopen_suspended (change : ConfigChange) :
    Suspended (stopForReopen build world system change) := by
  unfold stopForReopen
  split
  · exact fun _ => rfl
  · exact suspended

end

variable {change : ConfigChange}

theorem stopForReopen_minds (suspended : Suspended system)
    (taken : (change.changesPipeline && !change.wasRecording &&
      refusesStop build world system) = false) :
    Minds system (stopForReopen build world system change) := by
  unfold stopForReopen
  split
  · next reopens =>
    rw [reopens, Bool.true_and] at taken
    exact stopTrackingRate_minds suspended taken
  · exact .of_rateActive rfl

theorem Minds.trans {before middle after : System Number} (first : Minds before middle)
    (grown : before.backend.delivered <+: middle.backend.delivered) (second : Minds middle after)
    (grownAfter : middle.backend.delivered <+: after.backend.delivered) : Minds before after := by
  intro active
  rcases first active with still | moves
  · exact (second still).imp_right fun moves => moves.of_prefix grown
  · exact .inr (moves.then_prefix grownAfter)

section

variable (build : Build Number) (world : World) (system : System Number) (change : ConfigChange)

theorem stopForReopen_grows :
    system.backend.delivered <+: (stopForReopen build world system change).backend.delivered := by
  unfold stopForReopen
  split
  · exact stopTrackingRate_grows build world system
  · exact prefix_rfl

theorem adoptConfig_grows :
    system.backend.delivered <+: (adoptConfig build world system change).backend.delivered := by
  unfold adoptConfig
  split
  · exact stopTrackingRate_grows build world system
  · exact prefix_rfl

end

theorem adoptConfig_minds (suspended : Suspended system)
    (taken : ((change.byRate != system.tracking.byRate || !change.positionTargeting) &&
      refusesStop build world system) = false) :
    Minds system (adoptConfig build world system change) := by
  unfold adoptConfig
  split
  · next settles =>
    rw [settles, Bool.true_and] at taken
    exact suspendGimbal_minds suspended taken
  · exact .of_rateActive rfl

section

variable (build : Build Number) (world : World) (system : System Number) (change : ConfigChange)

theorem applyRuntimeConfig_grows :
    system.backend.delivered <+:
      (applyRuntimeConfig build world system change).1.backend.delivered := by
  unfold applyRuntimeConfig
  split
  · exact stopForReopen_grows build world system change
  split
  · exact stopForReopen_grows build world system change
  · exact (stopForReopen_grows build world system change).trans
      (adoptConfig_grows build world _ change)

theorem stopForReopen_byRate :
    (stopForReopen build world system change).tracking.byRate = system.tracking.byRate := by
  unfold stopForReopen stopTrackingRate
  split
  · split <;> rfl
  · rfl

end

section

variable (suspended : Suspended system)

include suspended

theorem applyRuntimeConfig_minds (taken : configRefused build world system change = false) :
    Minds system (applyRuntimeConfig build world system change).1 := by
  obtain ⟨reopens, adopts⟩ := Bool.or_eq_false_iff.mp taken
  have stopped := stopForReopen_minds suspended reopens
  unfold applyRuntimeConfig
  split
  · exact stopped
  next configured =>
  split
  · exact stopped
  next applied =>
  have isConfigured : change.mediaConfigured = true := by simpa using configured
  have isApplied : change.restApplied = true := by simpa using applied
  rw [isConfigured, isApplied, Bool.true_and, Bool.true_and] at adopts
  refine stopped.trans (stopForReopen_grows build world system change) ?_
    (adoptConfig_grows build world _ change)
  refine adoptConfig_minds (stopForReopen_suspended suspended change) ?_
  rw [stopForReopen_byRate]
  exact adopts

theorem applyRuntimeConfig_suspended (change : ConfigChange) :
    Suspended (applyRuntimeConfig build world system change).1 := by
  intro held
  rw [applyRuntimeConfig_control] at held
  exact (applyRuntimeConfig_undisturbed build world (suspended held) change).idle

theorem applyCameraConfig_minds {rollback : ConfigChange}
    {saved : Bool}
    (taken : stopRefused build world system (.parameter change saved rollback) = false) :
    Minds system (applyCameraConfig build world system change saved rollback) := by
  obtain ⟨first, second⟩ := Bool.or_eq_false_iff.mp taken
  have minds := applyRuntimeConfig_minds suspended first
  have grown := applyRuntimeConfig_grows build world system change
  have held := @applyRuntimeConfig_suspended Number build world system suspended change
  unfold applyCameraConfig
  split
  · next refused result =>
    rw [result] at minds
    exact minds
  · next applied result =>
    rw [result] at minds grown held second
    split
    · exact minds
    · next unsaved =>
      have isUnsaved : saved = false := by simpa using unsaved
      simp only [isUnsaved, Bool.not_false, Bool.true_and] at second
      have back := applyRuntimeConfig_minds held second
      exact (minds.trans grown back (applyRuntimeConfig_grows build world applied _)).then_grows
        rfl prefix_rfl

theorem handleWeb_minds (webStep : WebStep)
    (taken : stopRefused build world system (.web webStep) = false) :
    Minds system (handleWeb build world system webStep) := by
  have grown : system.backend.delivered <+: (called build world system webStep).backend.delivered :=
    applyCalls_grows build world system.backend _
  have held : Suspended (called build world system webStep) := suspended
  have same : (called build world system webStep).tracking.rateActive =
      system.tracking.rateActive := rfl
  unfold handleWeb
  simp only
  split
  · next suspends =>
    have taken' : refusesStop build world (called build world system webStep) = false := by
      simpa [stopRefused, suspends] using taken
    exact Minds.of_grows same grown
      (Minds.then_grows (suspendGimbal_minds held taken') rfl prefix_rfl)
  · exact .of_rateActive rfl

end

theorem xfrobotReply_rateActive (data : Bytes) :
    (xfrobotReply build world system data).tracking.rateActive = system.tracking.rateActive := by
  unfold xfrobotReply
  simp only
  split
  · rfl
  split
  · rfl
  split
  · rfl
  split
  · split <;> rfl
  split
  · split <;> rfl
  · rfl

theorem handleEvent_minds (suspended : Suspended system) (event : Event Number)
    (taken : stopRefused build world system event = false) :
    Minds system (handleEvent build world system event) := by
  cases event with
  | web webStep => exact handleWeb_minds suspended webStep taken
  | xfrobot data => exact .of_rateActive (xfrobotReply_rateActive data)
  | setAttitude request => exact handleGimbalSetAttitude_minds suspended request taken
  | commandInt request => exact handleCommandInt_minds suspended request taken
  | track sight => exact updateTargetLocation_minds suspended sight taken
  | reload change => exact applyRuntimeConfig_minds suspended taken
  | parameter change saved rollback => exact applyCameraConfig_minds suspended taken
  | closeMavlink => exact stopTrackingRate_minds suspended taken
  | _ => exact .of_rateActive rfl

/-! ### Every run -/

/-- The system, and whether the last motion command delivered is a rate of the tracking. -/
structure Watched (Number : Type) where
  system : System Number
  turning : Bool

/-- A motion command has been delivered since. -/
def moved (before after : Backend Number) : Bool :=
  (after.delivered.drop before.delivered.length).any Command.isMotion

/-- One step, and what it makes of the last motion command. -/
def watch (build : Build Number) (watched : Watched Number) (event : Event Number × World) :
    Watched Number :=
  let before := watched.system.facing event.2
  let after := step build watched.system event
  { system := after
    turning := tracksAtRate build event.2 before event.1 ||
      (watched.turning && !moved before.backend after.backend) }

/-- No stop of the tracking is refused in this step. -/
def StopTaken (build : Build Number) (watched : Watched Number) (event : Event Number × World) :
    Prop :=
  stopRefused build event.2 (watched.system.facing event.2) event.1 = false

instance (build : Build Number) (watched : Watched Number) (event : Event Number × World) :
    Decidable (StopTaken build watched event) :=
  inferInstanceAs (Decidable (_ = _))

/-- The target is cleared, tracking is switched off, or its interval has passed and it is
switched to angles or lacks the position or attitude of the vehicle or the gimbal's feedback. -/
def MustStop (build : Build Number) (world : World) (system : System Number)
    (sight : Sight Number) : Prop :=
  system.tracking.locationActive = false ∨ system.tracking.positionTargeting = false ∨
    ¬ world.now - system.tracking.lastLocationMs < system.tracking.intervalMs ∧
      (system.tracking.byRate = false ∨ sight.aim = none ∨
        attitudeCurrent build.target system.backend world.now = false ∨ sight.rates = none)

/-- What the tracking keeps: it remembers that the gimbal turns, and a step outside a lease that
has to stop it attempts to. -/
structure Heeded (build : Build Number) (watched : Watched Number) : Prop where
  remembers : watched.turning = true → watched.system.tracking.rateActive = true
  attempts : ∀ (world : World) (sight : Sight Number), watched.system.control.active = false →
    MustStop build world (watched.system.facing world) sight →
      stopRefused build world (watched.system.facing world) (.track sight) = true ∨
        (watch build watched (.track sight, world)).turning = false

theorem Moves.moved (moves : Moves before after) : moved before after = true := by
  obtain ⟨added, delivered, command, member, motion⟩ := moves
  rw [Gimbal.moved, delivered, drop_left, any_eq_true]
  exact ⟨command, member, motion⟩

theorem tracksAtRate_rateActive {event : Event Number}
    (tracks : tracksAtRate build world system event = true) :
    (handleEvent build world system event).tracking.rateActive = true := by
  cases event with
  | track sight =>
    simp only [tracksAtRate, Bool.and_eq_true, Bool.not_eq_true', decide_eq_false_iff_not] at tracks
    obtain ⟨⟨⟨⟨⟨⟨⟨free, location⟩, targeting⟩, due⟩, aim⟩, byRate⟩, current⟩, sent⟩ := tracks
    obtain ⟨⟨pitch, yaw⟩, isAim⟩ := Option.isSome_iff_exists.mp aim
    show (updateTargetLocation build world system sight).tracking.rateActive = true
    cases rates : sight.rates with
    | none => simp [rates] at sent
    | some pair =>
      obtain ⟨pitchRate, yawRate⟩ := pair
      rw [rates] at sent
      simp only [Option.isNone_iff_eq_none] at sent
      have result : setGimbalRates build system.manual world system.backend pitchRate yawRate =
          ((setGimbalRates build system.manual world system.backend pitchRate yawRate).1, none) :=
        Prod.ext rfl sent
      unfold updateTargetLocation trackByRate
      simp only [free, location, targeting, due, isAim, byRate, rates, if_false, if_true,
        Bool.not_true, Bool.or_self, Bool.false_eq_true]
      show Tracking.rateActive (System.tracking (if (!attitudeCurrent build.target system.backend
        world.now) = true then _ else _)) = true
      rw [current, if_neg (by decide)]
      show Tracking.rateActive (System.tracking (match setGimbalRates build system.manual world
        system.backend pitchRate yawRate with
        | (sent, none) => _
        | (refused, some _) => _)) = true
      rw [result]
  | _ => cases tracks

theorem trackByRate_stops
    (must : attitudeCurrent build.target system.backend world.now = false ∨ rates = none) :
    (trackByRate build world system rates).tracking.rateActive = false := by
  unfold trackByRate
  split
  · rfl
  next current =>
  rcases must with stale | noRates
  · rw [stale] at current
    exact absurd rfl current
  · rw [noRates]
    rfl

theorem updateTargetLocation_stops {sight : Sight Number}
    (free : system.control.active = false) (must : MustStop build world system sight) :
    (updateTargetLocation build world system sight).tracking.rateActive = false := by
  unfold updateTargetLocation
  rw [if_neg (by rw [free]; exact Bool.false_ne_true)]
  split
  · rfl
  next goesOn =>
  simp only [Bool.or_eq_true, Bool.not_eq_true', not_or, Bool.not_eq_false] at goesOn
  rcases must with cleared | off | ⟨due, must⟩
  · exact absurd (cleared.symm.trans goesOn.1) Bool.false_ne_true
  · exact absurd (off.symm.trans goesOn.2) Bool.false_ne_true
  rw [if_neg due]
  split
  · rfl
  next pitch yaw aim =>
  split
  · next byRate =>
    refine trackByRate_stops ?_
    rcases must with byAngle | noAim | rest
    · exact absurd (byAngle.symm.trans byRate) Bool.false_ne_true
    · rw [aim] at noAim
      cases noAim
    · exact rest
  · rfl

theorem MustStop.not_tracksAtRate {sight : Sight Number}
    (must : MustStop build world system sight) :
    tracksAtRate build world system (.track sight) = false := by
  rcases must with cleared | off | ⟨due, byAngle | noAim | stale | noRates⟩
  · simp [tracksAtRate, cleared]
  · simp [tracksAtRate, off]
  · simp [tracksAtRate, byAngle]
  · simp [tracksAtRate, noAim]
  · simp [tracksAtRate, stale]
  · simp [tracksAtRate, noRates]

/-- What holds in every state of a run in which no stop was refused. -/
structure Minding (watched : Watched Number) : Prop where
  resting : Resting watched.system
  remembers : watched.turning = true → watched.system.tracking.rateActive = true

variable {watched : Watched Number}

theorem Minding.minds (minding : Minding watched) {event : Event Number × World}
    (taken : StopTaken build watched event) (turning : watched.turning = true) :
    (step build watched.system event).tracking.rateActive = true ∨
      moved (watched.system.facing event.2).backend
        (step build watched.system event).backend = true := by
  have suspended : Suspended (watched.system.facing event.2) := minding.resting.suspended
  exact (handleEvent_minds suspended event.1 taken (minding.remembers turning)).imp_right
    Moves.moved

theorem Minding.step {event : Event Number × World} (taken : StopTaken build watched event)
    (minding : Minding watched) : Minding (watch build watched event) := by
  refine ⟨run_resting build minding.resting [event], fun turning => ?_⟩
  rcases Bool.or_eq_true_iff.mp turning with tracks | goesOn
  · exact tracksAtRate_rateActive tracks
  · obtain ⟨before, still⟩ := Bool.and_eq_true_iff.mp goesOn
    refine (minding.minds taken before).resolve_right fun moves => ?_
    rw [moves] at still
    cases still

theorem Minding.heeded (minding : Minding watched) : Heeded build watched := by
  refine ⟨minding.remembers, fun world sight free must => ?_⟩
  cases refused : stopRefused build world (watched.system.facing world) (.track sight) with
  | true => exact .inl rfl
  | false =>
    right
    show (tracksAtRate build world (watched.system.facing world) (.track sight) || _) = false
    rw [must.not_tracksAtRate, Bool.false_or]
    cases turning : watched.turning with
    | false => rfl
    | true =>
      rw [Bool.true_and, Bool.not_eq_false']
      have stops : (Gimbal.step build watched.system (.track sight, world)).tracking.rateActive =
          false := updateTargetLocation_stops free must
      have taken : StopTaken build watched (.track sight, world) := refused
      refine (minding.minds taken turning).resolve_left ?_
      rw [stops]
      exact nofun

/-- In every run in which no stop of the tracking is refused, a gimbal that turns at a rate of the
tracking is remembered to, and is stopped. -/
theorem tracking_heeded (build : Build Number) (zoomMax : Rat) (orientation : Orientation)
    (positionTargeting byRate : Bool) (now : UInt64) (events : List (Event Number × World))
    (taken : Transition.Along (watch build) (StopTaken build)
      { system := .opened build zoomMax orientation positionTargeting byRate now
        turning := false } events) :
    Heeded build (events.foldl (watch build)
      { system := .opened build zoomMax orientation positionTargeting byRate now
        turning := false }) := by
  refine Minding.heeded (Transition.foldl_keeps (fun watched event stops minding =>
    Minding.step stops minding)
    ⟨?_, fun turning => absurd turning Bool.false_ne_true⟩ taken)
  exact .opened build zoomMax orientation positionTargeting byRate now

theorem updateTargetLocation_idle (cleared : system.tracking.locationActive = false)
    (idle : system.tracking.rateActive = false) (sight : Sight Number) :
    (updateTargetLocation build world system sight).backend = system.backend := by
  unfold updateTargetLocation
  simp only [cleared]
  split
  · rfl
  · exact stopTrackingRate_idle build world idle

/-- The level gimbal, with rates that are told apart. -/
def turningBuild (target : Config.Target) : Build (Option Rat) :=
  { levelBuild target with
    rateBytes := fun _ pitch yaw =>
      (if yaw = some 0 then 0 else 10, if pitch = some 0 then 0 else 10) }

/-- The transport takes or refuses what it is given, at a time. -/
def World.at (now : UInt64) (taken : Bool) : World :=
  { now, accepts := [taken], cameraSucceeds := true, replyPayload := fun _ => [] }

def attitudeFrame : McuFrame where
  flags := 0
  source := 0x2e
  destination := 0
  link := 0x6b
  command := 0x50
  payload := [0, 0, 0, 0, 0, 0]

/-- A target is set (195) or cleared (197). -/
def targetCommand (command : UInt16) : CommandInt (Option Rat) where
  longEnough := true
  addressed := true
  command := command
  frame := 0
  x := 0
  y := 0
  z := some 0

/-- A target that asks for a rate of one radian per second on both axes. -/
def movingSight : Sight (Option Rat) where
  aim := some (some 1, some 1)
  rates := some (some 1, some 1)

/-- The tracking turns the gimbal, and then the target is cleared. -/
def clearedTarget (taken : Bool) : List (Event (Option Rat) × World) :=
  [(.mcuFrame attitudeFrame, .at 0 true), (.commandInt (targetCommand 195), .at 0 true),
    (.track movingSight, .at 100 true), (.commandInt (targetCommand 197), .at 110 taken)]

/-- The system in front of such a run. -/
def trackingOpened : Watched (Option Rat) where
  system := .opened (turningBuild .a8) 10 .upright true true 0
  turning := false

/-- With a stop that is taken, the next step has nothing left to stop. -/
theorem tracking_heeded_cleared :
    Heeded (turningBuild .a8) ((clearedTarget true).foldl (watch (turningBuild .a8))
      trackingOpened) :=
  tracking_heeded (turningBuild .a8) 10 .upright true true 0 (clearedTarget true)
    ⟨by decide, by decide, by decide, by decide, trivial⟩

/-- With a stop that is refused, the gimbal goes on turning, nothing remembers that it does, and
the next step does not attempt to stop it. -/
theorem tracking_turns_on :
    let watched := (clearedTarget false).foldl (watch (turningBuild .a8)) trackingOpened
    watched.system.backend.delivered.getLast? =
        some (.tunnel { control := 1, sequence := 1, opcode := 0x07, payload := [10, 10] }) ∧
      watched.turning = true ∧ watched.system.tracking.locationActive = false ∧
      watched.system.control.active = false ∧ watched.system.tracking.rateActive = false ∧
      (step (turningBuild .a8) watched.system (.track movingSight, .at 210 true)).backend =
        (watched.system.facing (.at 210 true)).backend := by
  -- the next sighting is followed without a look at what the watched system is
  have unmoved (system : System (Option Rat)) (cleared : system.tracking.locationActive = false)
      (idle : system.tracking.rateActive = false) :
      (step (turningBuild .a8) system (.track movingSight, .at 210 true)).backend =
        (system.facing (.at 210 true)).backend :=
    @updateTargetLocation_idle _ _ _ (system.facing (.at 210 true)) cleared idle movingSight
  exact ⟨by decide, by decide, by decide, by decide, by decide, unmoved _ (by decide) (by decide)⟩

end Gimbal
