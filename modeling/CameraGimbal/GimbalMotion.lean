/-
This file says what the backends do to the gimbal: which of their operations send
nothing that moves it, and which of them forget the angle target that was sent
last.
-/

import CameraGimbal.Gimbal
import CameraGimbal.Outputs

namespace Gimbal

open Outputs (Adds)
open Config (Target)
open Siyi (byteAt)

variable {Number : Type}

/-! ### The two lists of motion requests -/

/-- The requests of the tracking modes. -/
def selectsTracking (opcode : UInt8) : Bool :=
  opcode == 0x55 || opcode == 0x56

theorem isMotion_eq (opcode : UInt8) (payload : Bytes) :
    isMotion opcode payload = (invalidates opcode payload || selectsTracking opcode) := by
  unfold isMotion invalidates selectsTracking
  cases opcode == 0x07 <;> cases opcode == 0x08 <;> cases opcode == 0x0e <;>
    cases opcode == 0x40 <;> cases opcode == 0x55 <;> cases opcode == 0x56 <;>
    cases selectsMode opcode payload <;> rfl

variable {opcode : UInt8} {payload : Bytes}

theorem isMotion_of_selectsMode (selects : selectsMode opcode payload = true) :
    isMotion opcode payload = true := by
  unfold isMotion
  rw [selects, Bool.or_true]

/-- The web holds the gimbal, and is not moving it right now. -/
def Manual.Held (manual : Manual) : Prop :=
  manual.active = true ∧ manual.executing = false

variable {manual : Manual}

theorem Manual.Held.blocked (held : manual.Held) (opcode : UInt8) (payload : Bytes) :
    manualBlocked manual opcode payload = isMotion opcode payload := by
  unfold manualBlocked
  rw [held.1, held.2]
  rfl

theorem manualBlocked_of_free (free : manual.active = false ∨ manual.executing = true)
    (opcode : UInt8) (payload : Bytes) : manualBlocked manual opcode payload = false := by
  unfold manualBlocked
  rcases free with inactive | executing
  · rw [inactive]
    rfl
  · rw [executing, Bool.or_true]
    rfl

theorem isMotion_of_blocked (blocked : manualBlocked manual opcode payload = true) :
    isMotion opcode payload = true := by
  unfold manualBlocked at blocked
  split at blocked
  · cases blocked
  · exact blocked

/-! ### Operations that do not move the gimbal -/

/-- Nothing that moves the gimbal has been sent since, and no other target is remembered. -/
structure Quiet (before after : Backend Number) : Prop where
  adds : Adds (fun command => command.isMotion = false) before.delivered after.delivered
  target : after.angleTarget = before.angleTarget ∨ after.angleTarget = none

theorem Quiet.of_delivered {before after : Backend Number}
    (delivered : after.delivered = before.delivered)
    (target : after.angleTarget = before.angleTarget ∨ after.angleTarget = none) :
    Quiet before after :=
  ⟨delivered ▸ Adds.refl _, target⟩

section

variable (backend : Backend Number)

theorem Quiet.refl : Quiet backend backend :=
  .of_delivered rfl (.inl rfl)

theorem Quiet.trans {before middle after : Backend Number} (first : Quiet before middle)
    (second : Quiet middle after) : Quiet before after := by
  refine ⟨first.adds.trans second.adds, ?_⟩
  rcases second.target with same | forgotten
  · rw [same]
    exact first.target
  · exact .inr forgotten

theorem quiet_invalidateSiyi (opcode : UInt8) (payload : Bytes) :
    Quiet backend { backend with
      angleTarget := invalidateSiyi backend.angleTarget opcode payload } := by
  refine .of_delivered rfl ?_
  unfold invalidateSiyi
  cases invalidates opcode payload with
  | true => exact .inr rfl
  | false => exact .inl rfl

theorem send_quiet {command : Command Number}
    (still : command.isMotion = false) : Quiet backend (send backend command).1 := by
  unfold send
  split
  · exact .refl backend
  · exact .of_delivered rfl (.inl rfl)
  · exact ⟨Adds.one _ still, .inl rfl⟩

theorem sendLink_quiet {sub : UInt8}
    (still : (Command.native sub payload : Command Number).isMotion = false) :
    Quiet backend (sendLink backend sub payload).1 := by
  unfold sendLink
  split
  · exact .refl backend
  · exact send_quiet backend still

end

variable {request : Request}

variable (target : Target)

theorem sendTunnel_quiet (backend : Backend Number)
    (still : isMotion request.opcode request.payload = false) :
    Quiet backend (sendTunnel target backend request).1 := by
  unfold sendTunnel
  split
  · exact .refl backend
  · exact send_quiet backend still

/-- The opcodes of the replies are not those of motions. -/
def isReply (opcode : UInt8) : Bool :=
  !(selectsTracking opcode || opcode == 0x07 || opcode == 0x08 || opcode == 0x0e ||
    opcode == 0x40 || opcode == 0x0c)

theorem isMotion_of_isReply (reply : isReply opcode = true) (payload : Bytes) :
    isMotion opcode payload = false := by
  unfold isReply selectsTracking at reply
  unfold isMotion selectsMode
  simp only [Bool.not_eq_true', Bool.or_eq_false_iff] at reply
  simp only [reply, Bool.or_false, Bool.false_and]

variable (world : World) (backend : Backend Number)

theorem emitLocal_quiet (reply : isReply opcode = true) :
    Quiet backend (emitLocal target world backend opcode) := by
  have numbered : Quiet backend { backend with publicSequence := backend.publicSequence + 1 } :=
    .of_delivered rfl (.inl rfl)
  unfold emitLocal
  simp only
  split
  · exact numbered.trans (sendTunnel_quiet target _ (isMotion_of_isReply reply _))
  · exact numbered

/-! ### What becomes of a request -/

/-- A reply has the opcode of a reply, and a mode comes from a request that selects it. -/
def Handling.Proper (request : Request) : Handling → Prop
  | .reply opcode => isReply opcode = true
  | .mode _ => selectsMode request.opcode request.payload = true
  | _ => True

theorem Handling.Proper.ite {condition : Prop} [Decidable condition] {first second : Handling}
    (whenTrue : condition → first.Proper request)
    (whenFalse : ¬ condition → second.Proper request) :
    (if condition then first else second).Proper request := by
  split
  · next holds => exact whenTrue holds
  · next fails => exact whenFalse fails

theorem siyiHandling_proper (request : Request) : (siyiHandling world request).Proper request := by
  unfold siyiHandling
  refine .ite (fun isFunction => ?_) fun _ => ?_
  · refine .ite (fun _ => trivial) fun whole => .ite (fun _ => rfl) fun high =>
      .ite (fun low => ?_) fun _ => trivial
    have selected : 3 ≤ byteAt request.payload 0 := by
      rw [UInt8.le_iff_toNat_le] at high ⊢
      have : (3 : UInt8).toNat = (2 : UInt8).toNat + 1 := rfl
      omega
    show selectsMode request.opcode request.payload = true
    simp only [selectsMode, isFunction, not_not.mp whole, selected, low, beq_self_eq_true,
      decide_true, Bool.and_true]
  · repeat' refine .ite (fun _ => ?_) fun _ => ?_
    all_goals first
      | rfl
      | trivial

theorem mt11Handling_proper (request : Request) : (mt11Handling world request).Proper request := by
  unfold mt11Handling
  repeat' refine .ite (fun _ => ?_) fun _ => ?_
  all_goals first
    | rfl
    | assumption
    | trivial

/-- The opcodes of angles, presets and the tracking modes are the controller's business on every
target. -/
def isControllers (opcode : UInt8) : Bool :=
  opcode == 0x0e || opcode == 0x40 || opcode == 0x55 || opcode == 0x56

theorem isControllers_cases (controllers : isControllers opcode = true) :
    opcode = 0x0e ∨ opcode = 0x40 ∨ opcode = 0x55 ∨ opcode = 0x56 := by
  simpa [isControllers, or_assoc] using controllers

theorem siyiHandling_controllers (controllers : isControllers request.opcode = true) :
    siyiHandling world request = .forward := by
  unfold siyiHandling
  rcases isControllers_cases controllers with same | same | same | same <;> simp [same]

theorem zr10Handling_controllers (controllers : isControllers request.opcode = true) :
    zr10Handling request = .common := by
  unfold zr10Handling
  rcases isControllers_cases controllers with same | same | same | same <;> simp [same]

/-- Such a request goes to the controller, unless it came from there. -/
theorem handleUartRequest_controllers (request : Request)
    (free : manualBlocked manual request.opcode request.payload = false)
    (controllers : isControllers request.opcode = true) :
    handleUartRequest target manual world backend request =
      let forgotten := { backend with
        angleTarget := invalidateSiyi backend.angleTarget request.opcode request.payload }
      if backend.replyToMcu then (forgotten, some .unsupported)
      else sendTunnel target forgotten request := by
  unfold handleUartRequest serve
  rw [free, if_neg Bool.false_ne_true]
  simp only [zr10Handling_controllers controllers, siyiHandling_controllers world controllers,
    ite_self]

theorem opcode_ne_of_still (moves : ∀ payload, isMotion opcode payload = true)
    (still : isMotion request.opcode request.payload = false) : request.opcode ≠ opcode := by
  rintro rfl
  rw [moves request.payload] at still
  cases still

theorem zr10Handling_native {sub : UInt8} (handled : zr10Handling request = .native sub)
    (still : isMotion request.opcode request.payload = false) :
    (Command.native sub request.payload : Command Number).isMotion = false := by
  have notRates : request.opcode ≠ 0x07 := opcode_ne_of_still (fun _ => rfl) still
  have notCentre : request.opcode ≠ 0x08 := opcode_ne_of_still (fun _ => rfl) still
  unfold zr10Handling at handled
  simp only [if_neg notRates, if_neg notCentre] at handled
  split at handled
  · split at handled
    · cases handled
    · cases handled
      split <;> rfl
  · split at handled
    · split at handled
      · cases handled
      · cases handled
        rfl
    · split at handled <;> cases handled

/-! ### Requests that do not move the gimbal -/

theorem serve_quiet (still : isMotion request.opcode request.payload = false) :
    Quiet backend (serve target world backend request).1 := by
  have proper := siyiHandling_proper world request
  unfold serve
  cases handling : siyiHandling world request with
  | reply opcode =>
    rw [handling] at proper
    exact emitLocal_quiet target world backend proper
  | silent => exact .refl backend
  | thermal mode => exact .refl backend
  | fails errno => exact .refl backend
  | mode mode =>
    rw [handling] at proper
    rw [isMotion_of_selectsMode proper] at still
    cases still
  | forward =>
    simp only
    split
    · exact .refl backend
    · exact sendTunnel_quiet target backend still

theorem handleUartRequest_quiet (still : manualBlocked manual request.opcode request.payload =
      isMotion request.opcode request.payload) :
    Quiet backend (handleUartRequest target manual world backend request).1 := by
  unfold handleUartRequest
  split
  · exact .refl backend
  next free =>
  rw [still, Bool.not_eq_true] at free
  have forgotten := quiet_invalidateSiyi backend request.opcode request.payload
  simp only
  split
  · refine forgotten.trans ?_
    split
    · exact .refl _
    · next handled => exact sendLink_quiet _ (zr10Handling_native handled free)
    · split
      · exact .refl _
      · exact sendTunnel_quiet target _ free
    · exact serve_quiet target world _ free
  · exact forgotten.trans (serve_quiet target world _ free)

theorem emitThermalRange_quiet : Quiet backend (emitThermalRange world backend) := by
  unfold emitThermalRange
  split
  · exact (emitLocal_quiet .mt11 world backend rfl).trans (.of_delivered rfl (.inl rfl))
  · exact .refl backend

/-- What the MT11 serves itself moves nothing; the rest it forwards. -/
theorem handleMt11Request_cases (manual : Manual) (world : World) (backend : Backend Number)
    (request : Request) :
    Quiet backend (handleMt11Request manual world backend request).1 ∨
      manualBlocked manual request.opcode request.payload = false ∧
        ∃ mode, (handleMt11Request manual world backend request).1 =
          (forwardMt11 { backend with gimbalMode := mode } request).1 := by
  have proper := mt11Handling_proper world request
  unfold handleMt11Request
  by_cases blocked : manualBlocked manual request.opcode request.payload = true
  · left
    rw [if_pos blocked]
    exact .refl backend
  rw [if_neg blocked]
  rw [Bool.not_eq_true] at blocked
  cases handling : mt11Handling world request with
  | reply opcode =>
    rw [handling] at proper
    exact .inl (emitLocal_quiet .mt11 world backend proper)
  | silent => exact .inl (.refl backend)
  | thermal mode =>
    left
    have continuous : Quiet backend { backend with thermalContinuous := mode == 2 } :=
      .of_delivered rfl (.inl rfl)
    simp only
    split
    · exact continuous
    · exact continuous.trans (emitThermalRange_quiet world _)
  | fails errno => exact .inl (.refl backend)
  | mode mode => exact .inr ⟨blocked, mode, rfl⟩
  | forward => exact .inr ⟨blocked, backend.gimbalMode, rfl⟩

section

variable (still : manualBlocked manual request.opcode request.payload =
  isMotion request.opcode request.payload)

include still

theorem handleMt11Request_quiet :
    Quiet backend (handleMt11Request manual world backend request).1 := by
  rcases handleMt11Request_cases manual world backend request with
    quiet | ⟨free, mode, same⟩
  · exact quiet
  · rw [same]
    rw [still] at free
    have selected : Quiet backend { backend with gimbalMode := mode } :=
      .of_delivered rfl (.inl rfl)
    exact selected.trans ((quiet_invalidateSiyi _ request.opcode request.payload).trans
      (sendTunnel_quiet .mt11 _ free))

theorem handleRequest_quiet :
    Quiet backend (handleRequest target manual world backend request).1 := by
  cases target with
  | a8 => exact handleUartRequest_quiet .a8 world backend still
  | zr10 => exact handleUartRequest_quiet .zr10 world backend still
  | mt11 => exact handleMt11Request_quiet world backend still
  | z1mini => exact .refl backend

end

theorem handleSiyi_quiet (held : manual.Held) (world : World) (backend : Backend Number)
    (data : Bytes) : Quiet backend (handleSiyi target manual world backend data).1 := by
  unfold handleSiyi
  split
  · exact .refl backend
  split
  · split
    · exact handleRequest_quiet target world backend (held.blocked _ _)
    · exact .refl backend
  · exact .refl backend

theorem sendPublicCommand_quiet (manual : Manual) (world : World) (backend : Backend Number)
    (still : isMotion opcode payload = false) :
    Quiet backend (sendPublicCommand target manual world backend opcode payload).1 := by
  have numbered : Quiet backend { backend with
      publicSequence := backend.publicSequence + 1
      angleTarget := invalidateSiyi backend.angleTarget opcode payload } :=
    (quiet_invalidateSiyi backend opcode payload).trans (.of_delivered rfl (.inl rfl))
  have unblocked : manualBlocked manual opcode payload = isMotion opcode payload := by
    rw [still, ← Bool.not_eq_true]
    exact fun blocked => absurd (isMotion_of_blocked blocked) (by rw [still]; decide)
  unfold sendPublicCommand
  split
  · exact numbered.trans (handleUartRequest_quiet .zr10 world _ unblocked)
  · exact numbered.trans (sendTunnel_quiet target _ still)

variable (build : Build Number)

section

variable (manual : Manual) (world : World) (backend : Backend Number)

theorem setZoom_quiet
    (ratio : Number) : Quiet backend (setZoom build manual world backend ratio).1 := by
  unfold setZoom
  split
  · exact .refl backend
  split
  · exact .refl backend
  split
  · exact sendPublicCommand_quiet .zr10 manual world backend rfl
  · exact .refl backend

theorem setZoomRate_quiet
    (rate : Number) : Quiet backend (setZoomRate build manual world backend rate).1 := by
  unfold setZoomRate
  split
  · split
    · exact .refl backend
    · exact sendPublicCommand_quiet .zr10 manual world backend rfl
  · exact .refl backend

theorem requestGimbalAttitude_quiet :
    Quiet backend (requestGimbalAttitude target manual world backend).1 := by
  unfold requestGimbalAttitude
  split
  · exact .refl backend
  · exact sendPublicCommand_quiet target manual world backend rfl

theorem handFocus_quiet (focus : Option Bytes) :
    Quiet backend (periodic.handFocus focus backend) := by
  cases focus with
  | none => exact .refl backend
  | some frame => exact sendLink_quiet backend rfl

theorem queryZoom_quiet : Quiet backend (periodic.queryZoom target manual world backend) := by
  have asked : Quiet backend { backend with zoomQueryMs := world.now } :=
    .of_delivered rfl (.inl rfl)
  unfold periodic.queryZoom
  split
  · exact asked.trans (sendPublicCommand_quiet target manual world _ rfl)
  · exact .refl backend

theorem queryMounting_quiet : Quiet backend (periodic.queryMounting world backend) := by
  have asked : Quiet backend { backend with mountingQueryMs := world.now } :=
    .of_delivered rfl (.inl rfl)
  unfold periodic.queryMounting
  split
  · exact .refl backend
  split
  · exact .refl backend
  · exact asked.trans (sendLink_quiet _ rfl)

theorem periodic_quiet
    (focus : Option Bytes) : Quiet backend (periodic target manual world backend focus) := by
  cases target with
  | z1mini => exact .refl backend
  | mt11 =>
    unfold periodic
    simp only
    split
    · exact emitThermalRange_quiet world backend
    · exact .refl backend
  | a8 => exact queryMounting_quiet world backend
  | zr10 =>
    exact (handFocus_quiet backend focus).trans
      ((queryZoom_quiet .zr10 manual world _).trans (queryMounting_quiet world _))

/-! ### Frames of the controller -/

theorem mount_quiet (direction : UInt8) : Quiet backend (backend.mount direction) := by
  refine .of_delivered rfl ?_
  unfold Backend.mount
  by_cases same : backend.mountingDirection = direction
  · exact .inl (if_pos same)
  · exact .inr (if_neg same)

theorem applyMountingDirection_quiet (direction : UInt8) :
    Quiet backend (applyMountingDirection world backend direction).1 := by
  unfold applyMountingDirection
  split
  · exact .refl backend
  split
  · exact .refl backend
  · exact (mount_quiet backend _).trans (.of_delivered rfl (.inl rfl))

theorem inferMounting_quiet (rawPitch : Int16) :
    Quiet backend (inferMounting world backend rawPitch) := by
  have applied := applyMountingDirection_quiet world backend 2
  unfold inferMounting
  split
  · split
    · next mounted same =>
      rw [same] at applied
      exact applied.trans (.of_delivered rfl (.inl rfl))
    · next refused same =>
      rw [same] at applied
      exact applied
  · exact .refl backend

section

variable (world : World) (backend : Backend Number)

theorem updateAttitude_quiet (payload : Bytes)
    (hasRates tunnelled : Bool) :
    Quiet backend (updateAttitude build world backend payload hasRates tunnelled) :=
  (inferMounting_quiet world backend _).trans (.of_delivered rfl (.inl rfl))

theorem handleTunnelReply_quiet (payload : Bytes) :
    Quiet backend (handleTunnelReply build world backend payload) := by
  unfold handleTunnelReply
  split
  · split
    · exact .refl backend
    split
    · exact .refl backend
    split
    · split
      · exact .of_delivered rfl (.inl rfl)
      · exact updateAttitude_quiet build world backend _ true true
    split
    · exact .of_delivered rfl (.inl rfl)
    · exact .refl backend
  · exact .refl backend

theorem handlePrivate_quiet (frame : McuFrame) :
    Quiet backend (handlePrivate build world backend frame) := by
  unfold handlePrivate
  simp only
  split
  · exact .refl backend
  split
  · exact handleTunnelReply_quiet build world backend _
  split
  · split
    · exact emitLocal_quiet .mt11 world backend rfl
    · exact .refl backend
  split
  · exact mount_quiet backend _
  · exact .refl backend

end

/-- A frame of the controller moves nothing, unless it delegates a vendor request to the
ZR10. -/
theorem handleFrame_cases (frame : McuFrame) :
    Quiet backend (handleFrame build manual world backend frame) ∨
      handleFrame build manual world backend frame =
        { (handleSiyi .zr10 manual world { backend with replyToMcu := true } frame.payload).1 with
          replyToMcu := false } := by
  unfold handleFrame
  split
  · exact .inl (.refl backend)
  split
  · exact .inl (.refl backend)
  split
  · exact .inr rfl
  split
  · split
    · exact .inl (updateAttitude_quiet build world backend _ false false)
    · exact .inl (.refl backend)
  split
  · exact .inl (handleTunnelReply_quiet build world backend _)
  split
  · split
    · exact .inl (applyMountingDirection_quiet world backend _)
    · exact .inl (.refl backend)
  split
  · split
    · exact .inl (.of_delivered rfl (.inl rfl))
    · exact .inl (.refl backend)
  · exact .inl (.refl backend)

theorem handleMcuFrame_cases (frame : McuFrame) :
    Quiet backend (handleMcuFrame build manual world backend frame) ∨
      handleMcuFrame build manual world backend frame =
        { (handleSiyi .zr10 manual world { backend with replyToMcu := true } frame.payload).1 with
          replyToMcu := false } := by
  unfold handleMcuFrame
  split
  · exact handleFrame_cases build manual world backend frame
  · exact handleFrame_cases build manual world backend frame
  · exact .inl (handlePrivate_quiet build world backend frame)
  · exact .inl (.of_delivered rfl (.inl rfl))

end

theorem handleMcuFrame_quiet (held : manual.Held) (world : World) (backend : Backend Number)
    (frame : McuFrame) : Quiet backend (handleMcuFrame build manual world backend frame) := by
  rcases handleMcuFrame_cases build manual world backend frame with quiet | delegated
  · exact quiet
  · rw [delegated]
    have marked : Quiet backend { backend with replyToMcu := true } := .of_delivered rfl (.inl rfl)
    exact (marked.trans (handleSiyi_quiet .zr10 held world _ frame.payload)).trans
      (.of_delivered rfl (.inl rfl))

end Gimbal
