/-
This file is about the angle target that the A8, the ZR10 and the MT11 remember:
as long as no request of the tracking modes is handed to the controller while a
target is remembered, the target is what the last command that moved the gimbal
sent.
-/

import CameraGimbal.GimbalMotion

namespace Gimbal

open Config (Target)

variable {Number : Type}

/-- The last command that moved the gimbal or changed its mode sent this pair of angles. -/
def LastSent (backend : Backend Number) (pair : AnglePair) : Prop :=
  ∃ request : Request,
    Outputs.last Command.isMotion backend.delivered = some (.tunnel request) ∧
      request.opcode = 0x0e ∧ request.payload = anglePayload pair

/-- What is remembered is what the last command that moved the gimbal sent. -/
def Remembered (backend : Backend Number) : Prop :=
  ∀ sent, backend.angleTarget = some sent → LastSent backend sent.pair

variable {backend : Backend Number}

theorem Remembered.of_forgotten (forgotten : backend.angleTarget = none) : Remembered backend := by
  intro sent same
  rw [forgotten] at same
  cases same

theorem Quiet.remembered {before after : Backend Number} (quiet : Quiet before after)
    (remembered : Remembered before) : Remembered after := by
  rcases quiet.target with same | forgotten
  · intro sent target
    rw [same] at target
    obtain ⟨request, last, isAngles, payload⟩ := remembered sent target
    exact ⟨request, (Outputs.last_of_adds quiet.adds).trans last, isAngles, payload⟩
  · exact .of_forgotten forgotten

/-- A request of the tracking modes would reach the controller while a target is
remembered. -/
def overtakes (target : Target) (manual : Manual) (backend : Backend Number)
    (request : Request) : Bool :=
  selectsTracking request.opcode && !manualBlocked manual request.opcode request.payload &&
    decide (request.packetLength ≤ linkMaxPayload target) &&
    backend.accepts.head? == some true && backend.angleTarget.isSome

/-! ### Sending leaves the target -/

@[simp] theorem send_angleTarget (backend : Backend Number) (command : Command Number) :
    (send backend command).1.angleTarget = backend.angleTarget := by
  unfold send
  split <;> rfl

@[simp] theorem sendLink_angleTarget (backend : Backend Number) (sub : UInt8)
    (payload : Bytes) :
    (sendLink backend sub payload).1.angleTarget = backend.angleTarget := by
  unfold sendLink
  split
  · rfl
  · exact send_angleTarget _ _

@[simp] theorem sendTunnel_angleTarget (target : Target) (backend : Backend Number)
    (request : Request) :
    (sendTunnel target backend request).1.angleTarget = backend.angleTarget := by
  unfold sendTunnel
  split
  · rfl
  · exact send_angleTarget _ _

section

variable (target : Target) (world : World) (backend : Backend Number)

@[simp] theorem emitLocal_angleTarget (opcode : UInt8) :
    (emitLocal target world backend opcode).angleTarget = backend.angleTarget := by
  unfold emitLocal
  simp only
  split
  · exact sendTunnel_angleTarget _ _ _
  · rfl

@[simp] theorem serve_angleTarget (request : Request) :
    (serve target world backend request).1.angleTarget = backend.angleTarget := by
  unfold serve
  split
  · exact emitLocal_angleTarget _ _ _ _
  · rfl
  · rfl
  · rfl
  · exact sendLink_angleTarget _ _ _
  · split
    · rfl
    · exact sendTunnel_angleTarget _ _ _

end

variable {manual : Manual}

theorem handleUartRequest_angleTarget (target : Target) (world : World) (backend : Backend Number)
    (request : Request) (free : manualBlocked manual request.opcode request.payload = false) :
    (handleUartRequest target manual world backend request).1.angleTarget =
      invalidateSiyi backend.angleTarget request.opcode request.payload := by
  unfold handleUartRequest
  rw [free, if_neg Bool.false_ne_true]
  simp only
  split
  · split
    · rfl
    · exact sendLink_angleTarget _ _ _
    · split
      · rfl
      · exact sendTunnel_angleTarget _ _ _
    · exact serve_angleTarget _ _ _ _
  · exact serve_angleTarget _ _ _ _

variable {angleTarget : Option AngleTarget} {opcode : UInt8}

theorem invalidateSiyi_of_invalidates {payload : Bytes}
    (unknown : invalidates opcode payload = true) :
    invalidateSiyi angleTarget opcode payload = none :=
  if_pos unknown

theorem isControllers_of_tracking (tracking : selectsTracking opcode = true) :
    isControllers opcode = true := by
  unfold isControllers
  rw [Bool.or_assoc _ (opcode == 0x55)]
  exact Bool.or_eq_true_iff.mpr (.inr tracking)

theorem invalidateSiyi_of_tracking (payload : Bytes)
    (tracking : selectsTracking opcode = true) :
    invalidateSiyi angleTarget opcode payload = angleTarget := by
  unfold selectsTracking at tracking
  refine if_neg ?_
  rcases Bool.or_eq_true_iff.mp tracking with first | second
  · rw [eq_of_beq first]
    exact nofun
  · rw [eq_of_beq second]
    exact nofun

/-! ### Requests -/

theorem sendTunnel_delivered (target : Target) (backend : Backend Number) (request : Request) :
    (sendTunnel target backend request).1.delivered = backend.delivered ∨
      request.packetLength ≤ linkMaxPayload target ∧ backend.accepts.head? = some true := by
  unfold sendTunnel
  split
  · exact .inl rfl
  · next fits =>
    unfold send
    split
    · exact .inl rfl
    · exact .inl rfl
    · next later accepted =>
      exact .inr ⟨Nat.le_of_not_lt fits, by rw [accepted]; rfl⟩

variable {target : Target} {request : Request}

theorem sendTunnel_remembered (remembered : Remembered backend)
    (tracking : selectsTracking request.opcode = true)
    (free : manualBlocked manual request.opcode request.payload = false)
    (behind : overtakes target manual backend request = false) :
    Remembered (sendTunnel target backend request).1 := by
  rcases sendTunnel_delivered target backend request with same | ⟨fits, accepted⟩
  · exact (Quiet.of_delivered same (.inl (sendTunnel_angleTarget _ _ _))).remembered remembered
  · refine .of_forgotten ?_
    rw [sendTunnel_angleTarget]
    unfold overtakes at behind
    rw [tracking, free, decide_eq_true fits, accepted] at behind
    exact Option.isNone_iff_eq_none.mp (by simpa using behind)

theorem motion_of_not_still {payload : Bytes}
    (moves : manualBlocked manual opcode payload ≠ isMotion opcode payload) :
    manualBlocked manual opcode payload = false ∧
      (invalidates opcode payload = true ∨ selectsTracking opcode = true) := by
  cases blocked : manualBlocked manual opcode payload with
  | true => exact absurd (blocked.trans (isMotion_of_blocked blocked).symm) moves
  | false =>
    rw [blocked] at moves
    rw [← Bool.or_eq_true_iff, ← isMotion_eq]
    exact ⟨rfl, Bool.eq_true_of_not_eq_false fun same => moves same.symm⟩

section

variable (world : World) (remembered : Remembered backend)

include remembered

theorem handleUartRequest_remembered
    (behind : backend.replyToMcu = true ∨ overtakes target manual backend request = false) :
    Remembered (handleUartRequest target manual world backend request).1 := by
  by_cases still : manualBlocked manual request.opcode request.payload =
      isMotion request.opcode request.payload
  · exact (handleUartRequest_quiet target world backend still).remembered remembered
  obtain ⟨free, unknown | tracking⟩ := motion_of_not_still still
  · refine .of_forgotten ?_
    rw [handleUartRequest_angleTarget target world backend request free,
      invalidateSiyi_of_invalidates unknown]
  · rw [handleUartRequest_controllers target world backend request free
      (isControllers_of_tracking tracking), invalidateSiyi_of_tracking _ tracking]
    cases delegated : backend.replyToMcu with
    | true => exact remembered
    | false =>
      rw [delegated] at behind
      exact sendTunnel_remembered remembered tracking free (behind.resolve_left nofun)

theorem handleMt11Request_remembered (behind : overtakes .mt11 manual backend request = false) :
    Remembered (handleMt11Request manual world backend request).1 := by
  by_cases still : manualBlocked manual request.opcode request.payload =
      isMotion request.opcode request.payload
  · exact (handleMt11Request_quiet world backend still).remembered remembered
  rcases handleMt11Request_cases manual world backend request with quiet | ⟨free, mode, same⟩
  · exact quiet.remembered remembered
  rw [same]
  unfold forwardMt11
  obtain ⟨_, unknown | tracking⟩ := motion_of_not_still still
  · refine .of_forgotten ?_
    rw [sendTunnel_angleTarget]
    exact invalidateSiyi_of_invalidates unknown
  · rw [invalidateSiyi_of_tracking _ tracking]
    exact sendTunnel_remembered remembered tracking free behind

theorem handleRequest_remembered (behind : overtakes target manual backend request = false) :
    Remembered (handleRequest target manual world backend request).1 := by
  cases target with
  | a8 => exact handleUartRequest_remembered world remembered (.inr behind)
  | zr10 => exact handleUartRequest_remembered world remembered (.inr behind)
  | mt11 => exact handleMt11Request_remembered world remembered behind
  | z1mini => exact remembered

end

/-- The bytes a client sends are such a request. -/
def overtakesBytes (target : Target) (manual : Manual) (backend : Backend Number)
    (data : Bytes) : Bool :=
  match Siyi.parseOne data with
  | .packet packet consumed =>
    consumed == data.length && overtakes target manual backend (.ofPacket packet)
  | _ => false

theorem handleSiyi_remembered (world : World) {data : Bytes} (remembered : Remembered backend)
    (behind : overtakesBytes target manual backend data = false) :
    Remembered (handleSiyi target manual world backend data).1 := by
  unfold overtakesBytes at behind
  unfold handleSiyi
  split
  · exact remembered
  split
  · next packet consumed parsed =>
    simp only [parsed] at behind
    split
    · next whole =>
      rw [beq_iff_eq.mpr whole, Bool.true_and] at behind
      exact handleRequest_remembered world remembered behind
    · exact remembered
  · exact remembered

theorem handleSiyi_delegated_remembered (world : World) {data : Bytes}
    (remembered : Remembered backend) :
    Remembered (handleSiyi .zr10 manual world { backend with replyToMcu := true } data).1 := by
  have marked : Remembered { backend with replyToMcu := true } := remembered
  unfold handleSiyi
  split
  · exact marked
  split
  · split
    · exact handleUartRequest_remembered world marked (.inl rfl)
    · exact marked
  · exact marked

theorem handleMcuFrame_remembered (build : Build Number) (manual : Manual) (world : World)
    (frame : McuFrame) (remembered : Remembered backend) :
    Remembered (handleMcuFrame build manual world backend frame) := by
  rcases handleMcuFrame_cases build manual world backend frame with quiet | delegated
  · exact quiet.remembered remembered
  · rw [delegated]
    exact handleSiyi_delegated_remembered world remembered

/-! ### Motion calls -/

theorem sendPublicCommand_forgets (target : Target) (manual : Manual) (world : World)
    (backend : Backend Number) {payload : Bytes}
    (unknown : invalidates opcode payload = true) :
    (sendPublicCommand target manual world backend opcode payload).1.angleTarget = none := by
  unfold sendPublicCommand
  split
  · cases blocked : manualBlocked manual opcode payload with
    | true =>
      unfold handleUartRequest
      rw [if_pos blocked]
      exact invalidateSiyi_of_invalidates unknown
    | false =>
      refine (handleUartRequest_angleTarget .zr10 world _
        { control := 1, sequence := backend.publicSequence, opcode, payload } blocked).trans ?_
      exact invalidateSiyi_of_invalidates unknown
  · rw [sendTunnel_angleTarget]
    exact invalidateSiyi_of_invalidates unknown

theorem sendTunnel_taken (taken : (sendTunnel target backend request).2 = none) :
    (sendTunnel target backend request).1.delivered = backend.delivered ++ [.tunnel request] := by
  unfold sendTunnel at taken ⊢
  split at taken
  · cases taken
  next fits =>
  rw [if_neg fits]
  unfold send at taken ⊢
  split at taken
  · cases taken
  · cases taken
  · rfl

variable {pair : AnglePair}

theorem sendTunnel_angles (isAngles : request.opcode = 0x0e)
    (payload : request.payload = anglePayload pair)
    (taken : (sendTunnel target backend request).2 = none) :
    LastSent (sendTunnel target backend request).1 pair := by
  refine ⟨request, ?_, isAngles, payload⟩
  have counted : (Command.tunnel request : Command Number).isMotion = true := by
    show isMotion request.opcode request.payload = true
    rw [isAngles]
    rfl
  rw [sendTunnel_taken taken]
  exact Outputs.last_append_of_counts _ counted

theorem sendPublicCommand_angles {world : World}
    (free : manualBlocked manual 0x0e (anglePayload pair) = false)
    (taken : (sendPublicCommand target manual world backend 0x0e (anglePayload pair)).2 = none) :
    LastSent (sendPublicCommand target manual world backend 0x0e (anglePayload pair)).1 pair := by
  unfold sendPublicCommand at taken ⊢
  split at taken
  · simp only at taken ⊢
    rw [handleUartRequest_controllers .zr10 world _ _ free rfl] at taken ⊢
    split at taken
    · cases taken
    · next own =>
      rw [if_neg own]
      exact sendTunnel_angles rfl rfl taken
  · exact sendTunnel_angles rfl rfl taken

theorem sendAngles_remembered (target : Target) (world : World) (backend : Backend Number)
    (pair : AnglePair) (free : manualBlocked manual 0x0e (anglePayload pair) = false) :
    Remembered (sendAngles target manual world backend pair).1 := by
  have angles (taken : (sendPublicCommand target manual world backend 0x0e
      (anglePayload pair)).2 = none) := sendPublicCommand_angles free taken
  have forgets := sendPublicCommand_forgets target manual world backend
    (show invalidates 0x0e (anglePayload pair) = true from rfl)
  unfold sendAngles
  split
  · next sent result =>
    rw [result] at angles
    intro remembered same
    cases same
    exact angles rfl
  · next sent errno result =>
    rw [result] at forgets
    exact .of_forgotten forgets

variable {build : Build Number}

theorem setGimbalAngles_remembered (siyi : build.target ≠ .z1mini)
    (free : manual.active = false ∨ manual.executing = true) (world : World) (pitch yaw : Number)
    (remembered : Remembered backend) :
    Remembered (setGimbalAngles build manual world backend pitch yaw).1 := by
  unfold setGimbalAngles
  rw [if_neg siyi]
  split
  · exact remembered
  · exact sendAngles_remembered build.target world backend _ (manualBlocked_of_free free _ _)

section

variable (siyi : build.target ≠ .z1mini) (manual : Manual) (world : World)
  (backend : Backend Number)

include siyi

theorem setGimbalRates_remembered (pitch yaw : Number) :
    Remembered (setGimbalRates build manual world backend pitch yaw).1 := by
  unfold setGimbalRates
  rw [if_neg siyi]
  exact .of_forgotten (sendPublicCommand_forgets _ _ _ _ rfl)

theorem setGimbalNeutral_remembered :
    Remembered (setGimbalNeutral build manual world backend).1 := by
  unfold setGimbalNeutral
  rw [if_neg siyi]
  exact .of_forgotten (sendPublicCommand_forgets _ _ _ _ rfl)

end

theorem suppress_same {pitch yaw : Number} {attitude : Option (Attitude Number)}
    {now : UInt64} (suppressed : suppress build angleTarget pair pitch yaw attitude now = true) :
    ∃ sent, angleTarget = some sent ∧ sent.pair = pair := by
  unfold suppress at suppressed
  split at suppressed
  · cases suppressed
  · next sent =>
    simp only [Bool.and_eq_true, beq_iff_eq] at suppressed
    exact ⟨sent, rfl, suppressed.1.2⟩

theorem Remembered.suppressed (remembered : Remembered backend) {now : UInt64} {pitch yaw : Number}
    (suppressed : anglesSuppressed build backend now pitch yaw = true) :
    LastSent backend (build.anglePair backend.inverted pitch yaw) := by
  obtain ⟨sent, same, pair⟩ := suppress_same suppressed
  rw [← pair]
  exact remembered sent same

/-- A call to set the angles that succeeds, while no lease holds it back, leaves the pair it was
asked for as the last one sent, whether it was sent now or suppressed. -/
theorem setGimbalAngles_lastSent (siyi : build.target ≠ .z1mini)
    (free : manual.active = false ∨ manual.executing = true) {world : World} {pitch yaw : Number}
    (remembered : Remembered backend)
    (succeeds : (setGimbalAngles build manual world backend pitch yaw).2 = none) :
    LastSent (setGimbalAngles build manual world backend pitch yaw).1
      (build.anglePair backend.inverted pitch yaw) := by
  unfold setGimbalAngles at succeeds ⊢
  rw [if_neg siyi] at succeeds ⊢
  split at succeeds
  · next suppressed =>
    rw [if_pos suppressed]
    exact remembered.suppressed suppressed
  next new =>
  rw [if_neg new]
  unfold sendAngles at succeeds ⊢
  have free := manualBlocked_of_free free 0x0e
    (anglePayload (build.anglePair backend.inverted pitch yaw))
  split at succeeds
  · next sent result =>
    have sends := sendPublicCommand_angles free (congrArg Prod.snd result)
    rw [result] at sends
    exact sends
  · cases succeeds

end Gimbal
