/-
This file is about the mounting direction that the MT11 believes. A direction the gimbal reports is
stored before the camera follows it, so a failure to follow a new direction leaves a direction that
the picture does not have. Without such a failure the MT11 believes what was applied last, as the
sibling backend does.
-/

import CameraGimbal.Gimbal

namespace Gimbal

open Siyi (byteAt)

variable {Number : Type}

/-! ### Reports -/

def reportFrame (flags : UInt8) (payload : Bytes) : McuFrame :=
  { flags, source := 0x2e, destination := 0x34, link := 0x6b, command := 0x17, payload }

/-- The payload of a report has a direction first. -/
abbrev IsDirection (payload : Bytes) : Prop :=
  payload ≠ [] ∧ 1 ≤ byteAt payload 0 ∧ byteAt payload 0 ≤ 2

/-- What happens to the mounting: the gimbal reports it, or a target is sent and remembered. -/
inductive MountEvent where
  | report (world : World) (flags : UInt8) (payload : Bytes)
  | aim (sent : AngleTarget)

/-- The MT11 after an event. -/
def mountStep (build : Build Number) (backend : Backend Number) : MountEvent → Backend Number
  | .report world flags payload => handlePrivate build world backend (reportFrame flags payload)
  | .aim sent => { backend with angleTarget := some sent }

/-- The direction of the orientation that the camera followed last. -/
def followed (orientation : Orientation) (applied : UInt8) : MountEvent → UInt8
  | .report world _ payload =>
    if IsDirection payload ∧ world.cameraSucceeds = true then
      directionOf (invertedBy orientation (byteAt payload 0))
    else applied
  | .aim _ => applied

/-- The target that is remembered: a report takes it away just when another orientation is
followed. -/
def remembered (backend : Backend Number) (applied : UInt8) : MountEvent → Option AngleTarget
  | .report world flags payload =>
    if followed backend.orientation applied (.report world flags payload) = applied then
      backend.angleTarget
    else none
  | .aim sent => some sent

/-- Two backends agree on the direction and on the target. -/
def SameMounting (first second : Backend Number) : Prop :=
  first.mountingDirection = second.mountingDirection ∧ first.angleTarget = second.angleTarget

/-- The backend believes what was applied: after an event it has the direction followed last, and a
target that was sent in this direction. A report that is repeated after a failure is applied like a
first one, and the sibling backend does the same. -/
structure Believes (build : Build Number) (backend : Backend Number) (applied : UInt8)
    (event : MountEvent) : Prop where
  direction : (mountStep build backend event).mountingDirection =
    followed backend.orientation applied event
  target : (mountStep build backend event).angleTarget = remembered backend applied event
  repeated : ∀ world flags payload later, event = .report world flags payload →
    world.cameraSucceeds = false → later.cameraSucceeds = true →
    SameMounting (mountStep build (mountStep build backend event) (.report later flags payload))
      (mountStep build backend (.report later flags payload))
  sibling : ∀ world flags payload, event = .report world flags payload →
    SameMounting (mountStep build backend event)
      (applyMountingDirection world backend (byteAt payload 0)).1

/-- The camera fails to follow a direction that is not the one believed. -/
def Unfollowed (backend : Backend Number) : MountEvent → Prop
  | .report world _ payload => IsDirection payload ∧ world.cameraSucceeds = false ∧
    byteAt payload 0 ≠ backend.mountingDirection
  | .aim _ => False

section Step

variable (build : Build Number) (world : World) (backend : Backend Number) (flags : UInt8)
  {payload : Bytes}

theorem report_direction (isDirection : IsDirection payload) :
    mountStep build backend (.report world flags payload) = backend.mount
      (if world.cameraSucceeds then
        directionOf (invertedBy backend.orientation (byteAt payload 0))
      else byteAt payload 0) := by
  simp [mountStep, handlePrivate, reportFrame, isDirection]

theorem report_other (other : ¬ IsDirection payload) :
    mountStep build backend (.report world flags payload) = backend := by
  simp [mountStep, handlePrivate, reportFrame, other]

theorem mount_same : backend.mount backend.mountingDirection = backend := by
  unfold Backend.mount
  rw [if_pos rfl]

theorem apply_direction (isDirection : IsDirection payload)
    (succeeds : world.cameraSucceeds = true) :
    SameMounting (applyMountingDirection world backend (byteAt payload 0)).1
      (backend.mount (directionOf (invertedBy backend.orientation (byteAt payload 0)))) := by
  have inside : ¬ (byteAt payload 0 < 1 ∨ 2 < byteAt payload 0) := fun outside =>
    outside.elim (UInt8.not_lt.mpr isDirection.2.1) (UInt8.not_lt.mpr isDirection.2.2)
  unfold applyMountingDirection
  rw [if_neg inside, succeeds]
  exact ⟨rfl, rfl⟩

theorem apply_failed (fails : world.cameraSucceeds = false) (direction : UInt8) :
    (applyMountingDirection world backend direction).1 = backend := by
  unfold applyMountingDirection
  rw [fails]
  split <;> rfl

theorem apply_other (other : ¬ IsDirection payload) :
    (applyMountingDirection world backend (byteAt payload 0)).1 = backend := by
  have outside : byteAt payload 0 < 1 ∨ 2 < byteAt payload 0 := by
    by_contra inside
    obtain ⟨least, most⟩ := not_or.mp inside
    refine other ⟨fun empty => least ?_, UInt8.not_lt.mp least, UInt8.not_lt.mp most⟩
    rw [empty]
    decide
  unfold applyMountingDirection
  rw [if_pos outside]

end Step

section Run

variable {build : Build Number} {backend : Backend Number} {applied : UInt8} {event : MountEvent}

section

variable (believed : backend.mountingDirection = applied)

include believed

theorem Believes.of_same {world : World} {flags : UInt8} {payload : Bytes}
    (same : mountStep build backend (.report world flags payload) = backend)
    (kept : followed backend.orientation applied (.report world flags payload) = applied)
    (unapplied : (applyMountingDirection world backend (byteAt payload 0)).1 = backend) :
    Believes build backend applied (.report world flags payload) := by
  refine ⟨?_, ?_, fun _ _ _ later isEvent _ _ => ?_, fun _ _ _ isEvent => ?_⟩
  · rw [same, kept, believed]
  · rw [same, remembered, if_pos kept]
  · obtain ⟨rfl, rfl, rfl⟩ := MountEvent.report.inj isEvent
    rw [same]
    exact ⟨rfl, rfl⟩
  · obtain ⟨rfl, rfl, rfl⟩ := MountEvent.report.inj isEvent
    rw [same, unapplied]
    exact ⟨rfl, rfl⟩

theorem Believes.of_followed
    {world : World} {flags : UInt8} {payload : Bytes} (isDirection : IsDirection payload)
    (succeeds : world.cameraSucceeds = true) :
    Believes build backend applied (.report world flags payload) := by
  have step := report_direction build world backend flags isDirection
  rw [if_pos succeeds] at step
  have direction : followed backend.orientation applied (.report world flags payload) =
      directionOf (invertedBy backend.orientation (byteAt payload 0)) :=
    if_pos ⟨isDirection, succeeds⟩
  refine ⟨?_, ?_, fun _ _ _ later isEvent fails _ => ?_, fun _ _ _ isEvent => ?_⟩
  · rw [step, direction]
    rfl
  · rw [step, remembered, direction, ← believed]
    exact if_congr eq_comm rfl rfl
  · obtain ⟨rfl, rfl, rfl⟩ := MountEvent.report.inj isEvent
    exact absurd (succeeds.symm.trans fails) Bool.true_eq_false.mp
  · obtain ⟨rfl, rfl, rfl⟩ := MountEvent.report.inj isEvent
    obtain ⟨sameDirection, sameTarget⟩ := apply_direction _ backend isDirection succeeds
    rw [step]
    exact ⟨sameDirection.symm, sameTarget.symm⟩

/-- What is believed stays what was applied, unless the camera fails to follow another direction. -/
theorem believes_of_followed
    (clean : ¬ Unfollowed backend event) : Believes build backend applied event := by
  cases event with
  | aim sent =>
    exact ⟨believed, rfl, fun _ _ _ _ isEvent => MountEvent.noConfusion isEvent,
      fun _ _ _ isEvent => MountEvent.noConfusion isEvent⟩
  | report world flags payload =>
    by_cases isDirection : IsDirection payload
    · cases succeeds : world.cameraSucceeds with
      | true => exact .of_followed believed isDirection succeeds
      | false =>
        have fails : ¬ world.cameraSucceeds = true := Bool.eq_false_iff.mp succeeds
        have known : byteAt payload 0 = backend.mountingDirection := by
          by_contra other
          exact clean ⟨isDirection, succeeds, other⟩
        refine .of_same believed ?_ (if_neg fun both => fails both.2)
          (apply_failed world backend succeeds _)
        rw [report_direction build world backend flags isDirection, if_neg fails, known, mount_same]
    · exact .of_same believed (report_other build world backend flags isDirection)
        (if_neg fun both => isDirection both.1) (apply_other world backend isDirection)

theorem not_believes_of_unfollowed
    (unfollowed : Unfollowed backend event) : ¬ Believes build backend applied event := by
  intro believes
  cases event with
  | aim sent => exact unfollowed
  | report world flags payload =>
    obtain ⟨isDirection, fails, other⟩ := unfollowed
    have failed : ¬ world.cameraSucceeds = true := Bool.eq_false_iff.mp fails
    have direction := believes.direction
    rw [report_direction build world backend flags isDirection, if_neg failed, followed,
      if_neg fun both => failed both.2] at direction
    exact other (direction.trans believed.symm)

end

end Run

/-! ### Runs -/

/-- In a run, what is believed is what was applied after every event. -/
def BelievesRun (build : Build Number) : Backend Number → UInt8 → List MountEvent → Prop
  | _, _, [] => True
  | backend, applied, event :: events =>
    Believes build backend applied event ∧
      BelievesRun build (mountStep build backend event)
        (followed backend.orientation applied event) events

/-- In a run, the camera never fails to follow a direction that is not the one believed. -/
def FollowedRun (build : Build Number) : Backend Number → List MountEvent → Prop
  | _, [] => True
  | backend, event :: events =>
    ¬ Unfollowed backend event ∧ FollowedRun build (mountStep build backend event) events

theorem believesRun_iff (build : Build Number) (events : List MountEvent)
    {backend : Backend Number} {applied : UInt8} (believed : backend.mountingDirection = applied) :
    BelievesRun build backend applied events ↔ FollowedRun build backend events := by
  induction events generalizing backend applied with
  | nil => exact Iff.rfl
  | cons event rest hypothesis =>
    constructor
    · rintro ⟨believes, restBelieves⟩
      refine ⟨fun unfollowed => not_believes_of_unfollowed believed unfollowed believes, ?_⟩
      exact (hypothesis believes.direction).mp restBelieves
    · rintro ⟨clean, restClean⟩
      have believes : Believes build backend applied event := believes_of_followed believed clean
      exact ⟨believes, (hypothesis believes.direction).mpr restClean⟩

/-- From an MT11 that was opened, what is believed is what was applied if and only if the camera
never fails to follow a direction that is not the one believed. -/
theorem mounting_run_iff (build : Build Number) (orientation : Orientation) (now : UInt64)
    (events : List MountEvent) :
    BelievesRun build (Backend.opened orientation now)
        (Backend.opened orientation now : Backend Number).mountingDirection events ↔
      FollowedRun build (Backend.opened orientation now) events :=
  believesRun_iff build events rfl

/-- An MT11 whose numbers do not matter. -/
def unitBuild : Build Unit where
  target := .mt11
  zero := ()
  nan := ()
  finite _ := true
  radians _ := ()
  ratio _ := ()
  sub _ _ := ()
  wrapPi _ := ()
  euler _ := ((), ())
  anglePair _ _ _ := ⟨0, 0⟩
  reachedOrMoving _ _ _ := true
  rateBytes _ _ _ := (0, 0)
  poseLimits _ _ := ((), ())
  rateLimits _ _ := ((), ())
  pose _ _ _ := ((), (), ())
  feedbackRates _ _ _ := ((), (), ())
  zoomTenths _ := none
  zoomDirection _ := none
  same _ _ := true
  xfrobotAngles _ _ := ((), ())
  straightDown := ()

/-- The camera fails to follow a gimbal that hangs upside down. -/
theorem upsideDown_believed : ¬ ∀ (build : Build Unit) orientation now events,
    BelievesRun build (Backend.opened orientation now)
      (Backend.opened orientation now : Backend Unit).mountingDirection events := by
  intro believes
  have first := believes unitBuild .auto 0 [.report ⟨0, [], false, fun _ => []⟩ 0 [2]]
  exact absurd first.1.direction (by decide)

end Gimbal
