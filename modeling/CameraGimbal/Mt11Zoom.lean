/-
This file is about what the MT11 reports of its view. A change of the view that fails should
leave all of it as it was, but several returns lie behind the point where the motor has moved, a
crop has been set or the lens has changed. The file says exactly when a change that fails leaves
the report alone, and that the reported field of view belongs to the reported lens, optical zoom
and crop in every run whose failures do.
-/

import CameraGimbal.Mt11Bindings

namespace Mt11Media

open Config Optics CameraMedia

variable {Number : Type} (floats : Floats Number)

/-! ### What is reported -/

/-- What is reported of the view. -/
@[ext]
structure Report (Number : Type) where
  zoom : Number
  lens : Lens
  digitalRatio : Group → Number
  opticalZoom : Number
  visibleHfovDeg : Number

def report (media : Impl Number) : Report Number where
  zoom := media.zoom
  lens := media.lens
  digitalRatio := media.digitalRatio
  opticalZoom := opticalOf floats media.e5739
  visibleHfovDeg := media.visibleHfovDeg

/-- The field of view that the lens, the optical zoom and the digital ratio of a report give. -/
def Report.determinedHfov (report : Report Number) : Number :=
  hfovOf floats report.lens report.opticalZoom (report.digitalRatio (groupOf report.lens))

/-- The reported field of view is the one that the rest of the report gives. -/
def Report.Fresh (report : Report Number) : Prop :=
  report.visibleHfovDeg = report.determinedHfov floats

/-- The report with another lens and the field of view that goes with it. -/
def Report.select (report : Report Number) (lens : Lens) : Report Number :=
  { report with
    lens
    visibleHfovDeg := hfovOf floats lens report.opticalZoom (report.digitalRatio (groupOf lens)) }

theorem Report.select_fresh (report : Report Number) (lens : Lens) :
    (report.select floats lens).Fresh floats :=
  rfl

open Report

theorem Report.select_eq_iff (report : Report Number) (lens : Lens) :
    report.select floats lens = report ↔ lens = report.lens ∧ report.Fresh floats := by
  constructor
  · intro same
    obtain rfl : lens = report.lens := congrArg Report.lens same
    exact ⟨rfl, (congrArg Report.visibleHfovDeg same).symm⟩
  · rintro ⟨rfl, fresh⟩
    exact Report.ext rfl rfl rfl rfl fresh.symm

theorem report_rewired {before after : Impl Number} (rewired : Rewired before after) :
    report floats after = report floats before := by
  obtain ⟨_, _, rfl⟩ := rewired
  rfl

theorem report_switchRtspSourcesLocked (media : Impl Number) (thermalMain : Bool)
    (calls : SourceCalls) :
    report floats (switchRtspSourcesLocked media thermalMain calls).1 = report floats media := by
  obtain ⟨-, _, _, switched⟩ | ⟨-, -, rewired⟩ :=
    switchRtspSourcesLocked_cases media thermalMain calls
  · rw [switched]
    rfl
  · exact report_rewired floats rewired

theorem report_selectLensLocked (media : Impl Number) (lens : Lens) (calls : LensCalls) :
    report floats (selectLensLocked floats media lens calls).1 =
      if lensRefused media lens calls then report floats media
      else (report floats media).select floats lens := by
  obtain ⟨_, selected⟩ := selectLensLocked_cases floats media lens calls
  rw [selected]
  split <;> rfl

theorem report_showLens (media : Impl Number) (lens : Lens) (thermalMain : Bool)
    (calls : Calls Number) :
    let shown := showLens floats media lens thermalMain calls
    (shown.2 = none → lensRefused media lens calls.lens = false) ∧
      report floats shown.1 =
        if lensRefused media lens calls.lens then report floats media
        else (report floats media).select floats lens := by
  have selected := report_selectLensLocked floats media lens calls.lens
  obtain ⟨_, cases⟩ := selectLensLocked_cases floats media lens calls.lens
  unfold showLens
  cases refused : lensRefused media lens calls.lens with
  | true =>
    rw [refused, if_pos rfl] at cases selected
    rw [cases] at selected ⊢
    exact ⟨nofun, selected⟩
  | false =>
    rw [refused, if_neg Bool.false_ne_true] at cases selected
    rw [cases] at selected ⊢
    refine ⟨fun _ => rfl, ?_⟩
    rw [if_neg Bool.false_ne_true, ← selected]
    exact report_switchRtspSourcesLocked floats _ thermalMain calls.sources

/-! ### The motor -/

/-- The optical zoom that a command to the motor ends at, if the motor follows it. -/
def factorFor (media : Impl Number) (requestedOptical : Number) : Number :=
  match media.e5739 with
  | some motor => (motor.rowFor floats requestedOptical).factor
  | none => one floats

/-- The motor does not follow a command. -/
def motorRefuses (media : Impl Number) (requestedOptical : Number) (calls : MotorCalls) : Bool :=
  (moveMotor floats media requestedOptical calls).2.isSome

theorem Motor.setZoom_cases (motor : Motor Number) (requestedZoom : Number) (calls : MotorCalls) :
    let moved := motor.setZoom floats requestedZoom calls
    moved.1.firstRow = motor.firstRow ∧ moved.1.rows = motor.rows ∧
      moved.1.opticalZoom =
        if moved.2.isSome then motor.opticalZoom
        else (motor.rowFor floats requestedZoom).factor := by
  unfold Motor.setZoom
  simp only
  split
  · exact ⟨rfl, rfl, rfl⟩
  split
  · exact ⟨rfl, rfl, rfl⟩
  split
  · exact ⟨rfl, rfl, rfl⟩
  · exact ⟨rfl, rfl, rfl⟩

theorem moveMotor_cases (media : Impl Number) (requestedOptical : Number) (calls : MotorCalls) :
    let moved := moveMotor floats media requestedOptical calls
    report floats moved.1 =
        { report floats media with
          opticalZoom :=
            if motorRefuses floats media requestedOptical calls then
              opticalOf floats media.e5739
            else factorFor floats media requestedOptical } ∧
      moved.1.selectedGroup = media.selectedGroup ∧
      ∀ other, factorFor floats moved.1 other = factorFor floats media other := by
  unfold motorRefuses moveMotor factorFor
  cases found : media.e5739 with
  | none =>
    refine ⟨?_, rfl, fun other => by rw [found]⟩
    unfold report
    rw [found]
    rfl
  | some motor =>
    obtain ⟨firstRow, rows, optical⟩ := motor.setZoom_cases floats requestedOptical calls
    refine ⟨?_, rfl, fun other => ?_⟩
    · unfold report opticalOf
      simp only [optical]
    · unfold Motor.rowFor
      simp only [firstRow, rows]

/-! ### A change of the zoom -/

/-- The crop that a zoom asks for is not made. -/
def cropRefused (media : Impl Number) (zoom : Number) (calls : Calls Number) : Bool :=
  ratioChanges floats media zoom &&
    !(zoomInRange floats .mt11 (requestedRatio floats media zoom) && calls.crop)

/-- The digital ratios behind the crop. -/
def croppedRatio (media : Impl Number) (zoom : Number) : Group → Number :=
  if ratioChanges floats media zoom then
    Function.update media.digitalRatio (groupOf (lensFor floats .mt11 zoom))
      (requestedRatio floats media zoom)
  else media.digitalRatio

/-- The optical zoom behind the return of the motor when the crop is not made. -/
def rollbackOptical (media : Impl Number) (zoom : Number) (calls : Calls Number) : Number :=
  let requested := zoomLensOptical floats .mt11 zoom
  let moved := (moveMotor floats media requested calls.motor).1
  let old := zoomLensOptical floats .mt11 media.zoom
  if motorRefuses floats moved old calls.rollback then factorFor floats media requested
  else factorFor floats media old

def failedZoomReport (media : Impl Number) (zoom : Number) (calls : Calls Number) :
    Report Number :=
  let requested := zoomLensOptical floats .mt11 zoom
  let lens := lensFor floats .mt11 zoom
  if zoomInRange floats .mt11 zoom = false ∨
      motorRefuses floats media requested calls.motor = true then report floats media
  else if cropRefused floats media zoom calls then
    { report floats media with opticalZoom := rollbackOptical floats media zoom calls }
  else
    let cropped :=
      { report floats media with
        opticalZoom := factorFor floats media requested
        digitalRatio := croppedRatio floats media zoom }
    if lensRefused media lens calls.lens then cropped
    else cropped.select floats lens

variable {media : Impl Number}

theorem crop_refused {zoom : Number} {calls : Calls Number}
    (refused : cropRefused floats media zoom calls = true) (moved : Impl Number) :
    crop floats media moved zoom calls = (moved, false) := by
  unfold cropRefused at refused
  rw [Bool.and_eq_true, Bool.not_eq_true'] at refused
  unfold crop setDigitalZoom
  rw [if_pos refused.1, refused.2, if_neg Bool.false_ne_true]

theorem crop_made {moved : Impl Number} {zoom : Number} {calls : Calls Number}
    (made : cropRefused floats media zoom calls = false)
    (same : moved.digitalRatio = media.digitalRatio) :
    crop floats media moved zoom calls =
      ({ moved with digitalRatio := croppedRatio floats media zoom }, true) := by
  unfold cropRefused at made
  unfold crop croppedRatio setDigitalZoom
  cases changes : ratioChanges floats media zoom with
  | false => rw [if_neg Bool.false_ne_true, if_neg Bool.false_ne_true, ← same]
  | true =>
    rw [changes, Bool.true_and, Bool.not_eq_false'] at made
    rw [if_pos rfl, if_pos rfl, if_pos made, same]

theorem report_setZoom (media : Impl Number) (zoom : Number) (calls : Calls Number) :
    let after := setZoom floats media zoom calls
    (after.2 ≠ none → report floats after.1 = failedZoomReport floats media zoom calls) ∧
      (after.2 = none → (report floats after.1).Fresh floats) := by
  obtain ⟨motor, group, factors⟩ := moveMotor_cases floats media
    (zoomLensOptical floats .mt11 zoom) calls.motor
  unfold setZoom failedZoomReport
  simp only
  by_cases inRange : zoomInRange floats .mt11 zoom = false
  · rw [if_pos inRange, if_pos (.inl inRange)]
    exact ⟨fun _ => rfl, nofun⟩
  rw [if_neg inRange]
  cases outcome : (moveMotor floats media (zoomLensOptical floats .mt11 zoom) calls.motor).2 with
  | some errno =>
    have refuses : motorRefuses floats media (zoomLensOptical floats .mt11 zoom) calls.motor =
        true := by
      unfold motorRefuses
      rw [outcome]
      rfl
    rw [if_pos refuses] at motor
    simp only
    rw [if_pos (.inr refuses)]
    exact ⟨fun _ => motor, nofun⟩
  | none =>
    have follows : ¬ motorRefuses floats media (zoomLensOptical floats .mt11 zoom) calls.motor =
        true := by
      unfold motorRefuses
      rw [outcome]
      exact Bool.false_ne_true
    rw [if_neg follows] at motor
    simp only at motor ⊢
    rw [if_neg (not_or.mpr ⟨inRange, follows⟩)]
    cases refused : cropRefused floats media zoom calls with
    | true =>
      rw [crop_refused floats refused, if_pos rfl, if_pos rfl]
      obtain ⟨back, -, -⟩ := moveMotor_cases floats
        (moveMotor floats media (zoomLensOptical floats .mt11 zoom) calls.motor).1
        (zoomLensOptical floats .mt11 media.zoom) calls.rollback
      refine ⟨fun _ => ?_, nofun⟩
      have optical : opticalOf floats
          (moveMotor floats media (zoomLensOptical floats .mt11 zoom) calls.motor).1.e5739 =
          factorFor floats media (zoomLensOptical floats .mt11 zoom) :=
        congrArg opticalZoom motor
      rw [back, motor, optical, factors]
      rfl
    | false =>
      have sameRatio := congrArg digitalRatio motor
      rw [crop_made floats refused sameRatio, if_neg Bool.false_ne_true.symm,
        if_neg Bool.false_ne_true]
      generalize isCropped : { (moveMotor floats media (zoomLensOptical floats .mt11 zoom)
        calls.motor).1 with digitalRatio := croppedRatio floats media zoom } = cropped
      have croppedReport : report floats cropped =
          { report floats media with
            opticalZoom := factorFor floats media (zoomLensOptical floats .mt11 zoom)
            digitalRatio := croppedRatio floats media zoom } := by
        rw [← isCropped]
        show { report floats (moveMotor floats media _ calls.motor).1 with
          digitalRatio := croppedRatio floats media zoom } = _
        rw [motor]
      have shown := report_showLens floats cropped (lensFor floats .mt11 zoom) false calls
      have sameRefusal : lensRefused cropped (lensFor floats .mt11 zoom) calls.lens =
          lensRefused media (lensFor floats .mt11 zoom) calls.lens := by
        unfold lensRefused
        rw [← isCropped]
        simp only [group]
      rw [croppedReport, sameRefusal] at shown
      obtain ⟨notRefused, reported⟩ := shown
      cases result : (showLens floats cropped (lensFor floats .mt11 zoom) false calls).2 with
      | some errno => exact ⟨fun _ => reported, nofun⟩
      | none =>
        rw [notRefused result, if_neg Bool.false_ne_true] at reported
        have fresh : (report floats
            (showLens floats cropped (lensFor floats .mt11 zoom) false calls).1).Fresh floats := by
          rw [reported]
          exact select_fresh ..
        exact ⟨fun failed => absurd rfl failed, fun _ => fresh⟩

/-! ### Changes that fail -/

/-- A change of the zoom that fails leaves the report alone if it is refused before the motor
moves; if it fails at the crop and the motor ends where it was; and otherwise if motor and crop
were where they go, and the lens cannot be changed or is the one that is reported already. -/
def ZoomKeeps (media : Impl Number) (zoom : Number) (calls : Calls Number) : Prop :=
  let requested := zoomLensOptical floats .mt11 zoom
  let lens := lensFor floats .mt11 zoom
  zoomInRange floats .mt11 zoom = false ∨
    motorRefuses floats media requested calls.motor = true ∨
    if cropRefused floats media zoom calls then
      rollbackOptical floats media zoom calls = opticalOf floats media.e5739
    else
      factorFor floats media requested = opticalOf floats media.e5739 ∧
        (ratioChanges floats media zoom = true →
          requestedRatio floats media zoom = media.digitalRatio (groupOf lens)) ∧
        (lensRefused media lens calls.lens = true ∨
          (lens = media.lens ∧ (report floats media).Fresh floats))

/-- A change of the lens that fails leaves the report alone if the lens cannot be changed, or is
the one that is reported already. -/
def LensKeeps (media : Impl Number) (lens : Lens) (calls : Calls Number) : Prop :=
  lensRefused media lens calls.lens = true ∨
    (lens = media.lens ∧ (report floats media).Fresh floats)

/-- When a change of the view that fails leaves the report alone. -/
def Keeps (media : Impl Number) (step : Step Number) : Prop :=
  match step.control with
  | .lens lens => LensKeeps floats media lens step.calls
  | .zoom zoom => ZoomKeeps floats media zoom step.calls
  | .thermalMain thermalMain => thermalMain = true → LensKeeps floats media .zoom step.calls

section

variable (media : Impl Number)

theorem croppedRatio_eq_iff (zoom : Number) :
    croppedRatio floats media zoom = media.digitalRatio ↔
      (ratioChanges floats media zoom = true →
        requestedRatio floats media zoom =
          media.digitalRatio (groupOf (lensFor floats .mt11 zoom))) := by
  unfold croppedRatio
  split
  · next changes =>
    rw [Function.update_eq_self_iff]
    exact ⟨fun same _ => same, fun same => same changes⟩
  · next stays => exact ⟨fun _ changes => absurd changes stays, fun _ => rfl⟩

theorem failedZoomReport_eq_iff (zoom : Number) (calls : Calls Number) :
    failedZoomReport floats media zoom calls = report floats media ↔
      ZoomKeeps floats media zoom calls := by
  unfold failedZoomReport ZoomKeeps
  simp only
  rw [← or_assoc, ← croppedRatio_eq_iff]
  split
  · next refused => exact ⟨fun _ => .inl refused, fun _ => rfl⟩
  next moved =>
  rw [or_iff_right moved]
  split
  · exact ⟨congrArg Report.opticalZoom, fun same => Report.ext rfl rfl rfl same rfl⟩
  split
  · next refused =>
    refine ⟨fun same => ⟨congrArg Report.opticalZoom same, congrArg Report.digitalRatio same,
      .inl refused⟩, fun ⟨optical, ratio, _⟩ => Report.ext rfl rfl ratio optical rfl⟩
  · next selected =>
    have unchanged (optical : factorFor floats media (zoomLensOptical floats .mt11 zoom) =
        opticalOf floats media.e5739)
        (ratio : croppedRatio floats media zoom = media.digitalRatio) :
        { report floats media with
          opticalZoom := factorFor floats media (zoomLensOptical floats .mt11 zoom)
          digitalRatio := croppedRatio floats media zoom } = report floats media :=
      Report.ext rfl rfl ratio optical rfl
    constructor
    · intro same
      have optical := congrArg Report.opticalZoom same
      have ratio := congrArg Report.digitalRatio same
      rw [unchanged optical ratio] at same
      exact ⟨optical, ratio, .inr ((Report.select_eq_iff floats _ _).mp same)⟩
    · rintro ⟨optical, ratio, shown⟩
      rw [unchanged optical ratio]
      exact (Report.select_eq_iff floats _ _).mpr (shown.resolve_left selected)

theorem showLens_keeps (lens : Lens) (thermalMain : Bool)
    (calls : Calls Number) :
    report floats (showLens floats media lens thermalMain calls).1 = report floats media ↔
      LensKeeps floats media lens calls := by
  rw [(report_showLens floats media lens thermalMain calls).2]
  unfold LensKeeps
  split
  · next refused => exact ⟨fun _ => .inl refused, fun _ => rfl⟩
  · next selected =>
    rw [select_eq_iff, or_iff_right selected]
    rfl

theorem setThermalMain_keeps (thermalMain : Bool) (calls : Calls Number) :
    report floats (setThermalMain floats media thermalMain calls).1 = report floats media ↔
      (thermalMain = true → LensKeeps floats media .zoom calls) := by
  unfold setThermalMain
  split
  · next shows =>
    rw [showLens_keeps]
    exact ⟨fun keeps _ => keeps, fun keeps => keeps shows⟩
  · next hides =>
    exact ⟨fun _ shows => absurd shows hides, fun _ =>
      report_switchRtspSourcesLocked floats media false calls.sources⟩

theorem perform_keeps (step : Step Number)
    (failed : (perform floats media step).2 ≠ none) :
    report floats (perform floats media step).1 = report floats media ↔
      Keeps floats media step := by
  unfold perform Keeps at *
  cases control : step.control with
  | lens lens => exact showLens_keeps floats media lens false step.calls
  | zoom zoom =>
    rw [control] at failed
    rw [(report_setZoom floats media zoom step.calls).1 failed]
    exact failedZoomReport_eq_iff floats media zoom step.calls
  | thermalMain thermalMain => exact setThermalMain_keeps floats media thermalMain step.calls

/-! ### Runs -/

theorem perform_fresh (step : Step Number)
    (succeeded : (perform floats media step).2 = none)
    (fresh : (report floats media).Fresh floats) :
    (report floats (perform floats media step).1).Fresh floats := by
  have shows (lens : Lens) (thermalMain : Bool)
      (succeeded : (showLens floats media lens thermalMain step.calls).2 = none) :
      (report floats (showLens floats media lens thermalMain step.calls).1).Fresh floats := by
    obtain ⟨selected, reported⟩ := report_showLens floats media lens thermalMain step.calls
    rw [reported, selected succeeded, if_neg Bool.false_ne_true]
    exact select_fresh ..
  unfold perform at *
  cases control : step.control with
  | lens lens =>
    rw [control] at succeeded
    exact shows lens false succeeded
  | zoom zoom =>
    rw [control] at succeeded
    exact (report_setZoom floats media zoom step.calls).2 succeeded
  | thermalMain thermalMain =>
    rw [control] at succeeded
    simp only [setThermalMain] at succeeded ⊢
    split at succeeded
    · next shown =>
      rw [if_pos shown]
      exact shows .zoom true succeeded
    · next hidden =>
      rw [if_neg hidden, report_switchRtspSourcesLocked]
      exact fresh

end

/-- Every change of a run that fails meets its condition. -/
def KeepsAlong (media : Impl Number) : List (Step Number) → Prop
  | [] => True
  | step :: rest =>
    ((perform floats media step).2 ≠ none → Keeps floats media step) ∧
      KeepsAlong (perform floats media step).1 rest

theorem run_fresh (fresh : (report floats media).Fresh floats) (steps : List (Step Number))
    (keeps : KeepsAlong floats media steps) :
    (report floats (run floats media steps)).Fresh floats := by
  induction steps generalizing media with
  | nil => exact fresh
  | cons step rest hypothesis =>
    obtain ⟨first, others⟩ := keeps
    refine hypothesis ?_ others
    by_cases succeeded : (perform floats media step).2 = none
    · exact perform_fresh floats media step succeeded fresh
    · rw [(perform_keeps floats media step succeeded).mpr (first succeeded)]
      exact fresh

theorem implOpen_fresh
    (nominal : lens1Hfov floats .mt11 (one floats) = floats.literal (lens1FovH .mt11))
    {config : MediaConfig} {calls : Calls Number}
    (opened : implOpen floats config calls = .ok media) : (report floats media).Fresh floats := by
  obtain ⟨-, rfl⟩ := implOpen_ok floats opened
  exact nominal.symm

/-- A change of the view that fails leaves zoom, lens, digital ratio, optical zoom and field of
view as they were reported if and only if its condition holds; and in every run whose failures
meet their condition, the reported field of view is the one of the reported lens, optical zoom and
digital ratio. -/
theorem failed_change_reported (nominal : lens1Hfov floats .mt11 (one floats) =
      floats.literal (lens1FovH .mt11)) :
    (∀ media step, (perform floats media step).2 ≠ none →
        (report floats (perform floats media step).1 = report floats media ↔
          Keeps floats media step)) ∧
      ∀ config calls media, implOpen floats config calls = .ok media →
        ∀ steps, KeepsAlong floats media steps →
          (report floats (run floats media steps)).Fresh floats :=
  ⟨perform_keeps floats, fun _ _ _ opened steps keeps =>
    run_fresh floats (implOpen_fresh floats nominal opened) steps keeps⟩

/-- Every device call succeeds but the first one of a change of the lens. -/
def lensStuck : Calls Rat :=
  { (Calls.working : Calls Rat) with
    lens := { (Calls.working : Calls Rat).lens with unbindRtsp := false } }

theorem failed_change_reported_stuck :
    ∃ media, implOpen exactFloats factoryConfig .working = .ok media ∧
      (report exactFloats (run exactFloats media [⟨.lens .zoom, lensStuck⟩])).Fresh
        exactFloats :=
  ⟨_, rfl, (failed_change_reported exactFloats (by decide +kernel)).2 factoryConfig .working _
    rfl _ ⟨fun _ => .inl rfl, trivial⟩⟩

def twoRowMotor : Motor Rat where
  firstRow := ⟨1, 100, 400, 380, 420⟩
  rows := [⟨14 / 10, 300, 450, 430, 470⟩]
  currentRow := ⟨1, 100, 400, 380, 420⟩
  zoomPosition := 100
  focusPosition := 400
  opticalZoom := 1

/-- The motor is found, and every device call succeeds. -/
def withMotor : Calls Rat :=
  { (Calls.working : Calls Rat) with motorFound := some twoRowMotor }

/-- Behind the motor, a change to the zoom lens fails with another optical zoom reported. Back
from there, one to the wide lens fails with the field of view of an optical zoom that is over. -/
theorem moved_motor_reported :
    ∃ media, implOpen exactFloats factoryConfig withMotor = .ok media ∧
      (perform exactFloats media ⟨.zoom 5, lensStuck⟩).2 ≠ none ∧
      report exactFloats (perform exactFloats media ⟨.zoom 5, lensStuck⟩).1 ≠
        report exactFloats media ∧
      ¬ (report exactFloats (run exactFloats media
        [⟨.zoom 5, withMotor⟩, ⟨.zoom 2, lensStuck⟩])).Fresh exactFloats := by
  refine ⟨_, rfl, by decide +kernel, fun same => ?_, ?_⟩
  · have optical := congrArg Report.opticalZoom same
    revert optical
    decide +kernel
  · unfold Report.Fresh
    decide +kernel

end Mt11Media
