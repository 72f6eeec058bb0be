/-
This file is about the controls of the operator across a rebuild of the video pipeline. It says
what the setters of a backend do to what can be read back, shows that the backends of the MT11 and
of the host build do that, and derives exactly which controls are back after the pipeline has been
rebuilt, with the new configuration or, behind a failure, with the old one.
-/

import CameraGimbal.Mt11Bindings
import CameraGimbal.StubMedia

namespace CameraMedia

open Config Optics

variable {Number Calls : Type} (floats : Floats Number)

/-! ### What the setters do -/

/-- What a backend opens with, and what its calls do to what can be read back. -/
structure Lawful (backend : Backend Number Calls) : Prop where
  implOpen : ∀ {config calls impl}, backend.implOpen config calls = .ok impl →
    (backend.reading impl).zoom = one floats ∧ (backend.reading impl).lens = .wide ∧
      (backend.reading impl).thermalMain = false ∧
      (backend.reading impl).palette = paletteOf config.settings ∧
      (backend.reading impl).recording = false
  setInverted : ∀ {impl inverted calls}, (backend.setInverted impl inverted calls).2 = none →
    backend.reading (backend.setInverted impl inverted calls).1 =
      { backend.reading impl with inverted }
  setLens : ∀ {impl lens calls}, (backend.setLens impl lens calls).2 = none →
    backend.reading (backend.setLens impl lens calls).1 =
      { backend.reading impl with lens, thermalMain := false }
  setZoom : ∀ {impl zoom calls}, (backend.setZoom impl zoom calls).2 = none →
    backend.reading (backend.setZoom impl zoom calls).1 =
      { backend.reading impl with
        zoom
        lens := lensFor floats backend.target zoom
        thermalMain := false }
  setThermalMain : ∀ {impl thermalMain calls},
    (backend.setThermalMain impl thermalMain calls).2 = none →
    backend.reading (backend.setThermalMain impl thermalMain calls).1 =
      { backend.reading impl with
        thermalMain
        lens := if thermalMain then .zoom else (backend.reading impl).lens }
  getThermalGain : ∀ {impl calls gain}, backend.getThermalGain impl calls = .ok gain →
    gain = (backend.reading impl).gain
  setThermalGain : ∀ {impl gain calls}, (backend.setThermalGain impl gain calls).2 = none →
    backend.reading (backend.setThermalGain impl gain calls).1 = { backend.reading impl with gain }
  getThermalPalette : ∀ {impl calls palette},
    backend.getThermalPalette impl calls = .ok palette → palette = (backend.reading impl).palette
  setThermalPalette : ∀ {impl palette calls},
    (backend.setThermalPalette impl palette calls).2 = none →
    backend.reading (backend.setThermalPalette impl palette calls).1 =
      { backend.reading impl with palette }
  setThermalPalette_fails : ∀ {impl palette calls},
    (backend.setThermalPalette impl palette calls).2 ≠ none →
    backend.reading (backend.setThermalPalette impl palette calls).1 = backend.reading impl
  setRecording : ∀ {impl recording calls}, (backend.setRecording impl recording calls).2 = none →
    backend.reading (backend.setRecording impl recording calls).1 =
      { backend.reading impl with recording }
  setRecording_fails : ∀ {impl recording calls},
    (backend.setRecording impl recording calls).2 ≠ none →
    backend.reading (backend.setRecording impl recording calls).1 =
      { backend.reading impl with recording := false }
  applyImage : ∀ {impl settings calls},
    backend.reading (backend.applyImage impl settings calls).1 = backend.reading impl

/-! ### Replaying the controls -/

variable {backend : Backend Number Calls}

theorem attempt_ok {asked : Bool} {state : backend.Impl × Option Errno}
    {call : backend.Impl → backend.Impl × Option Errno} (effect : Reading Number → Reading Number)
    (does : ∀ impl, (call impl).2 = none →
      backend.reading (call impl).1 = effect (backend.reading impl))
    (succeeds : (attempt asked state call).2 = none) :
    state.2 = none ∧ backend.reading (attempt asked state call).1 =
      if asked then effect (backend.reading state.1) else backend.reading state.1 := by
  cases asked with
  | false => exact ⟨succeeds, rfl⟩
  | true =>
    obtain ⟨now, before⟩ := Option.or_eq_none_iff.mp succeeds
    exact ⟨before, does state.1 now⟩

/-- What can be read back when saved controls have been replayed on a fresh pipeline. -/
def replay (target : Target) (inverted : Bool) (controls : LiveControls Number)
    (fresh : Reading Number) : Reading Number where
  zoom := if haveZoom target && floats.isFinite controls.zoom then controls.zoom else fresh.zoom
  lens :=
    if haveThermal target && controls.thermalMain then .zoom
    else if haveZoom target && floats.isFinite controls.zoom then
      lensFor floats target controls.zoom
    else if 1 < numLenses target then controls.lens
    else fresh.lens
  thermalMain := haveThermal target && controls.thermalMain
  gain := if haveThermal target && controls.gain.isSome then controls.gain.getD 0 else fresh.gain
  palette :=
    if haveThermal target && controls.palette.isSome then controls.palette.getD 0
    else fresh.palette
  inverted := inverted
  recording := fresh.recording

theorem restoreControls_ok (lawful : Lawful floats backend) {inverted : Bool}
    {impl : backend.Impl} {controls : LiveControls Number} {calls : RestoreCalls Calls}
    (fresh : (backend.reading impl).thermalMain = false)
    (succeeds : (restoreControls backend floats inverted impl controls calls).2 = none) :
    backend.reading (restoreControls backend floats inverted impl controls calls).1 =
      replay floats backend.target inverted controls (backend.reading impl) := by
  unfold restoreControls at succeeds ⊢
  obtain ⟨succeeds, palette⟩ := attempt_ok (fun reading => { reading with palette := _ })
    (fun _ => lawful.setThermalPalette) succeeds
  obtain ⟨succeeds, gain⟩ := attempt_ok (fun reading => { reading with gain := _ })
    (fun _ => lawful.setThermalGain) succeeds
  obtain ⟨succeeds, thermalMain⟩ := attempt_ok
    (fun reading => { reading with
      thermalMain := controls.thermalMain
      lens := if controls.thermalMain then .zoom else reading.lens })
    (fun _ => lawful.setThermalMain) succeeds
  obtain ⟨succeeds, zoom⟩ := attempt_ok
    (fun reading => { reading with
      zoom := controls.zoom
      lens := lensFor floats backend.target controls.zoom
      thermalMain := false })
    (fun _ => lawful.setZoom) succeeds
  obtain ⟨succeeds, lens⟩ := attempt_ok
    (fun reading => { reading with lens := controls.lens, thermalMain := false })
    (fun _ => lawful.setLens) succeeds
  obtain ⟨-, turned⟩ := attempt_ok (fun reading => { reading with inverted })
    (fun _ => lawful.setInverted) succeeds
  rw [palette, gain, thermalMain, zoom, lens, turned]
  refine Reading.ext ?_ ?_ ?_ ?_ ?_ ?_ ?_
  · simp only [apply_ite Reading.zoom, ite_self, replay]
  · simp only [apply_ite Reading.lens, ite_self, replay, if_true, decide_eq_true_eq]
    cases haveThermal backend.target <;> cases controls.thermalMain <;> rfl
  · simp only [apply_ite Reading.thermalMain, ite_self, replay, if_true, fresh]
    cases haveThermal backend.target <;> rfl
  · simp only [apply_ite Reading.gain, ite_self, replay]
  · simp only [apply_ite Reading.palette, ite_self, replay]
  · simp only [apply_ite Reading.inverted, ite_self, replay, if_true]
  · simp only [apply_ite Reading.recording, ite_self, replay]

theorem reopen_ok (lawful : Lawful floats backend) {inverted : Bool} {config : MediaConfig}
    {controls : LiveControls Number} {calls : ReopenCalls Calls}
    (succeeds : (reopen backend floats inverted config controls calls).2 = none) :
    ∃ fresh restored, backend.implOpen config calls.opened = .ok fresh ∧
      (reopen backend floats inverted config controls calls).1 = some restored ∧
      backend.reading restored =
        replay floats backend.target inverted controls (backend.reading fresh) := by
  unfold reopen at succeeds ⊢
  cases opened : backend.implOpen config calls.opened with
  | error errno =>
    rw [opened] at succeeds
    cases succeeds
  | ok fresh =>
    rw [opened] at succeeds
    exact ⟨fresh, _, rfl, rfl,
      restoreControls_ok floats lawful (lawful.implOpen opened).2.2.1 succeeds⟩

/-! ### Controls that come back -/

/-- The state before a rebuild, and the reads of the thermal module in it, for which the replay
gives back all controls on a pipeline that opens with a configuration and a gain. -/
structure Replayable (media : Media backend) (impl : backend.Impl)
    (calls : ConfigureCalls Calls) (config : MediaConfig) (startGain : UInt8) : Prop where
  zoom : (haveZoom backend.target && floats.isFinite (backend.reading impl).zoom) = true ∨
    (backend.reading impl).zoom = one floats
  lens : (backend.reading impl).lens =
    if haveThermal backend.target && (backend.reading impl).thermalMain then .zoom
    else if haveZoom backend.target && floats.isFinite (backend.reading impl).zoom then
      lensFor floats backend.target (backend.reading impl).zoom
    else if 1 < numLenses backend.target then (backend.reading impl).lens
    else .wide
  thermalMain : haveThermal backend.target = true ∨ (backend.reading impl).thermalMain = false
  gain : (haveThermal backend.target = true ∧
      ∃ gain, backend.getThermalGain impl calls.gain = .ok gain) ∨
    startGain = (backend.reading impl).gain
  palette : (haveThermal backend.target = true ∧
      ∃ palette, backend.getThermalPalette impl calls.palette = .ok palette) ∨
    paletteOf config.settings = (backend.reading impl).palette
  inverted : media.inverted = (backend.reading impl).inverted

theorem read_back_iff {Value : Type} (thermal : Bool) {read : Except Errno Value}
    (fresh : Value) {value : Value} (faithful : ∀ result, read = .ok result → result = value)
    (default : Value) :
    (if thermal && (if thermal then read.toOption else none).isSome then
        (if thermal then read.toOption else none).getD default
      else fresh) = value ↔
      (thermal = true ∧ ∃ result, read = .ok result) ∨ fresh = value := by
  cases thermal with
  | false => simp
  | true =>
    cases read with
    | error errno => simp [Except.toOption]
    | ok result => simp [Except.toOption, faithful result rfl]

/-- The replay gives back exactly what was there when the state is replayable. -/
theorem replay_eq_iff (lawful : Lawful floats backend) {media : Media backend}
    {impl fresh : backend.Impl} (isOpen : media.impl = some impl)
    (calls : ConfigureCalls Calls) {config : MediaConfig} {opening : Calls}
    (opened : backend.implOpen config opening = .ok fresh)
    (stopped : (backend.reading impl).recording = false) :
    replay floats backend.target media.inverted (media.liveControls floats calls)
        (backend.reading fresh) = backend.reading impl ↔
      Replayable floats media impl calls config (backend.reading fresh).gain := by
  obtain ⟨zoom, lens, thermalMain, palette, recording⟩ := lawful.implOpen opened
  have gains := read_back_iff (haveThermal backend.target) (backend.reading fresh).gain
    (fun gain (read : backend.getThermalGain impl calls.gain = .ok gain) =>
      lawful.getThermalGain read) 0
  have palettes := read_back_iff (haveThermal backend.target) (backend.reading fresh).palette
    (fun palette (read : backend.getThermalPalette impl calls.palette = .ok palette) =>
      lawful.getThermalPalette read) 0
  have zooms (asked : Bool) (saved : Number) :
      (if asked then saved else one floats) = saved ↔ asked = true ∨ saved = one floats := by
    cases asked with
    | false => exact ⟨fun same => .inr same.symm, fun same =>
        (same.resolve_left nofun).symm⟩
    | true => exact ⟨fun _ => .inl rfl, fun _ => rfl⟩
  have views (thermal shown : Bool) :
      (thermal && shown) = shown ↔ thermal = true ∨ shown = false := by
    cases thermal <;> cases shown <;> decide
  unfold Media.liveControls replay
  rw [isOpen, Reading.ext_iff]
  simp only [zoom, lens, recording, stopped, gains, palettes, zooms, views, and_true]
  rw [palette]
  constructor
  · rintro ⟨sameZoom, sameLens, sameView, sameGain, samePalette, sameSide⟩
    exact ⟨sameZoom, sameLens.symm, sameView, sameGain, samePalette, sameSide⟩
  · rintro ⟨sameZoom, sameLens, sameView, sameGain, samePalette, sameSide⟩
    exact ⟨sameZoom, sameLens.symm, sameView, sameGain, samePalette, sameSide⟩

/-- Every rebuild of the pipeline that succeeds, and every one that fails and is rolled back, gives
back the controls if and only if the state before is replayable. -/
def RestoresExactly (backend : Backend Number Calls) : Prop :=
  ∀ (media : Media backend) (impl : backend.Impl) (settings : Configuration)
    (calls : ConfigureCalls Calls),
    media.impl = some impl → formatDiffers media.config.settings settings = true →
    (backend.reading impl).recording = false →
    let after := media.configure floats settings calls
    let Restored (config : MediaConfig) (opening : Calls) : Prop :=
      ∃ fresh restored, backend.implOpen config opening = .ok fresh ∧
        after.1.impl = some restored ∧
        (backend.reading restored = backend.reading impl ↔
          Replayable floats media impl calls config (backend.reading fresh).gain)
    (after.2 = none → Restored { media.config with settings } calls.change.opened) ∧
      (after.2 ≠ none →
        (reopen backend floats media.inverted media.config (media.liveControls floats calls)
          calls.rollback).2 = none →
        Restored media.config calls.rollback.opened)

theorem Lawful.restoresExactly (lawful : Lawful floats backend) :
    RestoresExactly floats backend := by
  intro media impl settings calls isOpen differs stopped
  have rebuilds : media.configure floats settings calls = media.rebuild floats settings calls := by
    unfold Media.configure
    rw [isOpen]
    simp only [differs, stopped, if_true, Bool.false_eq_true, if_false]
  rw [rebuilds]
  unfold Media.rebuild
  simp only
  cases changed : (reopen backend floats media.inverted { media.config with settings }
    (media.liveControls floats calls) calls.change).2 with
  | none =>
    obtain ⟨fresh, restored, opened, reopened, reading⟩ := reopen_ok floats lawful changed
    refine ⟨fun _ => ⟨fresh, restored, opened, reopened, ?_⟩, fun fails => absurd rfl fails⟩
    rw [reading]
    exact replay_eq_iff floats lawful isOpen calls opened stopped
  | some errno =>
    refine ⟨nofun, fun _ succeeds => ?_⟩
    obtain ⟨fresh, restored, opened, reopened, reading⟩ := reopen_ok floats lawful succeeds
    refine ⟨fresh, restored, opened, reopened, ?_⟩
    rw [reading]
    exact replay_eq_iff floats lawful isOpen calls opened stopped

end CameraMedia

/-! ### The backend of the host build -/

namespace StubMedia

open Config Optics CameraMedia

variable {Number : Type} (floats : Floats Number) (target : Target)

theorem lawful : Lawful floats (backend floats target) where
  implOpen := by
    intro config calls impl opened
    unfold backend implOpen at opened
    simp only at opened
    split at opened
    · cases opened
    · cases opened
      exact ⟨rfl, rfl, rfl, rfl, rfl⟩
  setInverted := fun _ => rfl
  setLens := fun _ => rfl
  setZoom := by
    intro impl zoom calls succeeds
    show (backend floats target).reading (setZoom floats target impl zoom).1 = _
    change (setZoom floats target impl zoom).2 = none at succeeds
    unfold setZoom at succeeds ⊢
    split at succeeds
    · next inRange =>
      rw [if_pos inRange]
      rfl
    · cases succeeds
  setThermalMain := by
    intro impl thermalMain calls _
    cases thermalMain <;> rfl
  getThermalGain := fun read => (Except.ok.inj read).symm
  setThermalGain := by
    intro impl gain calls succeeds
    show (backend floats target).reading (setThermalGain impl gain).1 = _
    change (setThermalGain impl gain).2 = none at succeeds
    unfold setThermalGain at succeeds ⊢
    split at succeeds
    · next valid =>
      rw [if_pos valid]
      rfl
    · cases succeeds
  getThermalPalette := fun read => (Except.ok.inj read).symm
  setThermalPalette := by
    intro impl palette calls succeeds
    show (backend floats target).reading (setThermalPalette impl palette).1 = _
    change (setThermalPalette impl palette).2 = none at succeeds
    unfold setThermalPalette at succeeds ⊢
    split at succeeds
    · next valid =>
      rw [if_pos valid]
      rfl
    · cases succeeds
  setThermalPalette_fails := by
    intro impl palette calls fails
    show (backend floats target).reading (setThermalPalette impl palette).1 = _
    change (setThermalPalette impl palette).2 ≠ none at fails
    unfold setThermalPalette at fails ⊢
    split at fails
    · exact absurd rfl fails
    · next bad =>
      rw [if_neg bad]
  setRecording := by
    intro impl recording calls succeeds
    exact congrArg (fun recorder => (backend floats target).reading { impl with recorder })
      (recorderSet_ok succeeds)
  setRecording_fails := by
    intro impl recording calls fails
    exact congrArg (fun recorder => (backend floats target).reading { impl with recorder })
      (recorderSet_fails fails)
  applyImage := rfl

end StubMedia

/-! ### The backend of the MT11 -/

namespace Mt11Media

open Config Optics CameraMedia

variable {Number : Type} (floats : Floats Number)

theorem showLens_reading {media : Impl Number} {lens : Lens} {thermalMain : Bool}
    {calls : Calls Number} (succeeds : (showLens floats media lens thermalMain calls).2 = none) :
    ∃ pipeline vencAttr, (showLens floats media lens thermalMain calls).1 =
      { lensSelected floats media lens with
        pipeline
        vencAttr
        selectedGroup := groupOf lens
        thermalMain } := by
  obtain ⟨pipeline, selected⟩ := selectLensLocked_cases floats media lens calls.lens
  unfold showLens at succeeds ⊢
  rw [selected] at succeeds ⊢
  split at succeeds
  · cases succeeds
  · next chosen =>
    rw [if_neg chosen]
    obtain ⟨-, pipeline, vencAttr, switched⟩ | ⟨failed, -, -⟩ := switchRtspSourcesLocked_cases
      (lensSelected floats { media with pipeline, selectedGroup := groupOf lens } lens)
      thermalMain calls.sources
    · exact ⟨pipeline, vencAttr, switched⟩
    · rw [failed] at succeeds
      cases succeeds

theorem moveMotor_state (media : Impl Number) (requestedOptical : Number) (calls : MotorCalls) :
    ∃ e5739, (moveMotor floats media requestedOptical calls).1 = { media with e5739 } := by
  unfold moveMotor
  split
  · exact ⟨media.e5739, rfl⟩
  · exact ⟨_, rfl⟩

theorem crop_state (media moved : Impl Number) (zoom : Number) (calls : Calls Number) :
    ∃ digitalRatio, (crop floats media moved zoom calls).1 = { moved with digitalRatio } := by
  unfold crop setDigitalZoom
  split
  · split
    · exact ⟨_, rfl⟩
    · exact ⟨moved.digitalRatio, rfl⟩
  · exact ⟨moved.digitalRatio, rfl⟩

theorem setZoom_ok {media : Impl Number} {zoom : Number} {calls : Calls Number}
    (succeeds : (setZoom floats media zoom calls).2 = none) :
    ∃ e5739 digitalRatio pipeline vencAttr, (setZoom floats media zoom calls).1 =
      { lensSelected floats { media with e5739, digitalRatio } (lensFor floats .mt11 zoom) with
        pipeline
        vencAttr
        selectedGroup := groupOf (lensFor floats .mt11 zoom)
        thermalMain := false
        zoom } := by
  obtain ⟨e5739, moved⟩ := moveMotor_state floats media (zoomLensOptical floats .mt11 zoom)
    calls.motor
  obtain ⟨digitalRatio, cropped⟩ := crop_state floats media { media with e5739 } zoom calls
  unfold setZoom at succeeds ⊢
  simp only [moved, cropped] at succeeds ⊢
  split at succeeds
  · cases succeeds
  next inRange =>
  rw [if_neg inRange]
  split at succeeds
  · cases succeeds
  split at succeeds
  · cases succeeds
  next made =>
  rw [if_neg made]
  split at succeeds
  · cases succeeds
  next shows =>
  obtain ⟨pipeline, vencAttr, shown⟩ := showLens_reading floats shows
  simp only [shown]
  exact ⟨e5739, digitalRatio, pipeline, vencAttr, rfl⟩

theorem lawful : Lawful floats (backend floats) where
  implOpen := by
    intro config calls impl opened
    obtain ⟨-, rfl⟩ := implOpen_ok floats opened
    exact ⟨rfl, rfl, rfl, rfl, rfl⟩
  setInverted := by
    intro impl inverted calls succeeds
    exact congrArg (backend floats).reading (setInverted_ok succeeds)
  setLens := by
    intro impl lens calls succeeds
    obtain ⟨_, _, shown⟩ := showLens_reading floats succeeds
    exact congrArg (backend floats).reading shown
  setZoom := by
    intro impl zoom calls succeeds
    obtain ⟨_, _, _, _, zoomed⟩ := setZoom_ok floats succeeds
    exact congrArg (backend floats).reading zoomed
  setThermalMain := by
    intro impl thermalMain calls succeeds
    cases thermalMain with
    | true =>
      obtain ⟨_, _, shown⟩ := showLens_reading floats succeeds
      exact congrArg (backend floats).reading shown
    | false =>
      obtain ⟨-, _, _, switched⟩ | ⟨failed, -, -⟩ :=
        switchRtspSourcesLocked_cases impl false calls.sources
      · exact congrArg (backend floats).reading switched
      · exact absurd (failed.symm.trans succeeds) nofun
  getThermalGain := by
    intro impl calls gain read
    change getThermalGain impl calls = .ok gain at read
    unfold getThermalGain at read
    split at read
    · cases read
    split at read
    · exact (Except.ok.inj read).symm
    · cases read
  setThermalGain := by
    intro impl gain calls succeeds
    show (backend floats).reading (setThermalGain impl gain calls).1 = _
    change (setThermalGain impl gain calls).2 = none at succeeds
    unfold setThermalGain at succeeds ⊢
    split at succeeds
    · next valid =>
      rw [if_pos valid]
      cases outcome : calls.thermal with
      | none => rfl
      | some errno =>
        rw [outcome] at succeeds
        cases succeeds
    · cases succeeds
  getThermalPalette := by
    intro impl calls palette read
    change getThermalPalette impl calls = .ok palette at read
    unfold getThermalPalette at read
    split at read
    · cases read
    split at read
    · exact (Except.ok.inj read).symm
    · cases read
  setThermalPalette := by
    intro impl palette calls succeeds
    exact congrArg (backend floats).reading (setThermalPalette_ok succeeds).2
  setThermalPalette_fails := by
    intro impl palette calls fails
    show (backend floats).reading (setThermalPalette impl palette calls).1 = _
    change (setThermalPalette impl palette calls).2 ≠ none at fails
    unfold setThermalPalette at fails ⊢
    split at fails
    · next valid =>
      rw [if_pos valid]
      cases outcome : calls.thermal with
      | none =>
        rw [outcome] at fails
        exact absurd rfl fails
      | some errno => rfl
    · next bad => rw [if_neg bad]
  setRecording := by
    intro impl recording calls succeeds
    exact congrArg (fun recording => (backend floats).reading { impl with recording })
      (recorderSet_ok succeeds)
  setRecording_fails := by
    intro impl recording calls fails
    exact congrArg (fun recording => (backend floats).reading { impl with recording })
      (recorderSet_fails fails)
  applyImage := by
    intro impl settings calls
    show (backend floats).reading (applyImage impl settings calls).1 = _
    unfold applyImage
    split <;> rfl

end Mt11Media

/-! ### Both backends -/

namespace CameraMedia

open Config Optics

/-- On the MT11 and on the host build, for every product, a rebuild of the pipeline gives back the
controls exactly when the state before it is replayable. -/
theorem controls_restored {Number : Type} (floats : Floats Number) :
    RestoresExactly floats (Mt11Media.backend floats) ∧
      ∀ target, RestoresExactly floats (StubMedia.backend floats target) :=
  ⟨(Mt11Media.lawful floats).restoresExactly, fun target =>
    (StubMedia.lawful floats target).restoresExactly⟩

/-- The same outcome of all device calls of a reconfiguration. -/
def ConfigureCalls.all {Calls : Type} (calls : Calls) : ConfigureCalls Calls :=
  let restore : RestoreCalls Calls := ⟨calls, calls, calls, calls, calls, calls⟩
  { gain := calls
    palette := calls
    change := ⟨calls, restore⟩
    rollback := ⟨calls, restore⟩
    image := calls
    reapply := calls }

/-- The factory settings with a smaller picture in the main stream. -/
def smallerStream : Configuration :=
  Function.update (defaults .mt11) .mainResolution (0 : Int)

/-- The lens that can be read back. -/
def Media.lens {Number Calls : Type} {backend : Backend Number Calls} (media : Media backend) :
    Option Lens :=
  media.impl.map fun impl => (backend.reading impl).lens

/-- The zoom lens, selected at a zoom that the wide lens covers, is the wide lens behind a change
of the main resolution, on the MT11 and on the host build. -/
theorem selected_lens_lost :
    (∃ opened, mediaOpen (Mt11Media.backend exactFloats) Mt11Media.factoryConfig .working =
        .ok opened ∧
      let media := (opened.setLens .zoom .working).1
      let after := media.configure exactFloats smallerStream (.all .working)
      after.2 = none ∧ media.lens = some .zoom ∧ after.1.lens = some .wide) ∧
    ∃ opened, mediaOpen (StubMedia.backend exactFloats .mt11) Mt11Media.factoryConfig .working =
        .ok opened ∧
      let media := (opened.setLens .zoom .working).1
      let after := media.configure exactFloats smallerStream (.all .working)
      after.2 = none ∧ media.lens = some .zoom ∧ after.1.lens = some .wide :=
  ⟨⟨_, rfl, by decide +kernel⟩, _, rfl, by decide +kernel⟩

end CameraMedia
