/-
This file is about configuration changes that are refused. It derives exactly when a change that
`apply_runtime_config` refuses, and undoes with calls that succeed, leaves everything as it was,
and shows that a change that `apply_camera_config` cannot save is taken back.
-/

import CameraGimbal.MediaControls
import CameraGimbal.RuntimeConfig

namespace CameraMedia

open Config Optics Option

variable {Number Calls : Type} (floats : Floats Number) {backend : Backend Number Calls}

/-! ### What a configuration leaves -/

/-- The palette that the thermal module of an open pipeline shows. -/
def Media.livePalette (media : Media backend) : Option UInt8 :=
  if haveThermal backend.target then
    media.impl.map fun impl => (backend.reading impl).palette
  else none

variable {media : Media backend}

open Media

theorem livePalette_eq_some {palette : UInt8} (live : media.livePalette = some palette) :
    haveThermal backend.target = true ∧
      ∃ impl, media.impl = some impl ∧ (backend.reading impl).palette = palette := by
  unfold livePalette at live
  split at live
  next thermal => exact ⟨thermal, map_eq_some_iff.mp live⟩
  · cases live

theorem recording_of_open {impl : backend.Impl} (isOpen : media.impl = some impl) :
    media.recording = (backend.reading impl).recording := by
  unfold recording
  rw [isOpen]

/-- `ca_media_configure` closes the pipeline. -/
def Media.rebuilds (media : Media backend) (settings : Configuration) : Bool :=
  match media.impl with
  | none => true
  | some impl =>
    formatDiffers media.config.settings settings && !(backend.reading impl).recording

/-- `ca_media_configure` can read the palette of the pipeline that it closes. -/
def Media.PaletteRead (media : Media backend) (calls : ConfigureCalls Calls) : Prop :=
  ∃ impl palette, media.impl = some impl ∧
    backend.getThermalPalette impl calls.palette = .ok palette

section

variable (lawful : Lawful floats backend) {palette : UInt8}
  (live : media.livePalette = some palette) (calls : ConfigureCalls Calls) (opening : UInt8)

include lawful live

theorem savedPalette_eq_iff :
    (media.liveControls floats calls).palette.getD opening = palette ↔
      media.PaletteRead calls ∨ palette = opening := by
  obtain ⟨thermal, impl, isOpen, rfl⟩ := livePalette_eq_some live
  unfold liveControls
  rw [isOpen]
  simp only [thermal, if_true]
  cases read : backend.getThermalPalette impl calls.palette with
  | error errno =>
    refine ⟨fun same => .inr same.symm, ?_⟩
    rintro (⟨other, palette, isOther, found⟩ | same)
    · obtain rfl := some.inj (isOpen.symm.trans isOther)
      rw [read] at found
      cases found
    · exact same.symm
  | ok palette =>
    exact ⟨fun _ => .inl ⟨impl, palette, isOpen, read⟩, fun _ => lawful.getThermalPalette read⟩

theorem palette_back_iff (rebuilt : Bool) :
    (if rebuilt then (media.liveControls floats calls).palette.getD opening else palette) =
        palette ↔
      palette = opening ∨ (rebuilt = true → media.PaletteRead calls) := by
  cases rebuilt with
  | false => exact ⟨fun _ => .inr nofun, fun _ => rfl⟩
  | true =>
    rw [if_pos rfl, savedPalette_eq_iff floats lawful live, or_comm]
    exact or_congr_right ⟨fun read _ => read, fun read => read rfl⟩

end

/-- What a reconfiguration leaves: the media layer's configuration, the recording as it was, and
the palette as it was unless the pipeline was rebuilt. -/
structure Leaves (media after : Media backend) (config : MediaConfig) (rebuilt : Bool)
    (calls : ConfigureCalls Calls) : Prop where
  sameConfig : after.config = config
  recording : after.recording = media.recording
  palette : ∀ palette, media.livePalette = some palette → after.livePalette =
    some (if rebuilt then
        (media.liveControls floats calls).palette.getD (paletteOf config.settings)
      else palette)

theorem Leaves.of_reading {after : Media backend} {impl left : backend.Impl}
    (isOpen : media.impl = some impl) (isLeft : after.impl = some left)
    (same : backend.reading left = backend.reading impl) (calls : ConfigureCalls Calls) :
    Leaves floats media after after.config false calls where
  sameConfig := rfl
  recording := by rw [recording_of_open isOpen, recording_of_open isLeft, same]
  palette := by
    intro palette live
    obtain ⟨thermal, other, isOther, rfl⟩ := livePalette_eq_some live
    obtain rfl := some.inj (isOpen.symm.trans isOther)
    unfold livePalette
    rw [if_pos thermal, isLeft]
    exact congrArg (fun reading => some reading.palette) same

theorem Leaves.of_reopened (lawful : Lawful floats backend) {after : Media backend}
    {config : MediaConfig} {calls : ConfigureCalls Calls} {opening : ReopenCalls Calls}
    (stopped : media.recording = false)
    (succeeds : (reopen backend floats media.inverted config (media.liveControls floats calls)
      opening).2 = none) (isLeft : after.impl = (reopen backend floats media.inverted config
      (media.liveControls floats calls) opening).1) (isConfig : after.config = config) :
    Leaves floats media after config true calls := by
  obtain ⟨fresh, restored, opened, isRestored, reading⟩ := reopen_ok floats lawful succeeds
  obtain ⟨-, -, -, palette, recording⟩ := lawful.implOpen opened
  rw [isRestored] at isLeft
  refine ⟨isConfig, ?_, fun shown live => ?_⟩
  · rw [stopped, recording_of_open isLeft, reading]
    exact recording
  · have thermal := (livePalette_eq_some live).1
    unfold livePalette
    rw [if_pos thermal, isLeft, map_some, reading]
    unfold replay
    rw [thermal, palette]
    cases (media.liveControls floats calls).palette <;> rfl

theorem rebuild_leaves (lawful : Lawful floats backend) (stopped : media.recording = false)
    (settings : Configuration) (calls : ConfigureCalls Calls) :
    ((media.rebuild floats settings calls).2 = none →
      Leaves floats media (media.rebuild floats settings calls).1 { media.config with settings }
        true calls) ∧ ((media.rebuild floats settings calls).2 ≠ none →
      (reopen backend floats media.inverted media.config (media.liveControls floats calls)
        calls.rollback).2 = none →
      Leaves floats media (media.rebuild floats settings calls).1 media.config true calls) := by
  unfold rebuild
  simp only
  cases changed : (reopen backend floats media.inverted { media.config with settings }
    (media.liveControls floats calls) calls.change).2 with
  | none =>
    exact ⟨fun _ => .of_reopened floats lawful stopped changed rfl rfl,
      fun refused => absurd rfl refused⟩
  | some errno =>
    exact ⟨nofun, fun _ succeeds => .of_reopened floats lawful stopped succeeds rfl rfl⟩

/-- What `ca_media_configure` leaves, when it takes the settings and when it does not. -/
theorem configure_leaves (lawful : Lawful floats backend) (media : Media backend)
    (settings : Configuration) (calls : ConfigureCalls Calls) :
    ((media.configure floats settings calls).2 = none →
      Leaves floats media (media.configure floats settings calls).1
        { media.config with settings } (media.rebuilds settings) calls) ∧
    ((media.configure floats settings calls).2 ≠ none →
      (media.rebuilds settings = true →
        (reopen backend floats media.inverted media.config (media.liveControls floats calls)
          calls.rollback).2 = none) →
      Leaves floats media (media.configure floats settings calls).1 media.config
        (media.rebuilds settings) calls) := by
  cases isOpen : media.impl with
  | none =>
    have stopped : media.recording = false := by
      unfold recording
      rw [isOpen]
    have rebuilds : media.rebuilds settings = true := by
      unfold rebuilds
      rw [isOpen]
    have configured :
        media.configure floats settings calls = media.rebuild floats settings calls := by
      unfold configure
      rw [isOpen]
    obtain ⟨taken, refused⟩ := rebuild_leaves floats lawful stopped settings calls
    rw [configured, rebuilds]
    exact ⟨taken, fun fails succeeds => refused fails (succeeds rfl)⟩
  | some impl =>
    have rebuilds : media.rebuilds settings =
        (formatDiffers media.config.settings settings && !(backend.reading impl).recording) := by
      unfold rebuilds
      rw [isOpen]
    rw [rebuilds]
    unfold configure
    simp only [isOpen]
    cases formatDiffers media.config.settings settings with
    | true =>
      cases recording : (backend.reading impl).recording with
      | true =>
        exact ⟨nofun, fun _ _ => .of_reading floats isOpen isOpen rfl calls⟩
      | false =>
        obtain ⟨taken, refused⟩ := rebuild_leaves floats lawful
          ((recording_of_open isOpen).trans recording) settings calls
        exact ⟨taken, fun fails succeeds => refused fails (succeeds rfl)⟩
    | false =>
      cases imageEqual media.config.settings settings with
      | true =>
        exact ⟨fun _ => .of_reading floats isOpen rfl rfl calls, fun refused => absurd rfl refused⟩
      | false =>
        simp only [Bool.false_eq_true, if_false, Bool.false_and]
        cases (backend.applyImage impl settings calls.image).2 with
        | none =>
          exact ⟨fun _ => .of_reading floats isOpen rfl lawful.applyImage calls,
            fun refused => absurd rfl refused⟩
        | some errno =>
          exact ⟨nofun, fun _ _ => .of_reading floats isOpen rfl
            (lawful.applyImage.trans lawful.applyImage) calls⟩

/-! ### What the palette and the recorder leave -/

theorem require_config (media : Media backend) (call : backend.Impl → backend.Impl × Option Errno) :
    (media.require call).1.config = media.config := by
  unfold require
  split <;> rfl

theorem require_none (closed : media.impl = none)
    (call : backend.Impl → backend.Impl × Option Errno) :
    media.require call = (media, some noDevice) := by
  unfold require
  rw [closed]

theorem require_some {impl : backend.Impl} (isOpen : media.impl = some impl)
    (call : backend.Impl → backend.Impl × Option Errno) :
    media.require call = ({ media with impl := some (call impl).1 }, (call impl).2) := by
  unfold require
  rw [isOpen]

theorem setThermalPalette_leaves (lawful : Lawful floats backend) (media : Media backend)
    (palette : UInt8) (calls : Calls) :
    (media.setThermalPalette palette calls).1.recording = media.recording ∧
      ∀ shown, media.livePalette = some shown →
        (media.setThermalPalette palette calls).1.livePalette =
          some (if (media.setThermalPalette palette calls).2 = none then palette else shown) := by
  unfold setThermalPalette
  cases isOpen : media.impl with
  | none =>
    rw [require_none isOpen]
    refine ⟨rfl, fun shown live => ?_⟩
    rw [if_neg nofun]
    exact live
  | some impl =>
    rw [require_some isOpen]
    by_cases succeeds : (backend.setThermalPalette impl palette calls).2 = none
    · have set := lawful.setThermalPalette succeeds
      refine ⟨?_, fun shown live => ?_⟩
      · rw [recording_of_open rfl, recording_of_open isOpen, set]
      · unfold livePalette
        rw [if_pos (livePalette_eq_some live).1, if_pos succeeds]
        exact congrArg (fun reading => some reading.palette) set
    · have kept := lawful.setThermalPalette_fails succeeds
      refine ⟨?_, fun shown live => ?_⟩
      · rw [recording_of_open rfl, recording_of_open isOpen, kept]
      · rw [if_neg succeeds, ← live]
        unfold livePalette
        rw [isOpen]
        simp only [map_some, kept]

theorem setRecording_leaves (lawful : Lawful floats backend) (media : Media backend)
    (active : Bool) (calls : Calls) :
    ((media.setRecording active calls).2 = none →
      (media.setRecording active calls).1.recording = active) ∧
      (media.setRecording active calls).1.livePalette = media.livePalette := by
  unfold setRecording
  cases isOpen : media.impl with
  | none =>
    rw [require_none isOpen]
    exact ⟨nofun, rfl⟩
  | some impl =>
    rw [require_some isOpen]
    by_cases succeeds : (backend.setRecording impl active calls).2 = none
    · have set := lawful.setRecording succeeds
      refine ⟨fun _ => ?_, ?_⟩
      · rw [recording_of_open rfl, set]
      · unfold livePalette
        rw [isOpen]
        simp only [map_some, set]
    · have kept := lawful.setRecording_fails succeeds
      refine ⟨fun works => absurd works succeeds, ?_⟩
      unfold livePalette
      rw [isOpen]
      simp only [map_some, kept]

end CameraMedia

namespace RuntimeConfig

open Config Optics CameraMedia

variable {Number Calls : Type} (floats : Floats Number) {backend : Backend Number Calls}

/-! ### The steps behind the media layer -/

variable {previous next : Configuration} {calls : ApplyCalls Calls} {media : Media backend}

theorem adjust_keeps (Kept : Media backend → Prop) {wasRecording record : Bool} (kept : Kept media)
    (palette : paletteChanges backend.target previous next = true → ∀ media, Kept media →
      Kept (media.setThermalPalette (paletteOf next) calls.palette).1)
    (recording : ∀ media, Kept media → Kept (media.setRecording record calls.recording).1) :
    Kept (adjust media previous next wasRecording record calls).1 := by
  have coloured : Kept (if paletteChanges backend.target previous next then
      media.setThermalPalette (paletteOf next) calls.palette else (media, none)).1 := by
    split
    · next changes => exact palette changes media kept
    · exact kept
  unfold adjust
  simp only
  split
  · exact coloured
  · by_cases starts : record ≠ wasRecording
    · rw [if_pos starts]
      split
      · exact recording _ coloured
      · split <;> exact recording _ coloured
    · rw [if_neg starts]
      simp only
      split <;> exact coloured

theorem adjust_config (media : Media backend) (previous next : Configuration)
    (wasRecording record : Bool) (calls : ApplyCalls Calls) :
    (adjust media previous next wasRecording record calls).1.config = media.config :=
  adjust_keeps (fun after => after.config = media.config) rfl
    (fun _ _ same => (require_config _ _).trans same)
    (fun _ same => (require_config _ _).trans same)

theorem adjust_palette (lawful : Lawful floats backend) {shown : UInt8}
    (live : media.livePalette = some shown) (previous next : Configuration)
    (wasRecording record : Bool) (calls : ApplyCalls Calls) :
    ∃ now, (adjust media previous next wasRecording record calls).1.livePalette = some now ∧
      (paletteChanges backend.target previous next = false → now = shown) := by
  refine adjust_keeps (fun after => ∃ now, after.livePalette = some now ∧
    (paletteChanges backend.target previous next = false → now = shown)) ⟨shown, live, fun _ => rfl⟩
    ?_ ?_
  · rintro changes media ⟨now, isNow, -⟩
    exact ⟨_, (setThermalPalette_leaves floats lawful media _ _).2 now isNow,
      fun same => absurd (changes.symm.trans same) nofun⟩
  · rintro media ⟨now, isNow, same⟩
    exact ⟨now, (setRecording_leaves floats lawful media _ _).2.trans isNow, same⟩

/-- Undoing puts the recorder back, and the palette that changed to the one configured before. -/
theorem undoControls_leaves (lawful : Lawful floats backend) {wasRecording : Bool}
    (succeeds : (undoControls media previous next wasRecording calls).2 = none) :
    (undoControls media previous next wasRecording calls).1.config = media.config ∧
      (undoControls media previous next wasRecording calls).1.recording = wasRecording ∧
      ∀ shown, media.livePalette = some shown →
        (undoControls media previous next wasRecording calls).1.livePalette =
          some (if paletteChanges backend.target previous next then paletteOf previous
            else shown) := by
  have recorded : (attempt (decide (media.recording ≠ wasRecording)) (media, none) fun media =>
        media.setRecording wasRecording calls.restoreRecording).2 = none →
      let after := attempt (decide (media.recording ≠ wasRecording)) (media, none) fun media =>
        media.setRecording wasRecording calls.restoreRecording
      after.1.config = media.config ∧ after.1.recording = wasRecording ∧
        after.1.livePalette = media.livePalette := by
    intro works
    by_cases differs : media.recording ≠ wasRecording
    · rw [decide_eq_true differs] at works ⊢
      obtain ⟨recording, palette⟩ := setRecording_leaves floats lawful media wasRecording
        calls.restoreRecording
      exact ⟨require_config _ _, recording (Option.or_eq_none_iff.mp works).1, palette⟩
    · rw [decide_eq_false differs]
      exact ⟨rfl, not_not.mp differs, rfl⟩
  unfold undoControls at succeeds ⊢
  cases changes : paletteChanges backend.target previous next with
  | false =>
    rw [changes] at succeeds
    obtain ⟨config, recording, palette⟩ := recorded succeeds
    exact ⟨config, recording, fun shown live => palette.trans live⟩
  | true =>
    rw [changes] at succeeds
    obtain ⟨works, before⟩ := Option.or_eq_none_iff.mp succeeds
    obtain ⟨config, recording, palette⟩ := recorded before
    obtain ⟨sameRecording, set⟩ := setThermalPalette_leaves floats lawful _ (paletteOf previous)
      calls.restorePalette
    refine ⟨(require_config _ _).trans config, sameRecording.trans recording, fun shown live => ?_⟩
    exact (set shown (palette.trans live)).trans (congrArg some (if_pos works))

/-! ### Refused changes -/

/-- Everything that a refused change is to leave alone. -/
structure Kept (before after : Server backend) : Prop where
  settings : after.settings = before.settings
  photoScope : after.photoScope = before.photoScope
  targetLocation : after.targetLocationActive = before.targetLocationActive
  recording : after.media.recording = before.media.recording
  palette : ∀ palette, before.media.livePalette = some palette →
    after.media.livePalette = some palette
  config : after.media.config = before.media.config

/-- The calls that undo a refused change succeed. Where the media layer refuses it, they reopen
the pipeline that it had closed; where a step behind the media layer fails, they are the calls of
`undo`, which include reading the palette of a pipeline that is closed. -/
def Compensated (server : Server backend) (next : Configuration) (calls : ApplyCalls Calls) :
    Prop :=
  let configured := server.media.configure floats next calls.configure
  match configured.2 with
  | some _ =>
    server.media.rebuilds next = true →
      (reopen backend floats server.media.inverted server.media.config
        (server.media.liveControls floats calls.configure) calls.configure.rollback).2 = none
  | none =>
    let wasRecording := server.media.recording
    let adjusted := adjust configured.1 server.settings next wasRecording (server.record next) calls
    let controls := undoControls adjusted.1 server.settings next wasRecording calls
    (undo floats adjusted.1 server.settings next wasRecording calls).2 = none ∧
      (controls.1.rebuilds server.settings = true → haveThermal backend.target = true →
        controls.1.PaletteRead calls.reconfigure)

/-- The state, the change and the calls for which a refused change leaves everything alone. Where
the media layer refuses the change, the live palette is read before the pipeline is closed, or is
the one that the pipeline opens with. Where the media layer takes it, its configuration was the
running one, and the live palette is the configured one, or the change keeps the configured one
and the live one is read before the pipeline is closed. -/
def Reversible (server : Server backend) (next : Configuration) (calls : ApplyCalls Calls) :
    Prop :=
  let palettes (opening : Configuration) (undone : Prop) : Prop :=
    ∀ palette, server.media.livePalette = some palette → palette = paletteOf opening ∨ undone
  let read : Prop := server.media.rebuilds next = true → server.media.PaletteRead calls.configure
  match (server.media.configure floats next calls.configure).2 with
  | some _ => palettes server.media.config.settings read
  | none =>
    server.media.config.settings = server.settings ∧
      palettes server.settings (next .thermalPalette = server.settings .thermalPalette ∧ read)

theorem kept_iff (server : Server backend) (stops : Bool) (media : Media backend) :
    Kept server { (if stops then server.stopTrackingRate else server) with media } ↔
      media.recording = server.media.recording ∧
        (∀ palette, server.media.livePalette = some palette → media.livePalette = some palette) ∧
        media.config = server.media.config := by
  constructor
  · intro kept
    exact ⟨kept.recording, kept.palette, kept.config⟩
  · rintro ⟨recording, palette, config⟩
    cases stops with
    | false => exact ⟨rfl, rfl, rfl, recording, palette, config⟩
    | true => exact ⟨rfl, rfl, rfl, recording, palette, config⟩

/-- The pipeline behind `undo` shows the palette that was set back, or the one that the change
left. -/
theorem undo_leaves (lawful : Lawful floats backend)
    {previous next : Configuration} {wasRecording : Bool} {calls : ApplyCalls Calls}
    (succeeds : (undo floats media previous next wasRecording calls).2 = none) (reads :
      let controls := undoControls media previous next wasRecording calls
      controls.1.rebuilds previous = true → haveThermal backend.target = true →
        controls.1.PaletteRead calls.reconfigure) :
    (undo floats media previous next wasRecording calls).1.config =
        { media.config with settings := previous } ∧
      (undo floats media previous next wasRecording calls).1.recording = wasRecording ∧
      ∀ shown, media.livePalette = some shown →
        (undo floats media previous next wasRecording calls).1.livePalette =
          some (if paletteChanges backend.target previous next then paletteOf previous
            else shown) := by
  obtain ⟨works, before⟩ := Option.or_eq_none_iff.mp succeeds
  obtain ⟨config, recording, palette⟩ := undoControls_leaves floats lawful before
  obtain ⟨taken, -⟩ := configure_leaves floats lawful
    (undoControls media previous next wasRecording calls).1 previous calls.reconfigure
  have leaves := taken works
  refine ⟨leaves.sameConfig.trans (by rw [config]), leaves.recording.trans recording,
    fun shown live => ?_⟩
  have isShown := palette shown live
  have thermal := (livePalette_eq_some isShown).1
  refine (leaves.palette _ isShown).trans (congrArg some ?_)
  exact (palette_back_iff floats lawful isShown calls.reconfigure _ _).mpr
    (.inr fun rebuilds => reads rebuilds thermal)

theorem Lawful.kept_iff_reversible (lawful : Lawful floats backend) (server : Server backend)
    (next : Configuration) (calls : ApplyCalls Calls)
    (refused : (server.applyRuntimeConfig floats next calls).2 ≠ none)
    (compensated : Compensated floats server next calls) :
    Kept server (server.applyRuntimeConfig floats next calls).1 ↔
      Reversible floats server next calls := by
  obtain ⟨taken, notTaken⟩ := configure_leaves floats lawful server.media next calls.configure
  unfold Compensated at compensated
  unfold Reversible
  unfold Server.applyRuntimeConfig at refused ⊢
  simp only at refused compensated ⊢
  cases result : (server.media.configure floats next calls.configure).2 with
  | some errno =>
    rw [result] at compensated
    have leaves := notTaken (by rw [result]; exact Option.some_ne_none errno) compensated
    rw [kept_iff]
    constructor
    · rintro ⟨-, kept, -⟩ palette live
      refine (palette_back_iff floats lawful live _ _ _).mp (Option.some.inj ?_)
      exact (leaves.palette palette live).symm.trans (kept palette live)
    · intro palettes
      refine ⟨leaves.recording, fun palette live => ?_, leaves.sameConfig⟩
      exact (leaves.palette palette live).trans
        (congrArg some ((palette_back_iff floats lawful live _ _ _).mpr (palettes palette live)))
  | none =>
    rw [result] at compensated refused
    simp only at compensated refused ⊢
    have leaves := taken result
    generalize (server.media.configure floats next calls.configure).1 = configured at *
    cases outcome : (adjust configured server.settings next server.media.recording
      (server.record next) calls).2 with
    | none =>
      rw [outcome] at refused
      exact absurd rfl refused
    | some errno =>
      obtain ⟨config, recording, palette⟩ := undo_leaves floats lawful compensated.1 compensated.2
      rw [adjust_config, leaves.sameConfig] at config
      have shows {shown : UInt8} (live : server.media.livePalette = some shown) :
          (undo floats (adjust configured server.settings next server.media.recording
            (server.record next) calls).1 server.settings next server.media.recording
            calls).1.livePalette = some shown ↔
          shown = paletteOf server.settings ∨
            next .thermalPalette = server.settings .thermalPalette ∧
              (server.media.rebuilds next = true → server.media.PaletteRead calls.configure) := by
        obtain ⟨now, isNow, same⟩ := adjust_palette floats lawful (leaves.palette shown live)
          server.settings next server.media.recording (server.record next) calls
        rw [palette now isNow, Option.some.injEq]
        cases changes : paletteChanges backend.target server.settings next with
        | true =>
          obtain ⟨different, -⟩ := Bool.and_eq_true_iff.mp changes
          rw [if_pos rfl]
          exact ⟨fun back => .inl back.symm, fun back =>
            (back.resolve_right fun same => of_decide_eq_true different same.1).symm⟩
        | false =>
          have unchanged : next .thermalPalette = server.settings .thermalPalette := by
            unfold paletteChanges at changes
            rw [(livePalette_eq_some live).1, Bool.and_true] at changes
            exact not_not.mp (of_decide_eq_false changes)
          have opening : paletteOf next = paletteOf server.settings :=
            congrArg UInt8.ofInt unchanged
          rw [if_neg Bool.false_ne_true, same changes, ← opening,
            palette_back_iff floats lawful live]
          exact or_congr_right (and_iff_right unchanged).symm
      simp only [kept_iff]
      constructor
      · rintro ⟨-, kept, sameConfig⟩
        exact ⟨congrArg MediaConfig.settings (sameConfig.symm.trans config),
          fun shown live => (shows live).mp (kept shown live)⟩
      · rintro ⟨inSync, palettes⟩
        refine ⟨recording, fun shown live => (shows live).mpr (palettes shown live), ?_⟩
        rw [config, ← inSync]

/-! ### Changes that cannot be saved -/

/-- What a change that is not saved is to leave alone. -/
structure Restored (before after : Server backend) : Prop where
  settings : after.settings = before.settings
  recording : after.media.recording = before.media.recording
  targetLocation : after.targetLocationActive = before.targetLocationActive
  parameters : after.parameters = before.parameters

/-- Taking the change of a parameter back succeeds. -/
def TakenBack (server : Server backend) (index : Nat) (value : Config.Number)
    (calls : CameraConfigCalls Calls) : Prop :=
  ∀ next, paramAssign backend.target server.settings index value = some next →
    ((server.applyRuntimeConfig floats next calls.apply).1.takeBack floats server.settings
      server.media.recording server.targetLocationActive calls).2 = none

theorem applyRuntimeConfig_parameters (server : Server backend) (next : Configuration)
    (calls : ApplyCalls Calls) :
    (server.applyRuntimeConfig floats next calls).1.parameters = server.parameters := by
  have stopped (stops : Bool) :
      (if stops then server.stopTrackingRate else server).parameters = server.parameters := by
    cases stops <;> rfl
  unfold Server.applyRuntimeConfig
  simp only
  split
  · exact stopped _
  · split
    · exact stopped _
    · exact stopped _

variable {server : Server backend}

theorem applyRuntimeConfig_applied
    (applied : (server.applyRuntimeConfig floats next calls).2 = none) :
    let after := (server.applyRuntimeConfig floats next calls).1
    let configured := server.media.configure floats next calls.configure
    configured.2 = none ∧ after.settings = next ∧
      after.media = (adjust configured.1 server.settings next server.media.recording
        (server.record next) calls).1 := by
  unfold Server.applyRuntimeConfig at applied ⊢
  simp only at applied ⊢
  cases taken : (server.media.configure floats next calls.configure).2 with
  | some errno =>
    rw [taken] at applied
    cases applied
  | none =>
    rw [taken] at applied
    simp only at applied ⊢
    cases worked : (adjust (server.media.configure floats next calls.configure).1 server.settings
      next server.media.recording (server.record next) calls).2 with
    | some errno =>
      rw [worked] at applied
      cases applied
    | none => exact ⟨trivial, rfl, rfl⟩

theorem applyRuntimeConfig_settings
    (applied : (server.applyRuntimeConfig floats next calls).2 = none) :
    (server.applyRuntimeConfig floats next calls).1.settings = next :=
  (applyRuntimeConfig_applied floats applied).2.1

theorem takeBack_restored (lawful : Lawful floats backend) {wasRecording wasTracking : Bool}
    {calls : CameraConfigCalls Calls}
    (succeeds : (server.takeBack floats previous wasRecording wasTracking calls).2 = none) :
    let after := (server.takeBack floats previous wasRecording wasTracking calls).1
    after.settings = previous ∧ after.media.recording = wasRecording ∧
      after.targetLocationActive = wasTracking ∧ after.parameters = server.parameters := by
  have parameters := applyRuntimeConfig_parameters floats server previous calls.rollback
  unfold Server.takeBack at succeeds ⊢
  simp only at succeeds ⊢
  cases applied : (server.applyRuntimeConfig floats previous calls.rollback).2 with
  | some errno =>
    rw [applied] at succeeds
    cases succeeds
  | none =>
    rw [applied] at succeeds
    simp only at succeeds ⊢
    refine ⟨applyRuntimeConfig_settings floats applied, ?_, trivial, parameters⟩
    by_cases differs :
        (server.applyRuntimeConfig floats previous calls.rollback).1.media.recording ≠ wasRecording
    · rw [if_pos differs] at succeeds ⊢
      exact (setRecording_leaves floats lawful _ _ _).1 succeeds
    · rw [if_neg differs]
      exact not_not.mp differs

theorem Lawful.unsaved_restored (lawful : Lawful floats backend) (server : Server backend)
    (index : Nat) (value : Config.Number) (file : Option CText.Text)
    (calls : CameraConfigCalls Calls)
    (unsaved : (server.applyCameraConfig floats index value file calls).2 = .unsaved)
    (takenBack : TakenBack floats server index value calls) :
    Restored server (server.applyCameraConfig floats index value file calls).1 := by
  unfold Server.applyCameraConfig at unsaved ⊢
  simp only at unsaved ⊢
  cases assigned : paramAssign backend.target server.settings index value with
  | none =>
    rw [assigned] at unsaved
    cases unsaved
  | some next =>
    rw [assigned] at unsaved
    simp only at unsaved ⊢
    cases applied : (server.applyRuntimeConfig floats next calls.apply).2 with
    | some errno =>
      rw [applied] at unsaved
      cases unsaved
    | none =>
      rw [applied] at unsaved
      cases lost : savedParameters backend.target file index value calls.written with
      | some parameters =>
        rw [lost] at unsaved
        cases unsaved
      | none =>
        obtain ⟨settings, recording, targetLocation, parameters⟩ :=
          takeBack_restored floats lawful (takenBack next assigned)
        exact ⟨settings, recording, targetLocation,
          parameters.trans (applyRuntimeConfig_parameters floats server next calls.apply)⟩

/-! ### Both backends -/

/-- A refused change leaves everything alone if and only if it is reversible, and a change that
cannot be saved is taken back, whenever the calls that undo it succeed. -/
def UndoesRefusals (backend : Backend Number Calls) : Prop :=
  (∀ (server : Server backend) (next : Configuration) (calls : ApplyCalls Calls),
    let after := server.applyRuntimeConfig floats next calls
    after.2 ≠ none → Compensated floats server next calls →
    (Kept server after.1 ↔ Reversible floats server next calls)) ∧
  ∀ (server : Server backend) (index : Nat) (value : Config.Number) (file : Option CText.Text)
    (calls : CameraConfigCalls Calls),
    let after := server.applyCameraConfig floats index value file calls
    after.2 = .unsaved → TakenBack floats server index value calls → Restored server after.1

theorem Lawful.undoesRefusals (lawful : Lawful floats backend) : UndoesRefusals floats backend :=
  ⟨Lawful.kept_iff_reversible floats lawful, Lawful.unsaved_restored floats lawful⟩

/-- On the MT11 and on the host build, for every product, a refused change leaves everything alone
exactly when it is reversible, and a change that cannot be saved is taken back. -/
theorem refused_change_undone {Number : Type} (floats : Floats Number) :
    UndoesRefusals floats (Mt11Media.backend floats) ∧
      ∀ target, UndoesRefusals floats (StubMedia.backend floats target) :=
  ⟨Lawful.undoesRefusals floats (Mt11Media.lawful floats), fun target =>
    Lawful.undoesRefusals floats (StubMedia.lawful floats target)⟩

def ApplyCalls.all {Calls : Type} (calls : Calls) : ApplyCalls Calls where
  configure := .all calls
  palette := calls
  recording := calls
  setenv := none
  restoreRecording := calls
  restorePalette := calls
  reconfigure := .all calls

/-- The factory settings with another palette. -/
def nightPalette : Configuration := Function.update (defaults .mt11) .thermalPalette (5 : Int)

def refusedPalette : ApplyCalls (Mt11Media.Calls Rat) :=
  { ApplyCalls.all .working with
    palette :=
      { (Mt11Media.Calls.working : Mt11Media.Calls Rat) with thermal := some inputOutput } }

/-- The operator shows the palette 3; a change of the configured palette is refused by the thermal
module, and undone: the pipeline then shows the palette 0. -/
theorem live_palette_lost :
    ∃ opened, mediaOpen (Mt11Media.backend exactFloats) Mt11Media.factoryConfig .working =
        .ok opened ∧
      let shown := (opened.setThermalPalette 3 .working).1
      let server := serverOpen shown (defaults .mt11)
      let after := server.applyRuntimeConfig exactFloats nightPalette refusedPalette
      after.2 = some inputOutput ∧ Compensated exactFloats server nightPalette refusedPalette ∧
        server.media.livePalette = some 3 ∧ after.1.media.livePalette = some 0 ∧
        ¬ Kept server after.1 := by
  refine ⟨_, rfl, by decide, ⟨by decide, fun closes => absurd closes ?_⟩,
    by decide, by decide, fun kept => absurd (kept.palette 3 ?_) ?_⟩
  · decide
  · decide
  · decide

end RuntimeConfig
