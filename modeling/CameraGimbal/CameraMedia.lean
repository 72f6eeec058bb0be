/-
This file models the media layer: the interface that the camera backends implement, the handle
that the rest of the program keeps while the private implementation changes, and the
reconfiguration of the video pipeline, which reopens the implementation and replays the
controls that the operator had set.

The device calls that a backend makes during one call of the interface turn out as a parameter of
that call says.
-/

import CameraGimbal.Optics

namespace CameraMedia

open CText Config Optics

/-! ### Errors -/

abbrev Errno := Nat

/-- `EIO`. -/
def inputOutput : Errno := 5

/-- `EBUSY`. -/
def busy : Errno := 16

/-- `ENODEV`. -/
def noDevice : Errno := 19

/-- `EINVAL`. -/
def invalid : Errno := 22

/-! ### Backends -/

/-- `enum ca_media_lens`. -/
inductive Lens
  | wide | zoom
  deriving DecidableEq

/-- `struct ca_media_config`. -/
structure MediaConfig where
  settings : Configuration
  frameRate : Nat

/-- What can be read back of an open pipeline. -/
@[ext]
structure Reading (Number : Type) where
  zoom : Number
  lens : Lens
  thermalMain : Bool
  gain : UInt8
  palette : UInt8
  inverted : Bool
  recording : Bool

/-- The functions of `media_impl.h`. A setter returns the implementation it leaves and the error
it reports, if any. -/
structure Backend (Number Calls : Type) where
  target : Target
  Impl : Type
  reading : Impl → Reading Number
  implOpen : MediaConfig → Calls → Except Errno Impl
  setInverted : Impl → Bool → Calls → Impl × Option Errno
  setLens : Impl → Lens → Calls → Impl × Option Errno
  setZoom : Impl → Number → Calls → Impl × Option Errno
  setThermalMain : Impl → Bool → Calls → Impl × Option Errno
  getThermalGain : Impl → Calls → Except Errno UInt8
  setThermalGain : Impl → UInt8 → Calls → Impl × Option Errno
  getThermalPalette : Impl → Calls → Except Errno UInt8
  setThermalPalette : Impl → UInt8 → Calls → Impl × Option Errno
  setRecording : Impl → Bool → Calls → Impl × Option Errno
  applyImage : Impl → Configuration → Calls → Impl × Option Errno

variable {Number Calls : Type}

/-- The lens that `set_zoom` chooses. -/
def lensFor (floats : Floats Number) (target : Target) (zoom : Number) : Lens :=
  if usesZoomLens floats target zoom then .zoom else .wide

instance (kind : Kind) : DecidableEq kind.Value :=
  match kind with
  | .timezone | .string => inferInstanceAs (DecidableEq Text)
  | .enumeration | .integer => inferInstanceAs (DecidableEq Int)
  | .boolean => inferInstanceAs (DecidableEq Bool)
  | .unsigned => inferInstanceAs (DecidableEq Nat)

/-- The palette of a configuration, as a backend is given it. -/
def paletteOf (settings : Configuration) : UInt8 :=
  UInt8.ofInt (settings .thermalPalette)

/-! ### Recording -/

/-- Start or stop a recording, and how the files turn out. A recording that cannot be closed is
over all the same. -/
def recorderSet (recording active : Bool) (outcome : Option Errno) : Bool × Option Errno :=
  if active = recording then (recording, none)
  else
    match outcome with
    | none => (active, none)
    | some errno => (false, some errno)

theorem recorderSet_ok {recording active : Bool} {outcome : Option Errno}
    (succeeds : (recorderSet recording active outcome).2 = none) :
    (recorderSet recording active outcome).1 = active := by
  unfold recorderSet at succeeds ⊢
  split at succeeds
  · next already => rw [if_pos already, already]
  · next differs =>
    rw [if_neg differs]
    cases outcome with
    | none => rfl
    | some errno => cases succeeds

theorem recorderSet_fails {recording active : Bool} {outcome : Option Errno}
    (fails : (recorderSet recording active outcome).2 ≠ none) :
    (recorderSet recording active outcome).1 = false := by
  unfold recorderSet at fails ⊢
  split at fails
  · exact absurd rfl fails
  · next differs =>
    rw [if_neg differs]
    cases outcome with
    | none => exact absurd rfl fails
    | some errno => rfl

/-! ### The handle -/

/-- `struct ca_media`. -/
structure Media (backend : Backend Number Calls) where
  impl : Option backend.Impl
  config : MediaConfig
  inverted : Bool

variable {backend : Backend Number Calls}

/-- `CA_MOUNT_INVERTED`. -/
def mountInverted : Member.orientation.kind.Value := (2 : Int)

/-- `ca_media_open`. -/
def mediaOpen (backend : Backend Number Calls) (config : MediaConfig) (calls : Calls) :
    Except Errno (Media backend) :=
  (backend.implOpen config calls).map fun impl =>
    { impl := some impl
      config
      inverted := decide (config.settings .orientation = mountInverted) }

/-- `REQUIRE_IMPL` and a call of the implementation. -/
def Media.require (media : Media backend) (call : backend.Impl → backend.Impl × Option Errno) :
    Media backend × Option Errno :=
  match media.impl with
  | none => (media, some noDevice)
  | some impl => ({ media with impl := some (call impl).1 }, (call impl).2)

/-- `ca_media_recording`. -/
def Media.recording (media : Media backend) : Bool :=
  match media.impl with
  | none => false
  | some impl => (backend.reading impl).recording

/-- `ca_media_set_recording`. -/
def Media.setRecording (media : Media backend) (active : Bool) (calls : Calls) :
    Media backend × Option Errno :=
  media.require fun impl => backend.setRecording impl active calls

/-- `ca_media_set_zoom`. -/
def Media.setZoom (media : Media backend) (zoom : Number) (calls : Calls) :
    Media backend × Option Errno :=
  media.require fun impl => backend.setZoom impl zoom calls

/-- `ca_media_set_lens`. -/
def Media.setLens (media : Media backend) (lens : Lens) (calls : Calls) :
    Media backend × Option Errno :=
  media.require fun impl => backend.setLens impl lens calls

/-- `ca_media_set_thermal_main`. -/
def Media.setThermalMain (media : Media backend) (thermalMain : Bool) (calls : Calls) :
    Media backend × Option Errno :=
  media.require fun impl => backend.setThermalMain impl thermalMain calls

/-- `ca_media_set_thermal_gain`. -/
def Media.setThermalGain (media : Media backend) (gain : UInt8) (calls : Calls) :
    Media backend × Option Errno :=
  media.require fun impl => backend.setThermalGain impl gain calls

/-- `ca_media_set_thermal_palette`. -/
def Media.setThermalPalette (media : Media backend) (palette : UInt8) (calls : Calls) :
    Media backend × Option Errno :=
  media.require fun impl => backend.setThermalPalette impl palette calls

/-- `ca_media_set_inverted`. -/
def Media.setInverted (media : Media backend) (inverted : Bool) (calls : Calls) :
    Media backend × Option Errno :=
  let set := media.require fun impl => backend.setInverted impl inverted calls
  match set.2 with
  | some errno => (set.1, some errno)
  | none => ({ set.1 with inverted }, none)

/-! ### Replaying the controls -/

/-- `struct live_controls`. A gain or a palette is missing where the source has -1. -/
structure LiveControls (Number : Type) where
  zoom : Number
  lens : Lens
  thermalMain : Bool
  gain : Option UInt8
  palette : Option UInt8

/-- The device calls of `restore_controls`. -/
structure RestoreCalls (Calls : Type) where
  inverted : Calls
  lens : Calls
  zoom : Calls
  thermalMain : Calls
  gain : Calls
  palette : Calls

/-- One call of `restore_controls`, where the product and the saved controls ask for it. The
function goes on behind a call that fails. -/
def attempt {Impl : Type} (asked : Bool) (state : Impl × Option Errno)
    (call : Impl → Impl × Option Errno) : Impl × Option Errno :=
  if asked then ((call state.1).1, (call state.1).2.or state.2) else state

def restoreControls (backend : Backend Number Calls) (floats : Floats Number)
    (inverted : Bool) (impl : backend.Impl) (controls : LiveControls Number)
    (calls : RestoreCalls Calls) : backend.Impl × Option Errno :=
  let target := backend.target
  let state := attempt true (impl, none) fun impl =>
    backend.setInverted impl inverted calls.inverted
  let state := attempt (decide (1 < numLenses target)) state fun impl =>
    backend.setLens impl controls.lens calls.lens
  let state := attempt (haveZoom target && floats.isFinite controls.zoom) state fun impl =>
    backend.setZoom impl controls.zoom calls.zoom
  let state := attempt (haveThermal target) state fun impl =>
    backend.setThermalMain impl controls.thermalMain calls.thermalMain
  let state := attempt (haveThermal target && controls.gain.isSome) state fun impl =>
    backend.setThermalGain impl (controls.gain.getD 0) calls.gain
  attempt (haveThermal target && controls.palette.isSome) state fun impl =>
    backend.setThermalPalette impl (controls.palette.getD 0) calls.palette

/-! ### Reconfiguring -/

structure ReopenCalls (Calls : Type) where
  opened : Calls
  restore : RestoreCalls Calls

/-- The device calls of `ca_media_configure`. Those of `rollback` and `reapply` undo a change
that failed. -/
structure ConfigureCalls (Calls : Type) where
  gain : Calls
  palette : Calls
  change : ReopenCalls Calls
  rollback : ReopenCalls Calls
  image : Calls
  reapply : Calls

def formatMembers : List Member :=
  [.mainResolution, .subResolution, .recordingResolution, .mainCodec, .subCodec]

/-- `IMAGE_FIELDS`. -/
def imageMembers : List Member :=
  [.brightness, .saturation, .contrast, .exposureCompensation, .iso, .shutter, .metering,
    .whiteBalance]

def formatDiffers (old settings : Configuration) : Bool :=
  formatMembers.any fun member => decide (old member ≠ settings member)

/-- `ca_config_image_equal`. -/
def imageEqual (old settings : Configuration) : Bool :=
  imageMembers.all fun member => decide (old member = settings member)

/-- `ca_config_copy_image`. -/
def copyImage (destination source : Configuration) : Configuration :=
  fun member => if member ∈ imageMembers then source member else destination member

/-- The controls that `ca_media_configure` saves before it closes the pipeline. -/
def Media.liveControls (media : Media backend) (floats : Floats Number)
    (calls : ConfigureCalls Calls) : LiveControls Number :=
  match media.impl with
  | none =>
    { zoom := one floats, lens := .wide, thermalMain := false, gain := none, palette := none }
  | some impl =>
    { zoom := (backend.reading impl).zoom
      lens := (backend.reading impl).lens
      thermalMain := (backend.reading impl).thermalMain
      gain := if haveThermal backend.target then
          (backend.getThermalGain impl calls.gain).toOption else none
      palette := if haveThermal backend.target then
          (backend.getThermalPalette impl calls.palette).toOption else none }

/-- Open an implementation and restore the controls. -/
def reopen (backend : Backend Number Calls) (floats : Floats Number) (inverted : Bool)
    (config : MediaConfig) (controls : LiveControls Number) (calls : ReopenCalls Calls) :
    Option backend.Impl × Option Errno :=
  match backend.implOpen config calls.opened with
  | .error errno => (none, some errno)
  | .ok impl =>
    let restored := restoreControls backend floats inverted impl controls calls.restore
    (some restored.1, restored.2)

/-- The branch of `ca_media_configure` that rebuilds the pipeline. -/
def Media.rebuild (media : Media backend) (floats : Floats Number) (settings : Configuration)
    (calls : ConfigureCalls Calls) : Media backend × Option Errno :=
  let controls := media.liveControls floats calls
  let next := { media.config with settings }
  let changed := reopen backend floats media.inverted next controls calls.change
  match changed.2 with
  | none => ({ media with impl := changed.1, config := next }, none)
  | some errno =>
    let back := reopen backend floats media.inverted media.config controls calls.rollback
    ({ media with impl := back.1 }, some (if errno = 0 then inputOutput else errno))

/-- `ca_media_configure`. -/
def Media.configure (media : Media backend) (floats : Floats Number) (settings : Configuration)
    (calls : ConfigureCalls Calls) : Media backend × Option Errno :=
  match media.impl with
  | none => media.rebuild floats settings calls
  | some impl =>
    if formatDiffers media.config.settings settings then
      if (backend.reading impl).recording then (media, some busy)
      else media.rebuild floats settings calls
    else if imageEqual media.config.settings settings then
      ({ media with config := { media.config with settings } }, none)
    else
      let applied := backend.applyImage impl settings calls.image
      match applied.2 with
      | none =>
        ({ media with impl := some applied.1, config := { media.config with settings } }, none)
      | some errno =>
        let back := backend.applyImage applied.1 media.config.settings calls.reapply
        ({ media with impl := some back.1 }, some errno)

end CameraMedia
