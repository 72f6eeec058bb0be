/-
This file models the media backend of the host build and the simulator, which keeps its controls
in memory.
-/

import CameraGimbal.CameraMedia

namespace StubMedia

open Config Optics CameraMedia

/-- The fields of `struct ca_media_impl` that the controls use. -/
structure Impl (Number : Type) where
  recorder : Bool
  zoom : Number
  hasThermal : Bool
  digitalRatio : Lens → Number
  opticalRatio : Number
  visibleHfovDeg : Number
  lens : Lens
  thermalMain : Bool
  thermalGain : UInt8
  thermalPalette : UInt8
  inverted : Bool
  imageSettings : Configuration

/-- How the calls of the operating system in one call of the backend turn out. -/
structure Calls where
  opened : Option Errno
  recorder : Option Errno

/-- Every call succeeds. -/
def Calls.working : Calls where
  opened := none
  recorder := none

variable {Number : Type} (floats : Floats Number) (target : Target)

/-- `ca_media_impl_open`. -/
def implOpen (config : MediaConfig) (calls : Calls) : Except Errno (Impl Number) :=
  match calls.opened with
  | some errno => .error errno
  | none =>
    .ok
      { recorder := false
        zoom := one floats
        hasThermal := haveThermal target
        digitalRatio := fun _ => one floats
        opticalRatio := one floats
        visibleHfovDeg := lens1Hfov floats target (one floats)
        lens := .wide
        thermalMain := false
        thermalGain := 1
        thermalPalette := paletteOf config.settings
        inverted := false
        imageSettings := config.settings }

def updateHfov (media : Impl Number) : Impl Number :=
  { media with
    visibleHfovDeg :=
      if haveZoomLens target ∧ media.lens = .zoom then
        zoomLensHfov floats target media.opticalRatio (media.digitalRatio media.lens)
      else
        lens1Hfov floats target
          (if haveZoomLens target then media.digitalRatio media.lens else media.zoom) }

/-- `ca_media_impl_set_zoom`. -/
def setZoom (media : Impl Number) (zoom : Number) : Impl Number × Option Errno :=
  if zoomInRange floats target zoom then
    let lens := lensFor floats target zoom
    let ratio := match lens with
      | .wide => zoom
      | .zoom => one floats
    (updateHfov floats target
      { media with
        zoom
        lens
        thermalMain := false
        opticalRatio := zoomLensOptical floats target zoom
        digitalRatio := Function.update media.digitalRatio lens ratio }, none)
  else (media, some invalid)

/-- `ca_media_impl_set_lens`. -/
def setLens (media : Impl Number) (lens : Lens) : Impl Number × Option Errno :=
  ({ updateHfov floats target { media with lens } with thermalMain := false }, none)

/-- `ca_media_impl_set_thermal_main`. -/
def setThermalMain (media : Impl Number) (thermalMain : Bool) : Impl Number × Option Errno :=
  let shown := if thermalMain then updateHfov floats target { media with lens := .zoom }
    else media
  ({ shown with thermalMain }, none)

/-- `ca_media_impl_set_thermal_gain`. -/
def setThermalGain (media : Impl Number) (gain : UInt8) : Impl Number × Option Errno :=
  if gain ≤ 1 then ({ media with thermalGain := gain }, none) else (media, some invalid)

/-- `ca_media_impl_set_thermal_palette`. -/
def setThermalPalette (media : Impl Number) (palette : UInt8) : Impl Number × Option Errno :=
  if palette ≤ 11 ∧ palette ≠ 1 then ({ media with thermalPalette := palette }, none)
  else (media, some invalid)

/-- `ca_media_impl_set_recording`. -/
def setRecording (media : Impl Number) (active : Bool) (calls : Calls) :
    Impl Number × Option Errno :=
  let set := recorderSet media.recorder active calls.recorder
  ({ media with recorder := set.1 }, set.2)

/-- The backend of the host build, for a product. -/
def backend : Backend Number Calls where
  target := target
  Impl := Impl Number
  reading media :=
    { zoom := media.zoom
      lens := media.lens
      thermalMain := media.thermalMain
      gain := media.thermalGain
      palette := media.thermalPalette
      inverted := media.inverted
      recording := media.recorder }
  implOpen := implOpen floats target
  setInverted media inverted _ := ({ media with inverted }, none)
  setLens media lens _ := setLens floats target media lens
  setZoom media zoom _ := setZoom floats target media zoom
  setThermalMain media thermalMain _ := setThermalMain floats target media thermalMain
  getThermalGain media _ := .ok media.thermalGain
  setThermalGain media gain _ := setThermalGain media gain
  getThermalPalette media _ := .ok media.thermalPalette
  setThermalPalette media palette _ := setThermalPalette media palette
  setRecording := setRecording
  applyImage media settings _ :=
    ({ media with imageSettings := copyImage media.imageSettings settings }, none)

end StubMedia
