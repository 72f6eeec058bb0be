/-
This file models the optics of the cameras: which lens a system zoom uses, the optical factor of
the second lens, and the horizontal field of view of a lens at a magnification. The arithmetic of
C `float` and the two functions of the mathematical library are parameters.
-/

import CameraGimbal.Config

namespace Optics

open Config

/-- C `float` with the operations that the optics use. -/
structure Floats (Number : Type) where
  /-- The number nearest to a literal. -/
  literal : Rat → Number
  /-- `isfinite`. -/
  isFinite : Number → Bool
  less : Number → Number → Bool
  add : Number → Number → Number
  sub : Number → Number → Number
  mul : Number → Number → Number
  div : Number → Number → Number
  /-- `fabsf`. -/
  abs : Number → Number
  /-- `tanf`. -/
  tan : Number → Number
  /-- `atanf`. -/
  atan : Number → Number
  /-- Conversion to `unsigned`. -/
  truncate : Number → Nat

/-- Exact arithmetic, with the tangent of a small angle. -/
def exactFloats : Floats Rat where
  literal value := value
  isFinite _ := true
  less first second := decide (first < second)
  add first second := first + second
  sub first second := first - second
  mul first second := first * second
  div first second := first / second
  abs value := if value < 0 then -value else value
  tan angle := angle
  atan ratio := ratio
  truncate value := value.floor.toNat

/-! ### Lenses of the products -/

/-- `APCAM_NUM_LENSES`. -/
def numLenses : Target → Nat
  | .mt11 => 3
  | _ => 1

/-- `APCAM_NUM_LENSES > 1 && APCAM_LENS2_TYPE == APCAM_LENS_TYPE_RGB`. -/
def haveZoomLens : Target → Bool
  | .mt11 => true
  | _ => false

/-- `APCAM_HAVE_ZOOM`. -/
def haveZoom : Target → Bool
  | .z1mini => false
  | _ => true

/-- `APCAM_HAVE_THERMAL`. -/
def haveThermal : Target → Bool
  | .mt11 => true
  | _ => false

/-- `APCAM_ZOOM_MAX`. -/
def zoomMax : Target → Rat
  | .mt11 => 10
  | .a8 => 6
  | .zr10 => 30
  | .z1mini => 8

/-- `APCAM_LENS1_FOV_H`. -/
def lens1FovH : Target → Rat
  | .mt11 | .a8 => 88
  | .zr10 => 715 / 10
  | .z1mini => 547 / 10

/-- `APCAM_LENS1_FOV_H_TELE` and `APCAM_LENS1_OPTICAL_ZOOM_MAX` where
`APCAM_LENS1_FOV_MODEL` is `APCAM_FOV_ENDPOINTS`. -/
def lens1Endpoints : Target → Option (Rat × Rat)
  | .zr10 => some (67 / 10, 10)
  | _ => none

/-- `APCAM_ZOOM_LENS_BASE`. -/
def zoomLensBase : Rat := 344 / 100

/-- `APCAM_ZOOM_LENS_OPTICAL_MAX * 10`, as an `unsigned`. -/
def zoomLensTenthsMax : Nat := 32

/-- `APCAM_LENS2_FOV_H`. -/
def lens2FovH : Rat := 313613561 / 10000000

variable {Number : Type} (floats : Floats Number)

/-- `1.0f`. -/
def one : Number := floats.literal 1

/-! ### Zoom -/

/-- `isfinite(zoom) && zoom >= 1.0f && zoom <= APCAM_ZOOM_MAX`. -/
def zoomInRange (target : Target) (zoom : Number) : Bool :=
  floats.isFinite zoom && !floats.less zoom (one floats) &&
    !floats.less (floats.literal (zoomMax target)) zoom

/-- `apcam_uses_zoom_lens`. -/
def usesZoomLens (target : Target) (zoom : Number) : Bool :=
  haveZoomLens target && floats.less (floats.literal zoomLensBase) zoom

/-- `apcam_zoom_lens_optical`. -/
def zoomLensOptical (target : Target) (zoom : Number) : Number :=
  if usesZoomLens floats target zoom then
    let tenths := floats.truncate
      (floats.add (floats.div (floats.mul zoom (floats.literal 10)) (floats.literal zoomLensBase))
        (floats.literal (1 / 10000)))
    let tenths := if tenths < 10 then 10 else tenths
    let tenths := if zoomLensTenthsMax < tenths then zoomLensTenthsMax else tenths
    floats.mul (floats.literal tenths) (floats.literal (1 / 10))
  else one floats

/-! ### Fields of view -/

/-- The `radians` of a degree. -/
def radians : Number := floats.literal (1745329251994329577 / 100000000000000000000)

/-- `ca_video_hfov`. -/
def videoHfov (nativeHfovDeg magnification : Number) : Number :=
  if !floats.isFinite nativeHfovDeg || !floats.less (floats.literal 0) nativeHfovDeg ||
      !floats.less nativeHfovDeg (floats.literal 180) || !floats.isFinite magnification ||
      !floats.less (floats.literal 0) magnification then floats.literal 0
  else
    floats.div
      (floats.mul (floats.literal 2)
        (floats.atan
          (floats.div
            (floats.tan (floats.mul (floats.mul nativeHfovDeg (radians floats))
              (floats.literal (1 / 2))))
            magnification)))
      (radians floats)

/-- `ca_lens1_hfov`. -/
def lens1Hfov (target : Target) (zoom : Number) : Number :=
  let native := floats.literal (lens1FovH target)
  match lens1Endpoints target with
  | none => videoHfov floats native zoom
  | some (tele, opticalMax) =>
    if !floats.isFinite zoom || floats.less zoom (one floats) ||
        floats.less (floats.literal opticalMax) zoom then floats.literal 0
    else
      let half (degrees : Number) : Number :=
        floats.tan (floats.mul (floats.mul degrees (radians floats)) (floats.literal (1 / 2)))
      let ratio := floats.div (half native) (half (floats.literal tele))
      let magnification := floats.add (one floats)
        (floats.div
          (floats.mul (floats.sub ratio (one floats)) (floats.sub zoom (one floats)))
          (floats.sub (floats.literal opticalMax) (one floats)))
      videoHfov floats native magnification

/-- `ca_zoom_lens_hfov`. -/
def zoomLensHfov (target : Target) (opticalZoom digitalZoom : Number) : Number :=
  if haveZoomLens target then
    videoHfov floats (floats.literal lens2FovH) (floats.mul opticalZoom digitalZoom)
  else floats.literal 0

end Optics
