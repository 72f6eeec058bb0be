/-
This file models how the MAVLink server changes the running configuration:
`apply_runtime_config`, which takes the media layer, the recorder and the time zone to another
configuration and undoes what it did when one of them fails; `apply_camera_config`, which changes
and saves one parameter; and `reload_config`, which follows the configuration file.

How the calls of the operating system and of the backend turn out is a parameter of each function.
-/

import CameraGimbal.CameraMedia
import CameraGimbal.ConfigValid

namespace RuntimeConfig

open CText Config Optics CameraMedia

/-! ### Parameters that apply at once -/

/-- `APCAM_HAVE_FOCUS`. -/
def haveFocus : Target → Bool
  | .mt11 => true
  | _ => false

/-- `APCAM_ZOOM_NATIVE_RATE`. -/
def zoomNativeRate : Target → Bool
  | .zr10 => true
  | _ => false

/-- `APCAM_HAVE_IMAGE_CONTROLS`. -/
def haveImageControls : Target → Bool
  | .mt11 | .a8 => true
  | _ => false

inductive CameraOperation
  | config | mode | zoom | autofocus | lens | source | gain | palette
  deriving DecidableEq

/-- `struct ca_camera_parameter`, with the parameter of the configuration that it stands for. -/
structure CameraParameter where
  name : Text
  operation : CameraOperation
  configIndex : Option Nat

def cameraRow (name : String) (operation : CameraOperation) : CameraParameter where
  name := bytes name
  operation := operation
  configIndex := none

/-- `parameters` of the camera definition. -/
def cameraParameters (target : Target) : List CameraParameter :=
  [cameraRow "CAM_MODE" .mode] ++
    (if haveZoom target && !zoomNativeRate target then [cameraRow "CAM_ZOOM" .zoom] else []) ++
    (if haveFocus target then [cameraRow "CAM_AUTOFOCUS" .autofocus] else []) ++
    (if 1 < numLenses target then [cameraRow "CAM_LENS" .lens] else []) ++
    (if haveThermal target then
      [cameraRow "CAM_SOURCE" .source, cameraRow "CAM_THERM_GAIN" .gain,
        cameraRow "CAM_PALETTE" .palette, cameraRow "PHOTO_SCOPE" .config] else []) ++
    [cameraRow "LOG_DISARMED" .config, cameraRow "TRACK_METHOD" .config,
      cameraRow "MAV_POS_TARGET" .config, cameraRow "REC_AUTOSTART" .config,
      cameraRow "REC_RESOLUTION" .config, cameraRow "VIDEO_MAIN_RES" .config,
      cameraRow "VIDEO_MAIN_CODEC" .config, cameraRow "VIDEO_SUB_RES" .config,
      cameraRow "VIDEO_SUB_CODEC" .config] ++
    (if haveImageControls target then
      [cameraRow "IMG_BRIGHTNESS" .config, cameraRow "IMG_SATURATION" .config,
        cameraRow "IMG_CONTRAST" .config, cameraRow "IMG_EXPOSURE" .config,
        cameraRow "IMG_ISO" .config, cameraRow "IMG_SHUTTER" .config,
        cameraRow "IMG_METERING" .config, cameraRow "IMG_WHITE_BAL" .config] else [])

/-- `ca_config_param_count`. -/
def paramCount (target : Target) : Nat :=
  (configFields target).countP fun field => field.paramName.isSome

/-- `ca_config_param_name`. -/
def paramName (target : Target) (index : Nat) : Option Text :=
  (paramField target index).bind Field.paramName

/-- `ca_config_param_find`. -/
def paramFind (target : Target) (name : Text) : Option Nat :=
  (List.range (paramCount target)).find? fun index => paramName target index == some name

/-- `ca_camera_param_find`. -/
def cameraParamFind (target : Target) (name : Text) : Option Nat :=
  (cameraParameters target).findIdx? fun parameter => name == parameter.name

/-- `ca_camera_param_info`. -/
def cameraParamInfo (target : Target) (index : Nat) : Option CameraParameter :=
  match (cameraParameters target)[index]? with
  | none => none
  | some parameter =>
    if parameter.operation = .config ∨ parameter.operation = .palette then
      let name := if parameter.operation = .palette then bytes "THERMAL_PALETTE"
        else parameter.name
      (paramFind target name).map fun found => { parameter with configIndex := some found }
    else some parameter

def liveConfigParameter (target : Target) (index : Nat) : Bool :=
  match paramName target index with
  | none => false
  | some name =>
    if name = bytes "PHOTO_SCOPE" then true
    else if name = bytes "THERMAL_PALETTE" then haveThermal target
    else
      match (cameraParamFind target name).bind (cameraParamInfo target) with
      | none => false
      | some parameter => parameter.operation == .config

/-! ### The server -/

/-- What `same_config_file` compares of a `struct stat`. -/
structure FileStat where
  inode : Nat
  device : Nat
  size : Int
  modifiedSeconds : Int
  modifiedNanoseconds : Int
  changedSeconds : Int
  changedNanoseconds : Int
  deriving DecidableEq

/-- What `config_status` writes, without the process id. -/
structure Status where
  hash : UInt64
  state : Text
  message : Text
  deriving DecidableEq

/-- The fields of `struct ca_mavlink_server` that the configuration uses, and the time zone in the
environment. -/
structure Server {Number Calls : Type} (backend : Backend Number Calls) where
  media : Media backend
  settings : Configuration
  parameters : Configuration
  photoScope : Member.photoScope.kind.Value
  targetLocationActive : Bool
  lastTargetLocationMs : UInt64
  trackingRateActive : Bool
  haveVehicleArmed : Bool
  vehicleArmed : Bool
  timezone : Text
  configCheckMs : UInt64
  configSeen : Bool
  configPending : Bool
  configStat : FileStat
  configLastStatus : Option Status

variable {Number Calls : Type} {backend : Backend Number Calls} (floats : Floats Number)

/-- What `ca_mavlink_server_open` sets up, in the time zone that the program starts with. -/
def serverOpen (media : Media backend) (settings : Configuration) : Server backend where
  media := media
  settings := settings
  parameters := settings
  photoScope := settings .photoScope
  targetLocationActive := false
  lastTargetLocationMs := 0
  trackingRateActive := false
  haveVehicleArmed := false
  vehicleArmed := false
  timezone := settings .timezone
  configCheckMs := 0
  configSeen := false
  configPending := false
  configStat := ⟨0, 0, 0, 0, 0, 0, 0⟩
  configLastStatus := none

/-- `stop_tracking_rate`, as far as it changes the server. -/
def Server.stopTrackingRate (server : Server backend) : Server backend :=
  { server with trackingRateActive := false }

/-! ### Applying a configuration -/

/-- The calls of `apply_runtime_config`. Those from `restoreRecording` on undo a change that
failed. -/
structure ApplyCalls (Calls : Type) where
  configure : ConfigureCalls Calls
  palette : Calls
  recording : Calls
  setenv : Option Errno
  restoreRecording : Calls
  restorePalette : Calls
  reconfigure : ConfigureCalls Calls

/-- `CA_AUTORECORD_ENABLED`. -/
def autorecordEnabled : Member.autorecord.kind.Value := (1 : Int)

/-- `CA_AUTORECORD_WHILE_ARMED`. -/
def autorecordWhileArmed : Member.autorecord.kind.Value := (2 : Int)

def paletteChanges (target : Target) (previous next : Configuration) : Bool :=
  decide (next .thermalPalette ≠ previous .thermalPalette) && haveThermal target

/-- Whether the camera is to record with a configuration. -/
def Server.record (server : Server backend) (next : Configuration) : Bool :=
  if next .autorecord ≠ server.settings .autorecord then
    decide (next .autorecord = autorecordEnabled) ||
      (decide (next .autorecord = autorecordWhileArmed) && server.haveVehicleArmed &&
        server.vehicleArmed)
  else server.media.recording

/-- The palette, the recorder and the time zone of a configuration, one after another as long as
none fails. -/
def adjust (media : Media backend) (previous next : Configuration) (wasRecording record : Bool)
    (calls : ApplyCalls Calls) : Media backend × Option Errno :=
  let coloured := if paletteChanges backend.target previous next then
      media.setThermalPalette (paletteOf next) calls.palette
    else (media, none)
  match coloured.2 with
  | some errno => (coloured.1, some errno)
  | none =>
    let recorded := if record ≠ wasRecording then
        coloured.1.setRecording record calls.recording
      else (coloured.1, none)
    match recorded.2 with
    | some errno => (recorded.1, some errno)
    | none =>
      if next .timezone ≠ previous .timezone then (recorded.1, calls.setenv)
      else (recorded.1, none)

/-- The recorder and the palette, back to what they were. -/
def undoControls (media : Media backend) (previous next : Configuration) (wasRecording : Bool)
    (calls : ApplyCalls Calls) : Media backend × Option Errno :=
  let state := attempt (decide (media.recording ≠ wasRecording)) (media, none) fun media =>
    media.setRecording wasRecording calls.restoreRecording
  attempt (paletteChanges backend.target previous next) state fun media =>
    media.setThermalPalette (paletteOf previous) calls.restorePalette

/-- The part of `apply_runtime_config` that undoes a change. -/
def undo (media : Media backend) (previous next : Configuration) (wasRecording : Bool)
    (calls : ApplyCalls Calls) : Media backend × Option Errno :=
  attempt true (undoControls media previous next wasRecording calls) fun media =>
    media.configure floats previous calls.reconfigure

/-- What `apply_runtime_config` stores for a change that worked. -/
def Server.adopt (server : Server backend) (next : Configuration) : Server backend :=
  let positionTargeting : Bool := next .positionTargeting
  let stops := decide (next .trackingMethod ≠ server.settings .trackingMethod) ||
    !positionTargeting
  { server with
    trackingRateActive := server.trackingRateActive && !stops
    lastTargetLocationMs := if stops then 0 else server.lastTargetLocationMs
    targetLocationActive := server.targetLocationActive && positionTargeting
    timezone := if next .timezone ≠ server.settings .timezone then next .timezone
      else server.timezone
    settings := next
    photoScope := next .photoScope }

def Server.applyRuntimeConfig (server : Server backend) (next : Configuration)
    (calls : ApplyCalls Calls) : Server backend × Option Errno :=
  let previous := server.settings
  let wasRecording := server.media.recording
  let stopped := if formatDiffers previous next && !wasRecording then server.stopTrackingRate
    else server
  let configured := server.media.configure floats next calls.configure
  match configured.2 with
  | some errno => ({ stopped with media := configured.1 }, some errno)
  | none =>
    let adjusted := adjust configured.1 previous next wasRecording (server.record next) calls
    match adjusted.2 with
    | some errno =>
      let undone := undo floats adjusted.1 previous next wasRecording calls
      ({ stopped with media := undone.1 }, some errno)
    | none => ({ stopped with media := adjusted.1 }.adopt next, none)

/-! ### Changing one parameter -/

/-- The calls of `apply_camera_config`. Those from `rollback` on take back a change that was not
saved. -/
structure CameraConfigCalls (Calls : Type) where
  apply : ApplyCalls Calls
  /-- `save_field` succeeds. -/
  written : Bool
  rollback : ApplyCalls Calls
  restoreRecording : Calls

/-- How `apply_camera_config` ends. -/
inductive CameraConfigResult
  | unassigned
  | refused (errno : Errno)
  | unsaved
  | saved
  deriving DecidableEq

/-- `ca_config_param_save`, where writing the file may fail: the parameters that it reads back. -/
def savedParameters (target : Target) (file : Option Text) (index : Nat) (value : Config.Number)
    (written : Bool) : Option Configuration :=
  match paramSave target file index value with
  | .ok (updated, _) => if written then some updated else none
  | .error _ => none

/-- The part of `apply_camera_config` that takes back a change that was not saved. -/
def Server.takeBack (server : Server backend) (previous : Configuration)
    (wasRecording wasTracking : Bool) (calls : CameraConfigCalls Calls) :
    Server backend × Option Errno :=
  let back := server.applyRuntimeConfig floats previous calls.rollback
  match back.2 with
  | some errno => ({ back.1 with targetLocationActive := wasTracking }, some errno)
  | none =>
    let recorded := if back.1.media.recording ≠ wasRecording then
        back.1.media.setRecording wasRecording calls.restoreRecording
      else (back.1.media, none)
    ({ back.1 with media := recorded.1, targetLocationActive := wasTracking }, recorded.2)

def Server.applyCameraConfig (server : Server backend) (index : Nat) (value : Config.Number)
    (file : Option Text) (calls : CameraConfigCalls Calls) :
    Server backend × CameraConfigResult :=
  let previous := server.settings
  let wasRecording := server.media.recording
  let wasTracking := server.targetLocationActive
  match paramAssign backend.target previous index value with
  | none => (server, .unassigned)
  | some next =>
    let applied := server.applyRuntimeConfig floats next calls.apply
    match applied.2 with
    | some errno => (applied.1, .refused errno)
    | none =>
      match savedParameters backend.target file index value calls.written with
      | none =>
        ((applied.1.takeBack floats previous wasRecording wasTracking calls).1, .unsaved)
      | some parameters => ({ applied.1 with parameters }, .saved)

end RuntimeConfig
