/-
This file models the media backend of the MT11: the encoder channels and the video sources they
are bound to, the lens motor, and the changes of lens, zoom and main view. Every call of the
SDK and of the motor turns out as a parameter says; a call that fails changes nothing.
-/

import CameraGimbal.CameraMedia

namespace Mt11Media

open Config Optics CameraMedia

/-! ### Video sources and encoder channels -/

/-- `CA_MT11_ZOOM_GROUP`, `CA_MT11_WIDE_GROUP` and `CA_MT11_THERMAL_GROUP`. -/
inductive Group
  | zoom | wide | thermal
  deriving DecidableEq

/-- `CA_MT11_RTSP_MAIN_CHN`, `CA_MT11_RTSP_SUB_CHN` and `CA_MT11_RECORD_CHN`. -/
inductive Channel
  | main | sub | record
  deriving DecidableEq

/-- `CA_MT11_MAIN_VENC`, `CA_MT11_SUB_VENC`, `CA_MT11_RGB_RECORD_VENC` and
`CA_MT11_THERMAL_RECORD_VENC`. -/
inductive Encoder
  | main | sub | rgbRecord | thermalRecord
  deriving DecidableEq

/-- A channel of a group of the video processor. -/
structure Source where
  group : Group
  channel : Channel
  deriving DecidableEq

/-- `ot_venc_chn_attr`. -/
structure Attributes where
  h265 : Bool
  maxPicWidth : Nat
  maxPicHeight : Nat
  picWidth : Nat
  picHeight : Nat
  bufSize : Nat
  frameRate : Nat
  bitRate : Nat
  deriving DecidableEq

/-- `OT_ALIGN_UP` to 64 bytes. -/
def alignUp (size : Nat) : Nat :=
  (size + 63) / 64 * 64

/-- `CA_VIDEO_H265`. -/
def codecH265 : Int := 1

/-- `ca_mt11_video_attributes`. -/
def videoAttributes (codec : Int) (size : Nat × Nat) (frameRate bitRate : Nat) : Attributes where
  h265 := decide (codec = codecH265)
  maxPicWidth := size.1
  maxPicHeight := size.2
  picWidth := size.1
  picHeight := size.2
  bufSize := alignUp (size.1 * size.2 * 3 / 4)
  frameRate := frameRate
  bitRate := bitRate

/-- `ca_video_resolution_size`. -/
def resolutionSize (resolution : Int) : Nat × Nat :=
  if resolution = 0 then (1280, 720)
  else if resolution = 3 then (2560, 1440)
  else if resolution = 2 then (3840, 2160)
  else (1920, 1080)

def streamBitrate (size : Nat × Nat) : Nat :=
  if 3840 ≤ size.1 ∨ 2160 ≤ size.2 then 12000
  else if 1920 ≤ size.1 ∨ 1080 ≤ size.2 then 4096
  else 2048

/-- `CA_MT11_THERMAL_ENCODE_WIDTH` and `CA_MT11_THERMAL_ENCODE_HEIGHT`. -/
def thermalEncodeSize : Nat × Nat := (1280, 720)

/-- `CA_MT11_THERMAL_FRAME_RATE`. -/
def thermalFrameRate : Nat := 25

/-- What the SDK holds of the encoder channels. -/
structure Pipeline where
  bound : Encoder → Option Source
  attributes : Encoder → Attributes
  receiving : Encoder → Bool

/-- `sample_comm_vpss_un_bind_venc`. -/
def Pipeline.unBind (pipeline : Pipeline) (source : Source) (encoder : Encoder)
    (succeeds : Bool) : Pipeline :=
  if succeeds = true ∧ pipeline.bound encoder = some source then
    { pipeline with bound := Function.update pipeline.bound encoder none }
  else pipeline

/-- `sample_comm_vpss_bind_venc`. -/
def Pipeline.bind (pipeline : Pipeline) (source : Source) (encoder : Encoder)
    (succeeds : Bool) : Pipeline :=
  if succeeds then { pipeline with bound := Function.update pipeline.bound encoder (some source) }
  else pipeline

/-- `ss_mpi_venc_stop_chn` and `ss_mpi_venc_start_chn`. -/
def Pipeline.receive (pipeline : Pipeline) (encoder : Encoder) (receiving succeeds : Bool) :
    Pipeline :=
  if succeeds then
    { pipeline with receiving := Function.update pipeline.receiving encoder receiving }
  else pipeline

/-- `ss_mpi_venc_set_chn_attr`. -/
def Pipeline.setAttributes (pipeline : Pipeline) (encoder : Encoder) (attributes : Attributes)
    (succeeds : Bool) : Pipeline :=
  if succeeds then
    { pipeline with attributes := Function.update pipeline.attributes encoder attributes }
  else pipeline

/-! ### The lens motor -/

/-- `struct e5739_calibration`. -/
structure Calibration (Number : Type) where
  factor : Number
  zoomPosition : Int
  focusPosition : Int
  focusMinimum : Int
  focusMaximum : Int

/-- `struct ca_e5739`. The table has a first row and others. -/
structure Motor (Number : Type) where
  firstRow : Calibration Number
  rows : List (Calibration Number)
  currentRow : Calibration Number
  zoomPosition : Int
  focusPosition : Int
  opticalZoom : Number

/-- How the steps of one command to the motor turn out: where an axis stops when a step of it
fails, and the error. -/
structure MotorCalls where
  zoomStops : Option Int
  focusStops : Option Int
  errno : Errno

variable {Number : Type} (floats : Floats Number)

def calibrationRow (requestedZoom : Number) :
    Calibration Number → List (Calibration Number) → Calibration Number
  | row, [] => row
  | row, next :: rest =>
    if floats.less row.factor requestedZoom then calibrationRow requestedZoom next rest else row

/-- `move_zoom_to` and `move_focus_to`: the position an axis ends at, and whether it is the
target. -/
def moveTo (position target : Int) (stops : Option Int) : Int × Bool :=
  if position = target then (position, true)
  else
    match stops with
    | none => (target, true)
    | some stopped => (stopped, false)

def Motor.rowFor (motor : Motor Number) (requestedZoom : Number) : Calibration Number :=
  calibrationRow floats requestedZoom motor.firstRow motor.rows

/-- `focus_target` of `ca_e5739_set_zoom`: the focus keeps its distance along the factory curve. -/
def Motor.focusTarget (motor : Motor Number) (row : Calibration Number) : Int :=
  let focusDelta := row.focusPosition - motor.currentRow.focusPosition
  let focusTarget := motor.focusPosition + focusDelta
  let focusTarget := if focusTarget < row.focusMinimum then row.focusMinimum else focusTarget
  if row.focusMaximum < focusTarget then row.focusMaximum else focusTarget

/-- `ca_e5739_set_zoom`. -/
def Motor.setZoom (motor : Motor Number) (requestedZoom : Number) (calls : MotorCalls) :
    Motor Number × Option Errno :=
  if !floats.isFinite requestedZoom || floats.less requestedZoom (one floats) then
    (motor, some invalid)
  else
    let row := motor.rowFor floats requestedZoom
    let zoomMove := moveTo motor.zoomPosition row.zoomPosition calls.zoomStops
    let moved := { motor with zoomPosition := zoomMove.1 }
    if zoomMove.2 = false then (moved, some calls.errno)
    else
      let focusMove := moveTo motor.focusPosition (motor.focusTarget row) calls.focusStops
      let focused := { moved with focusPosition := focusMove.1 }
      if focusMove.2 = false then (focused, some calls.errno)
      else ({ focused with currentRow := row, opticalZoom := row.factor }, none)

/-! ### State -/

/-- What the thermal module is set to. -/
structure Thermal where
  gain : UInt8
  palette : UInt8

/-- The fields of `struct ca_media_impl` that the controls use, and the state of the SDK. -/
structure Impl (Number : Type) where
  config : MediaConfig
  pipeline : Pipeline
  vencAttr : Encoder → Attributes
  recording : Bool
  thermalMain : Bool
  inverted : Bool
  thermal : Thermal
  lens : Lens
  zoom : Number
  visibleHfovDeg : Number
  digitalRatio : Group → Number
  selectedGroup : Group
  e5739 : Option (Motor Number)

/-- How the calls of the SDK in `select_lens_locked` turn out. Those from `undoRtsp` on
compensate. -/
structure LensCalls where
  unbindRtsp : Bool
  unbindRecord : Bool
  bindRtsp : Bool
  bindRecord : Bool
  undoRtsp : Bool
  undoRecord : Bool
  rebindRtsp : Bool
  rebindRecord : Bool

/-- How the calls of the SDK in `reconfigure_rtsp_venc` turn out. The last two compensate. -/
structure EncoderCalls where
  stop : Bool
  set : Bool
  start : Bool
  setOld : Bool
  restart : Bool

/-- How the calls of the SDK in `switch_rtsp_sources_locked` turn out. Those from `undoMain` on
compensate. -/
structure SourceCalls where
  unbindMain : Bool
  unbindSub : Bool
  main : EncoderCalls
  sub : EncoderCalls
  bindMain : Bool
  bindSub : Bool
  undoMain : Bool
  restoreMain : EncoderCalls
  restoreSub : EncoderCalls
  rebindMain : Bool
  rebindSub : Bool

/-- How the device calls of one call of the backend turn out. -/
structure Calls (Number : Type) where
  /-- The pipeline starts. -/
  opened : Bool
  /-- The lens motor that is found when the pipeline starts. -/
  motorFound : Option (Motor Number)
  /-- The gain that the thermal module starts with. -/
  startGain : UInt8
  lens : LensCalls
  sources : SourceCalls
  motor : MotorCalls
  rollback : MotorCalls
  crop : Bool
  orientation : Bool
  isp : Bool
  thermal : Option Errno
  recorder : Option Errno

/-- Every call succeeds. -/
def EncoderCalls.working : EncoderCalls where
  stop := true
  set := true
  start := true
  setOld := true
  restart := true

/-- Every device call succeeds, and no lens motor is found. -/
def Calls.working : Calls Number where
  opened := true
  motorFound := none
  startGain := 1
  lens :=
    { unbindRtsp := true
      unbindRecord := true
      bindRtsp := true
      bindRecord := true
      undoRtsp := true
      undoRecord := true
      rebindRtsp := true
      rebindRecord := true }
  sources :=
    { unbindMain := true
      unbindSub := true
      main := .working
      sub := .working
      bindMain := true
      bindSub := true
      undoMain := true
      restoreMain := .working
      restoreSub := .working
      rebindMain := true
      rebindSub := true }
  motor := { zoomStops := none, focusStops := none, errno := 0 }
  rollback := { zoomStops := none, focusStops := none, errno := 0 }
  crop := true
  orientation := true
  isp := true
  thermal := none
  recorder := none

/-! ### Opening -/

/-- `group` in `select_lens_locked`. -/
def groupOf : Lens → Group
  | .wide => .wide
  | .zoom => .zoom

def createdAttributes (config : MediaConfig) : Encoder → Attributes
  | .main =>
    let size := resolutionSize (config.settings .mainResolution)
    videoAttributes (config.settings .mainCodec) size 30 (streamBitrate size)
  | .sub =>
    let size := resolutionSize (config.settings .subResolution)
    let thermal := videoAttributes (config.settings .subCodec) thermalEncodeSize thermalFrameRate
      (streamBitrate thermalEncodeSize)
    let maxPicWidth := if thermal.maxPicWidth < size.1 then size.1 else thermal.maxPicWidth
    let maxPicHeight := if thermal.maxPicHeight < size.2 then size.2 else thermal.maxPicHeight
    { thermal with
      maxPicWidth
      maxPicHeight
      bufSize := alignUp (maxPicWidth * maxPicHeight * 3 / 4) }
  | .rgbRecord =>
    let size := resolutionSize (config.settings .recordingResolution)
    videoAttributes 0 size 30 (streamBitrate size)
  | .thermalRecord =>
    videoAttributes 0 thermalEncodeSize thermalFrameRate (streamBitrate thermalEncodeSize)

/-- The bindings that the pipeline starts with. -/
def startBound : Encoder → Option Source
  | .main => some ⟨.wide, .main⟩
  | .sub => some ⟨.thermal, .sub⟩
  | .rgbRecord => some ⟨.wide, .record⟩
  | .thermalRecord => some ⟨.thermal, .sub⟩

/-- The check of a palette in `ca_mt11_thermal_set_palette`. -/
def paletteValid (palette : UInt8) : Bool :=
  palette ≤ 11 && palette != 1

variable (media : Impl Number)

/-- `ca_media_impl_set_inverted`. -/
def setInverted (inverted : Bool) (calls : Calls Number) : Impl Number × Option Errno :=
  if media.inverted = inverted then (media, none)
  else if calls.orientation then ({ media with inverted }, none)
  else (media, some inputOutput)

/-- `ca_mt11_thermal_set_palette`. -/
def setThermalPalette (palette : UInt8) (calls : Calls Number) : Impl Number × Option Errno :=
  if paletteValid palette then
    match calls.thermal with
    | none => ({ media with thermal := { media.thermal with palette } }, none)
    | some errno => (media, some errno)
  else (media, some invalid)

/-- The pipeline when its parts have started. -/
def started (config : MediaConfig) (calls : Calls Number) : Impl Number where
  config := config
  pipeline :=
    { bound := startBound
      attributes := createdAttributes config
      receiving := fun _ => true }
  vencAttr := createdAttributes config
  recording := false
  thermalMain := false
  inverted := false
  thermal := { gain := calls.startGain, palette := 0 }
  lens := .wide
  zoom := one floats
  visibleHfovDeg := floats.literal (lens1FovH .mt11)
  digitalRatio := fun _ => one floats
  selectedGroup := .wide
  e5739 := calls.motorFound.map fun motor =>
    { motor with opticalZoom := (motor.rowFor floats (one floats)).factor }

/-- `ca_media_impl_open`. -/
def implOpen (config : MediaConfig) (calls : Calls Number) : Except Errno (Impl Number) :=
  if calls.opened = false then .error inputOutput
  else
    let coloured := setThermalPalette (started floats config calls) (paletteOf config.settings)
      calls
    if coloured.2.isSome then .error inputOutput
    else if config.settings .orientation = mountInverted then
      let turned := setInverted coloured.1 true calls
      if turned.2.isSome then .error inputOutput else .ok turned.1
    else .ok coloured.1

theorem setInverted_ok {media : Impl Number} {inverted : Bool} {calls : Calls Number}
    (succeeds : (setInverted media inverted calls).2 = none) :
    (setInverted media inverted calls).1 = { media with inverted } := by
  unfold setInverted at succeeds ⊢
  split
  · next same => rw [← same]
  · next differs =>
    rw [if_neg differs] at succeeds
    split
    · rfl
    · next fails =>
      rw [if_neg fails] at succeeds
      cases succeeds

theorem setThermalPalette_ok {media : Impl Number} {palette : UInt8} {calls : Calls Number}
    (succeeds : (setThermalPalette media palette calls).2 = none) :
    paletteValid palette = true ∧
      (setThermalPalette media palette calls).1 =
        { media with thermal := { media.thermal with palette } } := by
  unfold setThermalPalette at succeeds ⊢
  split
  · next valid =>
    rw [if_pos valid] at succeeds
    cases outcome : calls.thermal with
    | none => exact ⟨valid, rfl⟩
    | some errno =>
      rw [outcome] at succeeds
      cases succeeds
  · next bad =>
    rw [if_neg bad] at succeeds
    cases succeeds

theorem implOpen_ok {config : MediaConfig} {calls : Calls Number} {media : Impl Number}
    (opened : implOpen floats config calls = .ok media) :
    paletteValid (paletteOf config.settings) = true ∧
      media =
        { started floats config calls with
          thermal := { gain := calls.startGain, palette := paletteOf config.settings }
          inverted := decide (config.settings .orientation = mountInverted) } := by
  unfold implOpen at opened
  split at opened
  · cases opened
  simp only at opened
  split at opened
  · cases opened
  next coloured =>
  obtain ⟨valid, palette⟩ := setThermalPalette_ok (Option.not_isSome_iff_eq_none.mp coloured)
  rw [palette] at opened
  refine ⟨valid, ?_⟩
  split at opened
  · next orientation =>
    split at opened
    · cases opened
    next turned =>
    rw [setInverted_ok (Option.not_isSome_iff_eq_none.mp turned)] at opened
    rw [← Except.ok.inj opened, decide_eq_true orientation]
    rfl
  · next orientation =>
    rw [← Except.ok.inj opened, decide_eq_false orientation]
    rfl

/-! ### Choosing a lens -/

/-- `ca_e5739_zoom`, one where there is no motor. -/
def opticalOf (e5739 : Option (Motor Number)) : Number :=
  match e5739 with
  | some motor => motor.opticalZoom
  | none => one floats

/-- The field of view that the lens, the optical zoom and the digital ratio give. -/
def hfovOf (lens : Lens) (optical ratio : Number) : Number :=
  match lens with
  | .zoom => zoomLensHfov floats .mt11 optical ratio
  | .wide => lens1Hfov floats .mt11 ratio

/-- The tail of `select_lens_locked`, once the sources are those of the lens. -/
def lensSelected (lens : Lens) : Impl Number :=
  { media with
    lens
    visibleHfovDeg := hfovOf floats lens (opticalOf floats media.e5739)
      (media.digitalRatio (groupOf lens)) }

/-- The channel that carries the picture of the selected lens to its network stream. -/
def rtspChannel (thermalMain : Bool) : Channel :=
  if thermalMain then .sub else .main

/-- The encoder of the network stream that shows the selected lens. -/
def rtspEncoder (thermalMain : Bool) : Encoder :=
  if thermalMain then .sub else .main

def selectLensLocked (lens : Lens) (calls : LensCalls) : Impl Number × Option Errno :=
  let group := groupOf lens
  if group = media.selectedGroup then (lensSelected floats media lens, none)
  else
    let oldGroup := media.selectedGroup
    let channel := rtspChannel media.thermalMain
    let encoder := rtspEncoder media.thermalMain
    let unbound := (media.pipeline.unBind ⟨oldGroup, channel⟩ encoder calls.unbindRtsp).unBind
      ⟨oldGroup, .record⟩ .rgbRecord calls.unbindRecord
    let bindsRtsp := calls.unbindRtsp && calls.unbindRecord
    let rtsp := unbound.bind ⟨group, channel⟩ encoder (bindsRtsp && calls.bindRtsp)
    let bindsRecord := bindsRtsp && calls.bindRtsp
    let record := rtsp.bind ⟨group, .record⟩ .rgbRecord (bindsRecord && calls.bindRecord)
    if bindsRecord && calls.bindRecord then
      (lensSelected floats { media with pipeline := record, selectedGroup := group } lens, none)
    else
      let undone := if bindsRtsp && calls.bindRtsp then
          record.unBind ⟨group, channel⟩ encoder calls.undoRtsp
        else record
      let undone := if bindsRecord && calls.bindRecord then
          undone.unBind ⟨group, .record⟩ .rgbRecord calls.undoRecord
        else undone
      let rebound := (undone.bind ⟨oldGroup, channel⟩ encoder calls.rebindRtsp).bind
        ⟨oldGroup, .record⟩ .rgbRecord calls.rebindRecord
      ({ media with pipeline := rebound }, some inputOutput)

/-- A call of the SDK keeps `select_lens_locked` from changing the lens. -/
def lensRefused (lens : Lens) (calls : LensCalls) : Bool :=
  decide (groupOf lens ≠ media.selectedGroup) &&
    !(calls.unbindRtsp && calls.unbindRecord && calls.bindRtsp && calls.bindRecord)

theorem selectLensLocked_cases (lens : Lens) (calls : LensCalls) :
    ∃ pipeline, selectLensLocked floats media lens calls =
      if lensRefused media lens calls then ({ media with pipeline }, some inputOutput)
      else
        (lensSelected floats { media with pipeline, selectedGroup := groupOf lens } lens,
          none) := by
  unfold selectLensLocked lensRefused
  by_cases same : groupOf lens = media.selectedGroup
  · refine ⟨media.pipeline, ?_⟩
    simp only [same, ne_eq, not_true_eq_false, decide_false, Bool.false_and, if_true]
    rfl
  simp only [same, if_false, ne_eq, not_false_eq_true, decide_true, Bool.true_and]
  cases calls.unbindRtsp && calls.unbindRecord && calls.bindRtsp && calls.bindRecord with
  | true => exact ⟨_, rfl⟩
  | false => exact ⟨_, rfl⟩

/-! ### Switching the sources of the network streams -/

def reconfigureRtspVenc (encoder : Encoder) (attributes : Attributes)
    (calls : EncoderCalls) : Impl Number × Bool :=
  let oldAttributes := media.vencAttr encoder
  let stopped := media.pipeline.receive encoder false calls.stop
  let set := stopped.setAttributes encoder attributes (calls.stop && calls.set)
  let started := set.receive encoder true (calls.stop && calls.set && calls.start)
  if calls.stop && calls.set && calls.start then
    ({ media with
        pipeline := started
        vencAttr := Function.update media.vencAttr encoder attributes }, true)
  else
    let restored := started.setAttributes encoder oldAttributes calls.setOld
    ({ media with pipeline := restored.receive encoder true calls.restart }, false)

def mainSource (selected : Group) (thermalMain : Bool) : Source :=
  if thermalMain then ⟨.thermal, .sub⟩ else ⟨selected, .main⟩

/-- The source of the second network stream. -/
def subSource (selected : Group) (thermalMain : Bool) : Source :=
  if thermalMain then ⟨selected, .sub⟩ else ⟨.thermal, .sub⟩

/-- `main_width`, `main_height` and `sub_width`, `sub_height` of
`switch_rtsp_sources_locked`. -/
def streamSize (settings : Configuration) (thermalMain : Bool) : Encoder → Nat × Nat
  | .main => if thermalMain then thermalEncodeSize else resolutionSize (settings .mainResolution)
  | _ => if thermalMain then resolutionSize (settings .subResolution) else thermalEncodeSize

/-- `new_attr` of `switch_rtsp_sources_locked`. -/
def newAttributes (thermalMain : Bool) (encoder : Encoder) : Attributes :=
  let size := streamSize media.config.settings thermalMain encoder
  let codec := match encoder with
    | .main => media.config.settings .mainCodec
    | _ => media.config.settings .subCodec
  let thermalShown := match encoder with
    | .main => thermalMain
    | _ => !thermalMain
  let attributes := videoAttributes codec size
    (if thermalShown then thermalFrameRate else media.config.frameRate) (streamBitrate size)
  { attributes with
    maxPicWidth := (media.vencAttr encoder).maxPicWidth
    maxPicHeight := (media.vencAttr encoder).maxPicHeight
    bufSize := (media.vencAttr encoder).bufSize }

/-- From the label `rollback` of `switch_rtsp_sources_locked` on. -/
def rebindSources (calls : SourceCalls) : Impl Number :=
  { media with
    pipeline :=
      (media.pipeline.bind (mainSource media.selectedGroup media.thermalMain) .main
        calls.rebindMain).bind
      (subSource media.selectedGroup media.thermalMain) .sub calls.rebindSub }

/-- From the label `restore_encoders` of `switch_rtsp_sources_locked` on. -/
def restoreEncoders (oldAttributes : Encoder → Attributes) (calls : SourceCalls) : Impl Number :=
  let main := (reconfigureRtspVenc media .main (oldAttributes .main) calls.restoreMain).1
  let sub := (reconfigureRtspVenc main .sub (oldAttributes .sub) calls.restoreSub).1
  rebindSources sub calls

def switchRtspSourcesLocked (thermalMain : Bool) (calls : SourceCalls) :
    Impl Number × Option Errno :=
  let selected := media.selectedGroup
  let oldMain := mainSource selected media.thermalMain
  let oldSub := subSource selected media.thermalMain
  if media.thermalMain = thermalMain then (media, none)
  else
    let noMain := { media with
      pipeline := media.pipeline.unBind oldMain .main calls.unbindMain }
    if calls.unbindMain = false then (noMain, some inputOutput)
    else
      let noSub := { noMain with
        pipeline := noMain.pipeline.unBind oldSub .sub calls.unbindSub }
      if calls.unbindSub = false then
        ({ noSub with pipeline := noSub.pipeline.bind oldMain .main calls.rebindMain },
          some inputOutput)
      else
        let main := reconfigureRtspVenc noSub .main (newAttributes media thermalMain .main)
          calls.main
        if main.2 = false then (rebindSources main.1 calls, some inputOutput)
        else
          let sub := reconfigureRtspVenc main.1 .sub (newAttributes media thermalMain .sub)
            calls.sub
          if sub.2 = false then
            (restoreEncoders sub.1 media.vencAttr calls, some inputOutput)
          else
            let mainBound := { sub.1 with
              pipeline := sub.1.pipeline.bind (mainSource selected thermalMain) .main
                calls.bindMain }
            if calls.bindMain = false then
              (restoreEncoders mainBound media.vencAttr calls, some inputOutput)
            else
              let subBound := { mainBound with
                pipeline := mainBound.pipeline.bind (subSource selected thermalMain) .sub
                  calls.bindSub }
              if calls.bindSub then ({ subBound with thermalMain }, none)
              else
                let undone := { subBound with
                  pipeline := subBound.pipeline.unBind (mainSource selected thermalMain) .main
                    calls.undoMain }
                (restoreEncoders undone media.vencAttr calls, some inputOutput)

/-- The bindings and attributes of the streams may have changed, and what is noted of them. -/
def Rewired (before after : Impl Number) : Prop :=
  ∃ pipeline vencAttr, after = { before with pipeline, vencAttr }

theorem Rewired.refl : Rewired media media :=
  ⟨media.pipeline, media.vencAttr, rfl⟩

variable {before after : Impl Number}

theorem Rewired.pipeline (rewired : Rewired before after) (pipeline : Pipeline) :
    Rewired before { after with pipeline } := by
  obtain ⟨_, vencAttr, rfl⟩ := rewired
  exact ⟨pipeline, vencAttr, rfl⟩

theorem Rewired.reconfigure (rewired : Rewired before after) (encoder : Encoder)
    (attributes : Attributes) (calls : EncoderCalls) :
    Rewired before (reconfigureRtspVenc after encoder attributes calls).1 := by
  obtain ⟨_, _, rfl⟩ := rewired
  unfold reconfigureRtspVenc
  split <;> exact ⟨_, _, rfl⟩

theorem Rewired.restore (rewired : Rewired before after) (oldAttributes : Encoder → Attributes)
    (calls : SourceCalls) : Rewired before (restoreEncoders after oldAttributes calls) :=
  ((rewired.reconfigure .main (oldAttributes .main) calls.restoreMain).reconfigure .sub
    (oldAttributes .sub) calls.restoreSub).pipeline _

theorem Rewired.switched (rewired : Rewired before after) (pipeline : Pipeline)
    (thermalMain : Bool) :
    ∃ newPipeline vencAttr, { after with pipeline, thermalMain } =
      { before with pipeline := newPipeline, vencAttr, thermalMain } := by
  obtain ⟨_, vencAttr, rfl⟩ := rewired
  exact ⟨pipeline, vencAttr, rfl⟩

theorem switchRtspSourcesLocked_cases (media : Impl Number) (thermalMain : Bool)
    (calls : SourceCalls) :
    let switched := switchRtspSourcesLocked media thermalMain calls
    (switched.2 = none ∧
        ∃ pipeline vencAttr, switched.1 = { media with pipeline, vencAttr, thermalMain }) ∨
      (switched.2 = some inputOutput ∧ media.thermalMain ≠ thermalMain ∧
        Rewired media switched.1) := by
  have start := Rewired.refl media
  unfold switchRtspSourcesLocked
  simp only
  split
  · next same => exact .inl ⟨rfl, media.pipeline, media.vencAttr, by rw [← same]⟩
  next differs =>
  split
  · exact .inr ⟨rfl, differs, start.pipeline _⟩
  split
  · exact .inr ⟨rfl, differs, start.pipeline _⟩
  split
  · exact .inr ⟨rfl, differs, ((start.pipeline _).reconfigure _ _ _).pipeline _⟩
  split
  · exact .inr ⟨rfl, differs,
      (((start.pipeline _).reconfigure _ _ _).reconfigure _ _ _).restore _ _⟩
  split
  · exact .inr ⟨rfl, differs,
      ((((start.pipeline _).reconfigure _ _ _).reconfigure _ _ _).pipeline _).restore _ _⟩
  split
  · exact .inl ⟨rfl,
      (((start.pipeline _).reconfigure _ _ _).reconfigure _ _ _).switched _ thermalMain⟩
  · exact .inr ⟨rfl, differs,
      ((((start.pipeline _).reconfigure _ _ _).reconfigure _ _ _).pipeline _).restore _ _⟩

/-! ### The calls of the interface -/

variable (media : Impl Number)

/-- The tail that the setters share: a lens is selected, and then the main view. -/
def showLens (lens : Lens) (thermalMain : Bool) (calls : Calls Number) :
    Impl Number × Option Errno :=
  let selected := selectLensLocked floats media lens calls.lens
  match selected.2 with
  | some errno => (selected.1, some errno)
  | none => switchRtspSourcesLocked selected.1 thermalMain calls.sources

/-- `ca_media_impl_set_lens`. -/
def setLens (lens : Lens) (calls : Calls Number) : Impl Number × Option Errno :=
  showLens floats media lens false calls

/-- `digital_ratio` of `ca_media_impl_set_zoom`. -/
def requestedRatio (zoom : Number) : Number :=
  match lensFor floats .mt11 zoom with
  | .wide => zoom
  | .zoom =>
    match media.e5739 with
    | some _ => one floats
    | none => floats.div zoom (floats.literal zoomLensBase)

/-- `fabsf(digital_ratio - media->digital_ratio[group]) > 0.001f`. -/
def ratioChanges (zoom : Number) : Bool :=
  floats.less (floats.literal (1 / 1000))
    (floats.abs (floats.sub (requestedRatio floats media zoom)
      (media.digitalRatio (groupOf (lensFor floats .mt11 zoom)))))

/-- The command to the motor, where there is one. -/
def moveMotor (requestedOptical : Number) (calls : MotorCalls) : Impl Number × Option Errno :=
  match media.e5739 with
  | none => (media, none)
  | some motor =>
    let moved := motor.setZoom floats requestedOptical calls
    ({ media with e5739 := some moved.1 }, moved.2)

/-- `ca_mt11_set_digital_zoom` and the entry it is recorded in. -/
def setDigitalZoom (group : Group) (ratio : Number) (succeeds : Bool) : Impl Number × Bool :=
  if zoomInRange floats .mt11 ratio && succeeds then
    ({ media with digitalRatio := Function.update media.digitalRatio group ratio }, true)
  else (media, false)

/-- The step of `ca_media_impl_set_zoom` that makes the crop. -/
def crop (media moved : Impl Number) (zoom : Number) (calls : Calls Number) :
    Impl Number × Bool :=
  if ratioChanges floats media zoom then
    setDigitalZoom floats moved (groupOf (lensFor floats .mt11 zoom))
      (requestedRatio floats media zoom) calls.crop
  else (moved, true)

/-- `ca_media_impl_set_zoom`. -/
def setZoom (zoom : Number) (calls : Calls Number) : Impl Number × Option Errno :=
  if zoomInRange floats .mt11 zoom = false then (media, some invalid)
  else
    let moved := moveMotor floats media (zoomLensOptical floats .mt11 zoom) calls.motor
    match moved.2 with
    | some errno => (moved.1, some errno)
    | none =>
      let cropped := crop floats media moved.1 zoom calls
      if cropped.2 = false then
        ((moveMotor floats cropped.1 (zoomLensOptical floats .mt11 media.zoom) calls.rollback).1,
          some inputOutput)
      else
        let shown := showLens floats cropped.1 (lensFor floats .mt11 zoom) false calls
        match shown.2 with
        | some errno => (shown.1, some errno)
        | none => ({ shown.1 with zoom }, none)

/-- `ca_media_impl_set_thermal_main`. -/
def setThermalMain (thermalMain : Bool) (calls : Calls Number) : Impl Number × Option Errno :=
  if thermalMain then showLens floats media .zoom true calls
  else switchRtspSourcesLocked media false calls.sources

/-- `EPROTO`. -/
def protocolError : Errno := 71

/-- `ca_mt11_thermal_get_gain`. -/
def getThermalGain (calls : Calls Number) : Except Errno UInt8 :=
  match calls.thermal with
  | some errno => .error errno
  | none => if media.thermal.gain ≤ 1 then .ok media.thermal.gain else .error protocolError

/-- `ca_mt11_thermal_set_gain`. -/
def setThermalGain (gain : UInt8) (calls : Calls Number) : Impl Number × Option Errno :=
  if gain ≤ 1 then
    match calls.thermal with
    | none => ({ media with thermal := { media.thermal with gain } }, none)
    | some errno => (media, some errno)
  else (media, some invalid)

/-- `ca_mt11_thermal_get_palette`. -/
def getThermalPalette (calls : Calls Number) : Except Errno UInt8 :=
  match calls.thermal with
  | some errno => .error errno
  | none =>
    if paletteValid media.thermal.palette then .ok media.thermal.palette
    else .error protocolError

/-- `ca_media_impl_set_recording`. -/
def setRecording (active : Bool) (calls : Calls Number) : Impl Number × Option Errno :=
  let set := recorderSet media.recording active calls.recorder
  ({ media with recording := set.1 }, set.2)

/-- `ca_media_impl_apply_image`. -/
def applyImage (settings : Configuration) (calls : Calls Number) : Impl Number × Option Errno :=
  if calls.isp then
    ({ media with
        config := { media.config with settings := copyImage media.config.settings settings } },
      none)
  else (media, some inputOutput)

/-- A change of the view. -/
inductive Control (Number : Type)
  | lens (lens : Lens)
  | zoom (zoom : Number)
  | thermalMain (thermalMain : Bool)

/-- A change of the view and how the device calls of it turn out. -/
structure Step (Number : Type) where
  control : Control Number
  calls : Calls Number

/-- Do one change of the view. -/
def perform (step : Step Number) : Impl Number × Option Errno :=
  match step.control with
  | .lens lens => setLens floats media lens step.calls
  | .zoom zoom => setZoom floats media zoom step.calls
  | .thermalMain thermalMain => setThermalMain floats media thermalMain step.calls

/-- Do changes of the view one after another. -/
def run (steps : List (Step Number)) : Impl Number :=
  steps.foldl (fun media step => (perform floats media step).1) media

def backend : Backend Number (Calls Number) where
  target := .mt11
  Impl := Impl Number
  reading media :=
    { zoom := media.zoom
      lens := media.lens
      thermalMain := media.thermalMain
      gain := media.thermal.gain
      palette := media.thermal.palette
      inverted := media.inverted
      recording := media.recording }
  implOpen := implOpen floats
  setInverted := setInverted
  setLens := setLens floats
  setZoom := setZoom floats
  setThermalMain := setThermalMain floats
  getThermalGain := getThermalGain
  setThermalGain := setThermalGain
  getThermalPalette := getThermalPalette
  setThermalPalette := setThermalPalette
  setRecording := setRecording
  applyImage := applyImage

end Mt11Media
