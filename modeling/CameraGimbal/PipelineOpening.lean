/-
This file is about opening the pipelines of the A8 and of the ZR10, and about what is released when
a call fails on the way.

The ZR10 notes every resource behind the call that acquires it, and releases what it has noted. The
A8 notes how far it has got, and releases what it would have acquired by then; before the system is
up it releases nothing.
-/

import CameraGimbal.Acquisition

namespace PipelineOpening

open Acquisition List

/-- An opening: what it leaves, what it has released itself, and whether it succeeded. -/
structure Opening (Resource Flags : Type) where
  state : State Resource Flags
  released : List Resource
  succeeds : Bool

/-- An opening that fails has freed everything. Behind one that succeeds, closing does. -/
def AllOrNothing {Resource Flags : Type} [DecidableEq Resource]
    (uses : Resource → List Resource) (close : Flags → List Resource)
    (opening : Opening Resource Flags) : Prop :=
  Frees uses (if opening.succeeds then close opening.state.flags else opening.released)
    opening.state.held

instance {Resource Flags : Type} [DecidableEq Resource] (uses : Resource → List Resource)
    (close : Flags → List Resource) (opening : Opening Resource Flags) :
    Decidable (AllOrNothing uses close opening) :=
  inferInstanceAs (Decidable (Frees uses _ _))

structure Stream where
  width : Nat
  height : Nat
  deriving DecidableEq, Repr

/-! ### The ZR10 -/

namespace Zr10

/-- `CA_ZR10_VENC_COUNT`, and `CHANNELS` with the one for photos. -/
def vencCount : Nat := 3

def channels : Nat := 4

/-- The libraries of the SDK, from `libcam_os_wrapper.so` to `libmi_venc.so`. -/
def libraries : Nat := 9

/-- What is acquired: the lock, the libraries, and what the SDK has up. -/
inductive Resource where
  | lock
  | library (index : Nat)
  | sys
  | sensor
  | vifDev
  | vifPort
  | vpeChannel
  | vpeStarted
  | frontBind
  | vpePort (channel : Nat)
  | vencChannel (channel : Nat)
  | vencBind (channel : Nat)
  | receiving (channel : Nat)
  | fd (channel : Nat)
  deriving DecidableEq, Repr

/-- The calls at which opening can fail, and the checks that end it likewise. -/
inductive Call where
  | openLock
  | flock
  | openProc
  | scanOwners
  | dlopen (index : Nat)
  | resolve (index : Nat)
  | dlsym
  | sysInit
  | snrSetPlaneMode
  | snrQueryResCount
  | fewResolutions
  | snrGetRes (index : Nat)
  | findResolution
  | snrSetRes
  | snrSetFps
  | snrEnable
  | snrGetPadInfo
  | snrGetPlaneInfo
  | checkMode
  | vifSetDevAttr
  | vifEnableDev
  | vifSetChnPortAttr
  | vifEnableChnPort
  | vpeCreateChannel
  | vpeSetChannelParam
  | vpeStartChannel
  | sysBindFront
  | vpeSetPortMode (channel : Nat)
  | vpeEnablePort (channel : Nat)
  | vencCreateChn (channel : Nat)
  | vencGetChnDevid (channel : Nat)
  | sysBindChnPort (channel : Nat)
  | vencStartRecvPic (channel : Nat)
  | vencGetFd (channel : Nat)
  deriving Repr

def claimHardware : List (Call × Option Resource) :=
  [(.openLock, some .lock), (.flock, none), (.openProc, none), (.scanOwners, none)]

/-- `load_sdk`. The second handles of the libraries are closed at once. -/
def loadSdk : List (Call × Option Resource) :=
  (List.range libraries).map (fun index => (.dlopen index, some (.library index))) ++
    (List.range libraries).map (fun index => (.resolve index, none)) ++ [(.dlsym, none)]

/-- `sensor_start`, for a sensor with so many resolutions. -/
def sensorStart (count : Nat) : List (Call × Option Resource) :=
  (.snrSetPlaneMode, none) :: (.snrQueryResCount, none) :: (.fewResolutions, none) ::
    ((List.range count).map fun index => (.snrGetRes index, none)).append
      [(.findResolution, none), (.snrSetRes, none), (.snrSetFps, none),
        (.snrEnable, some .sensor), (.snrGetPadInfo, none), (.snrGetPlaneInfo, none),
        (.checkMode, none), (.vifSetDevAttr, none), (.vifEnableDev, some .vifDev),
        (.vifSetChnPortAttr, none), (.vifEnableChnPort, some .vifPort),
        (.vpeCreateChannel, some .vpeChannel), (.vpeSetChannelParam, none),
        (.vpeStartChannel, some .vpeStarted), (.sysBindFront, some .frontBind)]

/-- `encoder_open` for a video stream. -/
def encoderOpen (channel : Nat) : List (Call × Option Resource) :=
  [(.vpeSetPortMode channel, none), (.vpeEnablePort channel, some (.vpePort channel)),
    (.vencCreateChn channel, some (.vencChannel channel)), (.vencGetChnDevid channel, none),
    (.sysBindChnPort channel, some (.vencBind channel)),
    (.vencStartRecvPic channel, some (.receiving channel)),
    (.vencGetFd channel, some (.fd channel))]

/-- The calls of `ca_zr10_pipeline_open` in their order. The flag of a resource is set behind the
call that acquires it. -/
def calls (count : Nat) : List (Call × Option Resource) :=
  claimHardware ++ loadSdk ++ [(.sysInit, some .sys)] ++ sensorStart count ++
    (List.range vencCount).flatMap encoderOpen

def encoderClose (channel : Nat) : List Resource :=
  [.receiving channel, .fd channel, .vencBind channel, .vencChannel channel, .vpePort channel]

/-- The order of `ca_zr10_pipeline_close`. -/
def closeOrder : List Resource :=
  (List.range channels).reverse.flatMap encoderClose ++
    [.frontBind, .vpeStarted, .vpeChannel, .vifPort, .vifDev, .sensor, .sys] ++
    (List.range libraries).reverse.map .library ++ [.lock]

/-- `ca_zr10_pipeline_close`: what has its flag set is released. -/
def close (flags : List Resource) : List Resource := closeOrder.filter (· ∈ flags)

/-- What a resource needs as long as it is held. -/
def uses : Resource → List Resource
  | .lock => []
  | .library index => .lock :: (List.range index).map .library
  | .sys => (List.range libraries).map .library
  | .sensor => [.sys]
  | .vifDev => [.sys, .sensor]
  | .vifPort => [.sys, .vifDev]
  | .vpeChannel => [.sys]
  | .vpeStarted => [.sys, .vpeChannel]
  | .frontBind => [.sys, .vifPort, .vpeChannel]
  | .vpePort _ => [.sys, .vpeChannel]
  | .vencChannel _ => [.sys]
  | .vencBind channel =>
    [.sys, .vpePort (if channel = vencCount then 0 else channel), .vencChannel channel]
  | .receiving channel => [.sys, .vencChannel channel]
  | .fd channel => [.sys, .vencChannel channel]

/-- The sizes that a stream may have. Its codec is one of the two that there are. -/
def validStream (stream : Stream) : Bool :=
  (stream.width, stream.height) ∈ [(1280, 720), (1920, 1080), (2560, 1440)]

/-- `ca_zr10_pipeline_open`, while the pipeline is not open. -/
def pipelineOpen (streams : List Stream) (count : Nat) (fails : Call → Bool) :
    Opening Resource (List Resource) :=
  if streams.all validStream then
    let (state, succeeds) := acquire fails ((calls count).flatMap noting) ⟨[], []⟩
    ⟨state, if succeeds then [] else close state.flags, succeeds⟩
  else ⟨⟨[], []⟩, [], false⟩

theorem calls_gains (count : Nat) :
    (calls count).filterMap Prod.snd = (calls 0).filterMap Prod.snd := by
  have queried : ((range count).map fun index =>
      ((.snrGetRes index, none) : Call × Option Resource)).filterMap Prod.snd = [] := by
    rw [filterMap_map]
    exact filterMap_eq_nil_iff.mpr fun _ _ => rfl
  have started : (sensorStart count).filterMap Prod.snd = (sensorStart 0).filterMap Prod.snd := by
    show filterMap Prod.snd (List.append _ _) = _
    rw [append_eq, filterMap_append, queried]
    rfl
  simp only [calls, filterMap_append, started]

theorem opening_all_or_nothing (streams : List Stream) (count : Nat) (fails : Call → Bool) :
    AllOrNothing uses close (pipelineOpen streams count fails) := by
  unfold AllOrNothing pipelineOpen
  split
  · have usersFirst : UsersFirst uses closeOrder := by decide
    have once : ((calls count).filterMap Prod.snd).Nodup := by
      rw [calls_gains]
      decide
    have within : ∀ resource ∈ (calls count).filterMap Prod.snd, resource ∈ closeOrder := by
      rw [calls_gains]
      decide
    have frees := noting_frees (by decide +kernel) usersFirst (by decide) once within fails
    generalize acquire fails ((calls count).flatMap noting) ⟨[], []⟩ = outcome at frees ⊢
    obtain ⟨state, succeeds⟩ := outcome
    cases succeeds with
    | true => exact frees
    | false => exact frees
  · rfl

end Zr10

/-! ### The A8 -/

namespace A8

/-- `CA_A8_VENC_COUNT`. -/
def vencCount : Nat := 3

/-- The libraries, named like the handles in the pipeline. -/
inductive Library where
  | libm
  | libpthread
  | camOsWrapper
  | sys
  | snr
  | vif
  | ispAlgo
  | cus3a
  | isp
  | scl
  | venc
  deriving DecidableEq, Repr

/-- What is acquired: the libraries, and what the SDK has up. -/
inductive Resource where
  | library (library : Library)
  | sys
  | sensor
  | vifGroup
  | vifDevice
  | vifPort
  | ispDevice
  | ispChannel
  | ispStarted
  | ispPort
  | sclDevice
  | sclChannel
  | sclStarted
  | bindVif
  | bindIsp
  | sclPort (port : Nat)
  | vencDevice
  | vencChannel (channel : Nat)
  | vencReceiving (channel : Nat)
  | vencBind (channel : Nat)
  | vencDescriptor (channel : Nat)
  | jpegDevice
  | jpegChannel
  | jpegBind
  deriving DecidableEq, Repr

/-- The calls at which opening can fail, and the check that ends it likewise. The symbols of a
library are one call. -/
inductive Call where
  | dlopen (library : Library)
  | symbols (library : Library)
  | dlsym
  | sysInit
  | snrInitDevice
  | snrSetPlaneMode
  | snrGetResolutionCount
  | findResolution
  | snrSetResolution
  | snrEnable
  | snrSetFramerate
  | snrGetPadInfo
  | snrGetPlaneInfo
  | vifCreateGroup
  | vifSetDeviceConfig
  | vifEnableDevice
  | vifSetPortConfig
  | vifEnablePort
  | ispCreateDevice
  | ispCreateChannel
  | ispSetChannelParam
  | ispStartChannel
  | ispSetPortConfig
  | ispEnablePort
  | sclCreateDevice
  | sclCreateChannel
  | sclAdjustChannelRotation
  | sclStartChannel
  | bindVif
  | bindIsp
  | sclSetPortConfig (port : Nat)
  | sclEnablePort (port : Nat)
  | vencCreateDevice
  | vencCreateChannel (channel : Nat)
  | vencStartReceiving (channel : Nat)
  | vencBind (channel : Nat)
  | vencGetDescriptor (channel : Nat)
  | jpegCreateDevice
  | jpegCreateChannel
  | jpegBind
  deriving DecidableEq, Repr

/-- How far opening has got. -/
inductive Stage where
  | none
  | sys
  | sensor
  | vif
  | isp
  | scl
  | bound
  | ports
  | venc
  deriving DecidableEq, Repr

/-- The stage, and the resources of which a handle or a flag is set. -/
structure Flags where
  stage : Stage
  noted : List Resource
  deriving DecidableEq, Repr

/-- The stage is at least this one. -/
def Flags.reached (flags : Flags) (stage : Stage) : Bool := stage.ctorIdx ≤ flags.stage.ctorIdx

/-- `p->stage = stage`. -/
def enter (stage : Stage) : Step Call Resource Flags :=
  .assign fun flags => { flags with stage }

/-- The handle or the flag of a resource is set. -/
def note (resource : Resource) : Step Call Resource Flags :=
  .assign fun flags => { flags with noted := resource :: flags.noted }

/-- A library whose handle is kept. -/
def dlopen (library : Library) : List (Step Call Resource Flags) :=
  [.call (.dlopen library) (some (.library library)), note (.library library)]

def symbols (library : Library) : List (Step Call Resource Flags) :=
  [.call (.symbols library) none]

/-- `load_libraries` behind its first two libraries. -/
def loadLibraries : List (Step Call Resource Flags) :=
  List.flatten
    [dlopen .camOsWrapper, dlopen .sys, symbols .sys, dlopen .snr, symbols .snr, dlopen .vif,
      symbols .vif, dlopen .ispAlgo, dlopen .cus3a, dlopen .isp, symbols .isp, dlopen .scl,
      symbols .scl, dlopen .venc, symbols .venc, [.call .dlsym none]]

/-- What is done before the pipeline closes itself when a call fails. -/
def loading : List (Step Call Resource Flags) :=
  loadLibraries ++ [.call .sysInit (some .sys), enter .sys]

/-- `sensor_start`. Nothing undoes the initialisation of the device. -/
def sensorStart : List (Step Call Resource Flags) :=
  [.call .snrInitDevice none, .call .snrSetPlaneMode none, .call .snrGetResolutionCount none,
    .call .findResolution none, .call .snrSetResolution none, .call .snrEnable (some .sensor),
    enter .sensor, .call .snrSetFramerate none, .call .snrGetPadInfo none,
    .call .snrGetPlaneInfo none]

def vifStart : List (Step Call Resource Flags) :=
  [.call .vifCreateGroup (some .vifGroup), enter .vif, .call .vifSetDeviceConfig none,
    .call .vifEnableDevice (some .vifDevice), .call .vifSetPortConfig none,
    .call .vifEnablePort (some .vifPort)]

def ispStart : List (Step Call Resource Flags) :=
  [.call .ispCreateDevice (some .ispDevice), enter .isp,
    .call .ispCreateChannel (some .ispChannel), .call .ispSetChannelParam none,
    .call .ispStartChannel (some .ispStarted), .call .ispSetPortConfig none,
    .call .ispEnablePort (some .ispPort)]

def sclStart : List (Step Call Resource Flags) :=
  [.call .sclCreateDevice (some .sclDevice), enter .scl,
    .call .sclCreateChannel (some .sclChannel), .call .sclAdjustChannelRotation none,
    .call .sclStartChannel (some .sclStarted)]

def bindFrontEnd : List (Step Call Resource Flags) :=
  [.call .bindVif (some .bindVif), enter .bound, .call .bindIsp (some .bindIsp)]

def sclPortsStart : List (Step Call Resource Flags) :=
  enter .ports :: (List.range vencCount).flatMap fun port =>
    [.call (.sclSetPortConfig port) none, .call (.sclEnablePort port) (some (.sclPort port)),
      note (.sclPort port)]

def vencStart : List (Step Call Resource Flags) :=
  enter .venc :: .call .vencCreateDevice (some .vencDevice) ::
    ((List.range vencCount).flatMap fun channel =>
      [.call (.vencCreateChannel channel) (some (.vencChannel channel)),
        note (.vencChannel channel),
        .call (.vencStartReceiving channel) (some (.vencReceiving channel)),
        .call (.vencBind channel) (some (.vencBind channel)), note (.vencBind channel),
        .call (.vencGetDescriptor channel) (some (.vencDescriptor channel)),
        note (.vencDescriptor channel)]).append
    [.call .jpegCreateDevice (some .jpegDevice), .call .jpegCreateChannel (some .jpegChannel),
      note .jpegChannel, .call .jpegBind (some .jpegBind), note .jpegBind]

/-- What is done while the pipeline closes itself when a call fails. -/
def starting : List (Step Call Resource Flags) :=
  sensorStart ++ vifStart ++ ispStart ++ sclStart ++ bindFrontEnd ++ sclPortsStart ++ vencStart

/-- The order of `ca_a8_pipeline_close`. -/
def closeOrder : List Resource :=
  List.flatten
    [(List.range vencCount).flatMap fun channel =>
        [.vencDescriptor channel, .vencReceiving channel, .vencBind channel,
          .vencChannel channel],
      [.jpegBind, .jpegChannel, .jpegDevice, .vencDevice],
      (List.range vencCount).map .sclPort,
      [.bindIsp, .bindVif, .sclStarted, .sclChannel, .sclDevice, .ispPort, .ispStarted,
        .ispChannel, .ispDevice, .vifPort, .vifDevice, .vifGroup, .sensor, .sys],
      [.library .vif, .library .venc, .library .snr, .library .scl, .library .isp,
        .library .cus3a, .library .ispAlgo, .library .sys, .library .camOsWrapper,
        .library .libpthread, .library .libm]]

/-- The condition under which closing releases a resource. -/
def due (flags : Flags) : Resource → Bool
  | .vencDescriptor channel => flags.reached .venc && .vencDescriptor channel ∈ flags.noted
  | .vencReceiving channel => flags.reached .venc && .vencChannel channel ∈ flags.noted
  | .vencBind channel => flags.reached .venc && .vencBind channel ∈ flags.noted
  | .vencChannel channel => flags.reached .venc && .vencChannel channel ∈ flags.noted
  | .jpegBind => flags.reached .venc && .jpegBind ∈ flags.noted
  | .jpegChannel | .jpegDevice => flags.reached .venc && .jpegChannel ∈ flags.noted
  | .vencDevice => flags.reached .venc
  | .sclPort port => flags.reached .ports && .sclPort port ∈ flags.noted
  | .bindIsp | .bindVif => flags.reached .bound
  | .sclStarted | .sclChannel | .sclDevice => flags.reached .scl
  | .ispPort | .ispStarted | .ispChannel | .ispDevice => flags.reached .isp
  | .vifPort | .vifDevice | .vifGroup => flags.reached .vif
  | .sensor => flags.reached .sensor
  | .sys => true
  | .library library => .library library ∈ flags.noted

/-- `ca_a8_pipeline_close`. -/
def close (flags : Flags) : List Resource :=
  if flags.stage = .none then [] else closeOrder.filter (due flags)

/-- What a resource needs as long as it is held. -/
def uses : Resource → List Resource
  | .library .libm => []
  | .library .libpthread => []
  | .library .camOsWrapper => []
  | .library .sys => [.library .camOsWrapper]
  | .library .ispAlgo => [.library .libm, .library .libpthread]
  | .library .cus3a => [.library .sys, .library .ispAlgo]
  | .library .isp => [.library .sys, .library .ispAlgo, .library .cus3a]
  | .library _ => [.library .sys]
  | .sys =>
    [.library .sys, .library .snr, .library .vif, .library .isp, .library .scl, .library .venc]
  | .sensor => [.sys]
  | .vifGroup => [.sys, .sensor]
  | .vifDevice => [.sys, .vifGroup]
  | .vifPort => [.sys, .vifDevice]
  | .ispDevice => [.sys]
  | .ispChannel => [.sys, .sensor, .ispDevice]
  | .ispStarted => [.sys, .ispChannel]
  | .ispPort => [.sys, .ispChannel]
  | .sclDevice => [.sys]
  | .sclChannel => [.sys, .sclDevice]
  | .sclStarted => [.sys, .sclChannel]
  | .bindVif => [.sys, .vifPort, .ispChannel]
  | .bindIsp => [.sys, .ispPort, .sclChannel]
  | .sclPort _ => [.sys, .sclChannel]
  | .vencDevice => [.sys]
  | .vencChannel _ => [.sys, .vencDevice]
  | .vencReceiving channel => [.sys, .vencChannel channel]
  | .vencBind channel => [.sys, .sclPort channel, .vencChannel channel]
  | .vencDescriptor channel => [.sys, .vencChannel channel]
  | .jpegDevice => [.sys]
  | .jpegChannel => [.sys, .jpegDevice]
  | .jpegBind => [.sys, .sclPort 0, .jpegChannel]

/-- The sizes that a stream may have: those of `CA_A8_SENSOR_WIDTH` and `CA_A8_SENSOR_HEIGHT`. -/
def validStream (stream : Stream) : Bool :=
  stream.width ≠ 0 && stream.width ≤ 3840 && stream.height ≠ 0 && stream.height ≤ 2160

/-- The two libraries that are opened first, both before either is looked at. -/
def preloaded (fails : Call → Bool) : List Library :=
  [.libm, .libpthread].filter fun library => !fails (.dlopen library)

/-- `ca_a8_pipeline_open` from the sensor on, where it closes the pipeline when a call fails. -/
def openStarting (fails : Call → Bool) (up : State Resource Flags) : Opening Resource Flags :=
  let (state, succeeds) := acquire fails starting up
  ⟨state, if succeeds then [] else close state.flags, succeeds⟩

/-- `ca_a8_pipeline_open` behind its first two libraries. -/
def openLoading (fails : Call → Bool) (opened : State Resource Flags) :
    Opening Resource Flags :=
  match acquire fails loading opened with
  | (up, true) => openStarting fails up
  | (state, false) => ⟨state, [], false⟩

/-- `ca_a8_pipeline_open`, while the pipeline is not open. -/
def pipelineOpen (streams : List Stream) (fails : Call → Bool) : Opening Resource Flags :=
  if streams.all validStream then
    let handles := (preloaded fails).map .library
    if (preloaded fails).length = 2 then openLoading fails ⟨handles, .none, handles⟩
    else ⟨⟨handles, .none, handles⟩, [], false⟩
  else ⟨⟨[], .none, []⟩, [], false⟩

/-! ### Where the A8 cleans up -/

/-- The first call of an opening that fails. -/
def firstFailing (fails : Call → Bool) : Option Call :=
  (.dlopen .libm :: .dlopen .libpthread :: (called loading ++ called starting)).find? fails

/-- The calls at whose failure the stage and the flags tell what there is. -/
def told : Call → Bool
  | .dlopen _ | .symbols _ | .dlsym | .sysInit => false
  | .vifSetDeviceConfig | .vifEnableDevice | .vifSetPortConfig | .vifEnablePort => false
  | .ispCreateChannel | .ispSetChannelParam | .ispStartChannel | .ispSetPortConfig
  | .ispEnablePort => false
  | .sclCreateChannel | .sclAdjustChannelRotation | .sclStartChannel => false
  | .bindIsp | .vencCreateDevice | .vencStartReceiving _ | .jpegCreateChannel => false
  | _ => true

/-- When opening the A8 is all or nothing: when nothing is acquired at all, or nothing fails, or
what fails first does so where the stage and the flags tell what there is. -/
def CleansUp (streams : List Stream) (fails : Call → Bool) : Prop :=
  streams.all validStream = false ∨
    (fails (.dlopen .libm) = true ∧ fails (.dlopen .libpthread) = true) ∨
    ∀ call ∈ firstFailing fails, told call = true

/-- What there is when the first two libraries are open. -/
def opened : State Resource Flags :=
  ⟨[.library .libm, .library .libpthread], .none, [.library .libm, .library .libpthread]⟩

/-- What there is when the system is up. -/
def up : State Resource Flags := loading.foldl Step.apply opened

theorem loading_untold :
    InFront (fun call state => told call = false ∧ ¬ Frees uses [] state.held) loading opened := by
  decide

theorem starting_told :
    InFront (fun call state => Frees uses (close state.flags) state.held ↔ told call = true)
      starting up := by
  decide +kernel

theorem started_frees :
    Frees uses (close (starting.foldl Step.apply up).flags)
      (starting.foldl Step.apply up).held := by
  decide

theorem openStarting_iff (fails : Call → Bool) :
    AllOrNothing uses close (openStarting fails up) ↔
      ∀ call ∈ (called starting).find? fails, told call = true := by
  unfold AllOrNothing openStarting
  rcases acquire_cases fails starting_told with
    ⟨none, result⟩ | ⟨call, final, found, result, tells⟩
  · rw [result, none]
    exact iff_of_true started_frees fun call member => nomatch member
  · rw [result, found]
    refine tells.trans ⟨fun calls _ member => ?_, fun calls => calls call rfl⟩
    cases member
    exact calls

theorem openLoading_iff (fails : Call → Bool) :
    AllOrNothing uses close (openLoading fails opened) ↔
      ∀ call ∈ ((called loading).find? fails).or ((called starting).find? fails),
        told call = true := by
  unfold openLoading
  rcases acquire_cases fails loading_untold with
    ⟨none, result⟩ | ⟨call, final, found, result, untold, left⟩
  · rw [result, none]
    exact openStarting_iff fails
  · rw [result, found]
    refine iff_of_false left fun calls => ?_
    have tells := calls call rfl
    rw [untold] at tells
    cases tells

theorem opening_iff (streams : List Stream) (fails : Call → Bool) :
    AllOrNothing uses close (pipelineOpen streams fails) ↔ CleansUp streams fails := by
  unfold pipelineOpen CleansUp firstFailing
  rw [find?_cons, find?_cons, find?_append]
  cases valid : streams.all validStream with
  | false => exact iff_of_true rfl (.inl rfl)
  | true =>
    cases libm : fails (.dlopen .libm) <;> cases libpthread : fails (.dlopen .libpthread)
    case false.false =>
      have both : preloaded fails = [.libm, .libpthread] := by
        simp [preloaded, libm, libpthread]
      rw [both]
      refine (openLoading_iff fails).trans ⟨fun tells => .inr (.inr tells), ?_⟩
      rintro (invalid | ⟨refused, -⟩ | tells)
      · cases invalid
      · cases refused
      · exact tells
    -- One of the two alone is left open; when both fail there is nothing.
    all_goals simp [preloaded, libm, libpthread, AllOrNothing, Frees, releaseAll, told]

end A8

/-- Opening the ZR10 is all or nothing. Opening the A8 is just when it cleans up. -/
theorem openings_all_or_nothing (streams : List Stream) :
    (∀ count fails, AllOrNothing Zr10.uses Zr10.close (Zr10.pipelineOpen streams count fails)) ∧
      ∀ fails, AllOrNothing A8.uses A8.close (A8.pipelineOpen streams fails) ↔
        A8.CleansUp streams fails :=
  ⟨Zr10.opening_all_or_nothing streams, A8.opening_iff streams⟩

def threeStreams : List Stream := [⟨1920, 1080⟩, ⟨1280, 720⟩, ⟨1920, 1080⟩]

/-- When the channel for photos is refused, its device stays; when the system does not start, the
libraries stay; when the second binding of the front end is refused, it is released all the same. -/
theorem a8_leftovers :
    (¬ AllOrNothing A8.uses A8.close (A8.pipelineOpen threeStreams (· = .jpegCreateChannel)) ∧
      .jpegDevice ∈ (A8.pipelineOpen threeStreams (· = .jpegCreateChannel)).state.held ∧
      .jpegDevice ∉ (A8.pipelineOpen threeStreams (· = .jpegCreateChannel)).released) ∧
    (¬ AllOrNothing A8.uses A8.close (A8.pipelineOpen threeStreams (· = .sysInit)) ∧
      .library .libm ∈ (A8.pipelineOpen threeStreams (· = .sysInit)).state.held ∧
      (A8.pipelineOpen threeStreams (· = .sysInit)).released = []) ∧
    ¬ AllOrNothing A8.uses A8.close (A8.pipelineOpen threeStreams (· = .bindIsp)) ∧
      .bindIsp ∉ (A8.pipelineOpen threeStreams (· = .bindIsp)).state.held ∧
      .bindIsp ∈ (A8.pipelineOpen threeStreams (· = .bindIsp)).released := by
  decide +kernel

end PipelineOpening
