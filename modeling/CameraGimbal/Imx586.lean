/-
This file models the gains, the exposure and the frame rate of the IMX586 sensor. The updates set
registers in a structure of the driver, and the caller asks for that structure now and then and
writes what is flagged as changed.

A conversion of a number that is not one, which C leaves undefined, gives zero here.
-/

import Mathlib.Data.List.Basic

namespace Imx586

/-! ### Registers -/

/-- `enum imx586_reg_index`. -/
inductive Register where
  | exposureH
  | exposureL
  | againH
  | againL
  | dgainH
  | dgainL
  | vmaxH
  | vmaxL
  deriving DecidableEq, Repr

/-- `IMX586_REG_COUNT`. -/
def regCount : Nat := 8

def Register.index : Register → Nat
  | .exposureH => 0
  | .exposureL => 1
  | .againH => 2
  | .againL => 3
  | .dgainH => 4
  | .dgainL => 5
  | .vmaxH => 6
  | .vmaxL => 7

/-- `imx586_dynamic_registers`. -/
def dynamicRegister : Register → UInt32
  | .exposureH => 0x0202
  | .exposureL => 0x0203
  | .againH => 0x0204
  | .againL => 0x0205
  | .dgainH => 0x020e
  | .dgainL => 0x020f
  | .vmaxH => 0x0340
  | .vmaxL => 0x0341

/-- `imx586_dynamic_defaults`. -/
def dynamicDefault : Register → UInt32
  | .exposureH => 0x0b
  | .exposureL => 0xc4
  | .againH => 0x00
  | .againL => 0x00
  | .dgainH => 0x01
  | .dgainL => 0x00
  | .vmaxH => 0x0b
  | .vmaxL => 0xf8

/-- `ot_isp_i2c_data`, without the constants of the bus. -/
structure I2cData where
  update : Bool
  regAddr : UInt32
  data : UInt32
  deriving DecidableEq, Repr

/-- `ot_isp_sns_regs_info`: the entries, of which the first count, and the caller's flag. -/
structure RegsInfo where
  i2cData : Register → I2cData
  regNum : Nat
  config : Bool

/-- The structure full of zeros. -/
def RegsInfo.zero : RegsInfo where
  i2cData _ := ⟨false, 0, 0⟩
  regNum := 0
  config := false

/-- Set the value of an entry. -/
def RegsInfo.set (info : RegsInfo) (register : Register) (data : UInt32) : RegsInfo :=
  { info with
    i2cData := Function.update info.i2cData register { info.i2cData register with data } }

/-- The fields of `ot_isp_sns_state` that the updates use: the current structure and the shadow
copy, and the lengths of the frames. -/
structure State where
  syncInit : Bool
  flStd : UInt32
  fl : UInt32
  lastFl : UInt32
  current : RegsInfo
  shadow : RegsInfo

/-- `MT11_IMX586_VMAX`. -/
def vmax : UInt32 := 3064

/-- `imx586_sensor_global_init`. -/
def globalInit : State where
  syncInit := false
  flStd := vmax
  fl := vmax
  lastFl := vmax
  current := .zero
  shadow := .zero

/-! ### Asking for the registers -/

/-- Every register with its default. -/
def initialInfo : RegsInfo where
  i2cData register := ⟨true, dynamicRegister register, dynamicDefault register⟩
  regNum := regCount
  config := false

/-- Flag the entries that are not as in the shadow copy. -/
def RegsInfo.flagged (current shadow : RegsInfo) : RegsInfo :=
  { current with
    i2cData := fun register =>
      if register.index < current.regNum then
        { current.i2cData register with
          update := decide ((current.i2cData register).data ≠ (shadow.i2cData register).data) }
      else current.i2cData register }

/-- `imx586_get_sns_regs_info`, for pointers that are not null. -/
def getSnsRegsInfo (state : State) (config : Bool) : State × RegsInfo :=
  let current :=
    if state.syncInit = false ∨ config = false then initialInfo
    else state.current.flagged state.shadow
  ({ state with
      syncInit := true
      current := current
      shadow := current
      lastFl := state.fl },
    current)

/-! ### Updates -/

/-- `imx586_gains_update`. -/
def gainsUpdate (state : State) (again dgain : UInt32) : State :=
  { state with
    current :=
      (((state.current.set .againH ((again >>> 8) &&& 0x3)).set .againL (again &&& 0xff)).set
        .dgainH ((dgain >>> 8) &&& 0xf)).set .dgainL (dgain &&& 0xff) }

/-- An exposure between its ends. -/
def clampedTime (intTime : UInt32) : UInt32 :=
  if intTime < 16 then 16 else if 65535 < intTime then 65535 else intTime

/-- `imx586_inttime_update`. -/
def inttimeUpdate (state : State) (intTime : UInt32) : State :=
  let intTime := clampedTime intTime
  { state with
    current :=
      (state.current.set .exposureH (intTime >>> 8)).set .exposureL (intTime &&& 0xff) }

/-- The fields of `ot_isp_ae_sensor_default` that the updates set. -/
structure AeDefault where
  fps : Float32
  linesPer500ms : UInt32
  fullLinesStd : UInt32
  fullLines : UInt32
  maxIntTime : UInt32
  hmaxTimes : UInt32

/-- No more lines than the registers hold. -/
def clampedLines (fullLines : UInt32) : UInt32 := if 65535 < fullLines then 65535 else fullLines

/-- `imx586_slow_framerate_set`. -/
def slowFramerateSet (state : State) (fullLines : UInt32) (aeDefault : AeDefault) :
    State × AeDefault :=
  let fullLines := clampedLines fullLines
  ({ state with
      fl := fullLines
      current := (state.current.set .vmaxH (fullLines >>> 8)).set .vmaxL (fullLines &&& 0xff) },
    { aeDefault with fullLines := fullLines, maxIntTime := fullLines - 2 })

/-- `MT11_IMX586_MIN_FPS`. -/
def minFps : Float32 := 1.4

/-- `MT11_IMX586_MAX_FPS`. -/
def maxFps : Float32 := 30

def framesLines (fps : Float32) : UInt32 :=
  clampedLines (vmax.toFloat32 * maxFps / fps).toUInt32

/-- `imx586_fps_set`. -/
def fpsSet (state : State) (fps : Float32) (aeDefault : AeDefault) : State × AeDefault :=
  if fps < minFps || maxFps < fps then (state, aeDefault)
  else
    let lines := framesLines fps
    ({ state with
        flStd := lines
        fl := lines
        current := (state.current.set .vmaxH (lines >>> 8)).set .vmaxL (lines &&& 0xff) },
      { fps
        linesPer500ms := (lines.toFloat32 * fps * 0.5).toUInt32
        fullLinesStd := lines
        fullLines := lines
        maxIntTime := lines - 48
        hmaxTimes := (1000000000 / (lines.toFloat32 * fps)).toUInt32 })

/-! ### The analogue gain -/

/-- `imx586_again_calc`: the gain and the code for a request. Nothing changes for a request of
zero. -/
def againCalc (againLin againDb : UInt32) : UInt32 × UInt32 :=
  if againLin = 0 then (againLin, againDb)
  else
    let code := 1024 - 1048576 / againLin
    let clamped := if code < 112 then 112 else if 1008 < code then 1008 else code
    (1048576 / (1024 - clamped), clamped)

/-! ### Runs -/

inductive Update where
  | gains (again dgain : UInt32)
  | inttime (intTime : UInt32)
  | slowFramerate (fullLines : UInt32) (aeDefault : AeDefault)
  | framerate (fps : Float32) (aeDefault : AeDefault)

def Update.apply (state : State) : Update → State
  | .gains again dgain => gainsUpdate state again dgain
  | .inttime intTime => inttimeUpdate state intTime
  | .slowFramerate fullLines aeDefault => (slowFramerateSet state fullLines aeDefault).1
  | .framerate fps aeDefault => (fpsSet state fps aeDefault).1

/-- An update, or a request for the registers with the flag of the caller's structure. -/
inductive Event where
  | update (update : Update)
  | regsInfo (config : Bool)

/-- What the registers of the sensor hold. -/
abbrev Sensor := UInt32 → UInt8

/-- All entries. -/
def registers : List Register :=
  [.exposureH, .exposureL, .againH, .againL, .dgainH, .dgainL, .vmaxH, .vmaxL]

/-- The caller writes the entries with the flag, a byte each. -/
def Sensor.write (sensor : Sensor) (info : RegsInfo) : Sensor :=
  registers.foldl (fun sensor register =>
    let entry := info.i2cData register
    if register.index < info.regNum ∧ entry.update then
      Function.update sensor entry.regAddr entry.data.toUInt8
    else sensor) sensor

/-- The driver with its sensor. -/
structure System where
  state : State
  sensor : Sensor

def System.step (system : System) : Event → System
  | .update update => { system with state := update.apply system.state }
  | .regsInfo config =>
    let asked := getSnsRegsInfo system.state config
    { state := asked.1, sensor := system.sensor.write asked.2 }

def run (system : System) (events : List Event) : System := events.foldl System.step system

end Imx586
