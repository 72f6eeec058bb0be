/-
This file is about the registers of the sensor over whole runs of updates and requests. The shadow
copy is what the sensor holds, so what is flagged as changed is all that has to be written, and
behind every request the sensor holds what the updates have set since the last initialisation.
-/

import CameraGimbal.Imx586
import Mathlib.Data.List.Induction

namespace Imx586

open List Function Option

/-! ### What the sensor should hold -/

/-- The value that an update sets for a register, if it sets one. -/
def Update.value : Update → Register → Option UInt32
  | .gains again _, .againH => some ((again >>> 8) &&& 0x3)
  | .gains again _, .againL => some (again &&& 0xff)
  | .gains _ dgain, .dgainH => some ((dgain >>> 8) &&& 0xf)
  | .gains _ dgain, .dgainL => some (dgain &&& 0xff)
  | .inttime intTime, .exposureH => some (clampedTime intTime >>> 8)
  | .inttime intTime, .exposureL => some (clampedTime intTime &&& 0xff)
  | .slowFramerate fullLines _, .vmaxH => some (clampedLines fullLines >>> 8)
  | .slowFramerate fullLines _, .vmaxL => some (clampedLines fullLines &&& 0xff)
  | .framerate fps _, .vmaxH =>
    if fps < minFps || maxFps < fps then none else some (framesLines fps >>> 8)
  | .framerate fps _, .vmaxL =>
    if fps < minFps || maxFps < fps then none else some (framesLines fps &&& 0xff)
  | _, _ => none

/-- Whether the registers have been asked for, and the updates since the last initialisation. -/
structure Since where
  called : Bool
  updates : List Update

/-- The first request and every one with the flag clear initialise. -/
def Since.step (since : Since) : Event → Since
  | .update update => { since with updates := since.updates ++ [update] }
  | .regsInfo config =>
    if since.called = false ∨ config = false then { called := true, updates := [] } else since

def since (events : List Event) : Since := events.foldl Since.step ⟨false, []⟩

/-- The last value that the updates set for a register, or its default. -/
def lastValue (updates : List Update) (register : Register) : UInt32 :=
  (updates.reverse.findSome? fun update => update.value register).getD (dynamicDefault register)

/-! ### Updates -/

section

variable (info : RegsInfo) (register other : Register) (data : UInt32)

@[simp]
theorem set_data :
    ((info.set register data).i2cData other).data =
      if other = register then data else (info.i2cData other).data := by
  unfold RegsInfo.set
  dsimp only
  by_cases same : other = register
  · rw [if_pos same, same, update_self]
  · rw [if_neg same, update_of_ne same]

@[simp]
theorem set_regAddr :
    ((info.set register data).i2cData other).regAddr = (info.i2cData other).regAddr := by
  unfold RegsInfo.set
  dsimp only
  by_cases same : other = register
  · rw [same, update_self]
  · rw [update_of_ne same]

end

@[simp]
theorem set_regNum (info : RegsInfo) (register : Register) (data : UInt32) :
    (info.set register data).regNum = info.regNum :=
  rfl

theorem apply_data (update : Update) (state : State) (register : Register) :
    ((update.apply state).current.i2cData register).data =
      (update.value register).getD (state.current.i2cData register).data := by
  cases update with
  | gains again dgain =>
    cases register <;> simp [Update.apply, gainsUpdate, Update.value]
  | inttime intTime =>
    cases register <;> simp [Update.apply, inttimeUpdate, Update.value]
  | slowFramerate fullLines aeDefault =>
    cases register <;> simp [Update.apply, slowFramerateSet, Update.value]
  | framerate fps aeDefault =>
    by_cases outside : (fps < minFps || maxFps < fps) = true
    · cases register <;> simp [Update.apply, fpsSet, Update.value, outside]
    · cases register <;> simp [Update.apply, fpsSet, Update.value, outside]

theorem apply_frame (update : Update) (state : State) :
    (update.apply state).syncInit = state.syncInit ∧
      (update.apply state).shadow = state.shadow ∧
      (update.apply state).current.regNum = state.current.regNum ∧
      ∀ register, ((update.apply state).current.i2cData register).regAddr =
        (state.current.i2cData register).regAddr := by
  cases update with
  | gains again dgain => exact ⟨rfl, rfl, rfl, fun _ => by simp [Update.apply, gainsUpdate]⟩
  | inttime intTime => exact ⟨rfl, rfl, rfl, fun _ => by simp [Update.apply, inttimeUpdate]⟩
  | slowFramerate fullLines aeDefault =>
    exact ⟨rfl, rfl, rfl, fun _ => by simp [Update.apply, slowFramerateSet]⟩
  | framerate fps aeDefault =>
    by_cases outside : (fps < minFps || maxFps < fps) = true
    · simp [Update.apply, fpsSet, outside]
    · simp [Update.apply, fpsSet, outside]

theorem lastValue_append (updates : List Update) (update : Update) (register : Register) :
    lastValue (updates ++ [update]) register =
      (update.value register).getD (lastValue updates register) := by
  unfold lastValue
  rw [reverse_append, reverse_singleton, singleton_append, findSome?_cons]
  cases update.value register <;> rfl

/-! ### Values are bytes -/

theorem shiftRight_lt {value : UInt32} (small : value.toNat ≤ 65535) :
    (value >>> 8).toNat < 256 := by
  rw [UInt32.toNat_shiftRight]
  show value.toNat >>> 8 < 256
  rw [Nat.shiftRight_eq_div_pow]
  omega

theorem and_lt {value mask : UInt32} (small : mask.toNat < 256) : (value &&& mask).toNat < 256 := by
  rw [UInt32.toNat_and]
  exact Nat.lt_of_le_of_lt Nat.and_le_right small

theorem clampedTime_le (intTime : UInt32) : (clampedTime intTime).toNat ≤ 65535 := by
  unfold clampedTime
  split
  · decide
  · split
    · decide
    · next above =>
      rw [UInt32.lt_iff_toNat_lt, Nat.not_lt] at above
      exact above

theorem clampedLines_le (fullLines : UInt32) : (clampedLines fullLines).toNat ≤ 65535 := by
  unfold clampedLines
  split
  · decide
  · next above =>
    rw [UInt32.lt_iff_toNat_lt, Nat.not_lt] at above
    exact above

theorem value_lt {update : Update} {register : Register} {value : UInt32}
    (sets : update.value register = some value) : value.toNat < 256 := by
  unfold Update.value at sets
  split at sets
  · exact some.inj sets ▸ and_lt (by decide)
  · exact some.inj sets ▸ and_lt (by decide)
  · exact some.inj sets ▸ and_lt (by decide)
  · exact some.inj sets ▸ and_lt (by decide)
  · exact some.inj sets ▸ shiftRight_lt (clampedTime_le _)
  · exact some.inj sets ▸ and_lt (by decide)
  · exact some.inj sets ▸ shiftRight_lt (clampedLines_le _)
  · exact some.inj sets ▸ and_lt (by decide)
  · split at sets
    · cases sets
    · exact some.inj sets ▸ shiftRight_lt (clampedLines_le _)
  · split at sets
    · cases sets
    · exact some.inj sets ▸ and_lt (by decide)
  · cases sets

theorem lastValue_lt (updates : List Update) (register : Register) :
    (lastValue updates register).toNat < 256 := by
  unfold lastValue
  cases found : updates.reverse.findSome? fun update => update.value register with
  | none => cases register <;> decide
  | some value =>
    obtain ⟨update, -, sets⟩ := exists_of_findSome?_eq_some found
    exact value_lt sets

theorem byte_of_lt {value : UInt32} (small : value.toNat < 256) :
    value.toUInt8.toUInt32 = value := by
  rw [← UInt32.toNat_inj, UInt8.toNat_toUInt32, UInt32.toNat_toUInt8]
  exact Nat.mod_eq_of_lt small

/-! ### Writing -/

theorem dynamicRegister_injective : Injective dynamicRegister := by
  intro first second same
  cases first <;> cases second <;> first | rfl | exact absurd same (by decide)

theorem index_lt (register : Register) : register.index < regCount := by
  cases register <;> decide

theorem write_register {info : RegsInfo} (whole : info.regNum = regCount)
    (addresses : ∀ register, (info.i2cData register).regAddr = dynamicRegister register)
    (sensor : Sensor) (register : Register) :
    sensor.write info (dynamicRegister register) =
      if (info.i2cData register).update then (info.i2cData register).data.toUInt8
      else sensor (dynamicRegister register) := by
  have general (list : List Register) (distinct : list.Nodup) (start : Sensor) :
      list.foldl (fun sensor register =>
        let entry := info.i2cData register
        if register.index < info.regNum ∧ entry.update then
          update sensor entry.regAddr entry.data.toUInt8
        else sensor) start (dynamicRegister register) =
      if register ∈ list ∧ (info.i2cData register).update then
        (info.i2cData register).data.toUInt8
      else start (dynamicRegister register) := by
    induction list generalizing start with
    | nil => simp
    | cons first rest hypothesis =>
      rw [foldl_cons, hypothesis (nodup_cons.mp distinct).2]
      have inside : first.index < info.regNum := whole ▸ index_lt first
      by_cases same : register = first
      · subst same
        have absent := (nodup_cons.mp distinct).1
        by_cases updates : (info.i2cData register).update = true <;>
          simp [absent, updates, inside, addresses]
      · have apart : dynamicRegister register ≠ dynamicRegister first :=
          fun equal => same (dynamicRegister_injective equal)
        by_cases updates : (info.i2cData first).update = true <;>
          simp [same, updates, inside, addresses, apart]
  have every : register ∈ registers := by cases register <;> decide
  rw [Sensor.write, general registers (by decide)]
  simp [every]

/-! ### Runs -/

/-- How the driver and the sensor stand to the updates since the last initialisation. -/
structure Follows (system : System) (since : Since) : Prop where
  called : system.state.syncInit = since.called
  whole : since.called = true → system.state.current.regNum = regCount
  addresses : since.called = true →
    ∀ register, (system.state.current.i2cData register).regAddr = dynamicRegister register
  current : since.called = true → ∀ register,
    (system.state.current.i2cData register).data = lastValue since.updates register
  shadow : since.called = true → ∀ register,
    (system.sensor (dynamicRegister register)).toUInt32 =
      (system.state.shadow.i2cData register).data

theorem Follows.update {system : System} {since : Since} (follows : Follows system since)
    (update : Update) : Follows (system.step (.update update)) (since.step (.update update)) := by
  obtain ⟨synced, shadow, whole, addresses⟩ := apply_frame update system.state
  refine ⟨synced.trans follows.called, fun called => whole.trans (follows.whole called),
    fun called register => (addresses register).trans (follows.addresses called register),
    fun called register => ?_, fun called register => ?_⟩
  · show ((update.apply system.state).current.i2cData register).data =
      lastValue (since.updates ++ [update]) register
    rw [apply_data, lastValue_append, follows.current called]
  · show _ = ((update.apply system.state).shadow.i2cData register).data
    rw [shadow]
    exact follows.shadow called register

theorem Follows.regsInfo {system : System} {since : Since} (follows : Follows system since)
    (config : Bool) : Follows (system.step (.regsInfo config)) (since.step (.regsInfo config)) := by
  unfold System.step Since.step getSnsRegsInfo
  rw [follows.called]
  by_cases initial : since.called = false ∨ config = false
  · simp only [if_pos initial]
    refine ⟨rfl, fun _ => rfl, fun _ _ => rfl, fun _ _ => rfl, fun _ register => ?_⟩
    dsimp only
    rw [write_register (show initialInfo.regNum = regCount from rfl) (fun _ => rfl)]
    exact byte_of_lt (by cases register <;> decide)
  · simp only [if_neg initial]
    have called : since.called = true := by simpa using fun no => initial (.inl no)
    have whole := follows.whole called
    have entry (register : Register) :
        (system.state.current.flagged system.state.shadow).i2cData register =
          { system.state.current.i2cData register with
            update := decide ((system.state.current.i2cData register).data ≠
              (system.state.shadow.i2cData register).data) } := by
      unfold RegsInfo.flagged
      exact if_pos (whole ▸ index_lt register)
    have flagged : (system.state.current.flagged system.state.shadow).regNum = regCount := whole
    have addresses (register : Register) :
        ((system.state.current.flagged system.state.shadow).i2cData register).regAddr =
          dynamicRegister register := by
      rw [entry]
      exact follows.addresses called register
    have current (register : Register) :
        ((system.state.current.flagged system.state.shadow).i2cData register).data =
          lastValue since.updates register := by
      rw [entry]
      exact follows.current called register
    refine ⟨called.symm, fun _ => whole, fun _ => addresses, fun _ => current, fun _ register => ?_⟩
    dsimp only
    rw [write_register flagged addresses, current]
    by_cases changed : (system.state.current.i2cData register).data ≠
        (system.state.shadow.i2cData register).data
    · rw [entry, if_pos (decide_eq_true changed)]
      exact byte_of_lt (lastValue_lt _ _)
    · rw [entry, if_neg (by simpa using changed), follows.shadow called, ← not_not.mp changed]
      exact follows.current called register

theorem step_called (since : Since) (config : Bool) :
    (since.step (.regsInfo config)).called = true := by
  unfold Since.step
  dsimp only
  split
  · rfl
  · next later => simpa using fun no => later (.inl no)

theorem run_follows (sensor : Sensor) (events : List Event) :
    Follows (run ⟨globalInit, sensor⟩ events) (since events) := by
  induction events using reverseRecOn with
  | nil => exact ⟨rfl, nofun, nofun, nofun, nofun⟩
  | append_singleton events event hypothesis =>
    rw [run, since, foldl_append, foldl_append]
    cases event with
    | update update => exact hypothesis.update update
    | regsInfo config => exact hypothesis.regsInfo config

/-- Behind every request of every run, whatever the sensor held before, it holds the last value
that the updates have set for each register since the last initialisation, and the shadow copy is
the sensor. -/
theorem sensor_in_step (sensor : Sensor) (events : List Event) (config : Bool)
    (register : Register) :
    let system := run ⟨globalInit, sensor⟩ (events ++ [.regsInfo config])
    (system.sensor (dynamicRegister register)).toUInt32 =
        lastValue (since (events ++ [.regsInfo config])).updates register ∧
      (system.sensor (dynamicRegister register)).toUInt32 =
        (system.state.shadow.i2cData register).data := by
  have follows := run_follows sensor (events ++ [.regsInfo config])
  have called : (since (events ++ [.regsInfo config])).called = true := by
    rw [since, List.foldl_append]
    exact step_called _ config
  have synced : (run ⟨globalInit, sensor⟩ (events ++ [.regsInfo config])).state.shadow =
      (run ⟨globalInit, sensor⟩ (events ++ [.regsInfo config])).state.current := by
    rw [run, List.foldl_append]
    rfl
  refine ⟨?_, follows.shadow called register⟩
  rw [follows.shadow called register, synced]
  exact follows.current called register

end Imx586
