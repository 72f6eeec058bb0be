/-
This file says for which commands every conversion of a parameter to an integer, and every sum made
of what comes out, is one that the language defines. The zoom and the camera mode check their
parameters before they convert them and are always safe; the other commands are safe for numbers
whose integer parts the types hold.
-/

import CameraGimbal.CameraCommands

namespace CameraCommands

open Config SinglePrecision Option

/-! ### Chains of conversions -/

theorem branch_isSome {Result : Type} {condition : Prop} [Decidable condition]
    {first second : Option Result} (isFirst : first.isSome = true)
    (isSecond : ¬ condition → second.isSome = true) :
    (if condition then first else second).isSome = true := by
  by_cases holds : condition
  · rw [if_pos holds]
    exact isFirst
  · rw [if_neg holds]
    exact isSecond holds

section

variable {First Second : Type} {first : Option First} {rest : First → Option Second}

theorem bind_isSome_of_total (total : ∀ number, (rest number).isSome = true) :
    (first >>= rest).isSome = true ↔ first.isSome = true := by
  cases first with
  | none => exact Iff.rfl
  | some number => exact iff_of_true (total number) rfl

theorem bind_isSome_of_iff {condition : Prop}
    (restHas : ∀ number, first = some number → ((rest number).isSome = true ↔ condition)) :
    (first >>= rest).isSome = true ↔ first.isSome = true ∧ condition := by
  cases first with
  | none => exact iff_of_false nofun fun both => Bool.false_ne_true both.1
  | some number => exact (restHas number rfl).trans (iff_and_self.mpr fun _ => rfl)

end

theorem inRange_isSome {low high number : Int} :
    (inRange low high number).isSome = true ↔ low ≤ number ∧ number ≤ high := by
  unfold inRange
  split
  · next inside => exact iff_of_true rfl inside
  · next outside => exact iff_of_false nofun outside

/-- The parameter can be converted to an `unsigned` or a `uint32_t`. -/
def FitsUInt32 (x : Float32) : Prop := Converts 0 4294967295 x

/-- The parameter can be converted to an `int32_t`. -/
def FitsInt32 (x : Float32) : Prop := Converts (-2147483648) 2147483647 x

/-- The parameter can be converted to a `uint64_t`. -/
def FitsUInt64 (x : Float32) : Prop := Converts 0 18446744073709551615 x

variable {x : Float32}

theorem toUInt32_isSome : (toUInt32 x).isSome = true ↔ FitsUInt32 x := convert_isSome

theorem toInt32_isSome : (toInt32 x).isSome = true ↔ FitsInt32 x := convert_isSome

theorem toUInt64_isSome : (toUInt64 x).isSome = true ↔ FitsUInt64 x := convert_isSome

/-! ### Commands that check first -/

theorem fitsUInt32_of_small (finite : x.isFinite = true) (least : ¬ x < 0) (most : ¬ 2 < x) :
    FitsUInt32 x := by
  rw [lt_iff_value finite (by decide), value_zero.2, not_lt] at least
  rw [lt_iff_value (by decide) finite, value_two.2, not_lt] at most
  refine ⟨⌊value x⌋, truncated_of_nonneg finite least, Int.floor_nonneg.mpr least, ?_⟩
  have small : ⌊value x⌋ ≤ 2 := Int.floor_le_iff.mpr (by push_cast; linarith only [most])
  omega

theorem setZoom_isSome (target : Target) (devices : Devices) (server : Server)
    (type number : Float32) : (setZoom target devices server type number).isSome = true := by
  unfold setZoom
  refine branch_isSome rfl fun _ => ?_
  refine branch_isSome rfl fun finite => ?_
  refine branch_isSome rfl fun inside => ?_
  refine branch_isSome rfl fun _ => ?_
  refine branch_isSome rfl fun _ => ?_
  simp only [Bool.or_eq_true, Bool.not_eq_true', not_or, Bool.not_eq_false, decide_eq_true_eq]
    at finite inside
  have fits := fitsUInt32_of_small finite.1 inside.1.1 inside.1.2
  refine (bind_isSome_of_total fun zoomType => ?_).mpr (toUInt32_isSome.mpr fits)
  simp only [apply_ite isSome, isSome_some, ite_self]

theorem setCameraMode_isSome (target : Target) (server : Server) (params : Fin 7 → Float32) :
    (setCameraMode target server params).isSome = true := by
  unfold setCameraMode
  refine branch_isSome rfl fun passed => ?_
  simp only [Bool.or_eq_true, Bool.not_eq_true', not_or, Bool.not_eq_false, Bool.and_eq_true,
    not_and] at passed
  obtain ⟨⟨finite, binary⟩, -⟩ := passed
  refine (bind_isSome_of_total fun _ => rfl).mpr (convert_isSome.mpr ?_)
  have isBinary : value (params 1) = 0 ∨ value (params 1) = 1 := by
    by_cases isZero : (params 1 == 0) = true
    · rw [beq_iff_value finite (by decide), value_zero.2] at isZero
      exact .inl isZero
    · have isOne := binary (Bool.not_eq_true _ ▸ isZero)
      rw [beq_iff_value finite (by decide), value_one.2] at isOne
      exact .inr isOne
  rcases isBinary with isZero | isOne
  · refine ⟨0, ?_, by decide, by decide⟩
    rw [truncated_of_nonneg finite isZero.ge, isZero, Int.floor_zero]
  · refine ⟨1, ?_, by decide, by decide⟩
    rw [truncated_of_nonneg finite (isOne ▸ zero_le_one), isOne, Int.floor_one]

/-! ### Commands that convert as they come -/

theorem setFocus_isSome (target : Target) (devices : Devices) (server : Server)
    (type number : Float32) :
    (setFocus target devices server type number).isSome = true ↔
      (haveFocus target = true → FitsUInt32 type) := by
  unfold setFocus
  split
  · next without =>
    have none : haveFocus target = false := by simpa using without
    exact iff_of_true rfl fun have' => absurd (none.symm.trans have') Bool.false_ne_true
  · next with' =>
    have some : haveFocus target = true := by simpa using with'
    rw [imp_iff_right some, ← toUInt32_isSome]
    refine bind_isSome_of_total fun focusType => ?_
    simp only [apply_ite isSome, isSome_some, ite_self]

theorem ite_isSome {condition : Bool} {first second : Option Int} (total : second.isSome = true) :
    (if condition then first else second).isSome = true ↔
      (condition = true → first.isSome = true) := by
  cases condition with
  | false => exact iff_of_true total nofun
  | true => exact (imp_iff_right rfl).symm

variable {params : Fin 7 → Float32}

theorem instanceOf_isSome :
    (instanceOf params).isSome = true ↔ ((params 1).isFinite = true → FitsUInt32 (params 1)) := by
  rw [← toUInt32_isSome]
  exact ite_isSome rfl

variable (server : Server)

theorem requestMessage_isSome (params : Fin 7 → Float32) :
    (requestMessage server params).isSome = true ↔
      FitsUInt32 (params 0) ∧ ((params 1).isFinite = true → FitsUInt32 (params 1)) := by
  unfold requestMessage
  rw [← toUInt32_isSome, ← instanceOf_isSome]
  refine bind_isSome_of_iff fun requested _ => ?_
  refine bind_isSome_of_total fun stream => ?_
  simp only [apply_ite isSome, isSome_some, ite_self]

theorem requestStream_isSome (reply : Nat → Reply) (params : Fin 7 → Float32) :
    (requestStream server reply params).isSome = true ↔ FitsUInt32 (params 0) := by
  unfold requestStream
  rw [← toUInt32_isSome]
  exact bind_isSome_of_total fun _ => rfl

theorem setCameraSource_isSome (devices : Devices) (server : Server) (params : Fin 7 → Float32) :
    (setCameraSource devices server params).isSome = true ↔ FitsUInt32 (params 1) := by
  unfold setCameraSource
  rw [← toUInt32_isSome]
  refine bind_isSome_of_total fun source => ?_
  simp only [apply_ite isSome, isSome_some, ite_self]

theorem switchStreaming_isSome (enabled : Bool) (params : Fin 7 → Float32) :
    (switchStreaming server enabled params).isSome = true ↔ FitsUInt32 (params 0) := by
  unfold switchStreaming
  rw [← toUInt32_isSome]
  refine bind_isSome_of_total fun stream => ?_
  simp only [apply_ite isSome, isSome_some, ite_self]

/-! ### Captures -/

/-- The number of pictures that a command asks for. -/
def pictures (params : Fin 7 → Float32) : Int :=
  if (params 2).isFinite then (truncated (params 2)).getD 0 else 1

/-- The index of the first picture: the one of the command or else the next one. -/
def firstIndex (server : Server) (params : Fin 7 → Float32) : Int :=
  if givesIndex params then (truncated (params 3)).getD 0
  else server.capture.nextImageIndex.toInt

/-- The interval of a sequence, in milliseconds. -/
def intervalMs (params : Fin 7 → Float32) : Float32 :=
  (if params 1 < 0.1 then 0.1 else params 1) * 1000

/-- A command starts to take pictures. -/
def Starts (params : Fin 7 → Float32) : Prop :=
  0 ≤ pictures params ∧ (params 1).isFinite = true ∧ ¬ params 1 < 0

/-- The number and the index can be converted; there is an index behind the first one when
pictures are taken; and the time of the second picture can be kept when there is one. -/
structure CaptureFits (devices : Devices) (server : Server) (params : Fin 7 → Float32) :
    Prop where
  count : (params 2).isFinite = true → FitsInt32 (params 2)
  index : givesIndex params = true → FitsInt32 (params 3)
  next : Starts params → firstIndex server params ≠ 2147483647
  interval : Starts params → pictures params ≠ 1 → FitsUInt64 (intervalMs params)
  due : Starts params → pictures params ≠ 1 →
    devices.monotonicMs + (truncated (intervalMs params)).getD 0 ≤ 18446744073709551615

theorem countOf_isSome :
    (countOf params).isSome = true ↔ ((params 2).isFinite = true → FitsInt32 (params 2)) := by
  rw [← toInt32_isSome]
  exact ite_isSome rfl

variable {server : Server}

theorem indexOf_isSome :
    (indexOf server params).isSome = true ↔ (givesIndex params = true → FitsInt32 (params 3)) := by
  rw [← toInt32_isSome]
  exact ite_isSome rfl

theorem convert_getD {low high number : Int} (converted : convert low high x = some number) :
    (truncated x).getD 0 = number := by
  rw [(convert_eq_some.mp converted).1]
  rfl

theorem countOf_eq {count : Int} (converted : countOf params = some count) :
    pictures params = count := by
  unfold countOf at converted
  unfold pictures
  split
  · next finite =>
    rw [if_pos finite] at converted
    exact convert_getD converted
  · next finite =>
    rw [if_neg finite] at converted
    exact some.inj converted

/-- The index of the first picture is an `int32_t`. -/
theorem indexOf_eq {index : Int} (converted : indexOf server params = some index) :
    firstIndex server params = index ∧ -2147483648 ≤ index ∧ index ≤ 2147483647 := by
  unfold indexOf at converted
  unfold firstIndex
  split
  · next given =>
    rw [if_pos given] at converted
    exact ⟨convert_getD converted, (convert_eq_some.mp converted).2⟩
  · next given =>
    rw [if_neg given] at converted
    cases converted
    have least := server.capture.nextImageIndex.le_toInt
    have most := server.capture.nextImageIndex.toInt_lt
    exact ⟨rfl, by omega⟩

theorem starts_iff {count : Int} (isCount : pictures params = count) :
    Starts params ↔ ¬ (count < 0 || !(params 1).isFinite || params 1 < 0) = true := by
  unfold Starts
  rw [isCount]
  simp only [Bool.or_eq_true, decide_eq_true_eq, Bool.not_eq_true', not_or, Bool.not_eq_false,
    not_lt, and_assoc]

/-- The index behind the first one is an `int32_t` when the first one is not the last. -/
theorem next_isSome {index : Int} (least : -2147483648 ≤ index) (most : index ≤ 2147483647) :
    (inRange (-2147483648) 2147483647 (index + 1)).isSome = true ↔ index ≠ 2147483647 := by
  rw [inRange_isSome]
  omega

theorem due_isSome {now : Nat} {interval : Float32} {wait : Int}
    (converted : toUInt64 interval = some wait) :
    (inRange 0 18446744073709551615 (now + wait)).isSome = true ↔
      now + (truncated interval).getD 0 ≤ 18446744073709551615 := by
  have least := (convert_eq_some.mp converted).2.1
  rw [inRange_isSome, convert_getD converted]
  exact and_iff_right (by omega)

theorem imageStartCapture_isSome (devices : Devices) (server : Server) (params : Fin 7 → Float32) :
    (imageStartCapture devices server params).isSome = true ↔
      CaptureFits devices server params := by
  unfold imageStartCapture
  cases counted : countOf params with
  | none =>
    have unfit : ¬ ((params 2).isFinite = true → FitsInt32 (params 2)) := by
      rw [← countOf_isSome, counted]
      exact nofun
    exact iff_of_false nofun fun fits => unfit fits.count
  | some count =>
    cases indexed : indexOf server params with
    | none =>
      have unfit : ¬ (givesIndex params = true → FitsInt32 (params 3)) := by
        rw [← indexOf_isSome, indexed]
        exact nofun
      exact iff_of_false nofun fun fits => unfit fits.index
    | some index =>
      have countFits := countOf_isSome.mp (by rw [counted]; rfl)
      have indexFits := indexOf_isSome.mp (by rw [indexed]; rfl)
      have isCount := countOf_eq counted
      obtain ⟨isIndex, least, most⟩ := indexOf_eq indexed
      have nextIsSome := next_isSome least most
      simp only [bind_eq_bind, bind_some]
      by_cases starts : Starts params
      · rw [if_neg ((starts_iff isCount).mp starts)]
        by_cases one : count = 1
        · simp only [if_pos one]
          rw [← bind_eq_bind, bind_isSome_of_total fun _ => rfl, nextIsSome, ← isIndex]
          have single := isCount.trans one
          exact ⟨fun next => ⟨countFits, indexFits, fun _ => next,
            fun _ many => absurd single many, fun _ many => absurd single many⟩,
            fun fits => fits.next starts⟩
        · have many : pictures params ≠ 1 := isCount ▸ one
          simp only [if_neg one, ← bind_eq_bind]
          rw [bind_isSome_of_iff fun next _ =>
            bind_isSome_of_iff fun wait converted =>
              (bind_isSome_of_total fun _ => rfl).trans (due_isSome converted),
            nextIsSome, toUInt64_isSome, ← isIndex]
          exact ⟨fun ⟨next, interval, due⟩ => ⟨countFits, indexFits, fun _ => next,
            fun _ _ => interval, fun _ _ => due⟩,
            fun fits => ⟨fits.next starts, fits.interval starts many, fits.due starts many⟩⟩
      · rw [if_pos (not_not.mp (mt (starts_iff isCount).mpr starts))]
        exact iff_of_true rfl ⟨countFits, indexFits, fun does => absurd does starts,
          fun does => absurd does starts, fun does => absurd does starts⟩

/-! ### Every command -/

/-- The parameters that a command converts can be converted. -/
def CommandFits (target : Target) (devices : Devices) (server : Server)
    (params : Fin 7 → Float32) : Command → Prop
  | .requestMessage =>
    FitsUInt32 (params 0) ∧ ((params 1).isFinite = true → FitsUInt32 (params 1))
  | .requestVideoStreamInformation | .requestVideoStreamStatus => FitsUInt32 (params 0)
  | .videoStartStreaming | .videoStopStreaming => FitsUInt32 (params 0)
  | .setCameraFocus => haveFocus target = true → FitsUInt32 (params 0)
  | .setCameraSource => FitsUInt32 (params 1)
  | .imageStartCapture => CaptureFits devices server params
  | _ => True

theorem handleCameraCommand_isSome (target : Target) (devices : Devices) (server : Server)
    (command : Command) (params : Fin 7 → Float32) :
    (handleCameraCommand target devices server command params).isSome = true ↔
      CommandFits target devices server params command := by
  cases command with
  | requestMessage => exact requestMessage_isSome server params
  | requestVideoStreamInformation => exact requestStream_isSome server .streamInformation params
  | requestVideoStreamStatus => exact requestStream_isSome server .streamStatus params
  | setCameraMode => exact iff_of_true (setCameraMode_isSome target server params) trivial
  | setCameraZoom =>
    refine iff_of_true ?_ trivial
    exact (bind_isSome_of_total fun _ => rfl).mpr
      (setZoom_isSome target devices server (params 0) (params 1))
  | setCameraFocus => exact setFocus_isSome target devices server (params 0) (params 1)
  | setCameraSource => exact setCameraSource_isSome devices server params
  | imageStartCapture => exact imageStartCapture_isSome devices server params
  | videoStartStreaming => exact switchStreaming_isSome server true params
  | videoStopStreaming => exact switchStreaming_isSome server false params
  | _ => exact iff_of_true rfl trivial

theorem commandCamera_isSome (target : Target) (devices : Devices) (server : Server)
    (message : CommandLong) :
    (commandCamera target devices server message).isSome = true ↔
      (targetMatches server message.targetSystem message.targetComponent
          server.cameraComponentId = true →
        CommandFits target devices server message.params message.command) := by
  unfold commandCamera
  split
  · next isCamera =>
    rw [imp_iff_right isCamera, ← handleCameraCommand_isSome]
    exact bind_isSome_of_total fun _ => rfl
  · next isOther => exact iff_of_true rfl fun isCamera => absurd isCamera isOther

/-- The message is one that the gimbal looks at. -/
def ReachesGimbal (server : Server) (message : CommandLong) : Prop :=
  32 ≤ message.length ∧
    targetMatches server message.targetSystem message.targetComponent gimbalComponentId = true

/-- The gimbal answers, and the camera does not see the message. -/
def GimbalAnswers (message : CommandLong) : Prop :=
  message.targetComponent = gimbalComponentId ∨
    message.command = .requestMessage ∧
      (truncated (message.params 0) = some gimbalDeviceInformationId ∨
        truncated (message.params 0) = some gimbalDeviceAttitudeStatusId)

/-- The message is one that the camera takes. -/
def ReachesCamera (server : Server) (message : CommandLong) : Prop :=
  32 ≤ message.length ∧
    (ReachesGimbal server message → ¬ GimbalAnswers message) ∧
    targetMatches server message.targetSystem message.targetComponent server.cameraComponentId =
      true

/-- The gimbal can convert what it looks at, and the camera what it takes. -/
structure MessageFits (target : Target) (devices : Devices) (server : Server)
    (message : CommandLong) : Prop where
  gimbal : ReachesGimbal server message → message.command = .requestMessage →
    FitsUInt32 (message.params 0)
  camera : ReachesCamera server message →
    CommandFits target devices server message.params message.command

variable {target : Target} {devices : Devices} {message : CommandLong}

theorem commandCamera_isSome_of_reaches (long : 32 ≤ message.length)
    (passes : ReachesGimbal server message → ¬ GimbalAnswers message) :
    (commandCamera target devices server message).isSome = true ↔
      (ReachesCamera server message →
        CommandFits target devices server message.params message.command) := by
  rw [commandCamera_isSome]
  exact imp_congr_left ⟨fun isCamera => ⟨long, passes, isCamera⟩, fun reaches => reaches.2.2⟩

theorem messageFits_of_answers
    (reaches : ReachesGimbal server message) (answers : GimbalAnswers message)
    (fits : message.command = .requestMessage → FitsUInt32 (message.params 0)) :
    MessageFits target devices server message :=
  ⟨fun _ => fits, fun camera => absurd answers (camera.2.1 reaches)⟩

theorem messageFits_iff_of_passes
    (long : 32 ≤ message.length) (passes : ReachesGimbal server message → ¬ GimbalAnswers message)
    (fits : ReachesGimbal server message → message.command = .requestMessage →
      FitsUInt32 (message.params 0)) : (commandCamera target devices server message).isSome = true ↔
      MessageFits target devices server message := by
  rw [commandCamera_isSome_of_reaches long passes]
  exact ⟨fun camera => ⟨fits, camera⟩, fun fits => fits.camera⟩

/-- Handling a message converts only what can be converted, and adds only what the types hold, when
and only when the message fits. -/
theorem handleCommandLong_isSome (target : Target) (devices : Devices) (server : Server)
    (message : CommandLong) :
    (handleCommandLong target devices server message).isSome = true ↔
      MessageFits target devices server message := by
  unfold handleCommandLong
  by_cases short : message.length < 32
  · rw [if_pos short]
    exact iff_of_true rfl ⟨fun reaches => by have := reaches.1; omega,
      fun reaches => by have := reaches.1; omega⟩
  have long := not_lt.mp short
  rw [if_neg short]
  by_cases isGimbal : targetMatches server message.targetSystem message.targetComponent
      gimbalComponentId = true
  · have reaches : ReachesGimbal server message := ⟨long, isGimbal⟩
    rw [if_pos isGimbal]
    by_cases request : message.command = .requestMessage
    · rw [if_pos request]
      cases converted : toUInt32 (message.params 0) with
      | none =>
        have unfit : ¬ FitsUInt32 (message.params 0) := by
          rw [← toUInt32_isSome, converted]
          exact nofun
        exact iff_of_false nofun fun fits => unfit (fits.gimbal reaches request)
      | some requested =>
        have fits : FitsUInt32 (message.params 0) := toUInt32_isSome.mp (by rw [converted]; rfl)
        have isTruncated := (convert_eq_some.mp converted).1
        rw [Option.bind_eq_bind, Option.bind_some]
        split
        · next information =>
          have answers : GimbalAnswers message := .inr ⟨request, .inl (information ▸ isTruncated)⟩
          exact iff_of_true rfl (messageFits_of_answers reaches answers fun _ => fits)
        next other =>
        split
        · next status =>
          have answers : GimbalAnswers message := .inr ⟨request, .inr (status ▸ isTruncated)⟩
          exact iff_of_true rfl (messageFits_of_answers reaches answers fun _ => fits)
        next another =>
        split
        · next isTarget =>
          exact iff_of_true rfl (messageFits_of_answers reaches (.inl isTarget) fun _ => fits)
        · next otherTarget =>
          refine messageFits_iff_of_passes long (fun _ answers => ?_) fun _ _ => fits
          rw [GimbalAnswers, isTruncated, Option.some_inj, Option.some_inj] at answers
          rcases answers with isTarget | ⟨-, information | status⟩
          · exact otherTarget isTarget
          · exact other information
          · exact another status
    · rw [if_neg request]
      split
      · next isTarget =>
        exact iff_of_true rfl
          (messageFits_of_answers reaches (.inl isTarget) fun is => absurd is request)
      · next otherTarget =>
        refine messageFits_iff_of_passes long (fun _ answers => ?_) fun _ is => absurd is request
        rcases answers with isTarget | ⟨is, -⟩
        · exact otherTarget isTarget
        · exact request is
  · rw [if_neg isGimbal]
    exact messageFits_iff_of_passes long (fun reaches => absurd reaches.2 isGimbal)
      fun reaches => absurd reaches.2 isGimbal

/-! ### A request without a number -/

def requestWithoutNumber : CommandLong where
  length := 33
  targetSystem := 1
  targetComponent := 100
  command := .requestMessage
  params := fun _ => nan

def startedServer : Server where
  systemId := 1
  cameraComponentId := 100
  capture := ⟨0, 0, 1, 0, 0, (), [], []⟩
  cameraMode := 0
  streamEnabled := fun _ => true
  zoomRate := 0
  focusPercent := nan
  recordingStartedMs := 0
  sent := []

/-- Devices for which every call succeeds. -/
def workingDevices : Devices where
  zoom := 1
  setZoom := fun _ => true
  setZoomRate := fun _ => true
  autofocus := true
  manualFocus := fun _ => true
  setFocusPercent := fun _ => true
  setThermalMain := fun _ => true
  setRecording := fun _ => true
  capturePhoto := true
  monotonicMs := 1000

/-- The number of the message is converted without a look at it. -/
theorem requestWithoutNumber_undefined :
    ¬ (handleCommandLong .a8 workingDevices startedServer requestWithoutNumber).isSome = true := by
  decide

end CameraCommands
