/-
This file models the zoom of the lens motor: the calibration that is loaded for it, and the move to
a row of the calibration. A move may fail at any step. It is then tried again with the same request,
and the focus that it goes for is computed from where the focus has come.

Here the pin and the sleeps always work, so a step that fails has written no step, and moves
nothing.
-/

import CameraGimbal.E5739Tracking

namespace E5739Motor

open List Option Bool

open Mt11Media (Calibration calibrationRow)
open Optics (Floats)

/-! ### The calibration -/

section Calibration

variable {Number : Type} (floats : Floats Number) (lround : Number → Int)

/-- The bounds of a position column. -/
def inBounds (least most : Rat) (column : Number) : Bool :=
  floats.isFinite column && !floats.less column (floats.literal least) &&
    !floats.less (floats.literal most) column

/-- The loop over the focus columns, which widens the range of the row. -/
def focusRange (row : Calibration Number) : List Number → Option (Calibration Number)
  | [] => some row
  | column :: rest =>
    if inBounds floats 20 788 column then
      let position := lround column
      focusRange
        { row with
          focusMinimum := if position < row.focusMinimum then position else row.focusMinimum
          focusMaximum := if row.focusMaximum < position then position else row.focusMaximum }
        rest
    else none

/-- A row of the file, of fourteen columns. -/
def loadRow : List Number → Option (Calibration Number)
  | [factor, _, _, zoom, focus4, focus5, focus6, focus7, focus8, focus9, focus, _, _, _] =>
    if floats.isFinite factor && !floats.less factor (floats.literal 1) &&
        inBounds floats 0 1200 zoom && inBounds floats 20 788 focus then
      focusRange floats lround
        { factor := factor
          zoomPosition := lround zoom
          focusPosition := lround focus
          focusMinimum := lround focus
          focusMaximum := lround focus }
        [focus4, focus5, focus6, focus7, focus8, focus9, focus]
    else none
  | _ => none

/-- A row comes behind the one before it. -/
def behind (row : Calibration Number) : Option (Calibration Number) → Bool
  | none => true
  | some last =>
    !floats.less row.factor last.factor && decide (last.zoomPosition < row.zoomPosition)

/-- The loop over the rows, of the numbers that are read. -/
def loadRows : Nat → Option (Calibration Number) → List Number → Option (List (Calibration Number))
  | 0, _, _ => some []
  | room + 1, last, numbers =>
    if numbers = [] then some []
    else
      match loadRow floats lround (numbers.take 14) with
      | none => none
      | some row =>
        if behind floats row last then
          (loadRows room (some row) (numbers.drop 14)).map (row :: ·)
        else none

/-- `E5739_MAX_TABLE_ROWS`. -/
def maxTableRows : Nat := 2048

/-- `load_calibration`, from the numbers of the file: its first row and the others. -/
def loadCalibration (numbers : List Number) :
    Option (Calibration Number × List (Calibration Number)) :=
  match loadRows floats lround maxTableRows none numbers with
  | some (first :: rest) => some (first, rest)
  | _ => none

variable {floats lround}

theorem loadRows_increasing {room : Nat} {last : Option (Calibration Number)}
    {numbers : List Number} {rows : List (Calibration Number)}
    (loaded : loadRows floats lround room last numbers = some rows) :
    (∀ before ∈ last, ∀ row ∈ rows, before.zoomPosition < row.zoomPosition) ∧
      rows.Pairwise fun first second => first.zoomPosition < second.zoomPosition := by
  induction room generalizing last numbers rows with
  | zero =>
    rw [loadRows] at loaded
    cases loaded
    exact ⟨nofun, List.Pairwise.nil⟩
  | succ room hypothesis =>
    rw [loadRows] at loaded
    split at loaded
    · cases loaded
      exact ⟨nofun, List.Pairwise.nil⟩
    · split at loaded
      · cases loaded
      · rename_i row _
        split at loaded
        · rename_i isBehind
          obtain ⟨rest, restLoaded, rfl⟩ := map_eq_some_iff.mp loaded
          obtain ⟨after, increasing⟩ := hypothesis restLoaded
          have next : ∀ before ∈ last, before.zoomPosition < row.zoomPosition := by
            intro before isBefore
            rw [isBefore, behind, and_eq_true] at isBehind
            exact of_decide_eq_true isBehind.2
          refine ⟨fun before isBefore other member => ?_,
            pairwise_cons.mpr ⟨after row rfl, increasing⟩⟩
          rcases mem_cons.mp member with rfl | inRest
          · exact next before isBefore
          · exact (next before isBefore).trans (after row rfl other inRest)
        · cases loaded

theorem loadCalibration_injective {numbers : List Number} {first : Calibration Number}
    {rest : List (Calibration Number)}
    (loaded : loadCalibration floats lround numbers = some (first, rest))
    {one other : Calibration Number} (isRow : one ∈ first :: rest)
    (otherRow : other ∈ first :: rest)
    (same : one.zoomPosition = other.zoomPosition) : one = other := by
  unfold loadCalibration at loaded
  split at loaded
  · rename_i head tail rows
    obtain ⟨rfl, rfl⟩ := Prod.mk.inj (some.inj loaded)
    have increasing := (loadRows_increasing rows).2
    have distinct : ((head :: tail).map Calibration.zoomPosition).Nodup :=
      (pairwise_map.mpr increasing).imp ne_of_lt
    exact inj_on_of_nodup_map distinct isRow otherRow same
  · cases loaded

end Calibration

/-! ### The zoom -/

/-- The rest of `struct ca_e5739`: the motor with its calibration, whose first row is apart from the
others, the row it is at, and the zoom that is reported. -/
structure Driver (World Number : Type) where
  motor : Motor World
  firstRow : Calibration Number
  rows : List (Calibration Number)
  currentRow : Calibration Number
  current : currentRow ∈ firstRow :: rows
  opticalZoom : Number

section Zoom

variable {World Number : Type} (ports : Ports World) (floats : Floats Number)

def Driver.rowFor (driver : Driver World Number) (requested : Number) : Calibration Number :=
  calibrationRow floats requested driver.firstRow driver.rows

theorem calibrationRow_mem (requested : Number) (first : Calibration Number)
    (rest : List (Calibration Number)) :
    calibrationRow floats requested first rest ∈ first :: rest := by
  induction rest generalizing first with
  | nil => exact mem_cons_self
  | cons next rest hypothesis =>
    rw [calibrationRow]
    split
    · exact mem_cons_of_mem first (hypothesis next)
    · exact mem_cons_self

/-- `focus_target`: the distance to the current row, kept along the curve and within the range of
the row. -/
def Driver.focusTarget (driver : Driver World Number) (row : Calibration Number) (focus : Int) :
    Int :=
  let focusDelta := row.focusPosition - driver.currentRow.focusPosition
  let focusTarget := focus + focusDelta
  let focusTarget := if focusTarget < row.focusMinimum then row.focusMinimum else focusTarget
  if row.focusMaximum < focusTarget then row.focusMaximum else focusTarget

/-- `ca_e5739_set_zoom`: the driver, and whether the call succeeds. -/
def setZoom (driver : Driver World Number) (requested : Number) : Driver World Number × Bool :=
  if !floats.isFinite requested || floats.less requested (floats.literal 1) then (driver, false)
  else
    let row := driver.rowFor floats requested
    let focusTarget := driver.focusTarget row driver.motor.focusPosition
    let zoomed := moveZoomTo ports driver.motor row.zoomPosition
    if zoomed.2 = false then ({ driver with motor := zoomed.1 }, false)
    else
      let focused := moveFocusTo ports zoomed.1 focusTarget
      if focused.2 = false then ({ driver with motor := focused.1 }, false)
      else
        ({ driver with
            motor := focused.1
            currentRow := row
            current := calibrationRow_mem floats requested driver.firstRow driver.rows
            opticalZoom := row.factor }, true)

end Zoom

/-! ### How far a move comes -/

def stepsOver (distance : Int) : Nat := (distance.natAbs + (coarseSteps - 1)) / coarseSteps

/-- Where so many steps lead towards a target. -/
def towards (start target : Int) (count : Nat) : Int :=
  if start ≤ target then min target (start + coarseSteps * count)
  else max target (start - coarseSteps * count)

theorem towards_zero (start target : Int) : towards start target 0 = start := by
  unfold towards
  split <;> simp <;> omega

theorem towards_arrives {start target : Int} {count : Nat}
    (enough : stepsOver (target - start) ≤ count) : towards start target count = target := by
  unfold stepsOver coarseSteps at enough
  unfold towards coarseSteps
  split <;> omega

theorem towards_away {start target : Int} {count : Nat} (some : 0 < count)
    (other : start ≠ target) : towards start target count ≠ start := by
  unfold towards coarseSteps
  split <;> omega

theorem towards_succ (start target : Int) (count : Nat) :
    towards (towards start target 1) target count = towards start target (count + 1) := by
  unfold towards coarseSteps
  split <;> split <;> omega

theorem stepsOver_succ {start target : Int} (away : start ≠ target) :
    stepsOver (target - start) = stepsOver (target - towards start target 1) + 1 := by
  unfold stepsOver towards coarseSteps
  split <;> omega

theorem stepsOver_pos {start target : Int} (away : start ≠ target) :
    0 < stepsOver (target - start) := by
  rw [stepsOver_succ away]
  exact Nat.succ_pos _

/-! ### Moves that fail -/

/-- The pin and the sleeps always work. -/
structure Gates {World : Type} (ports : Ports World) : Prop where
  pin : ∀ world pin value, 0 ≤ (ports.call world (.pin pin value)).2
  sleep : ∀ world microseconds, 0 ≤ (ports.call world (.sleep microseconds)).2

section Moves

variable {World : Type} {ports : Ports World}

theorem Gates.batch (gates : Gates ports) (bus : Bus World) : (gateBatch ports bus).2 = true := by
  have raised : (gpioSet ports bus gatePin 1).2 = true := decide_eq_true (gates.pin _ _ _)
  have slept : (usleep ports (gpioSet ports bus gatePin 1).1 9000).2 = true :=
    decide_eq_true (gates.sleep _ _)
  unfold gateBatch
  rw [if_neg (by rw [raised]; exact true_eq_false.mp),
    if_neg (by rw [slept]; exact true_eq_false.mp)]
  exact decide_eq_true (gates.pin _ _ _)

/-- A step that fails moves nothing, and one that succeeds moves its channel only. -/
theorem motorStep_gated (gates : Gates ports) (motor : Motor World) (zoom : Bool)
    {steps direction : Nat} (valid : ¬ (steps = 0 ∨ coarseSteps < steps ∨ 1 < direction)) :
    (motorStep ports motor zoom steps direction).1.attempts.length = motor.attempts.length + 1 ∧
      ∀ channel, (motorStep ports motor zoom steps direction).1.position channel =
        motor.position channel +
          if (motorStep ports motor zoom steps direction).2 = true ∧ zoom = channel then
            signedSteps channel steps direction
          else 0 := by
  unfold motorStep
  rw [if_neg valid]
  dsimp only
  split
  · refine ⟨length_append, fun channel => ?_⟩
    rw [if_neg fun both => Bool.false_ne_true both.1, add_zero]
    cases channel <;> rfl
  · refine ⟨?_, fun channel => ?_⟩
    · cases zoom <;> exact length_append
    · rw [gates.batch]
      cases zoom <;> cases channel <;> simp [Motor.after, Motor.count, Motor.position]

/-- So many steps of a move succeed; if the move fails, one more was tried. -/
structure Moved (before after : Motor World) (succeeds zoom : Bool) (target : Int) (count : Nat) :
    Prop where
  attempts : after.attempts.length =
    before.attempts.length + count + if succeeds = true then 0 else 1
  other : after.position (!zoom) = before.position (!zoom)
  here : after.position zoom = towards (before.position zoom) target count
  steps : if succeeds = true then count = stepsOver (target - before.position zoom)
    else count < stepsOver (target - before.position zoom)

/-- A step towards a target. -/
theorem stepTowards_gated (gates : Gates ports) {motor : Motor World} {zoom : Bool} {target : Int}
    (away : motor.position zoom ≠ target) :
    (stepTowards ports motor zoom target).1.attempts.length = motor.attempts.length + 1 ∧
      (stepTowards ports motor zoom target).1.position (!zoom) = motor.position (!zoom) ∧
      (stepTowards ports motor zoom target).1.position zoom =
        if (stepTowards ports motor zoom target).2 = true then
          towards (motor.position zoom) target 1
        else motor.position zoom := by
  have valid := batchSteps_valid (sub_ne_zero.mpr away.symm) zoom
  obtain ⟨attempts, positions⟩ := motorStep_gated gates motor zoom valid
  refine ⟨attempts, ?_, ?_⟩
  · have other : ¬ zoom = !zoom := by cases zoom <;> exact nofun
    rw [stepTowards, positions, if_neg fun both => other both.2, add_zero]
  · rw [stepTowards, positions, signedSteps_batch]
    by_cases succeeds : (motorStep ports motor zoom (batchSteps (target - motor.position zoom))
        (batchDirection zoom (target - motor.position zoom))).2 = true
    · rw [if_pos ⟨succeeds, rfl⟩, if_pos succeeds]
      unfold towards batchSteps coarseSteps
      split <;> split <;> split <;> omega
    · rw [if_neg fun both => succeeds both.1, if_neg succeeds, add_zero]

theorem moveTo_moved (gates : Gates ports) (motor : Motor World) (zoom : Bool) (target : Int) :
    ∃ count, Moved motor (moveTo ports motor zoom target).1 (moveTo ports motor zoom target).2 zoom
      target count := by
  induction motor using moveTo.induct ports zoom target with
  | case1 motor away succeeds hypothesis =>
    obtain ⟨count, moved⟩ := hypothesis
    obtain ⟨attempts, other, here⟩ := stepTowards_gated gates away
    rw [if_pos succeeds] at here
    rw [moveTo, dif_pos away, dif_pos succeeds]
    refine ⟨count + 1, ?_, moved.other.trans other, ?_, ?_⟩
    · rw [moved.attempts, attempts]
      omega
    · rw [moved.here, here, towards_succ]
    · have steps := moved.steps
      rw [here] at steps
      rw [stepsOver_succ away]
      split at steps
      · rename_i done
        rw [if_pos done, steps]
      · rename_i failed
        rw [if_neg failed]
        exact Nat.succ_lt_succ steps
  | case2 motor away fails =>
    obtain ⟨attempts, other, here⟩ := stepTowards_gated gates away
    rw [if_neg fails] at here
    rw [moveTo, dif_pos away, dif_neg fails]
    exact ⟨0, attempts, other, by rw [towards_zero, here], stepsOver_pos away⟩
  | case3 motor arrived =>
    have same : motor.position zoom = target := not_not.mp arrived
    rw [moveTo, dif_neg arrived]
    refine ⟨0, rfl, rfl, (towards_zero _ _).symm, ?_⟩
    rw [if_pos rfl, same, sub_self]
    rfl

end Moves

/-! ### A bus that always works -/

/-- Every call to the hardware succeeds. -/
def workingPorts : Ports Unit where
  call _ call := ((), if call.isTransfer then 3 else 0)

theorem working_gates : Gates workingPorts := ⟨fun _ _ _ => le_rfl, fun _ _ => le_rfl⟩

theorem working_writes (bus : Bus Unit) (registers : List (UInt8 × UInt16)) :
    (writeRegisters workingPorts bus registers).2 = true := by
  induction registers generalizing bus with
  | nil => rfl
  | cons register rest hypothesis => exact hypothesis _

theorem working_step (motor : Motor Unit) (zoom : Bool) {steps direction : Nat}
    (valid : ¬ (steps = 0 ∨ coarseSteps < steps ∨ 1 < direction)) :
    (motorStep workingPorts motor zoom steps direction).2 = true := by
  unfold motorStep
  rw [if_neg valid]
  dsimp only
  rw [if_neg (by rw [working_writes]; exact true_eq_false.mp)]
  dsimp only
  exact working_gates.batch _

theorem working_move (motor : Motor Unit) (zoom : Bool) (target : Int) :
    (moveTo workingPorts motor zoom target).2 = true := by
  induction motor using moveTo.induct workingPorts zoom target with
  | case1 motor away succeeds hypothesis =>
    rw [moveTo, dif_pos away, dif_pos succeeds]
    exact hypothesis
  | case2 motor away fails =>
    exact absurd (working_step motor zoom (batchSteps_valid (sub_ne_zero.mpr away.symm) zoom)) fails
  | case3 motor arrived => rw [moveTo, dif_neg arrived]

/-! ### Trying again -/

section Retry

variable {World Number : Type}

def IsRequest (floats : Floats Number) (requested : Number) : Prop :=
  (!floats.isFinite requested || floats.less requested (floats.literal 1)) = false

/-- The driver on another bus. -/
def Driver.on {Other : Type} (driver : Driver World Number) (world : Other) :
    Driver Other Number where
  motor := ⟨world, [], driver.motor.zoomPosition, driver.motor.focusPosition⟩
  firstRow := driver.firstRow
  rows := driver.rows
  currentRow := driver.currentRow
  current := driver.current
  opticalZoom := driver.opticalZoom

/-- Where the lens is, and the zoom that is reported. -/
def Driver.reading (driver : Driver World Number) : Int × Int × Number :=
  (driver.motor.zoomPosition, driver.motor.focusPosition, driver.opticalZoom)

/-- The row and the reported zoom describe the lens. -/
def Driver.Describes (driver : Driver World Number) : Prop :=
  driver.motor.zoomPosition = driver.currentRow.zoomPosition ∧
    driver.opticalZoom = driver.currentRow.factor

variable {ports : Ports World} {floats : Floats Number} {driver : Driver World Number}
  {requested : Number}

/-- What a call leaves of which so many steps succeed, first those of the zoom. -/
structure Zoomed (driver after : Driver World Number) (succeeds : Bool) (row : Calibration Number)
    (count : Nat) : Prop where
  attempts : after.motor.attempts.length =
    driver.motor.attempts.length + count + if succeeds = true then 0 else 1
  zoom : after.motor.zoomPosition = towards driver.motor.zoomPosition row.zoomPosition count
  focus : after.motor.focusPosition =
    towards driver.motor.focusPosition (driver.focusTarget row driver.motor.focusPosition)
      (count - stepsOver (row.zoomPosition - driver.motor.zoomPosition))
  steps : if succeeds = true then
      count = stepsOver (row.zoomPosition - driver.motor.zoomPosition) +
        stepsOver (driver.focusTarget row driver.motor.focusPosition - driver.motor.focusPosition)
    else count < stepsOver (row.zoomPosition - driver.motor.zoomPosition) +
      stepsOver (driver.focusTarget row driver.motor.focusPosition - driver.motor.focusPosition)
  firstRow : after.firstRow = driver.firstRow
  rows : after.rows = driver.rows
  currentRow : after.currentRow = if succeeds = true then row else driver.currentRow
  opticalZoom : after.opticalZoom = if succeeds = true then row.factor else driver.opticalZoom

theorem setZoom_zoomed (gates : Gates ports) (isRequest : IsRequest floats requested) :
    ∃ count, Zoomed driver (setZoom ports floats driver requested).1
      (setZoom ports floats driver requested).2 (driver.rowFor floats requested) count := by
  unfold setZoom moveZoomTo moveFocusTo
  rw [if_neg (by rw [isRequest]; exact Bool.false_ne_true)]
  dsimp only
  set row := driver.rowFor floats requested
  obtain ⟨zoomCount, zoomed⟩ := moveTo_moved gates driver.motor true row.zoomPosition
  generalize moveTo ports driver.motor true row.zoomPosition = zoom at zoomed ⊢
  obtain ⟨middle, zoomDone⟩ := zoom
  have zoomHere :
      middle.zoomPosition = towards driver.motor.zoomPosition row.zoomPosition zoomCount :=
    zoomed.here
  have zoomOther : middle.focusPosition = driver.motor.focusPosition := zoomed.other
  cases zoomDone with
  | false =>
    have few : zoomCount < stepsOver (row.zoomPosition - driver.motor.zoomPosition) := zoomed.steps
    refine ⟨zoomCount, zoomed.attempts, zoomHere, ?_, Nat.lt_add_right _ few, rfl, rfl, rfl, rfl⟩
    rw [Nat.sub_eq_zero_of_le few.le, towards_zero]
    exact zoomOther
  | true =>
    have all : zoomCount = stepsOver (row.zoomPosition - driver.motor.zoomPosition) := zoomed.steps
    have arrived : ∀ count, zoomCount ≤ count →
        middle.zoomPosition = towards driver.motor.zoomPosition row.zoomPosition count := by
      intro count enough
      rw [zoomHere, towards_arrives all.ge, towards_arrives (all.ge.trans enough)]
    have zoomAttempts : middle.attempts.length = driver.motor.attempts.length + zoomCount :=
      zoomed.attempts
    dsimp only
    rw [if_neg true_eq_false.mp]
    obtain ⟨focusCount, focused⟩ := moveTo_moved gates middle false
      (driver.focusTarget row driver.motor.focusPosition)
    generalize moveTo ports middle false (driver.focusTarget row driver.motor.focusPosition) = focus
      at focused ⊢
    obtain ⟨last, focusDone⟩ := focus
    have focusBegins : middle.position false = driver.motor.focusPosition := zoomOther
    have focusHere : last.focusPosition = towards driver.motor.focusPosition
        (driver.focusTarget row driver.motor.focusPosition) focusCount := by
      have here := focused.here
      rw [focusBegins] at here
      exact here
    have focusOther : last.zoomPosition = middle.zoomPosition := focused.other
    have zoom := focusOther.trans (arrived (zoomCount + focusCount) (Nat.le_add_right _ _))
    have attempts := focused.attempts
    have focusSteps : if focusDone = true then focusCount =
          stepsOver (driver.focusTarget row driver.motor.focusPosition - driver.motor.focusPosition)
        else focusCount < stepsOver
          (driver.focusTarget row driver.motor.focusPosition - driver.motor.focusPosition) := by
      have steps := focused.steps
      rw [focusBegins] at steps
      exact steps
    rw [zoomAttempts, add_assoc _ zoomCount] at attempts
    have focus : last.focusPosition = towards driver.motor.focusPosition
        (driver.focusTarget row driver.motor.focusPosition) (zoomCount + focusCount -
          stepsOver (row.zoomPosition - driver.motor.zoomPosition)) := by
      rw [focusHere, ← all, Nat.add_sub_cancel_left]
    refine ⟨zoomCount + focusCount, ?_⟩
    cases focusDone with
    | false =>
      refine ⟨attempts, zoom, focus, ?_, rfl, rfl, rfl, rfl⟩
      rw [← all]
      exact Nat.add_lt_add_left focusSteps zoomCount
    | true =>
      refine ⟨attempts, zoom, focus, ?_, rfl, rfl, rfl, rfl⟩
      rw [← all]
      exact congrArg (zoomCount + ·) focusSteps

theorem setZoom_reading (gates : Gates ports) (isRequest : IsRequest floats requested)
    (succeeds : (setZoom ports floats driver requested).2 = true) :
    (setZoom ports floats driver requested).1.reading =
      ((driver.rowFor floats requested).zoomPosition,
        driver.focusTarget (driver.rowFor floats requested) driver.motor.focusPosition,
        (driver.rowFor floats requested).factor) := by
  obtain ⟨count, zoomed⟩ : ∃ count, Zoomed driver (setZoom ports floats driver requested).1
      (setZoom ports floats driver requested).2 (driver.rowFor floats requested) count :=
    setZoom_zoomed gates isRequest
  rw [succeeds] at zoomed
  have steps : count = _ := zoomed.steps
  have zoom := zoomed.zoom
  have focus := zoomed.focus
  have opticalZoom : _ = (driver.rowFor floats requested).factor := zoomed.opticalZoom
  rw [towards_arrives (by omega)] at zoom
  rw [towards_arrives (by omega)] at focus
  rw [Driver.reading, zoom, focus, opticalZoom]

theorem setZoom_working {driver : Driver Unit Number} (isRequest : IsRequest floats requested) :
    (setZoom workingPorts floats driver requested).2 = true := by
  unfold setZoom moveZoomTo moveFocusTo
  rw [if_neg (by rw [isRequest]; exact Bool.false_ne_true)]
  rw [if_neg (by rw [working_move]; exact true_eq_false.mp),
    if_neg (by rw [working_move]; exact true_eq_false.mp)]

theorem setZoom_focusFails (isRequest : IsRequest floats requested) {row : Calibration Number}
    (isRow : driver.rowFor floats requested = row) {middle last : Motor World}
    (zoomed : moveTo ports driver.motor true row.zoomPosition = (middle, true))
    (focused : moveTo ports middle false (driver.focusTarget row driver.motor.focusPosition) =
      (last, false)) :
    setZoom ports floats driver requested = ({ driver with motor := last }, false) := by
  subst isRow
  unfold setZoom moveZoomTo moveFocusTo
  rw [if_neg (by rw [isRequest]; exact Bool.false_ne_true)]
  dsimp only
  rw [zoomed]
  dsimp only
  rw [focused, if_neg true_eq_false.mp, if_pos rfl]

/-- The call fails at the step behind so many others. -/
def FailsAfter (ports : Ports World) (floats : Floats Number) (driver : Driver World Number)
    (requested : Number) (count : Nat) : Prop :=
  (setZoom ports floats driver requested).2 = false ∧
    (setZoom ports floats driver requested).1.motor.attempts.length =
      driver.motor.attempts.length + count + 1

/-- A call that failed leaves a row and a zoom that describe the lens if they did before, and when
it is made again and succeeds, the lens is where it would be if the first one had succeeded. -/
structure Retries (ports : Ports World) (floats : Floats Number) (driver : Driver World Number)
    (requested : Number) : Prop where
  describes : driver.Describes → (setZoom ports floats driver requested).1.Describes
  same : ∀ (Later Direct : Type) (later : Ports Later) (direct : Ports Direct) (now : Later)
    (start : Direct), Gates later → Gates direct →
    (setZoom later floats ((setZoom ports floats driver requested).1.on now) requested).2 = true →
    (setZoom direct floats (driver.on start) requested).2 = true →
    (setZoom later floats ((setZoom ports floats driver requested).1.on now) requested).1.reading =
      (setZoom direct floats (driver.on start) requested).1.reading

/-- No step had succeeded if the row changes and described the lens, and the focus is still as far
along that it has the same target. -/
def Harmless (floats : Floats Number) (driver : Driver World Number) (requested : Number)
    (count : Nat) : Prop :=
  let row := driver.rowFor floats requested
  let focusTarget := driver.focusTarget row driver.motor.focusPosition
  let focusSteps := count - stepsOver (row.zoomPosition - driver.motor.zoomPosition)
  (driver.Describes → count = 0 ∨ row = driver.currentRow) ∧
    driver.focusTarget row (towards driver.motor.focusPosition focusTarget focusSteps) = focusTarget

theorem FailsAfter.zoomed {count : Nat} (gates : Gates ports)
    (fails : FailsAfter ports floats driver requested count) :
    IsRequest floats requested ∧ Zoomed driver (setZoom ports floats driver requested).1 false
      (driver.rowFor floats requested) count := by
  obtain ⟨failed, attempts⟩ := fails
  have isRequest : IsRequest floats requested := by
    unfold IsRequest
    by_contra invalid
    rw [setZoom, if_pos (not_eq_false _ ▸ invalid)] at attempts
    dsimp only at attempts
    omega
  obtain ⟨steps, zoomed⟩ : ∃ steps, Zoomed driver (setZoom ports floats driver requested).1
      (setZoom ports floats driver requested).2 (driver.rowFor floats requested) steps :=
    setZoom_zoomed gates isRequest
  rw [failed] at zoomed
  have same : steps = count := by
    have counted : _ = driver.motor.attempts.length + steps + 1 := zoomed.attempts
    omega
  exact ⟨isRequest, same ▸ zoomed⟩

theorem describes_iff {lround : Number → Int} {numbers : List Number}
    (accepted : loadCalibration floats lround numbers = some (driver.firstRow, driver.rows))
    {after : Driver World Number} {count : Nat}
    (zoomed : Zoomed driver after false (driver.rowFor floats requested) count) :
    (driver.Describes → after.Describes) ↔
      (driver.Describes → count = 0 ∨ driver.rowFor floats requested = driver.currentRow) := by
  have currentRow : after.currentRow = driver.currentRow := zoomed.currentRow
  have opticalZoom : after.opticalZoom = driver.opticalZoom := zoomed.opticalZoom
  refine forall_congr' fun describes => ?_
  rw [Driver.Describes, currentRow, opticalZoom, zoomed.zoom, describes.1, and_iff_left describes.2]
  constructor
  · intro still
    by_contra moved
    obtain ⟨some, changes⟩ := not_or.mp moved
    refine towards_away (Nat.pos_of_ne_zero some) (fun same => changes ?_) still
    exact (loadCalibration_injective accepted driver.current
      (calibrationRow_mem floats requested _ _) same).symm
  · rintro (rfl | same)
    · exact towards_zero _ _
    · rw [same]
      exact towards_arrives (by rw [sub_self]; exact Nat.zero_le _)

/-- What the call leaves when it is made again and succeeds. -/
theorem retry_reading {Later : Type} {later : Ports Later} (gates : Gates later)
    (isRequest : IsRequest floats requested) {after : Driver World Number} {count : Nat}
    (zoomed : Zoomed driver after false (driver.rowFor floats requested) count) (now : Later)
    (succeeds : (setZoom later floats (after.on now) requested).2 = true) :
    (setZoom later floats (after.on now) requested).1.reading =
      ((driver.rowFor floats requested).zoomPosition,
        driver.focusTarget (driver.rowFor floats requested) after.motor.focusPosition,
        (driver.rowFor floats requested).factor) := by
  have currentRow : after.currentRow = driver.currentRow := zoomed.currentRow
  have row : (after.on now).rowFor floats requested = driver.rowFor floats requested := by
    show calibrationRow floats requested after.firstRow after.rows = _
    rw [zoomed.firstRow, zoomed.rows]
    rfl
  have focusTarget : ∀ row focus,
      (after.on now).focusTarget row focus = driver.focusTarget row focus := by
    intro row focus
    unfold Driver.focusTarget
    rw [show (after.on now).currentRow = driver.currentRow from currentRow]
  rw [setZoom_reading gates isRequest succeeds, row, focusTarget]
  rfl

theorem Retries.focusTarget (retries : Retries ports floats driver requested)
    (isRequest : IsRequest floats requested) {count : Nat}
    (zoomed : Zoomed driver (setZoom ports floats driver requested).1 false
      (driver.rowFor floats requested) count) : driver.focusTarget (driver.rowFor floats requested)
        (setZoom ports floats driver requested).1.motor.focusPosition =
      driver.focusTarget (driver.rowFor floats requested) driver.motor.focusPosition := by
  have again : (setZoom workingPorts floats ((setZoom ports floats driver requested).1.on ())
      requested).2 = true := setZoom_working isRequest
  have direct : (setZoom workingPorts floats (driver.on ()) requested).2 = true :=
    setZoom_working isRequest
  have same := retries.same Unit Unit workingPorts workingPorts () () working_gates working_gates
    again direct
  rw [retry_reading working_gates isRequest zoomed () again,
    setZoom_reading working_gates isRequest direct] at same
  exact congrArg (fun reading => reading.2.1) same

/-- Of a call that fails behind so many steps, row and zoom go on to describe the lens, and making
it again makes up for it, if and only if these steps are harmless. -/
theorem setZoom_retries_iff {lround : Number → Int} {numbers : List Number}
    (accepted : loadCalibration floats lround numbers = some (driver.firstRow, driver.rows))
    (gates : Gates ports) {count : Nat}
    (fails : FailsAfter ports floats driver requested count) :
    Retries ports floats driver requested ↔ Harmless floats driver requested count := by
  obtain ⟨isRequest, zoomed⟩ := fails.zoomed gates
  have describes := describes_iff accepted zoomed
  constructor
  · intro retries
    have target := retries.focusTarget isRequest zoomed
    rw [zoomed.focus] at target
    exact ⟨describes.mp retries.describes, target⟩
  · rintro ⟨unmoved, target⟩
    refine ⟨describes.mpr unmoved, fun Later Direct later direct now start laterGates directGates
      again directly => ?_⟩
    rw [retry_reading laterGates isRequest zoomed now again,
      setZoom_reading directGates isRequest directly, zoomed.focus, target]
    rfl

end Retry

/-! ### A bus that stops working -/

/-- The hardware takes so many transfers, and no more. -/
def tiringPorts : Ports Nat where
  call left call :=
    if call.isTransfer then (left - 1, if left = 0 then -1 else 3) else (left, 0)

theorem tiring_gates : Gates tiringPorts := ⟨fun _ _ _ => le_rfl, fun _ _ => le_rfl⟩

/-- `lroundf` of exact numbers that are not negative. -/
def roundUp (number : Rat) : Int := (number + 1 / 2).floor

/-- The file of a calibration with two rows, twelve steps of the focus apart. -/
def twoRows : List Rat :=
  [1, 0, 0, 0, 20, 788, 100, 100, 100, 100, 100, 0, 0, 0,
    2, 0, 0, 6, 20, 788, 112, 112, 112, 112, 112, 0, 0, 0]

/-- The lens at the first row, with a bus that takes two steps. -/
def twoSteps : Driver Nat Rat where
  motor := ⟨8, [], 0, 100⟩
  firstRow := ⟨1, 0, 100, 20, 788⟩
  rows := [⟨2, 6, 112, 20, 788⟩]
  currentRow := ⟨1, 0, 100, 20, 788⟩
  current := List.mem_cons_self
  opticalZoom := 1

instance calibrationDecidableEq : DecidableEq (Calibration Rat) := fun first second =>
  decidable_of_iff (first.factor = second.factor ∧ first.zoomPosition = second.zoomPosition ∧
      first.focusPosition = second.focusPosition ∧ first.focusMinimum = second.focusMinimum ∧
      first.focusMaximum = second.focusMaximum)
    (by cases first; cases second; simp)

theorem twoRows_accepted : loadCalibration Optics.exactFloats roundUp twoRows =
    some (twoSteps.firstRow, twoSteps.rows) := by
  decide +kernel

theorem twoSteps_row : twoSteps.rowFor Optics.exactFloats 2 = ⟨2, 6, 112, 20, 788⟩ := by
  decide +kernel

theorem two_isRequest : IsRequest Optics.exactFloats 2 := by
  show (!true || decide ((2 : Rat) < 1)) = false
  decide +kernel

theorem twoSteps_fails : FailsAfter tiringPorts Optics.exactFloats twoSteps 2 2 := by
  have target : twoSteps.focusTarget ⟨2, 6, 112, 20, 788⟩ twoSteps.motor.focusPosition = 112 := by
    decide +kernel
  have zoomed : moveTo tiringPorts twoSteps.motor true 6 =
      ((stepTowards tiringPorts twoSteps.motor true 6).1, true) := by
    rw [moveTo, dif_pos (by decide), dif_pos (by decide +kernel), moveTo,
      dif_neg (by decide +kernel)]
  have focused : moveTo tiringPorts (stepTowards tiringPorts twoSteps.motor true 6).1 false 112 =
      ((stepTowards tiringPorts (stepTowards tiringPorts
        (stepTowards tiringPorts twoSteps.motor true 6).1 false 112).1 false 112).1, false) := by
    rw [moveTo, dif_pos (by decide +kernel), dif_pos (by decide +kernel), moveTo,
      dif_pos (by decide +kernel), dif_neg (by decide +kernel)]
  rw [← target] at focused
  have result := setZoom_focusFails two_isRequest twoSteps_row zoomed focused
  unfold FailsAfter
  rw [result]
  exact ⟨rfl, by decide +kernel⟩

/-- The lens that had made one of two focus steps. -/
theorem setZoom_retries_iff_twoSteps :
    Retries tiringPorts Optics.exactFloats twoSteps 2 ↔ Harmless Optics.exactFloats twoSteps 2 2 :=
  setZoom_retries_iff twoRows_accepted tiring_gates twoSteps_fails

/-- The focus goes on from where it is by as much as it should have gone from where it was. -/
theorem twoSteps_lost : ¬ ∀ (World : Type) (ports : Ports World) (numbers : List Rat)
    (driver : Driver World Rat) (requested : Rat) (count : Nat),
    loadCalibration Optics.exactFloats roundUp numbers = some (driver.firstRow, driver.rows) →
    Gates ports → FailsAfter ports Optics.exactFloats driver requested count →
    Retries ports Optics.exactFloats driver requested := by
  intro retries
  obtain ⟨isRequest, zoomed⟩ := twoSteps_fails.zoomed tiring_gates
  have target := (retries Nat tiringPorts twoRows twoSteps 2 2 twoRows_accepted tiring_gates
    twoSteps_fails).focusTarget isRequest zoomed
  rw [zoomed.focus, twoSteps_row] at target
  revert target
  decide +kernel

end E5739Motor
