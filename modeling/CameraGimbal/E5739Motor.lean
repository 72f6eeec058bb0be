/-
This file models the steps and the moves of the lens motor driver. Two channels, zoom and focus,
share one gate: a step programs four registers over SPI, counts the position, and then raises the
gate for nine milliseconds. The bus answers every call as it likes.

Positions are integers: the targets come from a calibration between 0 and 1200, and the counted
positions lie between them and the homes.
-/

import Mathlib.Data.List.Basic
import Mathlib.Tactic.Ring

namespace E5739Motor

/-! ### The bus -/

/-- A call to the hardware: three bytes over SPI, a value for a pin, or a sleep. -/
inductive Call where
  | transfer (address low high : UInt8)
  | pin (pin value : Nat)
  | sleep (microseconds : Nat)
  deriving DecidableEq, Repr

/-- What the hardware returns for a call. -/
structure Ports (World : Type) where
  call : World → Call → World × Int

/-- A call, and what it returned. -/
structure Event where
  call : Call
  result : Int
  deriving DecidableEq, Repr

/-- The hardware, with the calls of a step so far. -/
structure Bus (World : Type) where
  world : World
  events : List Event

variable {World : Type} (ports : Ports World)

def Bus.call (bus : Bus World) (call : Call) : Bus World × Int :=
  let answer := ports.call bus.world call
  ({ world := answer.1, events := bus.events ++ [⟨call, answer.2⟩] }, answer.2)

/-- `spi_write_register`: whether all three bytes are transferred. -/
def spiWriteRegister (bus : Bus World) (address : UInt8) (value : UInt16) : Bus World × Bool :=
  let transfer := bus.call ports (.transfer address value.toUInt8 (value >>> 8).toUInt8)
  (transfer.1, decide (transfer.2 = 3))

/-- `E5739_GATE_PIN`. -/
def gatePin : Nat := 6

/-- `gpio_set`: whether the value is set. -/
def gpioSet (bus : Bus World) (pin value : Nat) : Bus World × Bool :=
  let set := bus.call ports (.pin pin value)
  (set.1, decide (0 ≤ set.2))

def usleep (bus : Bus World) (microseconds : Nat) : Bus World × Bool :=
  let slept := bus.call ports (.sleep microseconds)
  (slept.1, decide (0 ≤ slept.2))

def gateBatch (bus : Bus World) : Bus World × Bool :=
  let raised := gpioSet ports bus gatePin 1
  if raised.2 = false then (raised.1, false)
  else
    let slept := usleep ports raised.1 9000
    if slept.2 = false then (slept.1, false) else gpioSet ports slept.1 gatePin 0

/-- Register writes one after another, up to the first that fails. -/
def writeRegisters : Bus World → List (UInt8 × UInt16) → Bus World × Bool
  | bus, [] => (bus, true)
  | bus, (address, value) :: rest =>
    let written := spiWriteRegister ports bus address value
    if written.2 = false then (written.1, false) else writeRegisters written.1 rest

/-! ### A step -/

/-- `E5739_HOME_COARSE_STEPS`, the most steps of one batch. -/
def coarseSteps : Nat := 6

def pulseUnits (steps : Nat) : UInt16 := UInt16.ofNat (steps * 8)

def period (steps : Nat) : UInt16 := UInt16.ofNat (224100 / ((pulseUnits steps).toNat * 24))

def control (steps direction : Nat) : UInt16 :=
  UInt16.ofNat (0x0c00 ||| direction <<< 8 ||| (pulseUnits steps).toNat)

/-- The registers of a step: its own channel gets pulses, the other one none. -/
def program (zoom : Bool) (steps direction : Nat) : List (UInt8 × UInt16) :=
  if zoom then
    [(0x29, control steps direction), (0x2a, period steps), (0x24, 0x0c00), (0x25, 0)]
  else
    [(0x24, control steps direction), (0x25, period steps), (0x29, 0x0c00), (0x2a, 0)]

/-- A step that passed the check of its arguments, with its calls. -/
structure Attempt where
  zoom : Bool
  steps : Nat
  direction : Nat
  events : List Event
  deriving DecidableEq, Repr

/-- The positions of `struct ca_e5739`, with the hardware and the steps so far. -/
structure Motor (World : Type) where
  world : World
  attempts : List Attempt
  zoomPosition : Int
  focusPosition : Int

def Motor.position (motor : Motor World) (zoom : Bool) : Int :=
  if zoom then motor.zoomPosition else motor.focusPosition

/-- The way that steps count. The focus channel's position polarity is opposite to zoom. -/
def signedSteps (zoom : Bool) (steps direction : Nat) : Int :=
  if zoom then if direction ≠ 0 then (steps : Int) else -(steps : Int)
  else if direction = 0 then (steps : Int) else -(steps : Int)

def Motor.count (motor : Motor World) (zoom : Bool) (steps direction : Nat) : Motor World :=
  if zoom then
    { motor with zoomPosition := motor.zoomPosition + signedSteps true steps direction }
  else { motor with focusPosition := motor.focusPosition + signedSteps false steps direction }

/-- What the calls of a step leave. -/
def Motor.after (motor : Motor World) (zoom : Bool) (steps direction : Nat) (bus : Bus World) :
    Motor World :=
  { motor with
    world := bus.world
    attempts := motor.attempts ++ [⟨zoom, steps, direction, bus.events⟩] }

/-- `motor_step`. The position is counted before the gate is raised. -/
def motorStep (motor : Motor World) (zoom : Bool) (steps direction : Nat) : Motor World × Bool :=
  if steps = 0 ∨ coarseSteps < steps ∨ 1 < direction then (motor, false)
  else
    let written := writeRegisters ports ⟨motor.world, []⟩ (program zoom steps direction)
    if written.2 = false then (motor.after zoom steps direction written.1, false)
    else
      let gated := gateBatch ports written.1
      ((motor.count zoom steps direction).after zoom steps direction gated.1, gated.2)

/-! ### The moves -/

def batchSteps (difference : Int) : Nat :=
  if coarseSteps < difference.natAbs then coarseSteps else difference.natAbs

def batchDirection (zoom : Bool) (difference : Int) : Nat :=
  if zoom then if 0 < difference then 1 else 0 else if 0 < difference then 0 else 1

def stepTowards (motor : Motor World) (zoom : Bool) (target : Int) : Motor World × Bool :=
  motorStep ports motor zoom (batchSteps (target - motor.position zoom))
    (batchDirection zoom (target - motor.position zoom))

theorem motorStep_position {motor : Motor World} {zoom : Bool} {steps direction : Nat}
    (succeeds : (motorStep ports motor zoom steps direction).2 = true) :
    (motorStep ports motor zoom steps direction).1.position zoom =
      motor.position zoom + signedSteps zoom steps direction := by
  revert succeeds
  unfold motorStep
  split
  · exact nofun
  · dsimp only
    split
    · exact nofun
    · intro _
      cases zoom <;> rfl

theorem signedSteps_batch (zoom : Bool) (difference : Int) :
    signedSteps zoom (batchSteps difference) (batchDirection zoom difference) =
      if 0 < difference then (batchSteps difference : Int) else -(batchSteps difference : Int) := by
  cases zoom <;> by_cases positive : 0 < difference <;>
    simp [signedSteps, batchDirection, positive]

theorem stepTowards_closer {motor : Motor World} {zoom : Bool} {target : Int}
    (away : motor.position zoom ≠ target)
    (succeeds : (stepTowards ports motor zoom target).2 = true) :
    (target - (stepTowards ports motor zoom target).1.position zoom).natAbs <
      (target - motor.position zoom).natAbs := by
  unfold stepTowards at succeeds ⊢
  rw [motorStep_position ports succeeds, signedSteps_batch]
  unfold batchSteps coarseSteps
  split <;> split <;> omega

/-- The loop of the moves. -/
def moveTo (motor : Motor World) (zoom : Bool) (target : Int) : Motor World × Bool :=
  if _ : motor.position zoom ≠ target then
    if _ : (stepTowards ports motor zoom target).2 = true then
      moveTo (stepTowards ports motor zoom target).1 zoom target
    else ((stepTowards ports motor zoom target).1, false)
  else (motor, true)
termination_by (target - motor.position zoom).natAbs
decreasing_by exact stepTowards_closer ports ‹_› ‹_›

def moveZoomTo (motor : Motor World) (target : Int) : Motor World × Bool :=
  moveTo ports motor true target

def moveFocusTo (motor : Motor World) (target : Int) : Motor World × Bool :=
  moveTo ports motor false target

/-! ### Runs -/

/-- A call of `move_zoom_to` or of `move_focus_to`. -/
inductive Move where
  | zoomTo (target : Int)
  | focusTo (target : Int)
  deriving DecidableEq, Repr

def Move.zoom : Move → Bool
  | .zoomTo _ => true
  | .focusTo _ => false

def Move.target : Move → Int
  | .zoomTo target => target
  | .focusTo target => target

def Move.perform (motor : Motor World) : Move → Motor World × Bool
  | .zoomTo target => moveZoomTo ports motor target
  | .focusTo target => moveFocusTo ports motor target

/-- The moves one after another, whether they succeed or not. -/
def run (motor : Motor World) (moves : List Move) : Motor World :=
  moves.foldl (fun motor move => (move.perform ports motor).1) motor

end E5739Motor
