/-
This file is about where the lens is. A step happens when all four of its registers are written and
the gate rises, and the driver counts it when the registers are written. Over a run of moves the
counted positions follow the real ones exactly as long as the gate never fails to rise behind four
written registers.
-/

import CameraGimbal.E5739Motor
import CameraGimbal.Mt11Media

namespace E5739Motor

open List

variable {World : Type} (ports : Ports World)

/-! ### The steps that happen -/

def Call.isTransfer : Call → Bool
  | .transfer .. => true
  | _ => false

/-- A register write that succeeds. -/
def Event.written (event : Event) : Bool := event.call.isTransfer && decide (event.result = 3)

/-- A rising gate that succeeds. -/
def Event.rises (event : Event) : Bool :=
  decide (event.call = .pin gatePin 1) && decide (0 ≤ event.result)

/-- All four register writes succeed. -/
def Attempt.Programmed (attempt : Attempt) : Prop := attempt.events.countP Event.written = 4

/-- The rising gate succeeds. -/
def Attempt.Gated (attempt : Attempt) : Prop := attempt.events.any Event.rises = true

def Attempt.Happens (attempt : Attempt) : Prop := attempt.Programmed ∧ attempt.Gated

instance Attempt.decidableProgrammed (attempt : Attempt) : Decidable attempt.Programmed :=
  inferInstanceAs (Decidable (_ = _))

instance Attempt.decidableGated (attempt : Attempt) : Decidable attempt.Gated :=
  inferInstanceAs (Decidable (_ = _))

instance Attempt.decidableHappens (attempt : Attempt) : Decidable attempt.Happens :=
  inferInstanceAs (Decidable (_ ∧ _))

/-- The way that a channel goes in a step. -/
def Attempt.travel (zoom : Bool) (attempt : Attempt) : Int :=
  if attempt.zoom = zoom ∧ attempt.Happens then
    signedSteps zoom attempt.steps attempt.direction
  else 0

/-- The way that the driver counts for a channel in a step. -/
def Attempt.counted (zoom : Bool) (attempt : Attempt) : Int :=
  if attempt.zoom = zoom ∧ attempt.Programmed then
    signedSteps zoom attempt.steps attempt.direction
  else 0

/-- The way that a channel goes in steps one after another. -/
def travelled (zoom : Bool) (attempts : List Attempt) : Int :=
  (attempts.map (Attempt.travel zoom)).sum

def Move.made (motor : Motor World) (move : Move) : List Attempt :=
  (move.perform ports motor).1.attempts.drop motor.attempts.length

/-- A driver with its positions, before any step. -/
def opened (world : World) (zoomPosition focusPosition : Int) : Motor World :=
  { world, attempts := [], zoomPosition, focusPosition }

/-- After each move both positions have changed by the steps that happened in it, and a move that
succeeds ends at its target. -/
def Tracks (start : Motor World) (moves : List Move) : Prop :=
  ∀ earlier move later, moves = earlier ++ move :: later →
    let before := run ports start earlier
    let after := move.perform ports before
    (∀ zoom, after.1.position zoom - before.position zoom =
      travelled zoom (move.made ports before)) ∧
    (after.2 = true →
      start.position move.zoom + travelled move.zoom after.1.attempts = move.target)

/-! ### The lens -/

/-- The registers of the controller, and where the two channels are. -/
structure Lens where
  registers : UInt8 → Nat
  zoom : Int
  focus : Int

def Lens.position (lens : Lens) (zoom : Bool) : Int := if zoom then lens.zoom else lens.focus

/-- The way of a channel with these registers: eight pulses to the step, and none without a period.
The ninth bit of the control register is the direction. -/
def pulses (control period : Nat) : Int :=
  if period = 0 then 0
  else if control / 256 % 2 = 1 then ((control % 256 / 8 : Nat) : Int)
  else -((control % 256 / 8 : Nat) : Int)

def Lens.withRegisters (lens : Lens) (registers : UInt8 → Nat) : Lens :=
  { lens with registers }

@[simp]
theorem withRegisters_position (lens : Lens) (registers : UInt8 → Nat) (zoom : Bool) :
    (lens.withRegisters registers).position zoom = lens.position zoom :=
  rfl

/-- A rising gate moves both channels by their registers. -/
def Lens.raised (lens : Lens) : Lens :=
  { lens with
    zoom := lens.zoom + pulses (lens.registers 0x29) (lens.registers 0x2a)
    focus := lens.focus - pulses (lens.registers 0x24) (lens.registers 0x25) }

/-- What a call does to the lens: a transfer writes a register, and a pin may be the gate. -/
def Lens.observe (lens : Lens) (event : Event) : Lens :=
  match event.call with
  | .transfer address low high =>
    if event.result = 3 then
      lens.withRegisters
        (Function.update lens.registers address (low.toNat + 256 * high.toNat))
    else lens
  | .pin _ _ => if event.rises then lens.raised else lens
  | .sleep _ => lens

/-- The lens after the calls of steps. -/
def Lens.replay (lens : Lens) (attempts : List Attempt) : Lens :=
  (attempts.flatMap Attempt.events).foldl Lens.observe lens

/-- Registers after writes. -/
def load (registers : UInt8 → Nat) (writes : List (UInt8 × UInt16)) : UInt8 → Nat :=
  writes.foldl (fun registers write => Function.update registers write.1 write.2.toNat) registers

theorem bytes_toNat (value : UInt16) :
    value.toUInt8.toNat + 256 * (value >>> 8).toUInt8.toNat = value.toNat := by
  have bound := value.toNat_lt
  simp [UInt16.toNat_shiftRight, Nat.shiftRight_eq_div_pow]
  omega

theorem control_pulses : ∀ steps < 7, ∀ direction < 2, steps ≠ 0 →
    pulses (control steps direction).toNat (period steps).toNat =
      if direction ≠ 0 then (steps : Int) else -(steps : Int) := by
  decide

theorem raised_position (lens : Lens) (zoom channel : Bool) {steps direction : Nat}
    (valid : ¬ (steps = 0 ∨ coarseSteps < steps ∨ 1 < direction)) :
    (lens.withRegisters (load lens.registers (program zoom steps direction))).raised.position
        channel =
      lens.position channel +
        if zoom = channel then signedSteps channel steps direction else 0 := by
  unfold coarseSteps at valid
  have way := control_pulses steps (by omega) direction (by omega) (by omega)
  have idle (control : Nat) : pulses control 0 = 0 := rfl
  cases zoom <;> cases channel <;>
    simp [Lens.position, Lens.raised, Lens.withRegisters, load, program, Function.update, way,
      idle, signedSteps]
  by_cases forward : direction = 0 <;> simp [forward, sub_eq_add_neg]

/-! ### The calls of a step -/

variable (bus : Bus World)

theorem Bus.call_events (call : Call) :
    ∃ result, (bus.call ports call).1.events = bus.events ++ [⟨call, result⟩] ∧
      (bus.call ports call).2 = result :=
  ⟨_, rfl, rfl⟩

open Event

/-- The writes are all transfers, and as many of them succeed as there are registers exactly when
the result says so. Nothing moves, and then all registers are loaded. -/
theorem writeRegisters_events (registers : List (UInt8 × UInt16)) :
    ∃ writes, (writeRegisters ports bus registers).1.events = bus.events ++ writes ∧
      (∀ event ∈ writes, event.call.isTransfer = true) ∧
      writes.countP written ≤ registers.length ∧
      (writes.countP written = registers.length ↔ (writeRegisters ports bus registers).2 = true) ∧
      ∀ lens : Lens, ∃ loaded, writes.foldl Lens.observe lens = lens.withRegisters loaded ∧
        ((writeRegisters ports bus registers).2 = true →
          loaded = load lens.registers registers) := by
  induction registers generalizing bus with
  | nil => exact ⟨[], by simp [writeRegisters], nofun, le_rfl, by simp [writeRegisters],
      fun lens => ⟨lens.registers, rfl, fun _ => rfl⟩⟩
  | cons register rest hypothesis =>
    obtain ⟨address, value⟩ := register
    set call := Call.transfer address value.toUInt8 (value >>> 8).toUInt8 with callEq
    obtain ⟨result, events, answer⟩ := bus.call_events ports call
    by_cases succeeds : result = 3
    · obtain ⟨writes, restEvents, transfers, bound, complete, observed⟩ :=
        hypothesis (bus.call ports call).1
      have step : writeRegisters ports bus ((address, value) :: rest) =
          writeRegisters ports (bus.call ports call).1 rest := by
        simp [writeRegisters, spiWriteRegister, ← callEq, answer, succeeds]
      have counted : (⟨call, result⟩ : Event).written = true := by
        simp [written, callEq, Call.isTransfer, succeeds]
      refine ⟨⟨call, result⟩ :: writes, ?_, ?_, ?_, ?_, fun lens => ?_⟩
      · rw [step, restEvents, events, append_assoc]
        rfl
      · rintro event (_ | ⟨_, member⟩)
        · rfl
        · exact transfers event member
      · rw [countP_cons_of_pos counted, length_cons]
        omega
      · rw [step, ← complete, countP_cons_of_pos counted, length_cons]
        omega
      · have one : lens.observe ⟨call, result⟩ =
            lens.withRegisters (Function.update lens.registers address value.toNat) := by
          simp only [Lens.observe, callEq, succeeds, if_true]
          rw [bytes_toNat]
        obtain ⟨loaded, moved, all⟩ := observed (lens.observe ⟨call, result⟩)
        refine ⟨loaded, ?_, fun complete => ?_⟩
        · rw [foldl_cons, moved, one]
          rfl
        · rw [all (step ▸ complete), one]
          rfl
    · have step : writeRegisters ports bus ((address, value) :: rest) =
          ((bus.call ports call).1, false) := by
        simp [writeRegisters, spiWriteRegister, ← callEq, answer, succeeds]
      refine ⟨[⟨call, result⟩], ?_, ?_, ?_, ?_, fun lens => ⟨lens.registers, ?_, ?_⟩⟩
      · rw [step, events]
      · rintro event (_ | ⟨_, ⟨⟩⟩)
        rfl
      · simp [written, succeeds]
      · simp [step, written, succeeds]
      · simp [Lens.observe, Lens.withRegisters, callEq, succeeds]
      · simp [step]

/-- The gate makes no transfer, and it succeeds only when it has risen; the lens moves once. -/
theorem gateBatch_events :
    ∃ gate, (gateBatch ports bus).1.events = bus.events ++ gate ∧
      (∀ event ∈ gate, event.call.isTransfer = false) ∧
      ((gateBatch ports bus).2 = true → gate.any Event.rises = true) ∧
      ∀ lens : Lens, gate.foldl Lens.observe lens =
        if gate.any Event.rises = true then lens.raised else lens := by
  obtain ⟨raised, raisedEvents, raisedAnswer⟩ := bus.call_events ports (.pin gatePin 1)
  obtain ⟨slept, sleptEvents, sleptAnswer⟩ :=
    (bus.call ports (.pin gatePin 1)).1.call_events ports (.sleep 9000)
  obtain ⟨lowered, loweredEvents, _⟩ :=
    ((bus.call ports (.pin gatePin 1)).1.call ports (.sleep 9000)).1.call_events ports
      (.pin gatePin 0)
  by_cases rises : 0 ≤ raised
  · have hasRisen : (⟨.pin gatePin 1, raised⟩ : Event).rises = true := by
      simp [Event.rises, rises]
    by_cases sleeps : 0 ≤ slept
    · refine ⟨[⟨.pin gatePin 1, raised⟩, ⟨.sleep 9000, slept⟩, ⟨.pin gatePin 0, lowered⟩],
        ?_, ?_, fun _ => ?_, fun lens => ?_⟩
      · simp [gateBatch, gpioSet, usleep, raisedAnswer, sleptAnswer, rises, sleeps,
          raisedEvents, sleptEvents, loweredEvents]
      · simp [Call.isTransfer]
      · rw [any_cons, hasRisen, Bool.true_or]
      · simp [Lens.observe, Event.rises, rises]
    · refine ⟨[⟨.pin gatePin 1, raised⟩, ⟨.sleep 9000, slept⟩], ?_, ?_, fun _ => ?_, fun lens => ?_⟩
      · simp [gateBatch, gpioSet, usleep, raisedAnswer, sleptAnswer, rises, sleeps,
          raisedEvents, sleptEvents]
      · simp [Call.isTransfer]
      · rw [any_cons, hasRisen, Bool.true_or]
      · simp [Lens.observe, Event.rises, rises]
  · refine ⟨[⟨.pin gatePin 1, raised⟩], ?_, ?_, ?_, fun lens => ?_⟩
    · simp [gateBatch, gpioSet, raisedAnswer, rises, raisedEvents]
    · simp [Call.isTransfer]
    · simp [gateBatch, gpioSet, raisedAnswer, rises]
    · simp [Lens.observe, Event.rises, rises]

/-! ### A step -/

variable (motor : Motor World)

@[simp]
theorem after_position (zoom channel : Bool) (steps direction : Nat) (bus : Bus World) :
    (motor.after zoom steps direction bus).position channel = motor.position channel := by
  cases channel <;> rfl

theorem count_position (zoom channel : Bool) (steps direction : Nat) :
    (motor.count zoom steps direction).position channel =
      motor.position channel +
        if zoom = channel then signedSteps channel steps direction else 0 := by
  cases zoom <;> cases channel <;> simp [Motor.count, Motor.position]

/-- A step is counted when its registers are written, it succeeds only when it happens, and the lens
moves when it happens. -/
structure Leaves (before after : Motor World) (succeeds : Bool) (attempt : Attempt) : Prop where
  attempts : after.attempts = before.attempts ++ [attempt]
  counted : ∀ channel, after.position channel = before.position channel + attempt.counted channel
  happens : succeeds = true → attempt.Happens
  moves : ∀ lens : Lens, ∀ channel, (attempt.events.foldl Lens.observe lens).position channel =
    lens.position channel + attempt.travel channel

theorem motorStep_leaves (zoom : Bool) (steps direction : Nat)
    (valid : ¬ (steps = 0 ∨ coarseSteps < steps ∨ 1 < direction)) :
    ∃ attempt : Attempt, attempt.steps = steps ∧
      Leaves motor (motorStep ports motor zoom steps direction).1
        (motorStep ports motor zoom steps direction).2 attempt := by
  obtain ⟨writes, writeEvents, transfers, _, complete, loads⟩ :=
    writeRegisters_events ports ⟨motor.world, []⟩ (program zoom steps direction)
  have four : (program zoom steps direction).length = 4 := by
    cases zoom <;> rfl
  have low : writes.any Event.rises = false := by
    refine any_eq_false.mpr fun event member rises => ?_
    have transfer := transfers event member
    simp only [Event.rises, Bool.and_eq_true, decide_eq_true_eq] at rises
    rw [rises.1] at transfer
    cases transfer
  rw [four] at complete
  rw [nil_append] at writeEvents
  unfold motorStep
  rw [if_neg valid]
  by_cases written :
      (writeRegisters ports ⟨motor.world, []⟩ (program zoom steps direction)).2 = true
  · obtain ⟨gate, gateEvents, quiet, rises, moves⟩ := gateBatch_events ports
      (writeRegisters ports ⟨motor.world, []⟩ (program zoom steps direction)).1
    rw [writeEvents] at gateEvents
    have programmed : Attempt.Programmed ⟨zoom, steps, direction, writes ++ gate⟩ := by
      have none : gate.countP Event.written = 0 :=
        countP_eq_zero.mpr fun event member => by simp [Event.written, quiet event member]
      unfold Attempt.Programmed
      rw [countP_append, complete.mpr written, none]
    have gated : Attempt.Gated ⟨zoom, steps, direction, writes ++ gate⟩ ↔
        gate.any Event.rises = true := by
      unfold Attempt.Gated
      rw [any_append, low, Bool.false_or]
    refine ⟨⟨zoom, steps, direction, writes ++ gate⟩, rfl, ?_, fun channel => ?_,
      fun succeeds => ⟨programmed, ?_⟩, fun lens channel => ?_⟩
    · simp [written, Motor.after, Motor.count, gateEvents]
      cases zoom <;> rfl
    · simp [written, count_position, Attempt.counted, programmed]
    · simp only [written, Bool.true_eq_false, if_false] at succeeds
      exact gated.mpr (rises succeeds)
    · obtain ⟨loaded, still, all⟩ := loads lens
      rw [foldl_append, still, moves, all written]
      by_cases up : gate.any Event.rises = true
      · rw [if_pos up, raised_position lens zoom channel valid]
        simp [Attempt.travel, Attempt.Happens, programmed, gated, up]
      · rw [if_neg up]
        simp [Attempt.travel, Attempt.Happens, gated, up]
  · have fails : (writeRegisters ports ⟨motor.world, []⟩
        (program zoom steps direction)).2 = false := by simpa using written
    have unprogrammed : ¬ Attempt.Programmed ⟨zoom, steps, direction, writes⟩ :=
      fun programmed => written (complete.mp programmed)
    refine ⟨⟨zoom, steps, direction, writes⟩, rfl, ?_, fun channel => ?_, ?_,
      fun lens channel => ?_⟩
    · simp [fails, Motor.after, writeEvents]
    · simp [fails, Attempt.counted, unprogrammed]
    · simp [fails]
    · obtain ⟨loaded, still, _⟩ := loads lens
      rw [still]
      simp [Attempt.travel, Attempt.Happens, unprogrammed]

/-- What is counted happens, unless the gate fails to rise behind four written registers. -/
theorem counted_eq_travel {attempt : Attempt} (gates : attempt.Programmed → attempt.Gated)
    (zoom : Bool) : attempt.counted zoom = attempt.travel zoom := by
  unfold Attempt.counted Attempt.travel Attempt.Happens
  by_cases programmed : attempt.Programmed
  · simp [programmed, gates programmed]
  · simp [programmed]

theorem gates_of_counted {attempt : Attempt} (some : attempt.steps ≠ 0)
    (agrees : attempt.counted attempt.zoom = attempt.travel attempt.zoom) :
    attempt.Programmed → attempt.Gated := by
  intro programmed
  by_contra closed
  have still : attempt.travel attempt.zoom = 0 := by
    simp [Attempt.travel, Attempt.Happens, closed]
  have counts : attempt.counted attempt.zoom =
      signedSteps attempt.zoom attempt.steps attempt.direction := by
    simp [Attempt.counted, programmed]
  rw [still, counts] at agrees
  unfold signedSteps at agrees
  split at agrees <;> split at agrees <;> omega

/-! ### A move -/

/-- The steps of a move before the last one all happen, and the last one too when the move
succeeds. -/
structure Makes (before after : Motor World) (succeeds : Bool) (zoom : Bool) (target : Int)
    (happened last : List Attempt) : Prop where
  attempts : after.attempts = before.attempts ++ (happened ++ last)
  happens : ∀ attempt ∈ happened, attempt.Happens
  alone : last.length ≤ 1
  steps : ∀ attempt ∈ last, attempt.steps ≠ 0
  counted : ∀ channel, after.position channel = before.position channel +
    ((happened ++ last).map (Attempt.counted channel)).sum
  arrives : succeeds = true → after.position zoom = target ∧ last = []
  moves : ∀ lens : Lens, ∀ channel, (lens.replay (happened ++ last)).position channel =
    lens.position channel + travelled channel (happened ++ last)

theorem batchSteps_valid {difference : Int} (away : difference ≠ 0) (zoom : Bool) :
    ¬ (batchSteps difference = 0 ∨ coarseSteps < batchSteps difference ∨
      1 < batchDirection zoom difference) := by
  have small : batchDirection zoom difference ≤ 1 := by
    unfold batchDirection
    split <;> split <;> omega
  unfold batchSteps coarseSteps
  split <;> omega

theorem replay_cons (lens : Lens) (attempt : Attempt) (later : List Attempt) :
    lens.replay (attempt :: later) = (attempt.events.foldl Lens.observe lens).replay later := by
  rw [Lens.replay, flatMap_cons, foldl_append]
  rfl

theorem moveTo_makes (zoom : Bool) (target : Int) :
    ∃ happened last, Makes motor (moveTo ports motor zoom target).1
      (moveTo ports motor zoom target).2 zoom target happened last := by
  induction motor using moveTo.induct ports zoom target with
  | case1 motor away succeeds hypothesis =>
    obtain ⟨attempt, _, leaves⟩ :=
      motorStep_leaves ports motor zoom _ _ (batchSteps_valid (sub_ne_zero.mpr away.symm) zoom)
    obtain ⟨happened, last, makes⟩ := hypothesis
    rw [moveTo, dif_pos away, dif_pos succeeds]
    refine ⟨attempt :: happened, last, ?_, ?_, makes.alone, makes.steps, ?_, makes.arrives, ?_⟩
    · rw [makes.attempts, stepTowards, leaves.attempts, append_assoc]
      rfl
    · rintro step (_ | ⟨_, member⟩)
      · exact leaves.happens succeeds
      · exact makes.happens step member
    · intro channel
      rw [makes.counted channel, stepTowards, leaves.counted channel, cons_append,
        map_cons, sum_cons, add_assoc]
    · intro lens channel
      rw [cons_append, replay_cons, makes.moves, leaves.moves, travelled, travelled,
        map_cons, sum_cons, add_assoc]
  | case2 motor away fails =>
    have valid := batchSteps_valid (sub_ne_zero.mpr away.symm) zoom
    obtain ⟨attempt, steps, leaves⟩ := motorStep_leaves ports motor zoom _ _ valid
    rw [moveTo, dif_pos away, dif_neg fails]
    refine ⟨[], [attempt], leaves.attempts, nofun, le_rfl, ?_, ?_, nofun, ?_⟩
    · rintro step (_ | ⟨_, ⟨⟩⟩)
      rw [steps]
      exact fun none => valid (.inl none)
    · intro channel
      rw [stepTowards, leaves.counted channel]
      simp
    · intro lens channel
      rw [nil_append, replay_cons, Lens.replay, flatMap_nil, foldl_nil, leaves.moves]
      simp [travelled]
  | case3 motor arrived =>
    rw [moveTo, dif_neg arrived]
    refine ⟨[], [], by simp, nofun, Nat.zero_le _, nofun, by simp, fun _ => ⟨?_, rfl⟩,
      by simp [Lens.replay, travelled]⟩
    simpa using arrived

theorem perform_makes (move : Move) :
    ∃ happened last, Makes motor (move.perform ports motor).1 (move.perform ports motor).2
      move.zoom move.target happened last := by
  cases move with
  | zoomTo target => exact moveTo_makes ports motor true target
  | focusTo target => exact moveTo_makes ports motor false target

theorem travelled_append (zoom : Bool) (earlier later : List Attempt) :
    travelled zoom (earlier ++ later) = travelled zoom earlier + travelled zoom later := by
  rw [travelled, map_append, sum_append]
  rfl

theorem perform_attempts (move : Move) :
    (move.perform ports motor).1.attempts = motor.attempts ++ move.made ports motor := by
  obtain ⟨happened, last, makes⟩ := perform_makes ports motor move
  rw [Move.made, makes.attempts, drop_left]

theorem perform_follows_iff (move : Move) :
    (∀ zoom, (move.perform ports motor).1.position zoom - motor.position zoom =
        travelled zoom (move.made ports motor)) ↔
      ∀ attempt ∈ move.made ports motor, attempt.Programmed → attempt.Gated := by
  obtain ⟨happened, last, makes⟩ := perform_makes ports motor move
  have made : move.made ports motor = happened ++ last := by
    rw [Move.made, makes.attempts, drop_left]
  have counts (zoom : Bool) : (move.perform ports motor).1.position zoom - motor.position zoom =
      ((happened ++ last).map (Attempt.counted zoom)).sum := by
    rw [makes.counted zoom]
    ring
  rw [made]
  constructor
  · intro follows attempt member programmed
    rcases mem_append.mp member with before | isLast
    · exact (makes.happens attempt before).2
    · obtain ⟨only, rfl⟩ : ∃ only, last = [only] := by
        refine length_eq_one_iff.mp ?_
        have := length_pos_of_mem isLast
        have := makes.alone
        omega
      obtain rfl := mem_singleton.mp isLast
      have agrees := follows attempt.zoom
      have sameBefore : (happened.map (Attempt.counted attempt.zoom)).sum =
          travelled attempt.zoom happened := by
        refine congrArg sum (map_congr_left fun step inside => ?_)
        exact counted_eq_travel (fun _ => (makes.happens step inside).2) _
      rw [counts, travelled_append, map_append, sum_append, sameBefore, add_right_inj] at agrees
      refine gates_of_counted (makes.steps attempt isLast) ?_ programmed
      simpa [travelled] using agrees
  · intro gates zoom
    rw [counts]
    refine congrArg sum (map_congr_left fun attempt member => ?_)
    exact counted_eq_travel (gates attempt member) zoom

theorem perform_arrives {motor : Motor World} {move : Move}
    (succeeds : (move.perform ports motor).2 = true) :
    (move.perform ports motor).1.position move.zoom = move.target := by
  obtain ⟨happened, last, makes⟩ := perform_makes ports motor move
  exact (makes.arrives succeeds).1

/-! ### Runs -/

theorem run_append (earlier later : List Move) :
    run ports motor (earlier ++ later) = run ports (run ports motor earlier) later :=
  foldl_append

theorem run_cons (move : Move) (later : List Move) :
    run ports motor (move :: later) = run ports (move.perform ports motor).1 later :=
  rfl

theorem mem_run_attempts {motor : Motor World} {moves : List Move} {attempt : Attempt} :
    attempt ∈ (run ports motor moves).attempts ↔ attempt ∈ motor.attempts ∨
      ∃ earlier move later, moves = earlier ++ move :: later ∧
        attempt ∈ move.made ports (run ports motor earlier) := by
  induction moves generalizing motor with
  | nil => simp [run]
  | cons first rest hypothesis =>
    rw [run_cons, hypothesis, perform_attempts, mem_append, or_assoc]
    refine or_congr_right ⟨?_, ?_⟩
    · rintro (made | ⟨earlier, move, later, rfl, made⟩)
      · exact ⟨[], first, rest, rfl, made⟩
      · exact ⟨first :: earlier, move, later, rfl, made⟩
    · rintro ⟨_ | ⟨head, earlier⟩, move, later, split, made⟩
      · obtain ⟨rfl, rfl⟩ := cons_eq_cons.mp split
        exact .inl made
      · obtain ⟨rfl, rfl⟩ := cons_eq_cons.mp split
        exact .inr ⟨earlier, move, later, rfl, made⟩

theorem run_position (moves : List Move)
    (gates : ∀ attempt ∈ (run ports motor moves).attempts, attempt.Programmed → attempt.Gated)
    (zoom : Bool) :
    (run ports motor moves).position zoom - travelled zoom (run ports motor moves).attempts =
      motor.position zoom - travelled zoom motor.attempts := by
  induction moves generalizing motor with
  | nil => rfl
  | cons move rest hypothesis =>
    have made : ∀ attempt ∈ move.made ports motor, attempt.Programmed → attempt.Gated :=
      fun attempt member => gates attempt
        ((mem_run_attempts ports).mpr (.inr ⟨[], move, rest, rfl, member⟩))
    have follows := (perform_follows_iff ports motor move).mpr made zoom
    rw [run_cons, hypothesis _ gates, perform_attempts, travelled_append, ← follows]
    ring

/-- The positions of a driver are tracked over a run of moves if and only if the gate rises in
every step of the run whose four registers are written. -/
theorem tracks_iff (world : World) (zoomPosition focusPosition : Int) (moves : List Move) :
    Tracks ports (opened world zoomPosition focusPosition) moves ↔
      ∀ attempt ∈ (run ports (opened world zoomPosition focusPosition) moves).attempts,
        attempt.Programmed → attempt.Gated := by
  constructor
  · intro tracks attempt member
    rcases (mem_run_attempts ports).mp member with none | ⟨earlier, move, later, split, made⟩
    · cases none
    · exact (perform_follows_iff ports _ move).mp (tracks earlier move later split).1 attempt made
  · rintro gates earlier move later rfl
    have made : ∀ attempt ∈ move.made ports
        (run ports (opened world zoomPosition focusPosition) earlier),
        attempt.Programmed → attempt.Gated := fun attempt member =>
      gates attempt ((mem_run_attempts ports).mpr (.inr ⟨earlier, move, later, rfl, member⟩))
    refine ⟨(perform_follows_iff ports _ move).mpr made, fun succeeds => ?_⟩
    have real := run_position ports (opened world zoomPosition focusPosition) (earlier ++ [move])
      (fun attempt member => ?_) move.zoom
    · rw [run_append] at real
      have arrives := perform_arrives ports succeeds
      have none : travelled move.zoom (opened world zoomPosition focusPosition).attempts = 0 := rfl
      change (move.perform ports _).1.position move.zoom - _ = _ at real
      rw [arrives, none] at real
      change _ - travelled move.zoom (move.perform ports _).1.attempts = _ at real
      omega
    · refine gates attempt ?_
      rcases (mem_run_attempts ports).mp member with none | ⟨front, step, back, split, inside⟩
      · cases none
      · refine (mem_run_attempts ports).mpr (.inr ⟨front, step, back ++ later, ?_, inside⟩)
        simpa using congrArg (· ++ later) split

/-- A bus on which the gate never rises. -/
def stuckGate : Ports Unit where
  call _ call :=
    match call with
    | .transfer .. => ((), 3)
    | .pin .. => ((), -1)
    | .sleep _ => ((), 0)

/-- The zoom is counted at 231, and it has not moved from its home. -/
theorem stuckGate_counted : ¬ Tracks stuckGate (opened () 230 427) [.zoomTo 231] := by
  intro tracks
  have follows := (tracks [] (.zoomTo 231) [] rfl).1 true
  revert follows
  rw [Move.made, Move.perform, moveZoomTo, moveTo, dif_pos (by decide), dif_neg (by decide)]
  decide

end E5739Motor
