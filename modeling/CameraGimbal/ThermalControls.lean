/-
This file is about the cache of the thermal controls: the thread that polls them, and the calls of
the control thread that get and set them.

The device is read without the lock. A poll is stored only when the generation is still the one it
began with, and every call that succeeds counts the generation, so that what is stored was read
after every setter that has completed. The generation is a 32-bit number.
-/

import Mathlib.Data.List.Induction
import Mathlib.Data.Nat.ModEq

namespace ThermalControls

open List Option

/-! ### The model -/

inductive Control where
  | gain
  | palette
  deriving DecidableEq, Repr

/-- A call that gets or sets a control. -/
structure Call where
  control : Control
  value : UInt8
  setter : Bool
  deriving DecidableEq, Repr

/-- `ca_media_get_thermal_gain`, when the device answers with the value. -/
def getThermalGain (gain : UInt8) : Call where
  control := .gain
  value := gain
  setter := false

/-- `ca_media_set_thermal_gain`. -/
def setThermalGain (gain : UInt8) : Call where
  control := .gain
  value := gain
  setter := true

/-- `ca_media_get_thermal_palette`, when the device answers with the value. -/
def getThermalPalette (palette : UInt8) : Call where
  control := .palette
  value := palette
  setter := false

/-- `ca_media_set_thermal_palette`. -/
def setThermalPalette (palette : UInt8) : Call where
  control := .palette
  value := palette
  setter := true

/-- What the monitor read from the device, and how many setters had completed by then. -/
structure Reading where
  value : UInt8
  setters : Nat
  deriving DecidableEq, Repr

/-- Where the monitor is. It knows the generation its poll began with; how many calls had succeeded
by then is its history. -/
inductive Monitor where
  | waiting
  | polling (generation : UInt32) (calls : Nat)
  | gainRead (generation : UInt32) (calls : Nat) (gain : Reading)
  | polled (generation : UInt32) (calls : Nat) (valid : Option (Reading × Reading))
  deriving DecidableEq, Repr

/-- The cache, the monitor, and the call of the control thread that the device has accepted and
that has not taken the lock yet. How many calls have succeeded, and how many of them were setters,
is the history. -/
structure Controls where
  generation : UInt32
  cachedGain : UInt8
  cachedPalette : UInt8
  cachedThermal : Bool
  monitor : Monitor
  pending : Option Call
  calls : Nat
  setters : Nat
  deriving DecidableEq, Repr

/-- The cache of a pipeline that has been opened. -/
def Controls.init : Controls where
  generation := 0
  cachedGain := 0
  cachedPalette := 0
  cachedThermal := false
  monitor := .waiting
  pending := none
  calls := 0
  setters := 0

variable (controls : Controls)

/-- The generation is read, and the lock is released. -/
def Controls.capture : Controls :=
  match controls.monitor with
  | .waiting =>
    { controls with monitor := .polling controls.generation controls.calls }
  | _ => controls

/-- The monitor reads the gain; without an answer the poll is not valid. -/
def Controls.readGain (answer : Option UInt8) : Controls :=
  match controls.monitor, answer with
  | .polling generation calls, some value =>
    { controls with monitor := .gainRead generation calls ⟨value, controls.setters⟩ }
  | .polling generation calls, none =>
    { controls with monitor := .polled generation calls none }
  | _, _ => controls

/-- The monitor reads the palette. -/
def Controls.readPalette (answer : Option UInt8) : Controls :=
  match controls.monitor with
  | .gainRead generation calls gain =>
    { controls with
      monitor := .polled generation calls
        (answer.map fun value => (gain, ⟨value, controls.setters⟩)) }
  | _ => controls

/-- What a poll that is over is going to store. -/
def Controls.stored : Option (Reading × Reading) :=
  match controls.monitor with
  | .polled generation _ (some values) =>
    if generation = controls.generation then some values else none
  | _ => none

/-- The lock is taken, a valid poll of the current generation is stored, and the monitor waits. -/
def Controls.store : Controls :=
  match controls.monitor with
  | .polled .. =>
    match controls.stored with
    | some (gain, palette) =>
      { controls with
        cachedGain := gain.value
        cachedPalette := palette.value
        cachedThermal := true
        monitor := .waiting }
    | none => { controls with monitor := .waiting }
  | _ => controls

/-- The control thread's call reaches the device; a call that fails returns. -/
def Controls.access (call : Call) (succeeds : Bool) : Controls :=
  match controls.pending with
  | none => if succeeds then { controls with pending := some call } else controls
  | some _ => controls

/-- The call takes the lock, changes the cache, counts the generation and returns. -/
def Controls.finish : Controls :=
  match controls.pending with
  | none => controls
  | some call =>
    { controls with
      cachedGain := if call.control = .gain then call.value else controls.cachedGain
      cachedPalette := if call.control = .palette then call.value else controls.cachedPalette
      generation := controls.generation + 1
      pending := none
      calls := controls.calls + 1
      setters := if call.setter then controls.setters + 1 else controls.setters }

/-- A step of the monitor or of the control thread. -/
inductive Event where
  | capture
  | readGain (answer : Option UInt8)
  | readPalette (answer : Option UInt8)
  | store
  | access (call : Call) (succeeds : Bool)
  | finish
  deriving DecidableEq, Repr

/-- One step. A thread that is elsewhere does not take it. -/
def Controls.step : Event → Controls
  | .capture => controls.capture
  | .readGain answer => controls.readGain answer
  | .readPalette answer => controls.readPalette answer
  | .store => controls.store
  | .access call succeeds => controls.access call succeeds
  | .finish => controls.finish

/-- A run from the opening of the pipeline. -/
def run (events : List Event) : Controls := events.foldl Controls.step Controls.init

/-! ### What is stored -/

/-- The cached value of a control. -/
def Controls.cached : Control → UInt8
  | .gain => controls.cachedGain
  | .palette => controls.cachedPalette

/-- The monitor reads this value of a control from the device. -/
def Event.read : Control → UInt8 → Event
  | .gain, value => .readGain (some value)
  | .palette, value => .readPalette (some value)

/-- No setter completes in these steps. -/
def NoSetter : Controls → List Event → Prop
  | _, [] => True
  | controls, event :: later =>
    (event = .finish → ∀ call ∈ controls.pending, call.setter = false) ∧
      NoSetter (controls.step event) later

/-- Whatever step follows the run, a cached value changes only to that of a call which completes in
it, or when the monitor stores to what it read with no setter completed since. -/
def Fresh (events : List Event) : Prop :=
  ∀ event control,
    let before := (run events).cached control
    let after := ((run events).step event).cached control
    after = before ∨
      (event = .finish ∧ ∃ call ∈ (run events).pending, call.control = control ∧
        after = call.value) ∨
      (event = .store ∧ ∃ earlier later, events = earlier ++ .read control after :: later ∧
        NoSetter (run earlier) (.read control after :: later))

/-- What the monitor has read of a control in its poll. -/
def Monitor.reading : Monitor → Control → Option Reading
  | .gainRead _ _ gain, .gain => some gain
  | .polled _ _ (some (gain, _)), .gain => some gain
  | .polled _ _ (some (_, palette)), .palette => some palette
  | _, _ => none

/-- The number of calls that have succeeded since the poll began. -/
def Controls.callsSince : Nat :=
  match controls.monitor with
  | .waiting => 0
  | .polling _ calls | .gainRead _ calls _ | .polled _ calls _ => controls.calls - calls

/-- A generation the monitor holds counts the calls that had succeeded, and what it read since is
recent unless a call has succeeded. -/
def Holds (generation : UInt32) (calls : Nat) (read : List Reading) : Prop :=
  generation = UInt32.ofNat calls ∧ calls ≤ controls.calls ∧
    ∀ reading ∈ read, calls = controls.calls → reading.setters = controls.setters

/-- What holds of the monitor wherever it is. -/
def MonitorInvariant : Monitor → Prop
  | .waiting => True
  | .polling generation calls => Holds controls generation calls []
  | .gainRead generation calls gain => Holds controls generation calls [gain]
  | .polled generation calls none => Holds controls generation calls []
  | .polled generation calls (some (gain, palette)) =>
    Holds controls generation calls [gain, palette]

/-- The invariant of every run. -/
structure Invariant (controls : Controls) : Prop where
  generation : controls.generation = UInt32.ofNat controls.calls
  monitor : MonitorInvariant controls controls.monitor

variable {controls after : Controls} {generation : UInt32} {calls : Nat} {read : List Reading}

section

variable (holds : Holds controls generation calls read)

include holds

theorem Holds.of_same
    (sameCalls : after.calls = controls.calls) (sameSetters : after.setters = controls.setters) :
    Holds after generation calls read := by
  obtain ⟨counts, before, recent⟩ := holds
  refine ⟨counts, before.trans sameCalls.ge, fun reading member current => ?_⟩
  exact (recent reading member (current.trans sameCalls)).trans sameSetters.symm

theorem Holds.of_call
    (counted : after.calls = controls.calls + 1) : Holds after generation calls read := by
  obtain ⟨counts, before, -⟩ := holds
  refine ⟨counts, (before.trans (Nat.le_succ _)).trans counted.ge, fun _ _ current => ?_⟩
  rw [counted] at current
  exact absurd before (Nat.not_le.mpr (Nat.lt_of_succ_le current.ge))

theorem Holds.push (value : UInt8) :
    Holds controls generation calls (read ++ [⟨value, controls.setters⟩]) := by
  obtain ⟨counts, before, recent⟩ := holds
  refine ⟨counts, before, fun reading member current => ?_⟩
  cases mem_append.mp member with
  | inl old => exact recent reading old current
  | inr new =>
    rw [mem_singleton.mp new]

theorem Holds.drop :
    Holds controls generation calls [] :=
  ⟨holds.1, holds.2.1, nofun⟩

end

theorem monitorInvariant_of {monitor : Monitor} (invariant : MonitorInvariant controls monitor)
    (keeps : ∀ {generation calls read}, Holds controls generation calls read →
      Holds after generation calls read) : MonitorInvariant after monitor := by
  cases monitor with
  | waiting => trivial
  | polling generation calls => exact keeps invariant
  | gainRead generation calls gain => exact keeps invariant
  | polled generation calls valid =>
    cases valid with
    | none => exact keeps invariant
    | some values => exact keeps invariant

open Controls

theorem Invariant.init : Invariant init :=
  ⟨rfl, trivial⟩

theorem Invariant.capture (invariant : Invariant controls) : Invariant controls.capture := by
  unfold Controls.capture
  split
  · exact ⟨invariant.generation, invariant.generation, le_rfl, nofun⟩
  · exact invariant

theorem Invariant.readGain (invariant : Invariant controls) (answer : Option UInt8) :
    Invariant (controls.readGain answer) := by
  obtain ⟨counts, holds⟩ := invariant
  unfold Controls.readGain
  split
  · next polling =>
    rw [polling] at holds
    exact ⟨counts, holds.push _⟩
  · next polling =>
    rw [polling] at holds
    exact ⟨counts, holds⟩
  · exact ⟨counts, holds⟩

theorem Invariant.readPalette (invariant : Invariant controls) (answer : Option UInt8) :
    Invariant (controls.readPalette answer) := by
  obtain ⟨counts, holds⟩ := invariant
  unfold Controls.readPalette
  split
  · next gainRead =>
    rw [gainRead] at holds
    cases answer with
    | none => exact ⟨counts, holds.drop⟩
    | some value => exact ⟨counts, holds.push value⟩
  · exact ⟨counts, holds⟩

theorem Invariant.store (invariant : Invariant controls) : Invariant controls.store := by
  unfold Controls.store
  split
  · split
    · exact ⟨invariant.generation, trivial⟩
    · exact ⟨invariant.generation, trivial⟩
  · exact invariant

theorem Invariant.access (invariant : Invariant controls) (call : Call) (succeeds : Bool) :
    Invariant (controls.access call succeeds) := by
  unfold Controls.access
  split
  · split
    · exact ⟨invariant.generation,
        monitorInvariant_of invariant.monitor fun holds => holds.of_same rfl rfl⟩
    · exact invariant
  · exact invariant

theorem Invariant.finish (invariant : Invariant controls) : Invariant controls.finish := by
  unfold Controls.finish
  split
  · exact invariant
  · refine ⟨?_, monitorInvariant_of invariant.monitor fun holds => holds.of_call rfl⟩
    show controls.generation + 1 = UInt32.ofNat (controls.calls + 1)
    rw [UInt32.ofNat_add, ← invariant.generation]
    rfl

theorem Invariant.step (invariant : Invariant controls) (event : Event) :
    Invariant (controls.step event) := by
  cases event with
  | capture => exact invariant.capture
  | readGain answer => exact invariant.readGain answer
  | readPalette answer => exact invariant.readPalette answer
  | store => exact invariant.store
  | access call succeeds => exact invariant.access call succeeds
  | finish => exact invariant.finish

theorem invariant_run (events : List Event) : Invariant (run events) :=
  foldlRecOn events step Invariant.init fun _ invariant event _ =>
    invariant.step event

/-! ### Stale polls -/

/-- What is going to be stored was read with as many setters completed as there are now, unless the
generation has come round. -/
theorem Invariant.stored (invariant : Invariant controls)
    (noWrap : ¬ (0 < controls.callsSince ∧ 2 ^ 32 ∣ controls.callsSince))
    {gain palette : Reading} (stored : controls.stored = some (gain, palette)) :
    (controls.monitor.reading .gain = some gain ∧ gain.setters = controls.setters) ∧
      controls.monitor.reading .palette = some palette ∧ palette.setters = controls.setters := by
  obtain ⟨counts, holds⟩ := invariant
  unfold Controls.stored at stored
  split at stored
  · next generation calls values polled =>
    split at stored
    · next current =>
      cases stored
      rw [polled] at holds ⊢
      obtain ⟨began, before, recent⟩ := holds
      have since : controls.callsSince = controls.calls - calls := by
        unfold Controls.callsSince
        rw [polled]
      have wraps : calls % 2 ^ 32 = controls.calls % 2 ^ 32 := by
        have same := congrArg UInt32.toNat ((began.symm.trans current).trans counts)
        rwa [UInt32.toNat_ofNat', UInt32.toNat_ofNat'] at same
      have same : calls = controls.calls := by
        refine Nat.le_antisymm before (Nat.le_of_not_lt fun later => noWrap ?_)
        rw [since]
        exact ⟨Nat.sub_pos_of_lt later, (Nat.modEq_iff_dvd' before).mp wraps⟩
      exact ⟨⟨rfl, recent _ mem_cons_self same⟩,
        rfl, recent _ (mem_cons_of_mem _ mem_cons_self) same⟩
    · cases stored
  · cases stored

section

variable (controls : Controls)

/-- A store puts what is going to be stored into the cache, and does nothing else to it. -/
theorem store_cached (control : Control) :
    controls.store.cached control = controls.cached control ∨
      ∃ values ∈ controls.stored, controls.store.cached control =
        match control with
        | .gain => values.1.value
        | .palette => values.2.value := by
  unfold store
  split
  · split
    · next values stored =>
      right
      refine ⟨_, stored, ?_⟩
      cases control with
      | gain => rfl
      | palette => rfl
    · left
      cases control with
      | gain => rfl
      | palette => rfl
  · exact .inl rfl

theorem finish_cached (control : Control) :
    controls.finish.cached control = controls.cached control ∨
      ∃ call ∈ controls.pending, call.control = control ∧
        controls.finish.cached control = call.value := by
  unfold finish
  split
  · exact .inl rfl
  · next call pending =>
    by_cases same : call.control = control
    · right
      refine ⟨call, pending, same, ?_⟩
      subst same
      cases isGain : call.control with
      | gain => rfl
      | palette => rfl
    · left
      cases control with
      | gain => exact if_neg same
      | palette => exact if_neg same

/-- What the monitor knows after a step it knew before, or has read in it. -/
theorem step_reading (event : Event) (control : Control) {reading : Reading}
    (known : (controls.step event).monitor.reading control = some reading) :
    controls.monitor.reading control = some reading ∨
      (event = .read control reading.value ∧ reading.setters = controls.setters) := by
  cases event with
  | capture =>
    simp only [step, capture] at known
    split at known
    · cases control <;> cases known
    · exact .inl known
  | readGain answer =>
    simp only [step, readGain] at known
    split at known
    · cases control with
      | gain =>
        cases known
        exact .inr ⟨rfl, rfl⟩
      | palette => cases known
    · cases control <;> cases known
    · exact .inl known
  | readPalette answer =>
    simp only [step, readPalette] at known
    split at known
    · next gainRead =>
      rw [gainRead]
      cases answer with
      | none => cases control <;> cases known
      | some value =>
        cases control with
        | gain => exact .inl known
        | palette =>
          cases known
          exact .inr ⟨rfl, rfl⟩
    · exact .inl known
  | store =>
    simp only [step, store] at known
    split at known
    · split at known
      · cases control <;> cases known
      · cases control <;> cases known
    · exact .inl known
  | access call succeeds =>
    simp only [step, access] at known
    left
    split at known
    · split at known <;> exact known
    · exact known
  | finish =>
    simp only [step, finish] at known
    left
    split at known <;> exact known

/-- What the monitor knows it has read in the run. -/
theorem run_reading (events : List Event) (control : Control) {reading : Reading}
    (known : (run events).monitor.reading control = some reading) :
    ∃ earlier later, events = earlier ++ .read control reading.value :: later ∧
      reading.setters = (run earlier).setters := by
  induction events using reverseRecOn with
  | nil => cases control <;> cases known
  | append_singleton events event hypothesis =>
    have stepped : run (events ++ [event]) = (run events).step event := foldl_append ..
    rw [stepped] at known
    cases step_reading _ _ _ known with
    | inl before =>
      obtain ⟨earlier, later, rfl, setters⟩ := hypothesis before
      refine ⟨earlier, later ++ [event], ?_, setters⟩
      rw [append_assoc, cons_append]
    | inr now =>
      obtain ⟨rfl, setters⟩ := now
      exact ⟨events, [], rfl, setters⟩

/-- A step counts the setter that completes in it, if there is one. -/
theorem step_setters (event : Event) :
    controls.setters ≤ (controls.step event).setters ∧
      ((controls.step event).setters = controls.setters → event = .finish →
        ∀ call ∈ controls.pending, call.setter = false) := by
  cases event with
  | capture =>
    simp only [step, capture]
    split <;> exact ⟨le_rfl, nofun⟩
  | readGain answer =>
    simp only [step, readGain]
    split <;> exact ⟨le_rfl, nofun⟩
  | readPalette answer =>
    simp only [step, readPalette]
    split <;> exact ⟨le_rfl, nofun⟩
  | store =>
    simp only [step, store]
    split
    · split <;> exact ⟨le_rfl, nofun⟩
    · exact ⟨le_rfl, nofun⟩
  | access call succeeds =>
    simp only [step, access]
    split
    · split <;> exact ⟨le_rfl, nofun⟩
    · exact ⟨le_rfl, nofun⟩
  | finish =>
    simp only [step, finish]
    split
    · next none => exact ⟨le_rfl, fun _ _ call member => absurd (none.symm.trans member) nofun⟩
    · next call pending =>
      cases isSetter : call.setter with
      | true => exact ⟨Nat.le_succ _, fun same => absurd same (Nat.succ_ne_self _)⟩
      | false =>
        refine ⟨le_rfl, fun _ _ other member => ?_⟩
        obtain rfl := some.inj (pending.symm.trans member)
        exact isSetter

theorem foldl_setters (events : List Event) :
    controls.setters ≤ (events.foldl step controls).setters :=
  foldlRecOn (motive := fun after => controls.setters ≤ after.setters) events step
    le_rfl fun _ before event _ => before.trans (step_setters _ event).1

theorem noSetter_of_setters (events : List Event)
    (same : (events.foldl step controls).setters = controls.setters) :
    NoSetter controls events := by
  induction events generalizing controls with
  | nil => trivial
  | cons event later hypothesis =>
    obtain ⟨grows, counted⟩ := step_setters controls event
    have after : (later.foldl step (controls.step event)).setters = controls.setters := same
    have kept : (controls.step event).setters = controls.setters :=
      le_antisymm ((foldl_setters _ later).trans after.le) grows
    exact ⟨counted kept, hypothesis _ (after.trans kept.symm)⟩

end

/-- What the monitor knows, with as many setters completed as there were when it was read, was read
with no setter completed since. -/
theorem run_read (events : List Event) (control : Control) {reading : Reading}
    (known : (run events).monitor.reading control = some reading)
    (current : reading.setters = (run events).setters) :
    ∃ earlier later, events = earlier ++ .read control reading.value :: later ∧
      NoSetter (run earlier) (.read control reading.value :: later) := by
  obtain ⟨earlier, later, rfl, setters⟩ := run_reading events control known
  refine ⟨earlier, later, rfl, noSetter_of_setters _ _ ?_⟩
  rw [← setters, current]
  exact congrArg Controls.setters (foldl_append ..).symm

/-- Unless the generation has come round during the poll, no step of any kind puts a value into the
cache that the monitor read before a setter of the gain or the palette completed. -/
theorem controls_fresh (events : List Event)
    (noWrap : ¬ (0 < (run events).callsSince ∧ 2 ^ 32 ∣ (run events).callsSince)) :
    Fresh events := by
  intro event control
  cases event with
  | store =>
    refine (store_cached (run events) control).imp_right fun ⟨values, stored, becomes⟩ => .inr ?_
    obtain ⟨gain, palette⟩ := (invariant_run events).stored noWrap stored
    refine ⟨rfl, ?_⟩
    show ∃ earlier later, events = earlier ++ .read control ((run events).store.cached control) ::
        later ∧ NoSetter (run earlier) (.read control ((run events).store.cached control) :: later)
    rw [becomes]
    cases control with
    | gain => exact run_read events .gain gain.1 gain.2
    | palette => exact run_read events .palette palette.1 palette.2
  | finish => exact (finish_cached (run events) control).imp_right fun calls => .inl ⟨rfl, calls⟩
  | capture =>
    left
    simp only [Controls.step, Controls.capture]
    split <;> rfl
  | readGain answer =>
    left
    simp only [Controls.step, Controls.readGain]
    split <;> rfl
  | readPalette answer =>
    left
    simp only [Controls.step, Controls.readPalette]
    split <;> rfl
  | access call succeeds =>
    left
    simp only [Controls.step, Controls.access]
    split
    · split <;> rfl
    · rfl

/-- A poll without a call in between, after a setter that has completed. -/
theorem controls_fresh_poll :
    Fresh [.access (setThermalGain 1) true, .finish, .capture, .readGain (some 1),
      .readPalette (some 0)] :=
  controls_fresh _ (by decide)

/-- Setters of a value that is cached already only count. -/
theorem run_setters (count : Nat) (controls : Controls) (idle : controls.pending = none)
    (value : UInt8) (cached : controls.cachedGain = value) :
    ((replicate count [Event.access (setThermalGain value) true, .finish]).flatten.foldl
        step controls) =
      { controls with
        generation := controls.generation + UInt32.ofNat count
        calls := controls.calls + count
        setters := controls.setters + count } := by
  induction count generalizing controls with
  | zero =>
    show controls = _
    have same : controls.generation + UInt32.ofNat 0 = controls.generation := UInt32.add_zero _
    rw [same]
    rfl
  | succ count hypothesis =>
    have first : (controls.step (.access (setThermalGain value) true)).step .finish =
        { controls with
          generation := controls.generation + 1
          calls := controls.calls + 1
          setters := controls.setters + 1 } := by
      unfold step access finish
      rw [idle, ← cached]
      rfl
    have later := hypothesis
      ((controls.step (.access (setThermalGain value) true)).step .finish)
      (by rw [first]; exact idle) (by rw [first]; exact cached)
    have counted : controls.generation + 1 + UInt32.ofNat count =
        controls.generation + UInt32.ofNat (count + 1) := by
      rw [add_comm count, UInt32.ofNat_add, UInt32.add_assoc]
      rfl
    rw [replicate_succ, flatten_cons, foldl_append]
    refine later.trans ?_
    rw [first]
    rw [counted, add_right_comm, add_right_comm controls.setters]
    rfl

/-- With `2 ^ 32` setters during a poll the generation has come round, and what was read before all
of them is stored. -/
theorem controls_wrap : ¬ ∀ events, Fresh events := by
  intro fresh
  have began : [Event.capture, .readGain (some 1), .readPalette (some 0)].foldl Controls.step
      Controls.init = { Controls.init with monitor := .polled 0 0 (some (⟨1, 0⟩, ⟨0, 0⟩)) } := rfl
  obtain ⟨count, total⟩ : ∃ count, 2 ^ 32 = count + 1 := ⟨2 ^ 32 - 1, rfl⟩
  have round : Controls.init.generation + UInt32.ofNat (count + 1) = 0 := by
    rw [← total]
    decide
  have ended := run_setters (count + 1)
    { Controls.init with monitor := .polled 0 0 (some (⟨1, 0⟩, ⟨0, 0⟩)) } rfl 0 rfl
  have first : (List.replicate (count + 1)
      [Event.access (setThermalGain 0) true, .finish]).flatten =
        .access (setThermalGain 0) true :: .finish ::
          (List.replicate count [Event.access (setThermalGain 0) true, .finish]).flatten := rfl
  have unread : Event.read .gain 1 ∉
      (List.replicate (count + 1) [Event.access (setThermalGain 0) true, .finish]).flatten := by
    intro member
    obtain ⟨pair, among, inside⟩ := List.mem_flatten.mp member
    rw [List.eq_of_mem_replicate among] at inside
    exact absurd inside (by decide)
  generalize (List.replicate (count + 1)
    [Event.access (setThermalGain 0) true, .finish]).flatten = setters at ended first unread
  rw [round] at ended
  have state : run ([.capture, .readGain (some 1), .readPalette (some 0)] ++ setters) = _ :=
    (List.foldl_append ..).trans ((congrArg (setters.foldl Controls.step) began).trans ended)
  have stale := fresh ([.capture, .readGain (some 1), .readPalette (some 0)] ++ setters)
    .store .gain
  rw [state] at stale
  obtain same | ⟨impossible, -⟩ | ⟨-, earlier, later, split, noSetter⟩ := stale
  · have same : (1 : UInt8) = 0 := same
    exact absurd same (by decide)
  · cases impossible
  have split : [.capture, .readGain (some 1), .readPalette (some 0)] ++ setters =
      earlier ++ Event.read .gain 1 :: later := split
  match earlier, split, noSetter with
  | [], split, _ => cases split
  | [_], split, noSetter =>
    obtain ⟨rfl, rest⟩ := List.cons.inj split
    obtain ⟨-, rfl⟩ := List.cons.inj rest
    obtain ⟨-, -, completes⟩ := noSetter
    rw [first] at completes
    exact absurd (completes.2.1 rfl (setThermalGain 0) rfl) (by decide)
  | [_, _], split, _ => cases split
  | _ :: _ :: _ :: earlier, split, _ =>
    have rest : setters = earlier ++ Event.read .gain 1 :: later :=
      (List.cons.inj (List.cons.inj (List.cons.inj split).2).2).2
    exact unread (rest ▸ List.mem_append_right _ List.mem_cons_self)

end ThermalControls
