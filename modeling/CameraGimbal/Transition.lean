/-
This file is a library on runs of a deterministic system that takes one event
after another and may fault. An invariant that every step keeps holds at the end
of every run; a run that faults does so at a step from a state that the
invariant still describes. A system that never faults is a fold over its events,
each of which may have to meet a condition in the state it is taken in. What a
run has put out is a list whose elements may have to follow on those before them.
-/

import Mathlib.Data.List.Basic

namespace Transition

open List

variable {State Event Fault : Type}

/-- Take the events one after another, stopping at the first fault. -/
def run (step : State → Event → Except Fault State) (state : State) :
    List Event → Except Fault State
  | [] => .ok state
  | event :: later =>
    match step state event with
    | .ok after => run step after later
    | .error fault => .error fault

/-- How a run may end: in a state with the invariant, or in a fault of the known kind. -/
def Ends (Invariant : State → Prop) (Broken : Fault → Prop) : Except Fault State → Prop
  | .ok state => Invariant state
  | .error fault => Broken fault

variable {step : State → Event → Except Fault State} {Invariant : State → Prop}
  {Broken : Fault → Prop}

theorem run_cons_ok {state middle : State} {event : Event} (taken : step state event = .ok middle)
    (later : List Event) : run step state (event :: later) = run step middle later := by
  rw [run, taken]

theorem run_cons_error {state : State} {event : Event} {fault : Fault}
    (faulted : step state event = .error fault) (later : List Event) :
    run step state (event :: later) = .error fault := by
  rw [run, faulted]

/-- What every step keeps holds after every run, as long as its events are allowed; and every
fault is one that a step from such a state can raise. -/
theorem run_induct (Allowed : Event → Prop)
    (keeps : ∀ state event after, Allowed event → Invariant state →
      step state event = .ok after → Invariant after)
    (breaks : ∀ state event fault, Allowed event → Invariant state →
      step state event = .error fault → Broken fault)
    {state : State} (start : Invariant state) {events : List Event}
    (allowed : ∀ event ∈ events, Allowed event) :
    Ends Invariant Broken (run step state events) := by
  induction events generalizing state with
  | nil => exact start
  | cons event rest hypothesis =>
    obtain ⟨first, others⟩ := forall_mem_cons.mp allowed
    cases taken : step state event with
    | ok next =>
      rw [run_cons_ok taken]
      exact hypothesis (keeps state event next first start taken) others
    | error fault =>
      rw [run_cons_error taken]
      exact breaks state event fault first start taken

/-- What every step keeps holds after every run. -/
theorem run_preserves (keeps : ∀ state event after, Invariant state → step state event = .ok after →
      Invariant after) {state after :
    State} (start : Invariant state) {events : List Event}
    (ran : run step state events = .ok after) : Invariant after := by
  have ends : Ends Invariant (fun _ => True) (run step state events) :=
    run_induct (fun _ => True) (fun state event after _ => keeps state event after)
      (fun _ _ _ _ _ _ => trivial) start (fun _ _ => trivial)
  rwa [ran] at ends

/-! ### Systems that never fault -/

section Total

variable {Allowed : State → Event → Prop} {move : State → Event → State}

/-- Every event of a run is allowed in the state it is taken in. -/
def Along (move : State → Event → State) (Allowed : State → Event → Prop) (state : State) :
    List Event → Prop
  | [] => True
  | event :: later => Allowed state event ∧ Along move Allowed (move state event) later

instance alongDecidable [∀ state event, Decidable (Allowed state event)] :
    ∀ (events : List Event) (state : State), Decidable (Along move Allowed state events)
  | [], _ => isTrue trivial
  | event :: later, state =>
    have := alongDecidable later (move state event)
    inferInstanceAs (Decidable (_ ∧ _))

/-- What every allowed step keeps holds after every run of allowed steps. -/
theorem foldl_keeps
    (keeps : ∀ state event, Allowed state event → Invariant state → Invariant (move state event))
    {state : State} (start : Invariant state) {events : List Event}
    (along : Along move Allowed state events) : Invariant (events.foldl move state) := by
  induction events generalizing state with
  | nil => exact start
  | cons event rest hypothesis =>
    obtain ⟨first, others⟩ := along
    exact hypothesis (keeps state event first start) others

/-- What holds at the end of a run exactly when it held before it and every event was allowed, by
what holds of one step. -/
theorem foldl_iff {Good : State → Prop} {state : State} {events : List Event}
    (keeps : ∀ state, ∀ event ∈ events, Invariant state → Invariant (move state event))
    (exact : ∀ state, ∀ event ∈ events, Invariant state →
      (Good (move state event) ↔ Good state ∧ Allowed state event)) (start :
    Invariant state) :
    Invariant (events.foldl move state) ∧
      (Good (events.foldl move state) ↔ Good state ∧ Along move Allowed state events) := by
  induction events generalizing state with
  | nil => exact ⟨start, (iff_of_eq (and_true _)).symm⟩
  | cons event rest hypothesis =>
    obtain ⟨invariant, good⟩ := hypothesis
      (fun state other member => keeps state other (mem_cons_of_mem _ member))
      (fun state other member => exact state other (mem_cons_of_mem _ member))
      (keeps state event mem_cons_self start)
    refine ⟨invariant, good.trans ?_⟩
    rw [exact state event mem_cons_self start, and_assoc]
    rfl

theorem along_append {state : State} {earlier later : List Event} :
    Along move Allowed state (earlier ++ later) ↔
      Along move Allowed state earlier ∧ Along move Allowed (earlier.foldl move state) later := by
  induction earlier generalizing state with
  | nil => exact iff_of_eq (true_and _).symm
  | cons event rest hypothesis =>
    rw [cons_append, Along, Along, hypothesis, and_assoc, foldl_cons]

theorem along_of_all (all : ∀ state event, Allowed state event) (state : State)
    (events : List Event) : Along move Allowed state events := by
  induction events generalizing state with
  | nil => trivial
  | cons event rest hypothesis => exact ⟨all state event, hypothesis _⟩

/-- Events that are allowed in two ways. -/
theorem Along.and {Other : State → Event → Prop} {state : State} {events : List Event}
    (one : Along move Allowed state events) (other : Along move Other state events) :
    Along move (fun state event => Allowed state event ∧ Other state event) state events := by
  induction events generalizing state with
  | nil => trivial
  | cons event rest hypothesis =>
    exact ⟨⟨one.1, other.1⟩, hypothesis one.2 other.2⟩

/-- The event at a place of such a run is allowed, and what follows is such a run. -/
theorem Along.split {state : State} {earlier later : List Event} {event : Event}
    (along : Along move Allowed state (earlier ++ event :: later)) :
    Allowed (earlier.foldl move state) event ∧
      Along move Allowed (move (earlier.foldl move state) event) later :=
  (along_append.mp along).2

end Total

/-! ### Elements that follow on those before them -/

section Follows

variable {Element : Type} {elements : List Element}

/-- One more element, which follows on all the others. -/
theorem follows_push (Follows : List Element → Element → Prop)
    (each : ∀ earlier last later, elements = earlier ++ last :: later → Follows earlier last)
    {one : Element} (follows : Follows elements one) {earlier later : List Element}
    {last : Element} (split : elements ++ [one] = earlier ++ last :: later) :
    Follows earlier last := by
  rcases eq_nil_or_concat later with none | ⟨start, final, some⟩
  · rw [none] at split
    obtain ⟨rfl, same⟩ := append_inj' split rfl
    obtain rfl := head_eq_of_cons_eq same
    exact follows
  · rw [some, concat_eq_append, ← cons_append, ← append_assoc] at split
    exact each earlier last start (append_inj' split rfl).1

end Follows

end Transition
