/-
This file is about the manual focus of the MT11: the calls of the control thread that start, turn
and stop it, and the worker that steps the lens while a direction is set.

The calls and the worker share the direction. A worker that gives up stores a zero, and the call
that turns it stores the new direction, each without looking again at what the other has done, so
that a command can be accepted by a worker that does not read it any more.
-/

import CameraGimbal.Transition
import Mathlib.Data.Int.Order.Basic

namespace Mt11Focus

open List Option

/-! ### The model -/

/-- The range of the lens and its position, as the actuator reports it. -/
structure FocusRange where
  minimum : Int
  maximum : Int
  current : Int
  deriving DecidableEq, Repr

/-- Where a worker is in its loop: before the first read of the direction, before the second one
with the lock, moving by the direction it has read, asleep, before it stores the zero of a worker
that gives up, or at its end. -/
inductive Worker where
  | top
  | locked
  | moving (direction : Int)
  | sleeping
  | leaving
  | exited
  deriving DecidableEq, Repr

/-- Where the control thread is: outside, or before the next access of one of its calls. -/
inductive Caller where
  | idle
  | stop
  | stopJoin
  | check (direction : Int)
  | replace (direction : Int)
  | startJoin (direction : Int)
  | startStore (direction : Int)
  | create (direction : Int)
  | undo
  | autofocusCheck
  | autofocusJoin
  deriving DecidableEq, Repr

/-- The shared direction, whether there is a thread to join, the threads that were created, newest
first, and where the control thread is. The direction that was accepted last and that no worker has
read yet is the history. -/
structure Focus where
  direction : Int
  threadStarted : Bool
  workers : List Worker
  caller : Caller
  unread : Option Int
  deriving DecidableEq, Repr

/-- The focus of a backend that was opened. -/
def Focus.init : Focus where
  direction := 0
  threadStarted := false
  workers := []
  caller := .idle
  unread := none

/-! ### The worker -/

/-- Whether a step in the direction is made: not without a range, not beyond it, and not when the
actuator refuses it. -/
def moves (direction : Int) (range : Option FocusRange) (accepted : Bool) : Bool :=
  match range with
  | none => false
  | some range =>
    -- +1 means farther, toward the lower position
    let target := range.current - direction
    if target < range.minimum ∨ target > range.maximum then false else accepted

/-- The next access of a worker in `manual_focus_thread`. -/
def Focus.workerStep (focus : Focus) (index : Nat) (range : Option FocusRange)
    (accepted : Bool) : Focus :=
  match focus.workers[index]? with
  | some .top =>
    { focus with
      workers := focus.workers.set index (if focus.direction = 0 then .exited else .locked) }
  | some .locked =>
    { focus with
      workers := focus.workers.set index
        (if focus.direction = 0 then .exited else .moving focus.direction)
      unread := none }
  | some (.moving direction) =>
    { focus with
      workers := focus.workers.set index
        (if moves direction range accepted then .sleeping else .leaving) }
  | some .sleeping => { focus with workers := focus.workers.set index .top }
  | some .leaving =>
    { focus with
      direction := 0
      workers := focus.workers.set index .exited }
  | some .exited | none => focus

/-! ### The calls -/

/-- The calls that access the direction. -/
inductive Call where
  | manualFocus (direction : Int)
  | setFocusPercent
  | autofocus
  deriving DecidableEq, Repr

/-- A call comes in, while the autofocus is running or not. -/
def Focus.call (focus : Focus) (call : Call) (autofocusRunning : Bool) : Focus :=
  match focus.caller, call with
  | .idle, .manualFocus direction =>
    if direction < -1 ∨ direction > 1 then focus
    else if direction = 0 then { focus with caller := .stop }
    else if autofocusRunning then focus
    else { focus with caller := .check direction }
  | .idle, .setFocusPercent => { focus with caller := .stop }
  | .idle, .autofocus => { focus with caller := .autofocusCheck }
  | _, _ => focus

/-- A thread that was started is joined once it has come to its end. -/
def Focus.join (focus : Focus) (after : Caller) : Focus :=
  if focus.threadStarted then
    match focus.workers with
    | .exited :: _ => { focus with threadStarted := false, caller := after }
    | _ => focus
  else { focus with caller := after }

/-- The next access of the control thread in its call. -/
def Focus.callerStep (focus : Focus) (createFails : Bool) : Focus :=
  match focus.caller with
  | .idle => focus
  | .stop => { focus with direction := 0, caller := .stopJoin, unread := none }
  | .stopJoin => focus.join .idle
  | .check direction =>
    if focus.threadStarted ∧ focus.direction ≠ 0 then { focus with caller := .replace direction }
    else { focus with caller := .startJoin direction }
  | .replace direction =>
    { focus with direction, caller := .idle, unread := some direction }
  | .startJoin direction => focus.join (.startStore direction)
  | .startStore direction =>
    { focus with direction, caller := .create direction, unread := some direction }
  | .create _ =>
    if createFails then { focus with caller := .undo }
    else
      { focus with
        threadStarted := true
        workers := .top :: focus.workers
        caller := .idle }
  | .undo => { focus with direction := 0, caller := .idle, unread := none }
  | .autofocusCheck =>
    if focus.direction ≠ 0 then { focus with caller := .idle }
    else { focus with caller := .autofocusJoin }
  | .autofocusJoin => focus.join .idle

/-! ### Runs -/

/-- A step of one of the threads. -/
inductive Event where
  | call (call : Call) (autofocusRunning : Bool)
  | caller (createFails : Bool)
  | worker (index : Nat) (range : Option FocusRange) (accepted : Bool)
  deriving DecidableEq, Repr

def Focus.step (focus : Focus) : Event → Focus
  | .call call autofocusRunning => focus.call call autofocusRunning
  | .caller createFails => focus.callerStep createFails
  | .worker index range accepted => focus.workerStep index range accepted

def run (events : List Event) : Focus := events.foldl Focus.step Focus.init

/-! ### What is promised -/

/-- A worker that has not come to its end. -/
def Worker.alive : Worker → Bool
  | .exited => false
  | _ => true

/-- A worker that is still going to read the direction, unless its step fails. -/
def Worker.reads : Worker → Bool
  | .exited | .leaving => false
  | _ => true

/-- No command is lost: when the control thread is outside its calls, there is a worker that is
going to read the direction that was accepted and not read yet, and a direction that is set has a
worker. -/
structure Keeps (focus : Focus) : Prop where
  read : focus.caller = .idle → ∀ direction ∈ focus.unread,
    focus.direction = direction ∧ ∃ worker ∈ focus.workers, worker.reads = true
  live : focus.caller = .idle → focus.direction ≠ 0 →
    ∃ worker ∈ focus.workers, worker.alive = true

/-- No worker gives up beside a command: a direction is replaced only while there is a worker that
is going to read it, and a step fails only when the direction was read after it was stored. -/
def Undisturbed (focus : Focus) : Event → Prop
  | .call .. => True
  | .caller _ =>
    ∀ direction, focus.caller = .replace direction →
      ∃ worker ∈ focus.workers, worker.reads = true
  | .worker index range accepted =>
    ∀ direction, focus.workers[index]? = some (.moving direction) →
      moves direction range accepted = false → focus.unread = none

/-! ### The invariant -/

/-- The direction a call is going to store, or has stored without a worker yet. -/
def Caller.wants : Caller → Option Int
  | .check direction | .replace direction | .startJoin direction | .startStore direction
  | .create direction => some direction
  | _ => none

/-- There is no thread to join any more, and none yet. -/
def Caller.starting : Caller → Bool
  | .startStore _ | .create _ | .undo => true
  | _ => false

/-- The direction is stored, and there is no worker yet. -/
def Caller.stored : Caller → Bool
  | .create _ | .undo => true
  | _ => false

/-- Only the newest worker is alive, and none once it has been joined. -/
structure Single (focus : Focus) : Prop where
  older : ∀ worker ∈ focus.workers.tail, worker = .exited
  joined : focus.threadStarted = false → ∀ worker ∈ focus.workers, worker = .exited
  starting : focus.caller.starting = true → focus.threadStarted = false

structure Invariant (focus : Focus) : Prop where
  wanted : ∀ direction ∈ focus.caller.wants, direction ≠ 0
  unread : ∀ direction ∈ focus.unread, focus.direction = direction ∧ direction ≠ 0 ∧
    (focus.caller.stored = true ∨ ∃ worker ∈ focus.workers, worker.reads = true)
  live : focus.direction ≠ 0 →
    focus.caller.stored = true ∨ ∃ worker ∈ focus.workers, worker.alive = true

theorem Single.init : Single Focus.init :=
  ⟨nofun, nofun, fun _ => rfl⟩

theorem Invariant.init : Invariant Focus.init where
  wanted := nofun
  unread := nofun
  live := fun set => absurd rfl set

theorem alive_of_reads {worker : Worker} (reads : worker.reads = true) : worker.alive = true := by
  cases worker with
  | exited => cases reads
  | leaving => cases reads
  | _ => rfl

variable {focus : Focus} {unread : Option Int} {direction : Int}

/-! ### There is one worker at most -/

section

variable (single : Single focus)
include single

theorem Single.one : (focus.workers.filter Worker.alive).length ≤ 1 := by
  have older := single.older
  cases workers : focus.workers with
  | nil => exact Nat.zero_le 1
  | cons newest rest =>
    rw [workers, tail_cons] at older
    have none : rest.filter Worker.alive = [] := by
      refine filter_eq_nil_iff.mpr fun worker member => ?_
      rw [older worker member]
      exact nofun
    rw [filter_cons, none]
    split
    · exact Nat.le_refl 1
    · exact Nat.zero_le 1

theorem Single.newest {index : Nat} {worker : Worker}
    (found : focus.workers[index]? = some worker) (running : worker ≠ .exited) :
    ∃ rest, focus.workers = worker :: rest ∧ index = 0 := by
  have older := single.older
  cases workers : focus.workers with
  | nil =>
    rw [workers] at found
    cases found
  | cons newest rest =>
    rw [workers] at found older
    cases index with
    | zero =>
      cases found
      exact ⟨rest, rfl, rfl⟩
    | succ index => exact absurd (older worker (mem_of_getElem? found)) running

section

variable {index : Nat} {worker : Worker} (found : focus.workers[index]? = some worker)
  (running : worker ≠ .exited)

include found running

theorem Single.notStored : focus.caller.stored = false := by
  by_contra stored
  have starting : focus.caller.starting = true := by
    cases caller : focus.caller with
    | create direction => rfl
    | undo => rfl
    | _ =>
      rw [caller] at stored
      exact absurd rfl stored
  exact running (single.joined (single.starting starting) worker (mem_of_getElem? found))

theorem Single.advance {after : Worker} :
    Single { focus with direction, workers := focus.workers.set index after, unread } := by
  obtain ⟨rest, workers, rfl⟩ := single.newest found running
  have older := single.older
  rw [workers, tail_cons] at older
  rw [workers, set_cons_zero]
  refine ⟨older, fun joined => ?_, single.starting⟩
  exact absurd (single.joined joined worker (workers ▸ mem_cons_self)) running

end

theorem Single.worker (index : Nat) (range : Option FocusRange) (accepted : Bool) :
    Single (focus.workerStep index range accepted) := by
  unfold Focus.workerStep
  split
  · next found => exact single.advance found nofun
  · next found => exact single.advance found nofun
  · next direction found => exact single.advance found nofun
  · next found => exact single.advance found nofun
  · next found => exact single.advance found nofun
  · exact single
  · exact single

variable {after : Caller}

theorem Single.goOn (starting : after.starting = true → focus.threadStarted = false) :
    Single { focus with direction, caller := after, unread } :=
  ⟨single.older, single.joined, starting⟩

theorem Single.ended {rest : List Worker} (workers : focus.workers = .exited :: rest) :
    ∀ worker ∈ focus.workers, worker = .exited := by
  have older := single.older
  rw [workers, tail_cons] at older
  rw [workers]
  exact forall_mem_cons.mpr ⟨rfl, older⟩

theorem Single.join : Single (focus.join after) := by
  unfold Focus.join
  split
  · split
    · next rest workers => exact ⟨single.older, fun _ => single.ended workers, fun _ => rfl⟩
    · exact single
  · next started => exact single.goOn fun _ => eq_false_of_ne_true started

theorem Single.caller (createFails : Bool) : Single (focus.callerStep createFails) := by
  unfold Focus.callerStep
  split
  · exact single
  · exact single.goOn nofun
  · exact single.join
  · split
    · exact single.goOn nofun
    · exact single.goOn nofun
  · exact single.goOn nofun
  · exact single.join
  · next caller => exact single.goOn fun _ => single.starting (caller ▸ rfl)
  · next caller =>
    have starting := single.starting (caller ▸ rfl)
    split
    · exact single.goOn fun _ => starting
    · exact ⟨single.joined starting, nofun, nofun⟩
  · exact single.goOn nofun
  · split
    · exact single.goOn nofun
    · exact single.goOn nofun
  · exact single.join

theorem Single.call (call : Call) (autofocusRunning : Bool) :
    Single (focus.call call autofocusRunning) := by
  unfold Focus.call
  split
  · split
    · exact single
    split
    · exact single.goOn nofun
    split
    · exact single
    · exact single.goOn nofun
  · exact single.goOn nofun
  · exact single.goOn nofun
  · exact single

theorem Single.step (event : Event) : Single (focus.step event) := by
  cases event with
  | call call autofocusRunning => exact single.call call autofocusRunning
  | caller createFails => exact single.caller createFails
  | worker index range accepted => exact single.worker index range accepted

end

/-! ### Every command is read -/

section

variable (invariant : Invariant focus)
include invariant

theorem Invariant.quiet (ended : ∀ worker ∈ focus.workers, worker = .exited)
    (outside : focus.caller.stored = false) : focus.direction = 0 ∧ focus.unread = none := by
  have none : focus.direction = 0 := by
    by_contra set
    cases invariant.live set with
    | inl stored => exact absurd (outside.symm.trans stored) nofun
    | inr alive =>
      obtain ⟨worker, member, alive⟩ := alive
      rw [ended worker member] at alive
      cases alive
  refine ⟨none, eq_none_iff_forall_not_mem.mpr fun direction unread => ?_⟩
  obtain ⟨same, set, -⟩ := invariant.unread direction unread
  exact set (same.symm.trans none)

theorem Invariant.keeps : Keeps focus where
  read := fun idle direction unread => by
    obtain ⟨same, -, reads⟩ := invariant.unread direction unread
    rw [idle] at reads
    exact ⟨same, reads.resolve_left nofun⟩
  live := fun idle set => by
    have live := invariant.live set
    rw [idle] at live
    exact live.resolve_left nofun

/-! ### Steps of a worker -/

variable (single : Single focus)
include single

section

variable {index : Nat} {worker : Worker} (found : focus.workers[index]? = some worker)
  (running : worker ≠ .exited)

include found running

theorem Invariant.workerStep {after : Worker}
    (keepsUnread : ∀ accepted ∈ unread, direction = accepted ∧ accepted ≠ 0 ∧ after.reads = true)
    (keepsLive : direction ≠ 0 → after.alive = true) :
    Invariant { focus with direction, workers := focus.workers.set index after, unread } := by
  obtain ⟨rest, workers, rfl⟩ := single.newest found running
  rw [workers, set_cons_zero]
  refine ⟨invariant.wanted, ?_, ?_⟩
  · intro accepted member
    obtain ⟨same, set, reads⟩ := keepsUnread accepted member
    exact ⟨same, set, .inr ⟨after, mem_cons_self, reads⟩⟩
  · exact fun set => .inr ⟨after, mem_cons_self, keepsLive set⟩

end

theorem Invariant.worker (index : Nat) (range : Option FocusRange) (accepted : Bool)
    (undisturbed : Undisturbed focus (.worker index range accepted)) :
    Invariant (focus.workerStep index range accepted) := by
  have stillUnread {after : Worker} (reads : after.reads = true) :
      ∀ direction ∈ focus.unread,
        focus.direction = direction ∧ direction ≠ 0 ∧ after.reads = true :=
    fun direction member =>
      ⟨(invariant.unread direction member).1, (invariant.unread direction member).2.1, reads⟩
  unfold Focus.workerStep
  split
  · next found =>
    by_cases zero : focus.direction = 0
    · rw [if_pos zero]
      refine invariant.workerStep single found nofun ?_ fun set => absurd zero set
      intro direction member
      obtain ⟨same, set, -⟩ := invariant.unread direction member
      exact absurd (same.symm.trans zero) set
    · rw [if_neg zero]
      exact invariant.workerStep single found nofun (stillUnread rfl) fun _ => rfl
  · next found =>
    by_cases zero : focus.direction = 0
    · rw [if_pos zero]
      exact invariant.workerStep single found nofun nofun fun set => absurd zero set
    · rw [if_neg zero]
      exact invariant.workerStep single found nofun nofun fun _ => rfl
  · next direction found =>
    cases moved : moves direction range accepted with
    | true =>
      rw [if_pos rfl]
      exact invariant.workerStep single found nofun (stillUnread rfl) fun _ => rfl
    | false =>
      rw [if_neg Bool.false_ne_true]
      have none := undisturbed direction found moved
      refine invariant.workerStep single found nofun ?_ fun _ => rfl
      rw [none]
      exact nofun
  · next found => exact invariant.workerStep single found nofun (stillUnread rfl) fun _ => rfl
  · next found =>
    refine invariant.workerStep single found nofun ?_ fun set => absurd rfl set
    intro direction member
    obtain ⟨rest, workers, -⟩ := single.newest found nofun
    have outside := single.notStored found nofun
    obtain ⟨reader, among, reads⟩ := (invariant.unread direction member).2.2.resolve_left
      fun stored => absurd (outside.symm.trans stored) nofun
    have older := single.older
    rw [workers, tail_cons] at older
    rw [workers] at among
    cases mem_cons.mp among with
    | inl newest =>
      rw [newest] at reads
      cases reads
    | inr old =>
      rw [older reader old] at reads
      cases reads
  · exact invariant
  · exact invariant

end

/-! ### Steps of the control thread -/

variable {after : Caller}

section

variable (invariant : Invariant focus)
include invariant

theorem Invariant.goOn (outside : focus.caller.stored = false)
    (wants : ∀ direction ∈ after.wants, direction ≠ 0) :
    Invariant { focus with caller := after } where
  wanted := wants
  unread := fun direction member => by
    obtain ⟨same, set, reads⟩ := invariant.unread direction member
    rw [outside] at reads
    exact ⟨same, set, .inr (reads.resolve_left nofun)⟩
  live := fun set => by
    have live := invariant.live set
    rw [outside] at live
    exact .inr (live.resolve_left nofun)

theorem Invariant.joinedTo (ended : ∀ worker ∈ focus.workers, worker = .exited)
    (outside : focus.caller.stored = false) (wants : ∀ direction ∈ after.wants, direction ≠ 0) :
    Invariant { focus with threadStarted := false, caller := after } := by
  obtain ⟨zero, none⟩ := invariant.quiet ended outside
  refine ⟨wants, ?_, fun set => absurd zero set⟩
  show ∀ direction ∈ focus.unread, _
  rw [none]
  exact nofun

theorem Invariant.join (single : Single focus) (outside : focus.caller.stored = false)
    (wants : ∀ direction ∈ after.wants, direction ≠ 0) : Invariant (focus.join after) := by
  unfold Focus.join
  cases started : focus.threadStarted with
  | true =>
    rw [if_pos rfl]
    split
    · next rest workers => exact invariant.joinedTo (single.ended workers) outside wants
    · exact invariant
  | false =>
    rw [if_neg Bool.false_ne_true]
    exact invariant.joinedTo (single.joined started) outside wants

omit invariant in
theorem Invariant.zero (wants : after.wants = none) :
    Invariant { focus with direction := 0, caller := after, unread := none } where
  wanted := fun direction member => by
    rw [wants] at member
    cases member
  unread := nofun
  live := fun set => absurd rfl set

theorem Invariant.caller (single : Single focus) (createFails : Bool)
    (undisturbed : Undisturbed focus (.caller createFails)) :
    Invariant (focus.callerStep createFails) := by
  have wanted := invariant.wanted
  unfold Focus.callerStep
  split
  · exact invariant
  · exact .zero rfl
  · next caller => exact invariant.join single (caller ▸ rfl) nofun
  · next direction caller =>
    rw [caller] at wanted
    split
    · exact invariant.goOn (caller ▸ rfl) wanted
    · exact invariant.goOn (caller ▸ rfl) wanted
  · next direction caller =>
    rw [caller] at wanted
    obtain ⟨worker, member, reads⟩ := undisturbed direction caller
    refine ⟨nofun, ?_, ?_⟩
    · intro accepted same
      obtain rfl := mem_some.mp same
      exact ⟨rfl, wanted _ rfl, .inr ⟨worker, member, reads⟩⟩
    · exact fun _ => .inr ⟨worker, member, alive_of_reads reads⟩
  · next direction caller =>
    rw [caller] at wanted
    exact invariant.join single (caller ▸ rfl) wanted
  · next direction caller =>
    rw [caller] at wanted
    refine ⟨wanted, ?_, fun _ => .inl rfl⟩
    intro accepted same
    obtain rfl := mem_some.mp same
    exact ⟨rfl, wanted _ rfl, .inl rfl⟩
  · next direction caller =>
    have unread := invariant.unread
    cases createFails with
    | true =>
      rw [if_pos rfl]
      refine ⟨nofun, ?_, fun _ => .inl rfl⟩
      exact fun accepted member =>
        ⟨(unread accepted member).1, (unread accepted member).2.1, .inl rfl⟩
    | false =>
      rw [if_neg Bool.false_ne_true]
      refine ⟨nofun, ?_, ?_⟩
      · exact fun accepted member =>
          ⟨(unread accepted member).1, (unread accepted member).2.1,
            .inr ⟨.top, mem_cons_self, rfl⟩⟩
      · exact fun _ => .inr ⟨.top, mem_cons_self, rfl⟩
  · exact .zero rfl
  · next caller =>
    split
    · exact invariant.goOn (caller ▸ rfl) nofun
    · exact invariant.goOn (caller ▸ rfl) nofun
  · next caller => exact invariant.join single (caller ▸ rfl) nofun

theorem Invariant.call (call : Call) (autofocusRunning : Bool) :
    Invariant (focus.call call autofocusRunning) := by
  unfold Focus.call
  split
  · next direction idle =>
    split
    · exact invariant
    split
    · exact invariant.goOn (idle ▸ rfl) nofun
    next set =>
    split
    · exact invariant
    · refine invariant.goOn (idle ▸ rfl) fun wanted same => ?_
      obtain rfl := mem_some.mp same
      exact set
  · next idle => exact invariant.goOn (idle ▸ rfl) nofun
  · next idle => exact invariant.goOn (idle ▸ rfl) nofun
  · exact invariant

/-! ### Every run -/

theorem Invariant.step (single : Single focus) (event : Event)
    (undisturbed : Undisturbed focus event) : Invariant (focus.step event) := by
  cases event with
  | call call autofocusRunning => exact invariant.call call autofocusRunning
  | caller createFails => exact invariant.caller single createFails undisturbed
  | worker index range accepted => exact invariant.worker single index range accepted undisturbed

end

/-- There is never more than one worker. As long as no worker gives up beside a command, no
command is lost. -/
theorem focus_keeps (events : List Event) :
    ((run events).workers.filter Worker.alive).length ≤ 1 ∧
      (Transition.Along Focus.step Undisturbed Focus.init events → Keeps (run events)) := by
  refine ⟨?_, fun undisturbed => ?_⟩
  · exact Single.one (foldlRecOn events _ Single.init fun _ single event _ => single.step event)
  · have kept : Single (run events) ∧ Invariant (run events) :=
      @Transition.foldl_keeps _ _ (fun focus => Single focus ∧ Invariant focus) _ _
        (fun _ event undisturbed kept =>
          ⟨kept.1.step event, kept.2.step kept.1 event undisturbed⟩)
        _ ⟨Single.init, Invariant.init⟩ _ undisturbed
    exact kept.2.keeps

/-- A direction that is replaced while the worker moves, and then read. -/
theorem focus_keeps_turned :
    Keeps (run [.call (.manualFocus 1) false, .caller false, .caller false, .caller false,
      .caller false, .worker 0 none true, .worker 0 none true, .call (.manualFocus (-1)) false,
      .caller false, .caller false, .worker 0 (some ⟨0, 100, 50⟩) true, .worker 0 none true]) :=
  (focus_keeps _).2 ⟨trivial, nofun, nofun, nofun, nofun, nofun, nofun, trivial, nofun,
    fun _ _ => ⟨.moving 1, List.mem_singleton.mpr rfl, rfl⟩, fun direction found stopped => by
      obtain rfl := Worker.moving.inj (Option.some.inj found)
      exact absurd stopped (by decide), nofun, trivial⟩

/-- A worker that reaches the limit while it is turned back: the new direction is accepted, nobody
reads it, and it stays set. -/
theorem focus_lost : ¬ ∀ events, Keeps (run events) := by
  intro keeps
  have lost := (keeps [.call (.manualFocus 1) false, .caller false, .caller false, .caller false,
    .caller false, .worker 0 none true, .worker 0 none true, .call (.manualFocus (-1)) false,
    .caller false, .worker 0 (some ⟨0, 100, 0⟩) true, .worker 0 none true, .caller false]).live rfl
      (by decide)
  exact absurd lost (by decide)

end Mt11Focus
