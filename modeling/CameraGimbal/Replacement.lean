/-
This file is a library on processes that replace one shared file and hold no lock: each reads the
file, makes a new version of it, and puts that in its place at once. While every version is put in
place of the one that it was made from, what a change sets stays until another change sets it.
-/

import CameraGimbal.Transition

namespace Replacement

open List Function

variable {File Held Input Change Key : Type}

/-- What a process does with the file. -/
structure Program (File Held Input Change : Type) where
  /-- It goes on, with the file as it finds it. -/
  advance : File → Option Held → Input → Option Held
  /-- The version that it is about to put in place, and what this changes. -/
  ready : Held → Option (File × Change)
  /-- The version that this was made from. -/
  basis : Held → File

/-- The file and the processes, with the changes that were reported as done and the versions that
were put in place. -/
structure State (File Held Change : Type) where
  file : File
  processes : Nat → Option Held
  changes : List Change
  versions : List File

inductive Event (Input : Type) where
  | advance (process : Nat) (input : Input)
  | install (process : Nat) (succeeds : Bool)

def start (file : File) : State File Held Change := ⟨file, fun _ => none, [], [file]⟩

def step (program : Program File Held Input Change) (state : State File Held Change) :
    Event Input → State File Held Change
  | .advance process input =>
    { state with
      processes := Function.update state.processes process
        (program.advance state.file (state.processes process) input) }
  | .install process succeeds =>
    match (state.processes process).bind program.ready with
    | none => state
    | some (file, change) =>
      let left := Function.update state.processes process none
      if succeeds then ⟨file, left, state.changes ++ [change], state.versions ++ [file]⟩
      else { state with processes := left }

def run (program : Program File Held Input Change) (state : State File Held Change)
    (events : List (Event Input)) : State File Held Change :=
  events.foldl (step program) state

/-- A process goes on only as it is allowed to, and what it puts in place was made from the file
that is there. -/
def Current (program : Program File Held Input Change)
    (Allowed : File → Option Held → Input → Prop) (state : State File Held Change) :
    Event Input → Prop
  | .advance process input => Allowed state.file (state.processes process) input
  | .install process succeeds => ∀ held ∈ state.processes process,
    succeeds = true → (program.ready held).isSome = true → program.basis held = state.file

/-- What the processes hold is good for a replacement: it shows what it changes, and keeps what its
basis shows of other changes. -/
structure Lawful (program : Program File Held Input Change)
    (Allowed : File → Option Held → Input → Prop) (Good : Held → Prop)
    (changed : Change → List Key) (Shows : File → Change → Key → Prop) : Prop where
  advances : ∀ {file held input next}, (∀ former ∈ held, Good former) → Allowed file held input →
    program.advance file held input = some next → Good next
  own : ∀ {held file change}, Good held → program.ready held = some (file, change) →
    ∀ key ∈ changed change, Shows file change key
  others : ∀ {held file change}, Good held → program.ready held = some (file, change) →
    ∀ key ∉ changed change, ∀ other, Shows (program.basis held) other key → Shows file other key

structure Invariant (Good : Held → Prop) (changed : Change → List Key)
    (Shows : File → Change → Key → Prop) (state : State File Held Change) : Prop where
  good : ∀ process, ∀ held ∈ state.processes process, Good held
  shown : ∀ earlier change later, state.changes = earlier ++ change :: later →
    ∀ key ∈ changed change, (∀ other ∈ later, key ∉ changed other) → Shows state.file change key
  whole : state.file ∈ state.versions

variable {program : Program File Held Input Change} {Allowed : File → Option Held → Input → Prop}
  {Good : Held → Prop} {changed : Change → List Key} {Shows : File → Change → Key → Prop}
  {state : State File Held Change}

theorem Invariant.start (file : File) :
    Invariant Good changed Shows (start file : State File Held Change) where
  good _ _ held := nomatch held
  shown earlier _ _ split := absurd split (by simp [Replacement.start])
  whole := mem_singleton.mpr rfl

theorem Invariant.hold (invariant : Invariant Good changed Shows state) (process : Nat)
    (held : Option Held) (good : ∀ one ∈ held, Good one) :
    Invariant Good changed Shows
      { state with processes := update state.processes process held } where
  good other one member := by
    have member : one ∈ update state.processes process held other := member
    by_cases same : other = process
    · subst same
      rw [update_self] at member
      exact good one member
    · rw [update_of_ne same] at member
      exact invariant.good other one member
  shown := invariant.shown
  whole := invariant.whole

section

variable (lawful : Lawful program Allowed Good changed Shows)

include lawful

theorem Invariant.install
    (invariant : Invariant Good changed Shows state) {held : Held} {file : File} {change : Change}
    (good : Good held) (ready : program.ready held = some (file, change))
    (current : program.basis held = state.file) :
    Invariant Good changed Shows
      { state with
        file
        changes := state.changes ++ [change]
        versions := state.versions ++ [file] } where
  good := invariant.good
  shown earlier one later split key isChanged untouched := by
    rcases eq_nil_or_concat later with rfl | ⟨between, last, rfl⟩
    · obtain ⟨-, same⟩ := append_inj' split rfl
      obtain rfl : change = one := head_eq_of_cons_eq same
      exact lawful.own good ready key isChanged
    · rw [concat_eq_append, ← cons_append, ← append_assoc] at split
      obtain ⟨before, same⟩ := append_inj' split rfl
      obtain rfl : change = last := head_eq_of_cons_eq same
      rw [concat_eq_append, forall_mem_append] at untouched
      refine lawful.others good ready key (untouched.2 change (mem_singleton.mpr rfl)) one ?_
      rw [current]
      exact invariant.shown earlier one between before key isChanged untouched.1
  whole := mem_append_right _ (mem_singleton.mpr rfl)

theorem invariant_step (event : Event Input)
    (isCurrent : Current program Allowed state event)
    (invariant : Invariant Good changed Shows state) :
    Invariant Good changed Shows (step program state event) := by
  cases event with
  | advance process input =>
    exact invariant.hold process _ fun next isNext =>
      lawful.advances (invariant.good process) isCurrent isNext
  | install process succeeds =>
    unfold step
    dsimp only
    split
    · exact invariant
    next file change isReady =>
      obtain ⟨held, isHeld, ready⟩ := Option.bind_eq_some_iff.mp isReady
      have emptied := invariant.hold process none nofun
      cases succeeds with
      | false => exact emptied
      | true =>
        exact emptied.install lawful (invariant.good process held isHeld) ready
          (isCurrent held isHeld rfl (by rw [ready]; rfl))

theorem invariant_run (file : File)
    {events : List (Event Input)}
    (along : Transition.Along (step program) (Current program Allowed) (start file) events) :
    Invariant Good changed Shows (run program (start file) events) :=
  Transition.foldl_keeps (fun _ event isCurrent => invariant_step lawful event isCurrent)
    (.start file) along

end

end Replacement
