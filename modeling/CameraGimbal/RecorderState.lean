/-
This file models the state of the recorder: a flag, and a file that is there while the recorder is
active. Every call may find that its open, its write or its unlink fails. The flag is given up
before the unlink, and a file that could not be written is left, so flag and file agree in just the
runs in which neither fails.
-/

import CameraGimbal.CText

namespace RecorderState

open CText List Bool

/-! ### Calls -/

/-- `struct ca_recorder`, of whose path only whether there is one matters here. -/
structure Recorder where
  active : Bool
  hasPath : Bool
  deriving DecidableEq, Repr

/-- A recorder, and what stands at its path. -/
structure State where
  recorder : Recorder
  file : Option Text
  deriving DecidableEq, Repr

/-- What the system makes of a call: the time, whether the open and the unlink go through, and how
many bytes the write takes. An unlink goes through as well if there is no file. -/
structure Outcome where
  now : Int64
  opens : Bool
  writes : Option Nat
  unlinks : Bool
  deriving DecidableEq, Repr

/-- The text that tells that the recorder is active. -/
def stateText (now : Int64) : Text :=
  bytes "recording-control-active=1" ++ [newline] ++ bytes "started=" ++ printInt now.toInt ++
    [newline]

def textSize : Nat := 128

/-- The file after `unlink`. -/
def unlinked (file : Option Text) (unlinks : Bool) : Option Text := if unlinks then none else file

def caRecorderInit (hasPath : Bool) (file : Option Text) (unlinks : Bool) : State :=
  { recorder := { active := false, hasPath := hasPath }
    file := if hasPath then unlinked file unlinks else file }

/-- `ca_recorder_set`: the state, and whether the call succeeds. -/
def caRecorderSet (state : State) (active : Bool) (outcome : Outcome) : State × Bool :=
  if state.recorder.active = active then (state, true)
  else if active = false then
    let stopped := { state.recorder with active := false }
    if stopped.hasPath then
      ({ recorder := stopped, file := unlinked state.file outcome.unlinks }, outcome.unlinks)
    else ({ state with recorder := stopped }, true)
  else
    let started := { state.recorder with active := true }
    if started.hasPath then
      if outcome.opens = false then (state, false)
      else
        let text := stateText outcome.now
        if textSize ≤ text.length then ({ state with file := some [] }, false)
        else
          match outcome.writes with
          | none => ({ state with file := some [] }, false)
          | some count =>
            if min count text.length = text.length then
              ({ recorder := started, file := some text }, true)
            else ({ state with file := some (text.take count) }, false)
    else ({ state with recorder := started }, true)

/-! ### Agreement -/

/-- The file is complete while the recorder is active, and is not there while it is not. -/
def Agrees (state : State) : Prop :=
  state.recorder.hasPath = true →
    if state.recorder.active then ∃ now, state.file = some (stateText now) else state.file = none

/-- A call does what it should: if it fails, flag and file are as before and the same call is not
passed over, and if it succeeds they agree. -/
structure Right (before : State) (active : Bool) (result : State × Bool) : Prop where
  failed : result.2 = false → result.1.recorder.active = before.recorder.active ∧
    result.1.file.isSome = before.file.isSome ∧ result.1.recorder.active ≠ active
  succeeded : result.2 = true → Agrees result.1

/-- No unlink fails in the call that stops the recorder, and no write in the one that starts it. -/
def Fault (state : State) (active : Bool) (outcome : Outcome) : Prop :=
  state.recorder.hasPath = true ∧ state.recorder.active ≠ active ∧
    if active then outcome.opens = true ∧
      ∀ count, outcome.writes = some count → count < (stateText outcome.now).length
    else outcome.unlinks = false

theorem stateText_length (now : Int64) : (stateText now).length < textSize := by
  have magnitude : now.toInt.natAbs < 10 ^ 19 := by
    have least := now.le_toInt
    have most := now.toInt_lt
    omega
  have digits := length_printNat_le (by decide) magnitude
  have sign : (printInt now.toInt).length ≤ 20 := by
    unfold printInt
    split
    · rw [length_cons]
      omega
    · omega
  have head :
      (bytes "recording-control-active=1" ++ [newline] ++ bytes "started=").length = 35 := by
    decide
  unfold stateText textSize
  rw [length_append, length_append, head, length_singleton]
  omega

theorem caRecorderInit_agrees {hasPath unlinks : Bool} {file : Option Text}
    (gone : unlinks = true ∨ file = none) : Agrees (caRecorderInit hasPath file unlinks) := by
  intro isPath
  have isPath : hasPath = true := isPath
  show (if hasPath then unlinked file unlinks else file) = none
  rw [if_pos isPath, unlinked]
  rcases gone with isUnlinked | isNone
  · rw [if_pos isUnlinked]
  · rw [isNone, ite_self]

section Call

variable {state : State} {active : Bool} {outcome : Outcome}

theorem caRecorderSet_same (same : state.recorder.active = active) :
    caRecorderSet state active outcome = (state, true) := if_pos same

theorem caRecorderSet_noPath (other : state.recorder.active ≠ active)
    (noPath : state.recorder.hasPath = false) :
    caRecorderSet state active outcome =
      ({ state with recorder := { state.recorder with active := active } }, true) := by
  unfold caRecorderSet
  rw [if_neg other]
  cases active <;> simp [noPath]

theorem caRecorderSet_stop (wasActive : state.recorder.active = true)
    (isPath : state.recorder.hasPath = true) :
    caRecorderSet state false outcome =
      ({ recorder := { state.recorder with active := false }
         file := unlinked state.file outcome.unlinks }, outcome.unlinks) := by
  unfold caRecorderSet
  rw [wasActive, if_neg true_eq_false.mp, if_pos rfl]
  exact if_pos isPath

theorem caRecorderSet_start (outcome : Outcome) (wasActive : state.recorder.active = false)
    (isPath : state.recorder.hasPath = true) :
    (outcome.opens = false ∧ caRecorderSet state true outcome = (state, false)) ∨
      (Fault state true outcome ∧ ∃ text,
        caRecorderSet state true outcome = ({ state with file := some text }, false)) ∨
      (¬ Fault state true outcome ∧ caRecorderSet state true outcome =
        ({ recorder := { state.recorder with active := true }
           file := some (stateText outcome.now) }, true)) := by
  have other : state.recorder.active ≠ true := by
    rw [wasActive]
    exact nofun
  have fits : ¬ textSize ≤ (stateText outcome.now).length :=
    not_le.mpr (stateText_length outcome.now)
  unfold caRecorderSet
  rw [if_neg other, if_neg true_eq_false.mp]
  rw [if_pos isPath]
  cases opens : outcome.opens with
  | false => exact .inl ⟨rfl, if_pos rfl⟩
  | true =>
    refine .inr ?_
    rw [if_neg true_eq_false.mp, if_neg fits]
    cases writes : outcome.writes with
    | none =>
      refine .inl ⟨⟨isPath, other, opens, fun count isCount => ?_⟩, [], rfl⟩
      rw [writes] at isCount
      cases isCount
    | some count =>
      by_cases whole : min count (stateText outcome.now).length = (stateText outcome.now).length
      · refine .inr ⟨fun fault => ?_, if_pos whole⟩
        have short := fault.2.2.2 count writes
        omega
      · refine .inl ⟨⟨isPath, other, opens, fun written isWritten => ?_⟩,
          (stateText outcome.now).take count, if_neg whole⟩
        rw [writes] at isWritten
        cases isWritten
        omega

theorem agrees_noPath (noPath : state.recorder.hasPath = false) : Agrees state := fun isPath =>
  absurd (noPath.symm.trans isPath) Bool.false_ne_true

theorem agrees_inactive (agrees : Agrees state) (isPath : state.recorder.hasPath = true)
    (inactive : state.recorder.active = false) : state.file = none := by
  have file := agrees isPath
  rw [inactive] at file
  exact file

theorem caRecorderSet_right (agrees : Agrees state) (clean : ¬ Fault state active outcome) :
    Right state active (caRecorderSet state active outcome) ∧
      Agrees (caRecorderSet state active outcome).1 := by
  have succeeds : ∀ result : State × Bool, result.2 = true → Agrees result.1 →
      Right state active result ∧ Agrees result.1 := fun result done isAgreed =>
    ⟨⟨fun failed => absurd (failed.symm.trans done) Bool.false_ne_true, fun _ => isAgreed⟩,
      isAgreed⟩
  by_cases same : state.recorder.active = active
  · rw [caRecorderSet_same same]
    exact succeeds _ rfl agrees
  · cases isPath : state.recorder.hasPath with
    | false =>
      rw [caRecorderSet_noPath same isPath]
      exact succeeds _ rfl (agrees_noPath isPath)
    | true =>
      cases active with
      | false =>
        have wasActive : state.recorder.active = true := not_eq_false _ ▸ same
        have unlinks : outcome.unlinks = true := by
          by_contra refused
          exact clean ⟨isPath, same, eq_false_iff.mpr refused⟩
        rw [caRecorderSet_stop wasActive isPath]
        refine succeeds _ unlinks fun _ => ?_
        exact if_pos unlinks
      | true =>
        have wasInactive : state.recorder.active = false := eq_false_iff.mpr same
        rcases caRecorderSet_start outcome wasInactive isPath with
          ⟨-, closed⟩ | ⟨fault, -⟩ | ⟨-, written⟩
        · rw [closed]
          exact ⟨⟨fun _ => ⟨rfl, rfl, same⟩, nofun⟩, agrees⟩
        · exact absurd fault clean
        · rw [written]
          exact succeeds _ rfl fun _ => ⟨outcome.now, rfl⟩

theorem caRecorderSet_wrong (agrees : Agrees state) (fault : Fault state active outcome) :
    ¬ Right state active (caRecorderSet state active outcome) := by
  obtain ⟨isPath, other, failing⟩ := fault
  intro right
  cases active with
  | false =>
    have wasActive : state.recorder.active = true := not_eq_false _ ▸ other
    have refused : outcome.unlinks = false := failing
    rw [caRecorderSet_stop wasActive isPath] at right
    have kept := (right.failed refused).1
    rw [wasActive] at kept
    exact Bool.false_ne_true kept
  | true =>
    have wasInactive : state.recorder.active = false := eq_false_iff.mpr other
    have opens : outcome.opens = true := failing.1
    rcases caRecorderSet_start outcome wasInactive isPath with
      ⟨closed, -⟩ | ⟨-, text, left⟩ | ⟨clean, -⟩
    · exact Bool.false_ne_true (closed.symm.trans opens)
    · rw [left] at right
      have kept := (right.failed rfl).2.1
      rw [agrees_inactive agrees isPath wasInactive] at kept
      exact Bool.false_ne_true kept.symm
    · exact clean ⟨isPath, other, failing⟩

end Call

/-! ### Runs -/

/-- Every call of a run does what it should. -/
def RightRun : State → List (Bool × Outcome) → Prop
  | _, [] => True
  | state, (active, outcome) :: calls =>
    Right state active (caRecorderSet state active outcome) ∧
      RightRun (caRecorderSet state active outcome).1 calls

def FaultlessRun : State → List (Bool × Outcome) → Prop
  | _, [] => True
  | state, (active, outcome) :: calls =>
    ¬ Fault state active outcome ∧ FaultlessRun (caRecorderSet state active outcome).1 calls

theorem rightRun_iff {state : State} (agrees : Agrees state) (calls : List (Bool × Outcome)) :
    RightRun state calls ↔ FaultlessRun state calls := by
  induction calls generalizing state with
  | nil => exact Iff.rfl
  | cons call rest hypothesis =>
    obtain ⟨active, outcome⟩ := call
    constructor
    · rintro ⟨right, restRight⟩
      have clean : ¬ Fault state active outcome := fun fault =>
        caRecorderSet_wrong agrees fault right
      exact ⟨clean, (hypothesis (caRecorderSet_right agrees clean).2).mp restRight⟩
    · rintro ⟨clean, restClean⟩
      obtain ⟨right, isAgreed⟩ := caRecorderSet_right agrees clean
      exact ⟨right, (hypothesis isAgreed).mpr restClean⟩

/-- From a recorder whose old file is gone, all calls of a run do what they should if and only if
none has a fault. -/
theorem caRecorderSet_run_iff {hasPath unlinks : Bool} {file : Option Text}
    (gone : unlinks = true ∨ file = none) (calls : List (Bool × Outcome)) :
    RightRun (caRecorderInit hasPath file unlinks) calls ↔
      FaultlessRun (caRecorderInit hasPath file unlinks) calls :=
  rightRun_iff (caRecorderInit_agrees gone) calls

/-- A recorder that is started and stopped. -/
theorem caRecorderSet_run_iff_two :
    RightRun (caRecorderInit true none true)
        [(true, ⟨0, true, some 40, true⟩), (false, ⟨1, true, none, true⟩)] ↔
      FaultlessRun (caRecorderInit true none true)
        [(true, ⟨0, true, some 40, true⟩), (false, ⟨1, true, none, true⟩)] :=
  caRecorderSet_run_iff (.inl rfl) _

/-- A recorder that is stopped while its file cannot be unlinked. -/
theorem stop_refused : ¬ ∀ hasPath file unlinks calls,
    RightRun (caRecorderInit hasPath file unlinks) calls := by
  intro right
  have stopped := (right true none true
    [(true, ⟨0, true, some 40, true⟩), (false, ⟨1, true, none, false⟩)]).2.1
  have kept := (stopped.failed (by decide)).1
  revert kept
  decide

end RecorderState
