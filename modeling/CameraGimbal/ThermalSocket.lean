/-
This file models the service that sends the newest thermal capture: which file is a capture and what
its key is, the table of watches, the scan of a directory, the events of inotify, and what a client
is sent.

The files below the capture directory change while the service works, between any two of its steps:
a scan first watches a directory, then reads it, then looks at one entry after another. A change is
told to the watch of the directory that it is made in; an event may be dropped for an overflow, or
be one with the event before it.
-/

import CameraGimbal.Bytes
import CameraGimbal.PosixFiles

namespace ThermalSocket

open CText (Text bytes strtol)
open Posix (Place slash pathMax)

/-! ### Captures -/

/-- `FRAME_BYTES`. -/
def frameBytes : Nat := 640 * 512 * 2

/-- `%d`: a number of 64 bits that is taken as an `int`. -/
def scanInt (text : Text) : Option (Int × Text) :=
  (strtol 64 text).map fun converted => (converted.value.bmod (2 ^ 32), converted.rest)

/-- `sscanf` with a `%d` before each of these texts: the numbers, and what is behind them. -/
def scanNumbers : List Text → Text → Option (List Int × Text)
  | [], text => some ([], text)
  | literal :: later, text =>
    match scanInt text with
    | none => none
    | some (number, rest) =>
      if literal <+: rest then
        (scanNumbers later (rest.drop literal.length)).map fun scanned =>
          (number :: scanned.1, scanned.2)
      else none

/-- `capture_key`: the numbers in the name at the end of a path. -/
def captureKey (path : Text) : Option (List Int) :=
  match scanNumbers [bytes "-", bytes "-", bytes "_", bytes "-", bytes "-", bytes "_",
      bytes "_I.bin"] (path.rtakeWhile (· ≠ slash)) with
  | some (key, []) => some key
  | _ => none

example : captureKey (bytes "/mnt/DCIM/capture/2026-01-01_12-00-00_8_I.bin") =
    some [2026, 1, 1, 12, 0, 0, 8] := by
  decide +kernel

def compareKey : List Int → List Int → Int
  | left :: lefts, right :: rights =>
    if left ≠ right then (if left < right then -1 else 1) else compareKey lefts rights
  | _, _ => 0

theorem length_scanNumbers {literals : List Text} {text rest : Text} {numbers : List Int}
    (scanned : scanNumbers literals text = some (numbers, rest)) :
    numbers.length = literals.length := by
  induction literals generalizing text numbers with
  | nil =>
    cases scanned
    rfl
  | cons literal later hypothesis =>
    rw [scanNumbers] at scanned
    split at scanned
    · cases scanned
    · split at scanned
      · obtain ⟨⟨behind, left⟩, inner, same⟩ := Option.map_eq_some_iff.mp scanned
        cases same
        rw [List.length_cons, List.length_cons, hypothesis inner]
      · cases scanned

theorem length_captureKey {path : Text} {key : List Int} (isKey : captureKey path = some key) :
    key.length = 7 := by
  unfold captureKey at isKey
  split at isKey
  · next scanned =>
    cases isKey
    exact length_scanNumbers scanned
  · cases isKey

@[simp] theorem compareKey_self (key : List Int) : compareKey key key = 0 := by
  induction key with
  | nil => rfl
  | cons number rest hypothesis =>
    rw [compareKey, if_neg (not_not.mpr rfl), hypothesis]

theorem compareKey_cons_le (left right : Int) (lefts rights : List Int) :
    compareKey (left :: lefts) (right :: rights) ≤ 0 ↔
      left < right ∨ left = right ∧ compareKey lefts rights ≤ 0 := by
  rw [compareKey]
  by_cases same : left = right
  · rw [if_neg (not_not.mpr same), same]
    exact ⟨fun le => Or.inr ⟨rfl, le⟩, fun le => (le.resolve_left (lt_irrefl right)).2⟩
  · rw [if_pos same]
    by_cases less : left < right
    · rw [if_pos less]
      exact iff_of_true (by decide) (Or.inl less)
    · rw [if_neg less]
      refine iff_of_false (by decide) ?_
      rintro (isLess | ⟨isSame, -⟩)
      · exact less isLess
      · exact same isSame

theorem compareKey_total {left right : List Int} (lengths : left.length = right.length)
    (more : ¬ compareKey left right ≤ 0) : compareKey right left ≤ 0 := by
  induction left generalizing right with
  | nil =>
    cases right with
    | nil => exact le_rfl
    | cons _ _ => cases lengths
  | cons first lefts hypothesis =>
    cases right with
    | nil => cases lengths
    | cons second rights =>
      rw [compareKey_cons_le] at more ⊢
      have notLess : ¬ first < second := fun less => more (Or.inl less)
      rcases lt_or_eq_of_le (not_lt.mp notLess) with greater | same
      · exact Or.inl greater
      · refine Or.inr ⟨same, hypothesis (Nat.succ.inj lengths) fun le => ?_⟩
        exact more (Or.inr ⟨same.symm, le⟩)

theorem compareKey_trans {first second third : List Int} (one : first.length = second.length)
    (two : second.length = third.length) (firstLe : compareKey first second ≤ 0)
    (secondLe : compareKey second third ≤ 0) : compareKey first third ≤ 0 := by
  induction first generalizing second third with
  | nil =>
    cases third with
    | nil => exact le_rfl
    | cons _ _ => cases one.trans two
  | cons number rest hypothesis =>
    cases second with
    | nil => cases one
    | cons middle middles =>
      cases third with
      | nil => cases two
      | cons last lasts =>
        rw [compareKey_cons_le] at firstLe secondLe ⊢
        rcases firstLe with less | ⟨rfl, restLe⟩
        · rcases secondLe with lessToo | ⟨rfl, -⟩
          · exact Or.inl (less.trans lessToo)
          · exact Or.inl less
        · rcases secondLe with less | ⟨rfl, lastLe⟩
          · exact Or.inl less
          · exact Or.inr ⟨rfl, hypothesis (Nat.succ.inj one) (Nat.succ.inj two) restLe lastLe⟩

/-- What a file holds. -/
structure Data where
  size : Nat
  byte : Nat → UInt8

/-- The first bytes of a file, and no more than there are. -/
def Data.read (data : Data) (count : Nat) : Bytes :=
  (List.range (min count data.size)).map data.byte

inductive Node where
  | directory
  | file (data : Data)

/-- The text of a place below the capture directory. -/
def fullPath (root : Text) (place : Place) : Text := root ++ place.flatMap fun name => slash :: name

/-- The files and directories below the capture directory. -/
abbrev Files : Type := Place → Option Node

/-- The key of the capture at a place, when there is a complete one. -/
def captureAt (root : Text) (entry : Files) (place : Place) : Option (List Int) :=
  match entry place with
  | some (.file data) =>
    if bytes "_I.bin" <:+ fullPath root place ∧ data.size = frameBytes then
      captureKey (fullPath root place)
    else none
  | _ => none

/-- `consider_file`: the newest capture so far. -/
def considerFile (root : Text) (entry : Files) (latest : Option (Place × List Int))
    (place : Place) : Option (Place × List Int) :=
  match captureAt root entry place with
  | none => latest
  | some key =>
    match latest with
    | none => if pathMax ≤ (fullPath root place).length then latest else some (place, key)
    | some (_, latestKey) =>
      if compareKey key latestKey ≤ 0 then latest
      else if pathMax ≤ (fullPath root place).length then latest
      else some (place, key)

/-! ### The table of watches -/

structure Watch where
  descriptor : Nat
  path : Place
  deriving DecidableEq

def watchPath (watches : List Watch) (descriptor : Nat) : Option Place :=
  (watches.find? (·.descriptor = descriptor)).map (·.path)

def isWatched (watches : List Watch) (place : Place) : Bool := watches.any (·.path = place)

/-- `remove_watch`: the last entry takes the place of the one that goes. -/
def removeWatch (descriptor : Nat) : List Watch → List Watch
  | [] => []
  | watch :: rest =>
    if watch.descriptor = descriptor then
      match rest.getLast? with
      | none => []
      | some last => last :: rest.dropLast
    else watch :: removeWatch descriptor rest

/-! ### Events -/

inductive Happening where
  | create
  | movedTo
  | closeWrite
  | delete
  | deleteSelf
  | ignored
  | overflow
  deriving DecidableEq

/-- `struct inotify_event`. What happens to a directory itself has no name. -/
structure Event where
  descriptor : Nat
  happening : Happening
  isDirectory : Bool
  name : Text
  deriving DecidableEq

/-- `IN_Q_OVERFLOW`, which belongs to no watch. -/
def overflowed : Event := ⟨0, .overflow, false, []⟩

/-- The last event of a watch. -/
def ignored (descriptor : Nat) : Event := ⟨descriptor, .ignored, false, []⟩

/-- What becomes of an event: it is one with the last one if they are the same and that one has not
been read. -/
inductive Fate where
  | queued
  | merged
  | dropped
  deriving DecidableEq

/-- An event for the queue. An overflow is told once. -/
def push (queue : List Event) (fate : Fate) (event : Event) : List Event :=
  match fate with
  | .queued => queue ++ [event]
  | .merged => if queue.getLast? = some event then queue else queue ++ [event]
  | .dropped => if overflowed ∈ queue then queue else queue ++ [overflowed]

/-! ### The service and its files -/

/-- What is still to do of the scans: a directory is watched, then read, and each of its entries is
looked at. -/
inductive Work where
  | watch (place : Place)
  | read (place : Place)
  | child (place : Place) (name : Text)
  deriving DecidableEq

/-- The files, the watches that inotify has, each for the directory that stands at the place now,
the events that have not been handled, and the state of the service. -/
structure World where
  entry : Files
  watching : Place → Option Nat
  next : Nat
  queue : List Event
  watches : List Watch
  latest : Option (Place × List Int)
  work : List Work

/-- What can be done to a name in a directory. A file that is written is closed then; one that is
renamed comes from elsewhere, and one that goes may go elsewhere. -/
inductive Change where
  | create
  | close (data : Data)
  | rename (data : Data)
  | delete
  | mkdir
  | rmdir

/-- What stands at the place then. -/
def Change.node : Change → Option Node
  | .create => some (.file ⟨0, fun _ => 0⟩)
  | .close data => some (.file data)
  | .rename data => some (.file data)
  | .delete => none
  | .mkdir => some .directory
  | .rmdir => none

/-- Whether what stood at the place is gone, with its watch. -/
def Change.replaces : Change → Bool
  | .rename _ => true
  | .delete => true
  | .rmdir => true
  | _ => false

def Change.happening : Change → Happening
  | .create => .create
  | .close _ => .closeWrite
  | .rename _ => .movedTo
  | .delete => .delete
  | .mkdir => .create
  | .rmdir => .delete

def Change.isDirectory : Change → Bool
  | .mkdir => true
  | .rmdir => true
  | _ => false

/-- What was at a place goes, and its watch with it. -/
def World.gone (world : World) (place : Place) (fate : Event → Fate) : World :=
  match world.watching place with
  | none => world
  | some descriptor =>
    let self : Event := ⟨descriptor, .deleteSelf, false, []⟩
    { world with
      watching := Function.update world.watching place none
      queue := push (push world.queue (fate self) self) (fate (ignored descriptor))
        (ignored descriptor) }

/-- The watch of a directory is told what happens to a name in it. -/
def World.tell (world : World) (place : Place) (fate : Event → Fate) (happening : Happening)
    (isDirectory : Bool) (name : Text) : World :=
  match world.watching place with
  | none => world
  | some descriptor =>
    let event : Event := ⟨descriptor, happening, isDirectory, name⟩
    { world with queue := push world.queue (fate event) event }

def World.put (world : World) (place : Place) (node : Option Node) : World :=
  { world with entry := Function.update world.entry place node }

/-- A change of a name in a directory. -/
def World.change (world : World) (change : Change) (parent : Place) (name : Text)
    (fate : Event → Fate) : World :=
  let place := parent ++ [name]
  let kept := if change.replaces = true then world.gone place fate else world
  (kept.put place change.node).tell parent fate change.happening change.isDirectory name

/-- `add_watch`. Of a directory that is watched inotify gives the watch that it has. -/
def addWatch (world : World) (place : Place) : World :=
  if isWatched world.watches place = true then world
  else
    match world.entry place, world.watching place with
    | none, _ => world
    | some _, some descriptor =>
      { world with watches := world.watches ++ [⟨descriptor, place⟩] }
    | some _, none =>
      { world with
        watches := world.watches ++ [⟨world.next, place⟩]
        watching := Function.update world.watching place (some world.next)
        next := world.next + 1 }

/-- `scan_tree`, one step of it. When a directory is read, its names are given. -/
def scanTree (root : Text) (world : World) (names : List Text) : World :=
  match world.work with
  | [] => world
  | .watch place :: later => { addWatch world place with work := .read place :: later }
  | .read place :: later =>
    match world.entry place with
    | some .directory => { world with work := names.map (.child place) ++ later }
    | _ => { world with work := later }
  | .child place name :: later =>
    if pathMax ≤ (fullPath root (place ++ [name])).length then { world with work := later }
    else
      match world.entry (place ++ [name]) with
      | some .directory => { world with work := .watch (place ++ [name]) :: later }
      | some (.file _) =>
        { world with
          latest := considerFile root world.entry world.latest (place ++ [name])
          work := later }
      | none => { world with work := later }

/-- Where an event happened, when it has a name and its watch is in the table. -/
def Event.path (root : Text) (watches : List Watch) (event : Event) : Option Place :=
  match watchPath watches event.descriptor with
  | none => none
  | some directory =>
    if event.name ≠ [] ∧ (fullPath root (directory ++ [event.name])).length < pathMax then
      some (directory ++ [event.name])
    else none

/-- `process_inotify`, for one event: a scan that it asks for is still to do. -/
def handle (root : Text) (world : World) (event : Event) : World :=
  let after :=
    if event.happening = .overflow then { world with work := [.watch []] }
    else
      match event.path root world.watches with
      | none => world
      | some place =>
        if event.isDirectory = true ∧
            (event.happening = .create ∨ event.happening = .movedTo) then
          { world with work := [.watch place] }
        else if event.isDirectory = false ∧
            (event.happening = .closeWrite ∨ event.happening = .movedTo) then
          { world with latest := considerFile root world.entry world.latest place }
        else world
  if event.happening = .ignored then
    { after with watches := removeWatch event.descriptor after.watches }
  else after

/-- What happens next: a change of the files, or a step of the service. -/
inductive Move where
  | change (change : Change) (parent : Place) (name : Text) (fate : Event → Fate)
  | scan (names : List Text)
  | deliver
  | loop

def step (root : Text) (world : World) : Move → World
  | .change change parent name fate => world.change change parent name fate
  | .scan names => scanTree root world names
  | .deliver =>
    match world.queue with
    | [] => world
    | event :: later => handle root { world with queue := later } event
  | .loop => if isWatched world.watches [] = true then world else { world with work := [.watch []] }

/-- What a client is sent: the header has the first 127 bytes of the path and the time of the key,
and the bytes of the file that can be opened there are behind it. -/
structure Frame where
  source : Place
  filename : Text
  key : List Int
  data : Bytes

/-- `serve_frame`, when there is a newest capture. -/
def serveFrame (root : Text) (world : World) : Option Frame :=
  match world.latest with
  | none => none
  | some (place, key) =>
    match world.entry place with
    | none => none
    | some .directory => some ⟨place, (fullPath root place).take 127, key, []⟩
    | some (.file data) =>
      some ⟨place, (fullPath root place).take 127, key, data.read frameBytes⟩

end ThermalSocket
