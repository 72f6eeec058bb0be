/-
This file proves what the thermal service knows of its captures in every run: when everything that
happened has been handled, no capture has a greater key than the one that it remembers, and the
table of watches has one entry for each watch, and none of a directory that is gone.

The service never takes back what it remembers. So a client is sent the newest capture just when the
remembered one is still there. And it takes a directory for watched when its path is in the table.
So the runs are those in which no directory is scanned while the table has the watch of an earlier
one of the same path, and in which the last event of a watch is not dropped.
-/

import CameraGimbal.ThermalSocketChanges
import CameraGimbal.ThermalSocketScans
import CameraGimbal.Transition

namespace ThermalSocket

open List

open CText (Text bytes)
open Posix (IsName Place pathMax)

variable {root : Text} {world after : World}

/-! ### Events -/

section Events

variable {event : Event} {later : List Event}

theorem Table.tail (table : Table world) (queue : world.queue = event :: later)
    (other : event.happening ≠ .ignored) (entry : after.entry = world.entry)
    (watching : after.watching = world.watching) (next : after.next = world.next)
    (isQueue : after.queue = later) (watches : after.watches = world.watches) : Table after where
  listed watched := by
    rw [watching] at watched
    rw [watches]
    exact table.listed watched
  stands watched := by
    rw [watching] at watched
    rw [entry]
    exact table.stands watched
  live watch member := by
    rw [watches] at member
    rw [watching, isQueue]
    rcases table.live watch member with watched | ended
    · exact Or.inl watched
    · rw [queue] at ended
      rcases mem_cons.mp ended with rfl | inLater
      · exact absurd rfl other
      · exact Or.inr inLater
  distinct := by
    rw [watches]
    exact table.distinct
  before := by
    rw [watches, next]
    exact table.before
  ended which member := by
    rw [isQueue] at member
    rw [watching, next]
    exact table.ended which (queue ▸ mem_cons_of_mem event member)

theorem Table.remove (table : Table world) (queue : world.queue = event :: later)
    (isLast : event.happening = .ignored) :
    Table { world with
      queue := later
      watches := removeWatch event.descriptor world.watches } where
  listed {place descriptor} watched := by
    refine mem_removeWatch (table.listed watched) ?_
    rintro rfl
    exact (table.ended event (queue ▸ mem_cons_self) isLast).2 place watched
  stands := table.stands
  live watch member := by
    obtain ⟨before, other⟩ := of_mem_removeWatch table.distinct member
    rcases table.live watch before with watched | ended
    · exact Or.inl watched
    · rw [queue] at ended
      rcases mem_cons.mp ended with rfl | inLater
      · exact absurd rfl other
      · exact Or.inr inLater
  distinct := nodup_removeWatch event.descriptor table.distinct
  before watch member := table.before watch (of_mem_removeWatch table.distinct member).1
  ended which member := table.ended which (queue ▸ mem_cons_of_mem event member)

theorem Noticed.deliver (noticed : Noticed root world) (queue : world.queue = event :: later)
    (idle : world.work = []) (entry : after.entry = world.entry)
    (watching : after.watching = world.watching) (isQueue : after.queue = later)
    (known : ∀ key, key.length = 7 → Known world.latest key → Known after.latest key)
    (enters : ∀ place, world.entry place = some .directory →
      event.Enters world.watching place →
      ∃ item ∈ after.work, item.Enters place ∧ item ≠ .read place)
    (names : ∀ parent name key, captureAt root world.entry (parent ++ [name]) = some key →
      event.Names world.watching parent name → Known after.latest key)
    (tree : Tree root world.entry) : Noticed root after where
  directories place directory := by
    rw [entry] at directory
    rw [watching, isQueue]
    rcases noticed.directories place directory with
      watched | ⟨item, member, -⟩ | ⟨which, member, isAbove⟩
    · exact Or.inl watched
    · rw [idle] at member
      cases member
    · rw [queue] at member
      rcases mem_cons.mp member with rfl | inLater
      · exact Or.inr (Or.inl (enters place directory isAbove))
      · exact Or.inr (Or.inr ⟨which, inLater, isAbove⟩)
  captures parent name key capture := by
    rw [entry] at capture
    rw [watching, isQueue]
    obtain ⟨data, file, -, -, isKey⟩ := captureAt_file capture
    have directory : world.entry parent = some .directory := tree.parent (by rw [file]; rfl)
    rcases noticed.captures parent name key capture with
      isKnown | ⟨which, member, isName⟩ | child | ⟨item, member, -⟩ | ⟨which, member, isAbove⟩
    · exact Or.inl (known key (length_captureKey isKey) isKnown)
    · rw [queue] at member
      rcases mem_cons.mp member with rfl | inLater
      · exact Or.inl (names parent name key capture isName)
      · exact Or.inr (Or.inl ⟨which, inLater, isName⟩)
    · rw [idle] at child
      cases child
    · rw [idle] at member
      cases member
    · rw [queue] at member
      rcases mem_cons.mp member with rfl | inLater
      · obtain ⟨item, isItem, isEntered, -⟩ := enters parent directory isAbove
        exact Or.inr (Or.inr (Or.inr (Or.inl ⟨item, isItem, isEntered⟩)))
      · exact Or.inr (Or.inr (Or.inr (Or.inr ⟨which, inLater, isAbove⟩)))

theorem event_path (tree : Tree root world.entry) (table : Table world) {parent : Place}
    (watched : world.watching parent = some event.descriptor)
    (stands : (world.entry (parent ++ [event.name])).isSome = true) :
    event.path root world.watches = some (parent ++ [event.name]) := by
  unfold Event.path
  rw [watchPath_eq table.distinct (table.listed watched)]
  exact if_pos ⟨(tree.named stands).nonempty, tree.short stands⟩

theorem handle_cases (root : Text) (world : World) {event : Event}
    (other : event.happening ≠ .ignored) :
    event.happening = .overflow ∧ handle root world event = { world with work := [.watch []] } ∨
      (∃ place, event.path root world.watches = some place ∧ event.happening ≠ .overflow ∧
        (event.isDirectory = true ∧
            handle root world event = { world with work := [.watch place] } ∨
          event.isDirectory = false ∧ handle root world event =
            { world with latest := considerFile root world.entry world.latest place })) ∨
      event.happening ≠ .overflow ∧ handle root world event = world ∧
        ∀ place, event.path root world.watches = some place →
          (event.isDirectory = true → event.happening ≠ .create ∧ event.happening ≠ .movedTo) ∧
          (event.isDirectory = false →
            event.happening ≠ .closeWrite ∧ event.happening ≠ .movedTo) := by
  unfold handle
  rw [if_neg other]
  by_cases overflow : event.happening = .overflow
  · rw [if_pos overflow]
    exact Or.inl ⟨overflow, rfl⟩
  · rw [if_neg overflow]
    refine Or.inr ?_
    cases isPath : event.path root world.watches with
    | none => exact Or.inr ⟨overflow, rfl, nofun⟩
    | some place =>
      dsimp only
      split
      · next appears => exact Or.inl ⟨place, rfl, overflow, Or.inl ⟨appears.1, rfl⟩⟩
      · next noDirectory =>
        split
        · next written => exact Or.inl ⟨place, rfl, overflow, Or.inr ⟨written.1, rfl⟩⟩
        · next noFile =>
          refine Or.inr ⟨overflow, rfl, fun _ _ => ⟨fun isDirectory => ?_, fun isFile => ?_⟩⟩
          · exact not_or.mp fun appears => noDirectory ⟨isDirectory, appears⟩
          · exact not_or.mp fun written => noFile ⟨isFile, written⟩

theorem handle_ignored (root : Text) (world : World) {event : Event}
    (isLast : event.happening = .ignored) : handle root world event =
      { world with watches := removeWatch event.descriptor world.watches } := by
  unfold handle
  rw [if_pos isLast, isLast, if_neg (by rintro ⟨⟩)]
  cases event.path root world.watches with
  | none => rfl
  | some place =>
    dsimp only
    rw [if_neg (by rintro ⟨-, same | same⟩ <;> cases same),
      if_neg (by rintro ⟨-, same | same⟩ <;> cases same)]

theorem Event.Enters.path (tree : Tree root world.entry) (table : Table world) {place : Place}
    (directory : world.entry place = some .directory) (enters : event.Enters world.watching place)
    (noOverflow : event.happening ≠ .overflow) :
    ∃ above, event.path root world.watches = some above ∧ above <+: place ∧
      event.isDirectory = true ∧ (event.happening = .create ∨ event.happening = .movedTo) := by
  rcases enters with overflow | ⟨isDirectory, appears, parent, watched, isAbove⟩
  · exact absurd overflow noOverflow
  · have stands : (world.entry (parent ++ [event.name])).isSome = true := by
      rw [tree.directory_above directory isAbove]
      rfl
    exact ⟨_, event_path tree table watched stands, isAbove, isDirectory, appears⟩

theorem Event.Names.path (tree : Tree root world.entry) (table : Table world) {parent : Place}
    {name : Text} {key : List Int}
    (capture : captureAt root world.entry (parent ++ [name]) = some key)
    (isName : event.Names world.watching parent name) :
    event.path root world.watches = some (parent ++ [name]) ∧
      (fullPath root (parent ++ [name])).length < pathMax ∧ event.isDirectory = false ∧
      (event.happening = .closeWrite ∨ event.happening = .movedTo) := by
  obtain ⟨watched, isFile, written, rfl⟩ := isName
  obtain ⟨data, file, -⟩ := captureAt_file capture
  have stands : (world.entry (parent ++ [event.name])).isSome = true := by
    rw [file]
    rfl
  exact ⟨event_path tree table watched stands, tree.short stands, isFile, written⟩

section

variable (sound : Sound root world) (idle : world.work = [])

include sound idle

theorem sound_ignored (queue : world.queue = event :: later) (isLast : event.happening = .ignored) :
    Sound root (handle root { world with queue := later } event) := by
  obtain ⟨tree, table, noticed, latest⟩ := sound
  rw [handle_ignored root _ isLast]
  refine ⟨tree, table.remove queue isLast, ?_, latest⟩
  refine noticed.deliver queue idle rfl rfl rfl (fun _ _ known => known)
    (fun place _ enters => ?_) (fun parent name key _ isName => ?_) tree
  · rcases enters with overflow | ⟨-, create | moved, -⟩
    · exact absurd (isLast.symm.trans overflow) (by rintro ⟨⟩)
    · exact absurd (isLast.symm.trans create) (by rintro ⟨⟩)
    · exact absurd (isLast.symm.trans moved) (by rintro ⟨⟩)
  · obtain ⟨-, -, written | moved, -⟩ := isName
    · exact absurd (isLast.symm.trans written) (by rintro ⟨⟩)
    · exact absurd (isLast.symm.trans moved) (by rintro ⟨⟩)

theorem sound_handle (queue : world.queue = event :: later) (other : event.happening ≠ .ignored) :
    Sound root (handle root { world with queue := later } event) := by
  obtain ⟨tree, table, noticed, latest⟩ := sound
  have tail : ∀ {after : World}, after.entry = world.entry → after.watching = world.watching →
      after.next = world.next → after.queue = later → after.watches = world.watches →
      Table after :=
    table.tail queue other
  rcases handle_cases root { world with queue := later } other with
    ⟨overflow, same⟩ | ⟨place, isPath, noOverflow, ⟨isDirectory, same⟩ | ⟨isFile, same⟩⟩ |
      ⟨noOverflow, same, quiet⟩
  · rw [same]
    refine ⟨tree, tail rfl rfl rfl rfl rfl, ?_, latest⟩
    refine noticed.deliver queue idle rfl rfl rfl (fun _ _ known => known)
      (fun place _ _ => ⟨_, mem_cons_self, nil_prefix, by rintro ⟨⟩⟩)
      (fun parent name key capture isName => ?_) tree
    obtain ⟨-, -, -, written | moved⟩ := isName.path tree table capture
    · exact absurd (overflow.symm.trans written) (by rintro ⟨⟩)
    · exact absurd (overflow.symm.trans moved) (by rintro ⟨⟩)
  · rw [same]
    refine ⟨tree, tail rfl rfl rfl rfl rfl, ?_, latest⟩
    refine noticed.deliver queue idle rfl rfl rfl (fun _ _ known => known)
      (fun which directory enters => ?_) (fun parent name key capture isName => ?_) tree
    · obtain ⟨above, isAbove, isEntered, -⟩ := enters.path tree table directory noOverflow
      obtain rfl := Option.some.inj (isPath.symm.trans isAbove)
      exact ⟨_, mem_cons_self, isEntered, by rintro ⟨⟩⟩
    · obtain ⟨-, -, isFile, -⟩ := isName.path tree table capture
      exact absurd (isDirectory.symm.trans isFile) (by rintro ⟨⟩)
  · rw [same]
    refine ⟨tree, tail rfl rfl rfl rfl rfl, ?_, latest_considerFile latest _⟩
    refine noticed.deliver queue idle rfl rfl rfl
      (fun key length known => known_considerFile latest length known _)
      (fun which directory enters => ?_) (fun parent name key capture isName => ?_) tree
    · obtain ⟨-, -, -, isDirectory, -⟩ := enters.path tree table directory noOverflow
      exact absurd (isDirectory.symm.trans isFile) (by rintro ⟨⟩)
    · obtain ⟨same, short, -⟩ := isName.path tree table capture
      obtain rfl := Option.some.inj (isPath.symm.trans same)
      exact known_considered capture short
  · rw [same]
    refine ⟨tree, tail rfl rfl rfl rfl rfl, ?_, latest⟩
    refine noticed.deliver queue idle rfl rfl rfl (fun _ _ known => known)
      (fun which directory enters => ?_) (fun parent name key capture isName => ?_) tree
    · obtain ⟨above, isAbove, -, isDirectory, create | moved⟩ :=
        enters.path tree table directory noOverflow
      · exact absurd create ((quiet above isAbove).1 isDirectory).1
      · exact absurd moved ((quiet above isAbove).1 isDirectory).2
    · obtain ⟨isPath, -, isFile, written | moved⟩ := isName.path tree table capture
      · exact absurd written ((quiet _ isPath).2 isFile).1
      · exact absurd moved ((quiet _ isPath).2 isFile).2

theorem sound_deliver :
    Sound root (step root world .deliver) := by
  unfold step
  cases queue : world.queue with
  | nil => exact sound
  | cons event later =>
    by_cases isLast : event.happening = .ignored
    · exact sound_ignored sound idle queue isLast
    · exact sound_handle sound idle queue isLast

end

end Events

/-! ### Runs -/

theorem sound_loop (sound : Sound root world) : Sound root (step root world .loop) := by
  obtain ⟨tree, table, noticed, latest⟩ := sound
  unfold step
  dsimp only
  split
  · exact ⟨tree, table, noticed, latest⟩
  · refine ⟨tree, table.congr rfl rfl rfl rfl rfl, ?_, latest⟩
    have all : ∀ place, ∃ item ∈ [Work.watch []], item.Enters place ∧ item ≠ .read place :=
      fun place => ⟨_, mem_cons_self, nil_prefix, by rintro ⟨⟩⟩
    refine ⟨fun place _ => Or.inr (Or.inl (all place)), fun parent _ _ _ => ?_⟩
    obtain ⟨item, member, enters, -⟩ := all parent
    exact Or.inr (Or.inr (Or.inr (Or.inl ⟨item, member, enters⟩)))

theorem sound_step (move : Move) (allowed : Possible root world move ∧ Careful world move)
    (sound : Sound root world) : Sound root (step root world move) := by
  obtain ⟨possible, careful⟩ := allowed
  cases move with
  | change change parent name fate => exact sound_change sound possible careful
  | scan names => exact sound_scan sound possible careful
  | deliver => exact sound_deliver sound possible
  | loop => exact sound_loop sound

/-- Everything that happened has been handled, and the capture directory is watched. -/
structure World.Ready (world : World) : Prop where
  work : world.work = []
  queue : world.queue = []
  watched : isWatched world.watches [] = true

/-- A client is sent the whole of a capture that has the greatest key, and nothing when there is no
capture. -/
structure ServesNewest (root : Text) (world : World) : Prop where
  newest : (∃ place key, captureAt root world.entry place = some key) →
    ∃ frame data, serveFrame root world = some frame ∧
      captureAt root world.entry frame.source = some frame.key ∧
      world.entry frame.source = some (.file data) ∧
      frame.filename = (fullPath root frame.source).take 127 ∧
      frame.data = data.read data.size ∧
      ∀ place key, captureAt root world.entry place = some key → compareKey key frame.key ≤ 0
  nothing : (∀ place, captureAt root world.entry place = none) → serveFrame root world = none

/-- The capture that is remembered is still there, or there is no capture and nothing stands at its
place. -/
def StillThere (root : Text) (world : World) : Prop :=
  ∀ place key, world.latest = some (place, key) →
    captureAt root world.entry place = some key ∨
      world.entry place = none ∧ ∀ other, captureAt root world.entry other = none

theorem Sound.known (sound : Sound root world) (ready : world.Ready) {place : Place}
    {key : List Int} (capture : captureAt root world.entry place = some key) :
    Known world.latest key := by
  obtain ⟨parent, name, rfl, -⟩ := sound.tree.capture_parent capture
  rcases sound.noticed.captures parent name key capture with
    known | ⟨event, member, -⟩ | child | ⟨item, member, -⟩ | ⟨event, member, -⟩
  · exact known
  · rw [ready.queue] at member
    cases member
  · rw [ready.work] at child
    cases child
  · rw [ready.work] at member
    cases member
  · rw [ready.queue] at member
    cases member

theorem Sound.servesNewest_iff (sound : Sound root world) (ready : world.Ready) :
    ServesNewest root world ↔ StillThere root world := by
  constructor
  · intro serves place key latest
    by_cases captures : ∃ place key, captureAt root world.entry place = some key
    · obtain ⟨frame, data, served, capture, file, -⟩ := serves.newest captures
      left
      unfold serveFrame at served
      rw [latest] at served
      dsimp only at served
      split at served
      · cases served
      · cases served
        exact capture
      · cases served
        exact capture
    · have none : ∀ other, captureAt root world.entry other = none := fun other =>
        Option.eq_none_iff_forall_not_mem.mpr fun key capture => captures ⟨other, key, capture⟩
      refine Or.inr ⟨?_, none⟩
      have served := serves.nothing none
      unfold serveFrame at served
      rw [latest] at served
      dsimp only at served
      split at served
      · next missing => exact missing
      · cases served
      · cases served
  · intro still
    constructor
    · rintro ⟨other, otherKey, capture⟩
      obtain ⟨place, key, latest, -⟩ := sound.known ready capture
      rcases still place key latest with remembered | ⟨-, none⟩
      · obtain ⟨data, file, -, size, -⟩ := captureAt_file remembered
        refine ⟨⟨place, (fullPath root place).take 127, key, data.read frameBytes⟩, data, ?_,
          remembered, file, rfl, by rw [size], fun which whichKey capture => ?_⟩
        · unfold serveFrame
          rw [latest]
          dsimp only
          rw [file]
        · obtain ⟨place', key', latest', le⟩ := sound.known ready capture
          cases latest.symm.trans latest'
          exact le
      · rw [none] at capture
        cases capture
    · intro none
      unfold serveFrame
      cases latest : world.latest with
      | none => rfl
      | some remembered =>
        obtain ⟨place, key⟩ := remembered
        rcases still place key latest with capture | ⟨missing, -⟩
        · rw [none] at capture
          cases capture
        · dsimp only
          rw [missing]

/-- What holds of the service: no watch has two entries in the table, an entry of a watch that is
gone is about to be removed, and a client that finds everything handled is sent the newest capture
just when the remembered one is still there. -/
structure Right (root : Text) (world : World) : Prop where
  distinct : (world.watches.map (·.descriptor)).Nodup
  live : ∀ watch ∈ world.watches, world.watching watch.path = some watch.descriptor ∨
    ignored watch.descriptor ∈ world.queue
  newest : world.Ready → (ServesNewest root world ↔ StillThere root world)

/-- So it is in every run in which no directory is scanned under the entry of an earlier one and no
watch loses its last event. -/
theorem run_right (root : Text) {start : World} (starts : Starts root start) {moves : List Move}
    (possible : Transition.Along (step root) (Possible root) start moves)
    (careful : Transition.Along (step root) Careful start moves) :
    Right root (moves.foldl (step root) start) := by
  have sound : Sound root (moves.foldl (step root) start) :=
    Transition.foldl_keeps (fun _ => sound_step) starts.sound (possible.and careful)
  exact ⟨sound.table.distinct, sound.table.live, sound.servesNewest_iff⟩

/-! ### The newest capture goes -/

def older : Text := bytes "2026-01-01_12-00-00_8_I.bin"

def newer : Text := bytes "2026-01-01_12-00-00_609_I.bin"

def twoCaptures : Files := fun place =>
  if place = [] then some .directory
  else if place = [older] ∨ place = [newer] then some (.file ⟨frameBytes, fun _ => 0⟩)
  else none

def started : World where
  entry := twoCaptures
  watching _ := none
  next := 1
  queue := []
  watches := []
  latest := none
  work := [.watch []]

theorem twoCaptures_names {place : Place} {name : Text}
    (stands : (twoCaptures (place ++ [name])).isSome = true) :
    place = [] ∧ (name = older ∨ name = newer) := by
  unfold twoCaptures at stands
  rw [if_neg (by simp)] at stands
  split at stands
  · next which =>
    rcases which with same | same
    · obtain ⟨rfl, last⟩ := append_inj' (same.trans (nil_append [older]).symm) rfl
      exact ⟨rfl, Or.inl (singleton_inj.mp last)⟩
    · obtain ⟨rfl, last⟩ := append_inj' (same.trans (nil_append [newer]).symm) rfl
      exact ⟨rfl, Or.inr (singleton_inj.mp last)⟩
  · cases stands

theorem started_starts : Starts [] started where
  tree := by
    refine ⟨rfl, fun stands => ?_, fun stands => ?_, fun stands => ?_⟩
    · obtain ⟨rfl, -⟩ := twoCaptures_names stands
      rfl
    · obtain ⟨-, rfl | rfl⟩ := twoCaptures_names stands
      · constructor <;> decide +kernel
      · constructor <;> decide +kernel
    · obtain ⟨rfl, rfl | rfl⟩ := twoCaptures_names stands
      · decide +kernel
      · decide +kernel
  watching _ := rfl
  queue := rfl
  watches := rfl
  latest := rfl
  work := rfl

/-- Both captures are found, and then the newer one goes. -/
def deletion : List Move :=
  [.scan [], .scan [older, newer], .scan [], .scan [],
    .change .delete [] newer fun _ => .queued, .deliver]

section

variable {names : List Text} {item : Work} {later : List Work} (work : world.work = item :: later)

include work

theorem possible_scan (other : ∀ place, item ≠ .read place) :
    Possible root world (.scan names) := by
  intro place rest same
  rw [work] at same
  cases same
  exact absurd rfl (other place)

theorem careful_scan (other : ∀ place, item ≠ .watch place) :
    Careful world (.scan names) := by
  intro place rest same
  rw [work] at same
  cases same
  exact absurd rfl (other place)

end

theorem deletion_reads : ((deletion.take 1).foldl (step []) started).work = [.read []] := by
  decide +kernel

theorem deletion_looks : ((deletion.take 2).foldl (step []) started).work =
    [.child [] older, .child [] newer] := by
  decide +kernel

theorem deletion_looksAgain :
    ((deletion.take 3).foldl (step []) started).work = [.child [] newer] := by
  decide +kernel

theorem deletion_possible : Transition.Along (step []) (Possible []) started deletion := by
  have file : ∃ data, twoCaptures [newer] = some (.file data) := by
    refine ⟨⟨frameBytes, fun _ => 0⟩, ?_⟩
    unfold twoCaptures
    rw [if_neg (cons_ne_nil _ _), if_pos (Or.inr rfl)]
  refine ⟨possible_scan rfl (by rintro _ ⟨⟩), fun place later work name stands => ?_,
    possible_scan deletion_looks (by rintro _ ⟨⟩),
    possible_scan deletion_looksAgain (by rintro _ ⟨⟩), file, ?_, trivial⟩
  · have names : name = older ∨ name = newer :=
      (twoCaptures_names (stands : (twoCaptures (place ++ [name])).isSome = true)).2
    simpa using names
  · show ((deletion.take 5).foldl (step []) started).work = []
    decide +kernel

theorem deletion_careful : Transition.Along (step []) Careful started deletion := by
  refine ⟨fun _ _ _ _ _ member => (nomatch member), careful_scan deletion_reads (by rintro _ ⟨⟩),
    careful_scan deletion_looks (by rintro _ ⟨⟩),
    careful_scan deletion_looksAgain (by rintro _ ⟨⟩), fun _ _ _ => by rintro ⟨⟩, trivial,
    trivial⟩

/-- The service remembers the capture that is gone. -/
theorem run_right_deletion : Right [] (deletion.foldl (step []) started) :=
  run_right [] started_starts deletion_possible deletion_careful

theorem deletion_ready : (deletion.foldl (step []) started).Ready where
  work := by decide +kernel
  queue := by decide +kernel
  watched := by decide +kernel

/-- When the newer of two captures is gone, a client is sent nothing. -/
theorem newest_deleted :
    ¬ ∀ (root : Text) (start : World) (moves : List Move), Starts root start →
      Transition.Along (step root) (Possible root) start moves →
      (moves.foldl (step root) start).Ready →
      ServesNewest root (moves.foldl (step root) start) := by
  intro claimed
  have serves := claimed [] started deletion started_starts deletion_possible deletion_ready
  have capture : captureAt [] (deletion.foldl (step []) started).entry [older] =
      some [2026, 1, 1, 12, 0, 0, 8] := by
    decide +kernel
  obtain ⟨frame, data, served, -⟩ := serves.newest ⟨_, _, capture⟩
  have nothing : (serveFrame [] (deletion.foldl (step []) started)).isNone = true := by
    decide +kernel
  rw [served] at nothing
  cases nothing

end ThermalSocket
