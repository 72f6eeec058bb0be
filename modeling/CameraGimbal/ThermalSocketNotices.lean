/-
This file says what can happen to the thermal service and to the files that it serves, and what
holds in every run: the table has the watches of inotify, and an entry of a watch that is gone is
about to be removed; every directory is watched or is about to be; every capture is known or is
about to be looked at.
-/

import CameraGimbal.ThermalSocket

namespace ThermalSocket

open List

open CText (Text bytes)
open Posix (IsName Place pathMax)

/-! ### What can happen -/

/-- A name can be put into a directory. -/
structure Room (root : Text) (world : World) (parent : Place) (name : Text) : Prop where
  directory : world.entry parent = some .directory
  named : IsName name
  short : (fullPath root (parent ++ [name])).length < pathMax

/-- What the system can do: only an empty directory goes, and what is read of a directory is what it
has at least. An event is handled, and the capture directory looked for, when no scan is left. -/
def Possible (root : Text) (world : World) : Move → Prop
  | .change .create parent name _ =>
    Room root world parent name ∧ world.entry (parent ++ [name]) = none
  | .change (.close _) parent name _ => ∃ data, world.entry (parent ++ [name]) = some (.file data)
  | .change (.rename _) parent name _ =>
    Room root world parent name ∧ world.entry (parent ++ [name]) ≠ some .directory
  | .change .delete parent name _ => ∃ data, world.entry (parent ++ [name]) = some (.file data)
  | .change .mkdir parent name _ =>
    Room root world parent name ∧ world.entry (parent ++ [name]) = none
  | .change .rmdir parent name _ =>
    world.entry (parent ++ [name]) = some .directory ∧
      ∀ inner, world.entry (parent ++ [name] ++ [inner]) = none
  | .scan names => ∀ place later, world.work = .read place :: later →
    ∀ name, (world.entry (place ++ [name])).isSome = true → name ∈ names
  | .deliver => world.work = []
  | .loop => world.work = []

/-- The last event of a watch is not dropped, and the path of a directory that is to be watched is
not in the table for a directory that is gone. -/
def Careful (world : World) : Move → Prop
  | .change change parent name fate => change.replaces = true → ∀ descriptor,
    world.watching (parent ++ [name]) = some descriptor → fate (ignored descriptor) ≠ .dropped
  | .scan _ => ∀ place later, world.work = .watch place :: later →
    world.entry place = some .directory → ∀ descriptor, ⟨descriptor, place⟩ ∈ world.watches →
    world.watching place = some descriptor
  | _ => True

/-- A tree of files: what stands in a directory has a name, and a path that is not too long. -/
structure Tree (root : Text) (entry : Files) : Prop where
  top : entry [] = some .directory
  parent : ∀ {place name}, (entry (place ++ [name])).isSome = true → entry place = some .directory
  named : ∀ {place name}, (entry (place ++ [name])).isSome = true → IsName name
  short : ∀ {place name}, (entry (place ++ [name])).isSome = true →
    (fullPath root (place ++ [name])).length < pathMax

/-- The service starts with a scan of the capture directory. -/
structure Starts (root : Text) (world : World) : Prop where
  tree : Tree root world.entry
  watching : ∀ place, world.watching place = none
  queue : world.queue = []
  watches : world.watches = []
  latest : world.latest = none
  work : world.work = [.watch []]

/-! ### Small lemmas -/

section Tree

variable {root : Text} {entry : Files}

theorem Tree.above (tree : Tree root entry) {upper lower : Place}
    (stands : (entry lower).isSome = true) (isAbove : upper <+: lower) :
    upper = lower ∨ entry upper = some .directory := by
  obtain ⟨rest, rfl⟩ := isAbove
  induction rest using reverseRecOn with
  | nil => exact Or.inl (append_nil upper).symm
  | append_singleton earlier name hypothesis =>
    rw [← append_assoc] at stands
    have directory := tree.parent stands
    rcases hypothesis (by rw [directory]; rfl) with same | above
    · rw [← same] at directory
      exact Or.inr directory
    · exact Or.inr above

theorem Tree.directory_above (tree : Tree root entry) {upper lower : Place}
    (stands : entry lower = some .directory) (isAbove : upper <+: lower) :
    entry upper = some .directory := by
  rcases tree.above (by rw [stands]; rfl) isAbove with same | above
  · rw [same]
    exact stands
  · exact above

theorem captureAt_file {place : Place} {key : List Int}
    (capture : captureAt root entry place = some key) : ∃ data, entry place = some (.file data) ∧
      bytes "_I.bin" <:+ fullPath root place ∧ data.size = frameBytes ∧
      captureKey (fullPath root place) = some key := by
  unfold captureAt at capture
  split at capture
  · next data file =>
    split at capture
    · next fits => exact ⟨data, file, fits.1, fits.2, capture⟩
    · cases capture
  · cases capture

theorem Tree.capture_parent (tree : Tree root entry) {place : Place} {key : List Int}
    (capture : captureAt root entry place = some key) :
    ∃ parent name, place = parent ++ [name] ∧ entry parent = some .directory := by
  obtain ⟨data, file, -⟩ := captureAt_file capture
  induction place using reverseRecOn with
  | nil =>
    rw [tree.top] at file
    cases file
  | append_singleton parent name _ =>
    exact ⟨parent, name, rfl, tree.parent (by rw [file]; rfl)⟩

end Tree

section Queue

variable {queue : List Event} {fate : Fate} {event other : Event}

theorem mem_push_of_mem (member : other ∈ queue) : other ∈ push queue fate event := by
  unfold push
  cases fate with
  | queued => exact mem_append_left _ member
  | merged =>
    dsimp only
    split
    · exact member
    · exact mem_append_left _ member
  | dropped =>
    dsimp only
    split
    · exact member
    · exact mem_append_left _ member

theorem mem_push_self (kept : fate ≠ .dropped) : event ∈ push queue fate event := by
  unfold push
  cases fate with
  | queued => exact mem_append_right _ mem_cons_self
  | merged =>
    dsimp only
    split
    · next last => exact mem_of_getLast? last
    · exact mem_append_right _ mem_cons_self
  | dropped => exact absurd rfl kept

theorem mem_push (queue : List Event) (fate : Fate) (event : Event) :
    event ∈ push queue fate event ∨ overflowed ∈ push queue fate event := by
  by_cases dropped : fate = .dropped
  · subst dropped
    refine Or.inr ?_
    unfold push
    dsimp only
    split
    · next member => exact member
    · exact mem_append_right _ mem_cons_self
  · exact Or.inl (mem_push_self dropped)

theorem of_mem_push (member : other ∈ push queue fate event) :
    other ∈ queue ∨ other = event ∨ other = overflowed := by
  unfold push at member
  cases fate with
  | queued =>
    rcases mem_append.mp member with before | last
    · exact Or.inl before
    · exact Or.inr (Or.inl (mem_singleton.mp last))
  | merged =>
    dsimp only at member
    split at member
    · exact Or.inl member
    · rcases mem_append.mp member with before | last
      · exact Or.inl before
      · exact Or.inr (Or.inl (mem_singleton.mp last))
  | dropped =>
    dsimp only at member
    split at member
    · exact Or.inl member
    · rcases mem_append.mp member with before | last
      · exact Or.inl before
      · exact Or.inr (Or.inr (mem_singleton.mp last))

end Queue

section Watches

variable {watches : List Watch}

theorem removeWatch_perm (descriptor : Nat) (watches : List Watch) :
    (removeWatch descriptor watches).Perm (watches.eraseP (·.descriptor = descriptor)) := by
  induction watches with
  | nil => exact Perm.refl _
  | cons watch rest hypothesis =>
    unfold removeWatch
    by_cases found : watch.descriptor = descriptor
    · rw [if_pos found, eraseP_cons_of_pos (by simpa using found)]
      cases last : rest.getLast? with
      | none => rw [getLast?_eq_none_iff.mp last]
      | some final =>
        have same : rest = rest.dropLast ++ [final] := (dropLast_append_getLast? final last).symm
        nth_rewrite 2 [same]
        exact (perm_append_singleton final rest.dropLast).symm
    · rw [if_neg found, eraseP_cons_of_neg (by simpa using found)]
      exact hypothesis.cons watch

theorem mem_removeWatch {descriptor : Nat} {watch : Watch}
    (member : watch ∈ watches) (other : watch.descriptor ≠ descriptor) :
    watch ∈ removeWatch descriptor watches := by
  rw [(removeWatch_perm descriptor watches).mem_iff]
  exact (mem_eraseP_of_neg (by simpa using other)).mpr member

theorem of_mem_removeWatch {descriptor : Nat} {watch : Watch}
    (distinct : (watches.map (·.descriptor)).Nodup)
    (member : watch ∈ removeWatch descriptor watches) :
    watch ∈ watches ∧ watch.descriptor ≠ descriptor := by
  rw [(removeWatch_perm descriptor watches).mem_iff] at member
  refine ⟨mem_of_mem_eraseP member, ?_⟩
  induction watches with
  | nil => cases member
  | cons first rest hypothesis =>
    rw [map_cons, nodup_cons] at distinct
    by_cases found : first.descriptor = descriptor
    · rw [eraseP_cons_of_pos (by simpa using found)] at member
      intro same
      refine distinct.1 ?_
      rw [found, ← same]
      exact mem_map_of_mem member
    · rw [eraseP_cons_of_neg (by simpa using found)] at member
      rcases mem_cons.mp member with rfl | inRest
      · exact found
      · exact hypothesis distinct.2 inRest

theorem nodup_removeWatch (descriptor : Nat) (distinct : (watches.map (·.descriptor)).Nodup) :
    ((removeWatch descriptor watches).map (·.descriptor)).Nodup := by
  refine ((removeWatch_perm descriptor watches).map _).nodup_iff.mpr ?_
  exact distinct.sublist (eraseP_sublist.map _)

theorem watchPath_eq {descriptor : Nat} {place : Place}
    (distinct : (watches.map (·.descriptor)).Nodup) (member : ⟨descriptor, place⟩ ∈ watches) :
    watchPath watches descriptor = some place := by
  induction watches with
  | nil => cases member
  | cons first rest hypothesis =>
    rw [map_cons, nodup_cons] at distinct
    unfold watchPath
    rcases mem_cons.mp member with rfl | inRest
    · rw [find?_cons_of_pos (by simp)]
      rfl
    · have other : first.descriptor ≠ descriptor := by
        intro same
        refine distinct.1 ?_
        rw [same]
        exact mem_map_of_mem inRest
      rw [find?_cons_of_neg (by simpa using other)]
      exact hypothesis distinct.2 inRest

end Watches

/-! ### What holds in every run -/

/-- A step of a scan leads to the contents of a directory. -/
def Work.Enters : Work → Place → Prop
  | .watch place, below => place <+: below
  | .read place, below => place <+: below
  | .child place name, below => place ++ [name] <+: below

/-- An event leads to a scan of the directory. -/
def Event.Enters (watching : Place → Option Nat) (event : Event) (below : Place) : Prop :=
  event.happening = .overflow ∨
    event.isDirectory = true ∧ (event.happening = .create ∨ event.happening = .movedTo) ∧
      ∃ parent, watching parent = some event.descriptor ∧ parent ++ [event.name] <+: below

/-- An event leads to a look at the file of a name in a directory. -/
def Event.Names (watching : Place → Option Nat) (event : Event) (parent : Place) (name : Text) :
    Prop :=
  watching parent = some event.descriptor ∧ event.isDirectory = false ∧
    (event.happening = .closeWrite ∨ event.happening = .movedTo) ∧ event.name = name

/-- What is remembered is at least as new. -/
def Known (latest : Option (Place × List Int)) (key : List Int) : Prop :=
  ∃ place latestKey, latest = some (place, latestKey) ∧ compareKey key latestKey ≤ 0

/-- What is remembered has the name of a capture. -/
def IsLatest (root : Text) (latest : Option (Place × List Int)) : Prop :=
  ∀ place key, latest = some (place, key) →
    bytes "_I.bin" <:+ fullPath root place ∧ captureKey (fullPath root place) = some key

/-- The table has every watch of inotify, and every entry of it is such a watch or is about to be
removed. -/
structure Table (world : World) : Prop where
  listed : ∀ {place descriptor}, world.watching place = some descriptor →
    ⟨descriptor, place⟩ ∈ world.watches
  stands : ∀ {place descriptor}, world.watching place = some descriptor →
    (world.entry place).isSome = true
  live : ∀ watch ∈ world.watches, world.watching watch.path = some watch.descriptor ∨
    ignored watch.descriptor ∈ world.queue
  distinct : (world.watches.map (·.descriptor)).Nodup
  before : ∀ watch ∈ world.watches, watch.descriptor < world.next
  ended : ∀ event ∈ world.queue, event.happening = .ignored →
    event.descriptor < world.next ∧ ∀ place, world.watching place ≠ some event.descriptor

/-- Every directory is watched or will be, and every capture is known or will be. -/
structure Noticed (root : Text) (world : World) : Prop where
  directories : ∀ place, world.entry place = some .directory →
    (world.watching place).isSome = true ∨
      (∃ item ∈ world.work, item.Enters place ∧ item ≠ .read place) ∨
      ∃ event ∈ world.queue, event.Enters world.watching place
  captures : ∀ parent name key, captureAt root world.entry (parent ++ [name]) = some key →
    Known world.latest key ∨ (∃ event ∈ world.queue, event.Names world.watching parent name) ∨
      .child parent name ∈ world.work ∨ (∃ item ∈ world.work, item.Enters parent) ∨
      ∃ event ∈ world.queue, event.Enters world.watching parent

structure Sound (root : Text) (world : World) : Prop where
  tree : Tree root world.entry
  table : Table world
  noticed : Noticed root world
  latest : IsLatest root world.latest

variable {root : Text} {world after : World}

theorem Starts.sound (starts : Starts root world) : Sound root world where
  tree := starts.tree
  table := by
    refine ⟨fun watching => ?_, fun watching => ?_, fun watch member => ?_, ?_,
      fun watch member => ?_, fun event member => ?_⟩
    · rw [starts.watching] at watching
      cases watching
    · rw [starts.watching] at watching
      cases watching
    · rw [starts.watches] at member
      cases member
    · rw [starts.watches]
      exact nodup_nil
    · rw [starts.watches] at member
      cases member
    · rw [starts.queue] at member
      cases member
  noticed := by
    have all : ∀ place, ∃ item ∈ world.work, item.Enters place ∧ item ≠ .read place := by
      intro place
      rw [starts.work]
      exact ⟨_, mem_cons_self, nil_prefix, by rintro ⟨⟩⟩
    refine ⟨fun place _ => Or.inr (Or.inl (all place)), fun parent name key _ => ?_⟩
    obtain ⟨item, member, enters, -⟩ := all parent
    exact Or.inr (Or.inr (Or.inr (Or.inl ⟨item, member, enters⟩)))
  latest := by
    intro place key latest
    rw [starts.latest] at latest
    cases latest

/-! ### What is remembered -/

section Latest

variable {entry : Files} {latest : Option (Place × List Int)} {place : Place} {key : List Int}

theorem latest_considerFile (isLatest : IsLatest root latest) (place : Place) :
    IsLatest root (considerFile root entry latest place) := by
  unfold considerFile
  split
  · exact isLatest
  · next key capture =>
    have considered : IsLatest root (some (place, key)) := by
      intro other otherKey same
      obtain ⟨data, -, named, -, isKey⟩ := captureAt_file capture
      cases same
      exact ⟨named, isKey⟩
    split
    · split
      · exact isLatest
      · exact considered
    · split
      · exact isLatest
      · split
        · exact isLatest
        · exact considered

theorem known_considerFile (isLatest : IsLatest root latest) (length : key.length = 7)
    (known : Known latest key) (place : Place) :
    Known (considerFile root entry latest place) key := by
  obtain ⟨old, oldKey, rfl, le⟩ := known
  have oldLength : oldKey.length = 7 := length_captureKey (isLatest old oldKey rfl).2
  unfold considerFile
  split
  · exact ⟨old, oldKey, rfl, le⟩
  · next newKey capture =>
    obtain ⟨data, -, -, -, isKey⟩ := captureAt_file capture
    have newLength : newKey.length = 7 := length_captureKey isKey
    dsimp only
    split
    · exact ⟨old, oldKey, rfl, le⟩
    · next more =>
      split
      · exact ⟨old, oldKey, rfl, le⟩
      · have newer : compareKey oldKey newKey ≤ 0 :=
          compareKey_total (newLength.trans oldLength.symm) more
        exact ⟨place, newKey, rfl, compareKey_trans (length.trans oldLength.symm)
          (oldLength.trans newLength.symm) le newer⟩

theorem known_considered (capture : captureAt root entry place = some key)
    (short : (fullPath root place).length < pathMax) :
    Known (considerFile root entry latest place) key := by
  have itself : compareKey key key ≤ 0 := le_of_eq (compareKey_self key)
  unfold considerFile
  rw [capture]
  cases latest with
  | none =>
    dsimp only
    rw [if_neg (not_le.mpr short)]
    exact ⟨place, key, rfl, itself⟩
  | some remembered =>
    obtain ⟨old, oldKey⟩ := remembered
    dsimp only
    split
    · next le => exact ⟨old, oldKey, rfl, le⟩
    · rw [if_neg (not_le.mpr short)]
      exact ⟨place, key, rfl, itself⟩

end Latest

end ThermalSocket
