/-
This file proves that a scan leaves the thermal service as it has to be. What a step of a scan leads
to is done by it or is led to by the steps that it leaves; a directory is watched before it is read.
-/

import CameraGimbal.ThermalSocketNotices

namespace ThermalSocket

open List Function Option Or

open CText (Text bytes)
open Posix (IsName Place pathMax)

variable {root : Text} {world after : World}

/-! ### Scans -/

section Scans

variable {place : Place} {later : List Work}

theorem Event.Enters.mono {watching more : Place → Option Nat} {event : Event} {below : Place}
    (grows : ∀ place descriptor, watching place = some descriptor →
      more place = some descriptor) (enters : event.Enters watching below) :
    event.Enters more below := by
  rcases enters with overflow | ⟨isDirectory, appears, place, watched, isAbove⟩
  · exact inl overflow
  · exact inr ⟨isDirectory, appears, place, grows place _ watched, isAbove⟩

/-- What a step of a scan that looks for nothing new leaves to be noticed: the item at the head is
done, and others may stand for it. -/
theorem Noticed.scan (noticed : Noticed root world) {item : Work} (items : List Work)
    (work : world.work = item :: later) (entry : after.entry = world.entry)
    (queue : after.queue = world.queue) (isWork : after.work = items ++ later)
    (grows : ∀ place descriptor, world.watching place = some descriptor →
      after.watching place = some descriptor)
    (known : ∀ key, key.length = 7 → Known world.latest key → Known after.latest key)
    (directories : ∀ place, world.entry place = some .directory → item.Enters place →
      item ≠ .read place → (after.watching place).isSome = true ∨
        ∃ other ∈ items, other.Enters place ∧ other ≠ .read place)
    (contents : ∀ parent name key, captureAt root world.entry (parent ++ [name]) = some key →
      world.entry parent = some .directory → item.Enters parent →
      .child parent name ∈ items ∨ ∃ other ∈ items, other.Enters parent)
    (child : ∀ parent name key, captureAt root world.entry (parent ++ [name]) = some key →
      item = .child parent name → Known after.latest key)
    (tree : Tree root world.entry) : Noticed root after where
  directories place directory := by
    rw [entry] at directory
    rw [queue, isWork]
    rcases noticed.directories place directory with
      watched | ⟨other, member, enters, notRead⟩ | ⟨event, member, enters⟩
    · obtain ⟨descriptor, watched⟩ := isSome_iff_exists.mp watched
      exact inl (by rw [grows place descriptor watched]; rfl)
    · rw [work] at member
      rcases mem_cons.mp member with rfl | inLater
      · rcases directories place directory enters notRead with watched | ⟨new, isNew, holds⟩
        · exact inl watched
        · exact inr (inl ⟨new, mem_append_left _ isNew, holds⟩)
      · exact inr (inl ⟨other, mem_append_right _ inLater, enters, notRead⟩)
    · exact inr (inr ⟨event, member, enters.mono grows⟩)
  captures parent name key capture := by
    rw [entry] at capture
    rw [queue, isWork]
    obtain ⟨data, file, -, -, isKey⟩ := captureAt_file capture
    have directory : world.entry parent = some .directory := tree.parent (by rw [file]; rfl)
    rcases noticed.captures parent name key capture with
      isKnown | ⟨event, member, watched, named⟩ | isChild | ⟨other, member, enters⟩ |
        ⟨event, member, enters⟩
    · exact inl (known key (length_captureKey isKey) isKnown)
    · exact inr (inl ⟨event, member, grows parent _ watched, named⟩)
    · rw [work] at isChild
      rcases mem_cons.mp isChild with here | inLater
      · exact inl (child parent name key capture here.symm)
      · exact inr (inr (inl (mem_append_right _ inLater)))
    · rw [work] at member
      rcases mem_cons.mp member with rfl | inLater
      · rcases contents parent name key capture directory enters with isNew | ⟨new, isNew, holds⟩
        · exact inr (inr (inl (mem_append_left _ isNew)))
        · exact inr (inr (inr (inl ⟨new, mem_append_left _ isNew, holds⟩)))
      · exact inr (inr (inr (inl ⟨other, mem_append_right _ inLater, enters⟩)))
    · exact inr (inr (inr (inr ⟨event, member, enters.mono grows⟩)))

theorem child_above (tree : Tree root world.entry) {upper lower : Place}
    (directory : world.entry lower = some .directory) (isAbove : upper <+: lower)
    (other : upper ≠ lower) :
    ∃ name, (world.entry (upper ++ [name])).isSome = true ∧ upper ++ [name] <+: lower := by
  obtain ⟨rest, rfl⟩ := isAbove
  cases rest with
  | nil => exact absurd (append_nil upper).symm other
  | cons name rest =>
    have isAbove : upper ++ [name] <+: upper ++ name :: rest :=
      ⟨rest, by rw [append_assoc, singleton_append]⟩
    refine ⟨name, ?_, isAbove⟩
    rw [tree.directory_above directory isAbove]
    rfl

theorem Noticed.child (noticed : Noticed root world) (tree : Tree root world.entry) {name : Text}
    {latest : Option (Place × List Int)} (work : world.work = .child place name :: later)
    (other : world.entry (place ++ [name]) ≠ some .directory)
    (known : ∀ key, key.length = 7 → Known world.latest key → Known latest key)
    (considered : ∀ key, captureAt root world.entry (place ++ [name]) = some key →
      Known latest key) : Noticed root { world with latest := latest, work := later } := by
  have blocked : ∀ {below}, world.entry below = some .directory → ¬ place ++ [name] <+: below :=
    fun stands isAbove => other (tree.directory_above stands isAbove)
  refine noticed.scan [] work rfl rfl rfl (fun _ _ watched => watched) known
    (fun _ stands isAbove _ => absurd isAbove (blocked stands))
    (fun _ _ _ _ stands isAbove => absurd isAbove (blocked stands))
    (fun parent inner key capture same => ?_) tree
  cases same
  exact considered key capture

theorem isWatched_of_mem {watches : List Watch} {descriptor : Nat}
    (member : ⟨descriptor, place⟩ ∈ watches) : isWatched watches place = true :=
  any_eq_true.mpr ⟨_, member, decide_eq_true rfl⟩

theorem addWatch_cases (table : Table world) (place : Place) :
    addWatch world place = world ∧
        (isWatched world.watches place = true ∨ world.entry place = none) ∨
      (world.entry place).isSome = true ∧ world.watching place = none ∧
        addWatch world place = { world with
          watches := world.watches ++ [⟨world.next, place⟩]
          watching := update world.watching place (some world.next)
          next := world.next + 1 } := by
  unfold addWatch
  split
  · next watched => exact inl ⟨rfl, inl watched⟩
  · next unwatched =>
    split
    · next missing => exact inl ⟨rfl, inr missing⟩
    · next watched => exact absurd (isWatched_of_mem (table.listed watched)) unwatched
    · next stands unwatched => exact inr ⟨by rw [stands]; rfl, unwatched, rfl⟩

theorem Table.watch (table : Table world) (stands : (world.entry place).isSome = true)
    (unwatched : world.watching place = none) : Table { world with
      watches := world.watches ++ [⟨world.next, place⟩]
      watching := update world.watching place (some world.next)
      next := world.next + 1 } where
  listed {other descriptor} watched := by
    by_cases here : other = place
    · subst here
      have same : some world.next = some descriptor :=
        (update_self other (some world.next) world.watching).symm.trans watched
      cases same
      exact mem_append_right _ mem_cons_self
    · have before : world.watching other = some descriptor :=
        (update_of_ne here (some world.next) world.watching).symm.trans watched
      exact mem_append_left _ (table.listed before)
  stands {other descriptor} watched := by
    by_cases here : other = place
    · subst here
      exact stands
    · exact table.stands ((update_of_ne here (some world.next) world.watching).symm.trans watched)
  live watch member := by
    rcases mem_append.mp member with before | isNew
    · rcases table.live watch before with watched | ended
      · have other : watch.path ≠ place := by
          intro same
          rw [same, unwatched] at watched
          cases watched
        exact inl ((update_of_ne other (some world.next) world.watching).trans watched)
      · exact inr ended
    · obtain rfl := mem_singleton.mp isNew
      exact inl (update_self place (some world.next) world.watching)
  distinct := by
    show ((world.watches ++ [(⟨world.next, place⟩ : Watch)]).map (·.descriptor)).Nodup
    rw [map_append]
    refine Nodup.append table.distinct (nodup_singleton _) ?_
    rw [map_singleton, disjoint_singleton]
    intro member
    obtain ⟨watch, isWatch, same⟩ := mem_map.mp member
    exact absurd same (table.before watch isWatch).ne
  before watch member := by
    show watch.descriptor < world.next + 1
    rcases mem_append.mp member with before | isNew
    · have small := table.before watch before
      omega
    · obtain rfl := mem_singleton.mp isNew
      exact Nat.lt_succ_self _
  ended event member isLast := by
    obtain ⟨small, elsewhere⟩ := table.ended event member isLast
    refine ⟨Nat.lt_succ_of_lt small, fun other watched => ?_⟩
    by_cases here : other = place
    · subst here
      have same : some world.next = some event.descriptor :=
        (update_self other (some world.next) world.watching).symm.trans watched
      have equal := some.inj same
      omega
    · exact elsewhere other
        ((update_of_ne here (some world.next) world.watching).symm.trans watched)

theorem Table.congr (table : Table world) (entry : after.entry = world.entry)
    (watching : after.watching = world.watching) (next : after.next = world.next)
    (queue : after.queue = world.queue) (watches : after.watches = world.watches) :
    Table after := by
  obtain ⟨entryA, watchingA, nextA, queueA, watchesA, latestA, workA⟩ := after
  subst entry watching next queue watches
  exact ⟨table.listed, table.stands, table.live, table.distinct, table.before, table.ended⟩

/-- What `add_watch` does: a directory that stands is watched then. -/
structure Watched (world after : World) (place : Place) : Prop where
  entry : after.entry = world.entry
  queue : after.queue = world.queue
  latest : after.latest = world.latest
  table : Table after
  grows : ∀ other descriptor, world.watching other = some descriptor →
    after.watching other = some descriptor
  here : world.entry place = some .directory → (after.watching place).isSome = true

theorem watched_addWatch (table : Table world) (place : Place)
    (careful : world.entry place = some .directory → ∀ descriptor,
      ⟨descriptor, place⟩ ∈ world.watches → world.watching place = some descriptor) :
    Watched world (addWatch world place) place := by
  rcases addWatch_cases table place with ⟨same, isThere⟩ | ⟨stands, unwatched, isNew⟩
  · rw [same]
    refine ⟨rfl, rfl, rfl, table, fun _ _ watched => watched, fun directory => ?_⟩
    rcases isThere with listed | missing
    · obtain ⟨watch, member, isPlace⟩ := any_eq_true.mp listed
      obtain rfl := of_decide_eq_true isPlace
      rw [careful directory watch.descriptor member]
      rfl
    · rw [missing] at directory
      cases directory
  · rw [isNew]
    refine ⟨rfl, rfl, rfl, table.watch stands unwatched, fun other descriptor watched => ?_,
      fun _ => ?_⟩
    · have different : other ≠ place := by
        rintro rfl
        rw [unwatched] at watched
        cases watched
      exact (update_of_ne different (some world.next) world.watching).trans watched
    · exact congrArg isSome (update_self place (some world.next) world.watching)

section

variable (sound : Sound root world)

include sound

variable {names : List Text}

theorem sound_watch
    (work : world.work = .watch place :: later) (careful : Careful world (.scan names)) :
    Sound root (scanTree root world names) := by
  obtain ⟨tree, table, noticed, latest⟩ := sound
  unfold scanTree
  rw [work]
  have watched := watched_addWatch table place (careful place later work)
  refine ⟨watched.entry ▸ tree, watched.table.congr rfl rfl rfl rfl rfl, ?_,
    watched.latest ▸ latest⟩
  refine noticed.scan [.read place] work watched.entry watched.queue rfl watched.grows
    (fun key _ known => ?_) (fun other directory isAbove _ => ?_)
    (fun parent name _ _ _ isAbove => ?_) (nofun) tree
  · show Known (addWatch world place).latest key
    rw [watched.latest]
    exact known
  · by_cases here : other = place
    · subst here
      exact inl (watched.here directory)
    · refine inr ⟨_, mem_cons_self, isAbove, fun same => here ?_⟩
      exact (Work.read.inj same).symm
  · exact inr ⟨_, mem_cons_self, isAbove⟩

theorem sound_read
    (work : world.work = .read place :: later) (possible : Possible root world (.scan names)) :
    Sound root (scanTree root world names) := by
  obtain ⟨tree, table, noticed, latest⟩ := sound
  unfold scanTree
  rw [work]
  dsimp only
  split
  · next directory =>
    refine ⟨tree, table.congr rfl rfl rfl rfl rfl, ?_, latest⟩
    have leads : ∀ {other}, world.entry other = some .directory → place <+: other →
        place ≠ other → ∃ item ∈ names.map (Work.child place), item.Enters other ∧
          item ≠ .read other := by
      intro other stands isAbove different
      obtain ⟨name, isChild, isAbove⟩ := child_above tree stands isAbove different
      refine ⟨.child place name, mem_map_of_mem (possible place later work name isChild),
        isAbove, by rintro ⟨⟩⟩
    refine noticed.scan (names.map (.child place)) work rfl rfl rfl
      (fun _ _ watched => watched) (fun _ _ known => known)
      (fun other stands isAbove notRead => ?_)
      (fun parent name key capture stands isAbove => ?_)
      (nofun) tree
    · exact inr (leads stands isAbove fun same => notRead (congrArg Work.read same))
    · by_cases here : place = parent
      · subst here
        obtain ⟨data, file, -⟩ := captureAt_file capture
        refine inl (mem_map_of_mem (possible place later work name ?_))
        rw [file]
        rfl
      · obtain ⟨item, member, enters, -⟩ := leads stands isAbove here
        exact inr ⟨item, member, enters⟩
  · next other =>
    refine ⟨tree, table.congr rfl rfl rfl rfl rfl, ?_, latest⟩
    have missing : ∀ {below}, world.entry below = some .directory → ¬ place <+: below :=
      fun stands isAbove => other (tree.directory_above stands isAbove)
    exact noticed.scan [] work rfl rfl rfl (fun _ _ watched => watched)
      (fun _ _ known => known) (fun _ stands isAbove _ => absurd isAbove (missing stands))
      (fun _ _ _ _ stands isAbove => absurd isAbove (missing stands))
      (nofun) tree

theorem sound_child {name : Text}
    (work : world.work = .child place name :: later) (names : List Text) :
    Sound root (scanTree root world names) := by
  obtain ⟨tree, table, noticed, latest⟩ := sound
  unfold scanTree
  rw [work]
  dsimp only
  split
  · next long =>
    have missing : world.entry (place ++ [name]) = none := by
      by_contra stands
      exact absurd (tree.short (ne_none_iff_isSome.mp stands)) (not_lt.mpr long)
    refine ⟨tree, table.congr rfl rfl rfl rfl rfl, ?_, latest⟩
    refine noticed.child tree work (by rw [missing]; rintro ⟨⟩) (fun _ _ known => known)
      fun key capture => ?_
    obtain ⟨data, file, -⟩ := captureAt_file capture
    rw [missing] at file
    cases file
  · split
    · next directory =>
      refine ⟨tree, table.congr rfl rfl rfl rfl rfl, ?_, latest⟩
      refine noticed.scan [.watch (place ++ [name])] work rfl rfl rfl
        (fun _ _ watched => watched) (fun _ _ known => known)
        (fun _ _ isAbove _ => inr ⟨_, mem_cons_self, isAbove, by rintro ⟨⟩⟩)
        (fun _ _ _ _ _ isAbove => inr ⟨_, mem_cons_self, isAbove⟩)
        (fun parent inner key capture same => ?_) tree
      cases same
      obtain ⟨data, file, -⟩ := captureAt_file capture
      rw [directory] at file
      cases file
    · next data file =>
      refine ⟨tree, table.congr rfl rfl rfl rfl rfl, ?_, latest_considerFile latest _⟩
      refine noticed.child tree work (by rw [file]; rintro ⟨⟩)
        (fun key length known => known_considerFile latest length known _)
        fun key capture => known_considered capture (tree.short ?_)
      rw [file]
      rfl
    · next missing =>
      refine ⟨tree, table.congr rfl rfl rfl rfl rfl, ?_, latest⟩
      refine noticed.child tree work (by rw [missing]; rintro ⟨⟩) (fun _ _ known => known)
        fun key capture => ?_
      obtain ⟨data, file, -⟩ := captureAt_file capture
      rw [missing] at file
      cases file

theorem sound_scan
    (possible : Possible root world (.scan names)) (careful : Careful world (.scan names)) :
    Sound root (scanTree root world names) := by
  cases work : world.work with
  | nil =>
    unfold scanTree
    rw [work]
    exact sound
  | cons item later =>
    cases item with
    | watch place => exact sound_watch sound work careful
    | read place => exact sound_read sound work possible
    | child place name => exact sound_child sound work names

end

end Scans

end ThermalSocket
