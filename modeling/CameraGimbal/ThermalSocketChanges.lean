/-
This file proves that a change of the files leaves the thermal service as it has to be: what is made
in a watched directory is told to its watch or is told as an overflow, and what is made in another
one is found by the scan that is still to come to it.
-/

import CameraGimbal.ThermalSocketNotices

namespace ThermalSocket

open List Function Option Or

open CText (Text bytes)
open Posix (IsName Place pathMax)

variable {root : Text} {world after : World}

/-! ### Changes of the files -/

section Changes

variable {change : Change} {parent : Place} {name : Text} {fate : Event → Fate}

theorem child_ne (parent : Place) (name : Text) : parent ++ [name] ≠ parent := by
  intro same
  have lengths := congrArg length same
  rw [length_append, length_singleton] at lengths
  omega

theorem Tree.room (tree : Tree root world.entry)
    (possible : Possible root world (.change change parent name fate)) :
    Room root world parent name ∧ ∀ inner, world.entry (parent ++ [name] ++ [inner]) = none := by
  have room : ∀ {node}, world.entry (parent ++ [name]) = some node →
      Room root world parent name := by
    intro node stands
    have isSome : (world.entry (parent ++ [name])).isSome = true := by rw [stands]; rfl
    exact ⟨tree.parent isSome, tree.named isSome, tree.short isSome⟩
  have hollow : world.entry (parent ++ [name]) ≠ some .directory →
      ∀ inner, world.entry (parent ++ [name] ++ [inner]) = none := by
    intro other inner
    by_contra stands
    exact other (tree.parent (ne_none_iff_isSome.mp stands))
  cases change with
  | create =>
    obtain ⟨fits, empty⟩ := possible
    exact ⟨fits, hollow (by rw [empty]; rintro ⟨⟩)⟩
  | close data =>
    obtain ⟨old, file⟩ := possible
    exact ⟨room file, hollow (by rw [file]; rintro ⟨⟩)⟩
  | rename data => exact ⟨possible.1, hollow possible.2⟩
  | delete =>
    obtain ⟨old, file⟩ := possible
    exact ⟨room file, hollow (by rw [file]; rintro ⟨⟩)⟩
  | mkdir =>
    obtain ⟨fits, empty⟩ := possible
    exact ⟨fits, hollow (by rw [empty]; rintro ⟨⟩)⟩
  | rmdir => exact ⟨room possible.1, possible.2⟩

theorem gone_watching (world : World) (place : Place) (fate : Event → Fate) (other : Place) :
    (world.gone place fate).watching other =
      if other = place then none else world.watching other := by
  unfold World.gone
  split
  · next unwatched =>
    split
    · next same => rw [same, unwatched]
    · rfl
  · show update world.watching place none other = _
    rw [update_apply]

variable {event : Event}

theorem gone_grows (world : World) (place : Place) (fate : Event → Fate)
    (member : event ∈ world.queue) : event ∈ (world.gone place fate).queue := by
  unfold World.gone
  split
  · exact member
  · exact mem_push_of_mem (mem_push_of_mem member)

theorem of_mem_gone {place : Place} (member : event ∈ (world.gone place fate).queue) :
    event ∈ world.queue ∨ event.happening ≠ .ignored ∨
      world.watching place = some event.descriptor := by
  unfold World.gone at member
  split at member
  · exact inl member
  · next descriptor watched =>
    rcases of_mem_push member with inside | rfl | rfl
    · rcases of_mem_push inside with before | rfl | rfl
      · exact inl before
      · exact inr (inl (by rintro ⟨⟩))
      · exact inr (inl (by rintro ⟨⟩))
    · exact inr (inr watched)
    · exact inr (inl (by rintro ⟨⟩))

theorem gone_last {place : Place} {descriptor : Nat}
    (watched : world.watching place = some descriptor)
    (kept : fate (ignored descriptor) ≠ .dropped) :
    ignored descriptor ∈ (world.gone place fate).queue := by
  unfold World.gone
  rw [watched]
  exact mem_push_self kept

theorem happening_ne (change : Change) : change.happening ≠ .ignored := by
  cases change <;> rintro ⟨⟩

variable {happening : Happening} {isDirectory : Bool}

theorem tell_grows (member : event ∈ world.queue) :
    event ∈ (world.tell parent fate happening isDirectory name).queue := by
  unfold World.tell
  split
  · exact member
  · exact mem_push_of_mem member

theorem of_mem_tell (other : happening ≠ .ignored)
    (member : event ∈ (world.tell parent fate happening isDirectory name).queue) :
    event ∈ world.queue ∨ event.happening ≠ .ignored := by
  unfold World.tell at member
  split at member
  · exact inl member
  · rcases of_mem_push member with before | rfl | rfl
    · exact inl before
    · exact inr other
    · exact inr (by rintro ⟨⟩)

theorem mem_tell {descriptor : Nat}
    (watched : world.watching parent = some descriptor) :
    ⟨descriptor, happening, isDirectory, name⟩ ∈
        (world.tell parent fate happening isDirectory name).queue ∨
      overflowed ∈ (world.tell parent fate happening isDirectory name).queue := by
  unfold World.tell
  rw [watched]
  exact mem_push _ _ _

/-- What `tell` and `gone` leave alone. -/
structure Beside (world after : World) : Prop where
  next : after.next = world.next
  watches : after.watches = world.watches
  latest : after.latest = world.latest
  work : after.work = world.work

theorem beside_gone (world : World) (place : Place) (fate : Event → Fate) :
    Beside world (world.gone place fate) ∧ (world.gone place fate).entry = world.entry := by
  unfold World.gone
  split <;> exact ⟨⟨rfl, rfl, rfl, rfl⟩, rfl⟩

theorem beside_tell (world : World) (parent : Place) (fate : Event → Fate)
    (happening : Happening) (isDirectory : Bool) (name : Text) :
    let after := world.tell parent fate happening isDirectory name
    Beside world after ∧ after.entry = world.entry ∧ after.watching = world.watching := by
  unfold World.tell
  split <;> exact ⟨⟨rfl, rfl, rfl, rfl⟩, rfl, rfl⟩

/-- What a change does to the world. -/
structure Changed (world after : World) (change : Change) (parent : Place) (name : Text)
    (fate : Event → Fate) : Prop where
  beside : Beside world after
  entry : after.entry = Function.update world.entry (parent ++ [name]) change.node
  watching : ∀ place, after.watching place =
    if change.replaces = true ∧ place = parent ++ [name] then none else world.watching place
  grows : ∀ event ∈ world.queue, event ∈ after.queue
  new : ∀ event ∈ after.queue, event ∈ world.queue ∨ event.happening ≠ .ignored ∨
    change.replaces = true ∧ world.watching (parent ++ [name]) = some event.descriptor
  last : change.replaces = true → ∀ descriptor,
    world.watching (parent ++ [name]) = some descriptor → fate (ignored descriptor) ≠ .dropped →
    ignored descriptor ∈ after.queue
  told : ∀ descriptor, world.watching parent = some descriptor →
    ⟨descriptor, change.happening, change.isDirectory, name⟩ ∈ after.queue ∨
      overflowed ∈ after.queue

theorem changed (world : World) (change : Change) (parent : Place) (name : Text)
    (fate : Event → Fate) :
    Changed world (world.change change parent name fate) change parent name fate := by
  have apart : parent ≠ parent ++ [name] := (child_ne parent name).symm
  unfold World.change
  dsimp only
  by_cases replaces : change.replaces = true
  · rw [if_pos replaces]
    obtain ⟨besideGone, entryGone⟩ := beside_gone world (parent ++ [name]) fate
    obtain ⟨besideTold, entryTold, watchingTold⟩ := beside_tell
      ((world.gone (parent ++ [name]) fate).put (parent ++ [name]) change.node) parent fate
      change.happening change.isDirectory name
    refine ⟨⟨besideTold.next.trans besideGone.next, besideTold.watches.trans besideGone.watches,
      besideTold.latest.trans besideGone.latest, besideTold.work.trans besideGone.work⟩, ?_, ?_,
      fun event member => tell_grows (gone_grows world _ fate member), fun event member => ?_,
      fun _ descriptor watched kept => tell_grows (gone_last watched kept),
      fun descriptor watched => mem_tell ?_⟩
    · rw [entryTold]
      exact congrArg (update · _ _) entryGone
    · intro place
      rw [watchingTold]
      refine (gone_watching world _ fate place).trans ?_
      simp only [replaces, true_and]
    · rcases of_mem_tell (happening_ne change) member with before | other
      · rcases of_mem_gone before with inside | other | watched
        · exact inl inside
        · exact inr (inl other)
        · exact inr (inr ⟨replaces, watched⟩)
      · exact inr (inl other)
    · refine (gone_watching world _ fate parent).trans ?_
      rw [if_neg apart]
      exact watched
  · rw [if_neg replaces]
    obtain ⟨besideTold, entryTold, watchingTold⟩ := beside_tell
      (world.put (parent ++ [name]) change.node) parent fate change.happening change.isDirectory
      name
    refine ⟨⟨besideTold.next, besideTold.watches, besideTold.latest, besideTold.work⟩, entryTold,
      fun place => ?_, fun event member => tell_grows member, fun event member => ?_,
      fun isReplaced => absurd isReplaced replaces, fun descriptor watched => mem_tell watched⟩
    · rw [watchingTold, if_neg fun both => replaces both.1]
      rfl
    · rcases of_mem_tell (happening_ne change) member with before | other
      · exact inl before
      · exact inr (inl other)

theorem replaces_of_node {change : Change} (gone : change.node = none) :
    change.replaces = true := by
  cases change with
  | delete => rfl
  | rmdir => rfl
  | _ => cases gone

theorem tree_change (tree : Tree root world.entry) (room : Room root world parent name)
    (hollow : ∀ inner, world.entry (parent ++ [name] ++ [inner]) = none) (node : Option Node) :
    Tree root (update world.entry (parent ++ [name]) node) := by
  have cases' : ∀ {place inner},
      (update world.entry (parent ++ [name]) node (place ++ [inner])).isSome = true →
      (place = parent ∧ inner = name) ∨ (world.entry (place ++ [inner])).isSome = true := by
    intro place inner stands
    by_cases here : place ++ [inner] = parent ++ [name]
    · obtain ⟨same, last⟩ := append_inj' here rfl
      exact inl ⟨same, singleton_inj.mp last⟩
    · rw [update_of_ne here] at stands
      exact inr stands
  refine ⟨?_, fun {place inner} stands => ?_, fun {place inner} stands => ?_,
    fun {place inner} stands => ?_⟩
  · rw [update_of_ne (by simp)]
    exact tree.top
  · rcases cases' stands with ⟨rfl, rfl⟩ | before
    · rw [update_of_ne (child_ne place inner).symm]
      exact room.directory
    · have elsewhere : place ≠ parent ++ [name] := by
        rintro rfl
        rw [hollow] at before
        cases before
      rw [update_of_ne elsewhere]
      exact tree.parent before
  · rcases cases' stands with ⟨rfl, rfl⟩ | before
    · exact room.named
    · exact tree.named before
  · rcases cases' stands with ⟨rfl, rfl⟩ | before
    · exact room.short
    · exact tree.short before

theorem Table.same (table : Table world) {one other : Place} {descriptor : Nat}
    (first : world.watching one = some descriptor)
    (second : world.watching other = some descriptor) : one = other := by
  have firstPath := watchPath_eq table.distinct (table.listed first)
  rw [watchPath_eq table.distinct (table.listed second)] at firstPath
  exact (some.inj firstPath).symm

theorem table_change (table : Table world)
    (careful : Careful world (.change change parent name fate))
    (changed : Changed world after change parent name fate) : Table after where
  listed {place descriptor} watched := by
    rw [changed.watching] at watched
    rw [changed.beside.watches]
    split at watched
    · cases watched
    · exact table.listed watched
  stands {place descriptor} watched := by
    rw [changed.watching] at watched
    rw [changed.entry]
    split at watched
    · cases watched
    · next kept =>
      by_cases here : place = parent ++ [name]
      · rw [here, update_self]
        by_contra none
        exact kept ⟨replaces_of_node (not_isSome_iff_eq_none.mp none), here⟩
      · rw [update_of_ne here]
        exact table.stands watched
  live watch member := by
    rw [changed.beside.watches] at member
    rw [changed.watching]
    rcases table.live watch member with watched | ended
    · split
      · next gone =>
        rw [gone.2] at watched
        exact inr (changed.last gone.1 _ watched (careful gone.1 _ watched))
      · exact inl watched
    · exact inr (changed.grows _ ended)
  distinct := by
    rw [changed.beside.watches]
    exact table.distinct
  before watch member := by
    rw [changed.beside.watches] at member
    rw [changed.beside.next]
    exact table.before watch member
  ended event member isLast := by
    rw [changed.beside.next]
    rcases changed.new event member with before | other | ⟨replaces, watched⟩
    · obtain ⟨small, unwatched⟩ := table.ended event before isLast
      refine ⟨small, fun place watched => unwatched place ?_⟩
      rw [changed.watching] at watched
      split at watched
      · cases watched
      · exact watched
    · exact absurd isLast other
    · refine ⟨table.before _ (table.listed watched), fun place isWatched => ?_⟩
      rw [changed.watching] at isWatched
      split at isWatched
      · cases isWatched
      · next kept => exact kept ⟨replaces, table.same isWatched watched⟩

theorem enters_change {below : Place} (tree : Tree root world.entry)
    (hollow : ∀ inner, world.entry (parent ++ [name] ++ [inner]) = none)
    (changed : Changed world after change parent name fate)
    (stands : (world.entry below).isSome = true) (enters : event.Enters world.watching below) :
    event.Enters after.watching below := by
  rcases enters with overflow | ⟨isDirectory, appears, place, watched, isAbove⟩
  · exact inl overflow
  · refine inr ⟨isDirectory, appears, place, ?_, isAbove⟩
    rw [changed.watching, if_neg]
    · exact watched
    · rintro ⟨-, rfl⟩
      have none := hollow event.name
      rcases tree.above stands isAbove with same | directory
      · rw [same] at none
        rw [none] at stands
        cases stands
      · rw [directory] at none
        cases none

theorem Work.Enters.trans {item : Work} {upper lower : Place} (enters : item.Enters upper)
    (isAbove : upper <+: lower) : item.Enters lower := by
  cases item with
  | watch place => exact IsPrefix.trans enters isAbove
  | read place => exact IsPrefix.trans enters isAbove
  | child place name => exact IsPrefix.trans enters isAbove

theorem Event.Enters.trans {watching : Place → Option Nat} {upper lower : Place}
    (enters : event.Enters watching upper) (isAbove : upper <+: lower) :
    event.Enters watching lower := by
  rcases enters with overflow | ⟨isDirectory, appears, place, watched, above⟩
  · exact inl overflow
  · exact inr ⟨isDirectory, appears, place, watched, above.trans isAbove⟩

theorem mkdir_of_node {change : Change} (node : change.node = some .directory) :
    change.isDirectory = true ∧ change.happening = .create := by
  cases change with
  | mkdir => exact ⟨rfl, rfl⟩
  | _ => cases node

theorem closes_of_node {change : Change} {data : Data} (node : change.node = some (.file data))
    (size : data.size = frameBytes) : change.isDirectory = false ∧
      (change.happening = .closeWrite ∨ change.happening = .movedTo) := by
  cases change with
  | create =>
    cases node
    cases size
  | close other => exact ⟨rfl, inl rfl⟩
  | rename other => exact ⟨rfl, inr rfl⟩
  | _ => cases node

theorem captureAt_congr {entry other : Files} {place : Place} (same : entry place = other place) :
    captureAt root entry place = captureAt root other place := by
  unfold captureAt
  rw [same]

theorem noticed_change (tree : Tree root world.entry) (noticed : Noticed root world)
    (possible : Possible root world (.change change parent name fate))
    (changed : Changed world after change parent name fate) : Noticed root after := by
  obtain ⟨room, hollow⟩ := tree.room possible
  have apart : parent ≠ parent ++ [name] := (child_ne parent name).symm
  have parentStands : (world.entry parent).isSome = true := by rw [room.directory]; rfl
  have watchedParent : after.watching parent = world.watching parent := by
    rw [changed.watching, if_neg fun both => apart both.2]
  have elsewhere : ∀ {place}, place ≠ parent ++ [name] → after.entry place = world.entry place := by
    intro place other
    rw [changed.entry, update_of_ne other]
  have covered := noticed.directories parent room.directory
  constructor
  · intro place directory
    by_cases here : place = parent ++ [name]
    · -- A new directory is told to its parent, or is in one that will be scanned.
      subst here
      rw [changed.entry, update_self] at directory
      obtain ⟨isDirectory, happening⟩ := mkdir_of_node directory
      refine inr ?_
      rcases covered with isWatched | ⟨item, member, enters, -⟩ | ⟨event, member, enters⟩
      · obtain ⟨descriptor, watched⟩ := isSome_iff_exists.mp isWatched
        rcases changed.told descriptor watched with told | ended
        · exact inr ⟨_, told, inr ⟨isDirectory, inl happening, parent,
            watchedParent.trans watched, prefix_rfl⟩⟩
        · exact inr ⟨_, ended, inl rfl⟩
      · refine inl ⟨item, changed.beside.work ▸ member, enters.trans (prefix_append _ _), ?_⟩
        rintro rfl
        have short := IsPrefix.length_le enters
        rw [length_append, length_singleton] at short
        omega
      · exact inr ⟨event, changed.grows event member,
          (enters_change tree hollow changed parentStands enters).trans (prefix_append _ _)⟩
    · rw [elsewhere here] at directory
      rw [changed.watching, if_neg fun both => here both.2, changed.beside.work]
      rcases noticed.directories place directory with watched | item | ⟨event, member, enters⟩
      · exact inl watched
      · exact inr (inl item)
      · exact inr (inr ⟨event, changed.grows event member,
          enters_change tree hollow changed (by rw [directory]; rfl) enters⟩)
  · intro place inner key capture
    rw [changed.beside.work, changed.beside.latest]
    by_cases here : place ++ [inner] = parent ++ [name]
    · obtain ⟨rfl, last⟩ := append_inj' here rfl
      obtain rfl := singleton_inj.mp last
      obtain ⟨data, file, -, size, -⟩ := captureAt_file capture
      rw [changed.entry, update_self] at file
      obtain ⟨notDirectory, happening⟩ := closes_of_node file size
      rcases covered with isWatched | ⟨item, member, enters, -⟩ | ⟨event, member, enters⟩
      · obtain ⟨descriptor, watched⟩ := isSome_iff_exists.mp isWatched
        rcases changed.told descriptor watched with told | ended
        · exact inr (inl ⟨_, told, watchedParent.trans watched, notDirectory, happening, rfl⟩)
        · exact inr (inr (inr (inr ⟨_, ended, inl rfl⟩)))
      · exact inr (inr (inr (inl ⟨item, member, enters⟩)))
      · exact inr (inr (inr (inr ⟨event, changed.grows event member,
          enters_change tree hollow changed parentStands enters⟩)))
    · rw [captureAt_congr (elsewhere here)] at capture
      obtain ⟨data, file, -⟩ := captureAt_file capture
      have stands : (world.entry (place ++ [inner])).isSome = true := by rw [file]; rfl
      have placeStands : (world.entry place).isSome = true := by rw [tree.parent stands]; rfl
      rcases noticed.captures place inner key capture with
        known | ⟨event, member, watched, named⟩ | child | item | ⟨event, member, enters⟩
      · exact inl known
      · refine inr (inl ⟨event, changed.grows event member, ?_, named⟩)
        have kept : place ≠ parent ++ [name] := by
          rintro rfl
          rw [hollow] at stands
          cases stands
        rw [changed.watching, if_neg fun both => kept both.2]
        exact watched
      · exact inr (inr (inl child))
      · exact inr (inr (inr (inl item)))
      · exact inr (inr (inr (inr ⟨event, changed.grows event member,
          enters_change tree hollow changed placeStands enters⟩)))

theorem sound_change (sound : Sound root world)
    (possible : Possible root world (.change change parent name fate))
    (careful : Careful world (.change change parent name fate)) :
    Sound root (world.change change parent name fate) := by
  have changes := changed world change parent name fate
  obtain ⟨room, hollow⟩ := sound.tree.room possible
  refine ⟨?_, table_change sound.table careful changes,
    noticed_change sound.tree sound.noticed possible changes, ?_⟩
  · rw [changes.entry]
    exact tree_change sound.tree room hollow _
  · rw [changes.beside.latest]
    exact sound.latest

end Changes

end ThermalSocket
