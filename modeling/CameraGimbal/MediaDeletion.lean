/-
This file models how the web pages delete a file or a directory of the media, and the test whether
they offer to do so.

Both canonicalise the path, or the directory of a link, and look whether it is below the root of the
media. What is removed is removed by its canonical path, so that no link leads the removal out of
the tree. The test leaves out one thing that the removal looks at: whether the canonical path of a
link fits a buffer.
-/

import CameraGimbal.PosixFiles

namespace MediaDeletion

open CText Posix FileTree List Option

/-! ### The model -/

def pathIsBelow (root path : Text) : Bool :=
  root.isPrefixOf path && (path.drop root.length).head? == some slash

/-- `strrchr`, with what stands before and behind the last mark. -/
def splitLast (mark : UInt8) (text : Text) : Option (Text × Text) :=
  (splitAt mark text.reverse).map fun (after, before) => (before.reverse, after.reverse)

/-- The loop of `path_parent` that takes slashes off the end, but not the first byte. -/
def withoutSlashes (path : Text) : Text :=
  let body := path.rdropWhile (· == slash)
  if body = [] then path.take 1 else body

def pathParent (path : Text) : Text :=
  let output := withoutSlashes (path.take (pathMax - 1))
  match splitLast slash output with
  | none => [slash]
  | some (before, _) => if before = [] then output.take 1 else before

def pathCanBeDeleted (tree : FileTree) (mediaRoot path : Text) : Bool :=
  if path.head? ≠ some slash then false
  else
    match tree.realpath mediaRoot, tree.lstat path with
    | some root, some (.link _) =>
      match tree.realpath (pathParent path) with
      | none => false
      | some resolved => resolved == root || pathIsBelow root resolved
    | some root, some _ =>
      match tree.realpath path with
      | none => false
      | some resolved => pathIsBelow root resolved
    | _, _ => false

/-- The texts `S_E_TARGET_MISSING`, `S_E_DELETE_BENEATH`, `S_E_PATH_TOO_LONG` and
`S_E_TARGET_CHANGED`. -/
inductive Refusal where
  | targetMissing
  | deleteBeneath
  | pathTooLong
  | targetChanged
  deriving DecidableEq

/-- What the deletion comes to: it refuses, or it removes what has this path, which may fail with
some of it left. -/
inductive Deletion where
  | refused (reason : Refusal)
  | attempted (deletedPath : Text) (tree : FileTree) (done : Bool)

/-- A call that removes one entry. -/
def attempt (tree : FileTree) (target : Text) (result : Option FileTree) : Deletion :=
  match result with
  | none => .attempted target tree false
  | some next => .attempted target next true

def deleteMediaPath (tree : FileTree) (mediaRoot path : Text) : Deletion :=
  if path.head? ≠ some slash then .refused .targetMissing
  else
    match tree.realpath mediaRoot, tree.lstat path with
    | some root, some (.link _) =>
      match splitLast slash path, tree.realpath (pathParent path) with
      | some (_, base), some resolved =>
        if base = [] ∨ ¬ (resolved = root ∨ pathIsBelow root resolved = true) then
          .refused .deleteBeneath
        else
          let safeTarget := resolved ++ slash :: base
          if pathMax ≤ safeTarget.length then .refused .pathTooLong
          else
            match tree.lstat safeTarget with
            | some (.link _) => attempt tree safeTarget (tree.unlink safeTarget)
            | _ => .refused .targetChanged
      | _, _ => .refused .deleteBeneath
    | some root, some _ =>
      match tree.realpath path with
      | none => .refused .deleteBeneath
      | some resolved =>
        if pathIsBelow root resolved = false then .refused .deleteBeneath
        else
          match tree.lstat resolved with
          | none => .refused .targetChanged
          | some .directory =>
            let walked := tree.nftw resolved remove
            .attempted resolved walked.1 walked.2
          | some _ => attempt tree resolved (tree.unlink resolved)
    | _, _ => .refused .targetMissing

def Deletion.after (tree : FileTree) : Deletion → FileTree
  | .refused _ => tree
  | .attempted _ next _ => next

variable {tree : FileTree} {mediaRoot path : Text}

/-! ### Paths -/

theorem splitLast_spec {mark : UInt8} {text before after : Text}
    (split : splitLast mark text = some (before, after)) :
    text = before ++ mark :: after ∧ mark ∉ after := by
  obtain ⟨⟨first, second⟩, reversed, same⟩ := map_eq_some_iff.mp split
  cases same
  obtain ⟨isText, absent⟩ := splitAt_spec reversed
  refine ⟨?_, fun member => absent (mem_reverse.mp member)⟩
  have again := congrArg reverse isText
  rw [reverse_reverse, reverse_append, reverse_cons, append_assoc] at again
  exact again

theorem splitLast_append {mark : UInt8} (before : Text) {after : Text} (absent : mark ∉ after) :
    splitLast mark (before ++ mark :: after) = some (before, after) := by
  unfold splitLast
  rw [reverse_append, reverse_cons, append_assoc, singleton_append,
    splitAt_append _ fun member => absent (mem_reverse.mp member)]
  simp

theorem exists_splitLast {mark : UInt8} {text : Text} (member : mark ∈ text) :
    ∃ before after, splitLast mark text = some (before, after) := by
  obtain ⟨after, before, reversed, absent⟩ := eq_append_cons_of_mem (mem_reverse.mpr member)
  refine ⟨before.reverse, after.reverse, ?_⟩
  unfold splitLast
  rw [reversed, splitAt_append _ absent]
  rfl

theorem pathParent_append {before name : Text} (plain : slash ∉ name) (nonempty : name ≠ [])
    (short : (before ++ slash :: name).length < pathMax) :
    pathParent (before ++ slash :: name) = if before = [] then [slash] else before := by
  have all : (before ++ slash :: name).take (pathMax - 1) = before ++ slash :: name :=
    take_of_length_le (by omega)
  have ends : (before ++ slash :: name).rdropWhile (· == slash) = before ++ slash :: name := by
    obtain ⟨others, last, rfl⟩ : ∃ others last, name = others ++ [last] :=
      ⟨_, _, (dropLast_concat_getLast nonempty).symm⟩
    have other : ¬ (last == slash) = true := fun same =>
      plain (mem_append_right _ (mem_singleton.mpr (beq_iff_eq.mp same).symm))
    rw [← cons_append, ← append_assoc]
    exact rdropWhile_concat_neg (· == slash) _ last other
  have output : withoutSlashes (before ++ slash :: name) = before ++ slash :: name := by
    unfold withoutSlashes
    rw [ends, if_neg (by simp)]
  unfold pathParent
  dsimp only
  rw [all, output, splitLast_append before plain]
  dsimp only
  split
  · next top =>
    rw [top]
    rfl
  · rfl

theorem pathIsBelow_render {upper lower : Place} (plainUpper : ∀ name ∈ upper, IsName name)
    (plainLower : ∀ name ∈ lower, IsName name) :
    pathIsBelow (render upper) (render lower) = true ↔
      upper ≠ [] ∧ upper <+: lower ∧ upper ≠ lower := by
  unfold pathIsBelow
  rw [Bool.and_eq_true, beq_iff_eq, isPrefixOf_iff_prefix]
  constructor
  · rintro ⟨⟨behind, same⟩, head⟩
    rw [← same, drop_left] at head
    obtain ⟨rest, rfl⟩ : ∃ rest, behind = slash :: rest := by
      cases behind with
      | nil => cases head
      | cons byte rest =>
        cases head
        exact ⟨rest, rfl⟩
    exact below_of_render plainUpper plainLower same.symm
  · rintro ⟨top, ⟨rest, rfl⟩, different⟩
    cases rest with
    | nil => exact absurd (append_nil upper).symm different
    | cons name later =>
      rw [render_append top, flatMap_cons, cons_append, drop_left]
      exact ⟨prefix_append _ _, rfl⟩

/-! ### Links -/

/-- A path leads to the link with a name in a directory, and there is a media root. -/
structure LinkPath (tree : FileTree) (mediaRoot path : Text) (root directory : Place)
    (name target : Text) : Prop where
  absolute : path.head? = some slash
  atRoot : tree.resolve true mediaRoot = some root
  fits : (render root).length < pathMax
  resolved : tree.resolve false path = some (directory ++ [name])
  isLink : tree.entry (directory ++ [name]) = some (.link target)

variable {root directory : Place} {name target : Text}

theorem LinkPath.parts (link : LinkPath tree mediaRoot path root directory name target) :
    ∃ before, splitLast slash path = some (before, name) ∧ name ≠ [] ∧
      tree.resolve true (pathParent path) = some directory := by
  obtain ⟨before, last, split⟩ := exists_splitLast (mem_of_head? link.absolute)
  obtain ⟨rfl, plain⟩ := splitLast_spec split
  obtain ⟨other, same, nonempty, here, parent, top⟩ := resolve_link plain link.resolved link.isLink
  obtain ⟨rfl, rfl⟩ := append_inj' same rfl |>.imp_right fun same => cons.inj same |>.1
  obtain ⟨-, short, -⟩ := resolve_eq_some.mp link.resolved
  refine ⟨before, split, nonempty, ?_⟩
  rw [pathParent_append plain nonempty short]
  split
  · next isTop =>
    rw [top isTop]
    exact resolve_render (by rw [tree.root]; rfl) (.inr ⟨_, tree.root, rfl⟩) (by decide)
  · next notTop => exact parent notTop

theorem exists_linkPath (absolute : path.head? = some slash) {root : Text}
    (isRoot : tree.realpath mediaRoot = some root)
    (isLink : tree.lstat path = some (.link target)) :
    ∃ place directory name, LinkPath tree mediaRoot path place directory name target := by
  obtain ⟨rootPlace, rootResolved, rootFits, -⟩ := realpath_eq_some.mp isRoot
  obtain ⟨place, resolved, stands⟩ := bind_eq_some_iff.mp isLink
  have below : place ≠ [] := by
    rintro rfl
    rw [tree.root] at stands
    cases stands
  rw [← dropLast_concat_getLast below] at resolved stands
  exact ⟨rootPlace, _, _, absolute, rootResolved, rootFits, resolved, stands⟩

/-- The directory is the media root, or below it. -/
def Inside (root directory : Place) : Prop :=
  directory = root ∨ root ≠ [] ∧ root <+: directory ∧ root ≠ directory

instance (root directory : Place) : Decidable (Inside root directory) :=
  inferInstanceAs (Decidable (_ ∨ _))

theorem Inside.child {root directory : Place} (inside : Inside root directory) (name : Text) :
    root <+: directory ++ [name] ∧ root ≠ directory ++ [name] := by
  have isPrefix : root <+: directory := by
    cases inside with
    | inl same => rw [same]
    | inr below => exact below.2.1
  refine ⟨isPrefix.trans (prefix_append _ _), fun same => ?_⟩
  have short := isPrefix.length_le
  rw [same, length_append, length_singleton] at short
  omega

theorem inside_iff {root directory : Place} (plainRoot : ∀ name ∈ root, IsName name)
    (plain : ∀ name ∈ directory, IsName name) :
    (render directory = render root ∨
      pathIsBelow (render root) (render directory) = true) ↔
      Inside root directory := by
  rw [pathIsBelow_render plainRoot plain]
  refine or_congr_left ⟨render_injective plain plainRoot, fun same => by rw [same]⟩

/-- The entry is below the media root. -/
def StrictlyBelow (tree : FileTree) (mediaRoot : Text) (place : Place) : Prop :=
  ∃ root, tree.resolve true mediaRoot = some root ∧ root <+: place ∧ root ≠ place

/-- A link in a directory whose canonical path fits a buffer that the path of the link does not
fit. -/
def OverlongLink (tree : FileTree) (mediaRoot path : Text) : Prop :=
  ∃ root directory name target, LinkPath tree mediaRoot path root directory name target ∧
    Inside root directory ∧ (render directory).length < pathMax ∧
    pathMax ≤ (render directory ++ slash :: name).length

/-- What a deletion comes to. -/
inductive Outcome (tree : FileTree) (mediaRoot path : Text) : Prop where
  | refused {reason : Refusal} :
      deleteMediaPath tree mediaRoot path = .refused reason →
      pathCanBeDeleted tree mediaRoot path = false → Outcome tree mediaRoot path
  | overlong {reason : Refusal} :
      deleteMediaPath tree mediaRoot path = .refused reason →
      pathCanBeDeleted tree mediaRoot path = true → OverlongLink tree mediaRoot path →
      Outcome tree mediaRoot path
  | removed {place : Place} {deletedPath : Text} {next : FileTree} {done : Bool} :
      deleteMediaPath tree mediaRoot path = .attempted deletedPath next done →
      tree.resolve false deletedPath = some place → StrictlyBelow tree mediaRoot place →
      Shrunk tree next place → (done = true → next.entry place = none) →
      (∀ target, tree.lstat path = some (.link target) → tree.resolve false path = some place) →
      Outcome tree mediaRoot path

section

variable (link : LinkPath tree mediaRoot path root directory name target)
include link

theorem LinkPath.isRoot : tree.realpath mediaRoot = some (render root) :=
  realpath_eq_some.mpr ⟨root, link.atRoot, link.fits, rfl⟩

theorem LinkPath.lstat : tree.lstat path = some (.link target) := by
  unfold FileTree.lstat
  rw [link.resolved, bind_some, link.isLink]

theorem LinkPath.inside_iff :
    (render directory = render root ∨
      pathIsBelow (render root) (render directory) = true) ↔
      Inside root directory := by
  have stands : (tree.entry (directory ++ [name])).isSome = true := by
    rw [link.isLink]
    rfl
  exact MediaDeletion.inside_iff
    (fun _ member => isName_of_mem (resolve_isSome link.atRoot) member)
    fun _ member => isName_of_mem (isSome_of_append stands) member

theorem LinkPath.offered :
    pathCanBeDeleted tree mediaRoot path = true ↔
      (render directory).length < pathMax ∧ Inside root directory := by
  obtain ⟨before, split, nonempty, parent⟩ := link.parts
  unfold pathCanBeDeleted
  rw [if_neg (not_not.mpr link.absolute), link.isRoot, link.lstat]
  unfold realpath
  rw [parent, bind_some]
  by_cases fits : (render directory).length < pathMax
  · rw [if_pos fits]
    rw [Bool.or_eq_true, beq_iff_eq, link.inside_iff]
    exact (and_iff_right fits).symm
  · rw [if_neg fits]
    exact ⟨nofun, fun both => absurd both.1 fits⟩

theorem LinkPath.child (fits : (render directory ++ slash :: name).length < pathMax) :
    tree.resolve false (render directory ++ slash :: name) = some (directory ++ [name]) := by
  refine resolve_child ?_ (.inl rfl) fits
  rw [link.isLink]
  rfl

theorem LinkPath.notDirectory : tree.entry (directory ++ [name]) ≠ some .directory := by
  rw [link.isLink]
  exact fun same => by cases same

theorem LinkPath.deletion :
    deleteMediaPath tree mediaRoot path =
      if (render directory).length < pathMax ∧ Inside root directory then
        let safeTarget := render directory ++ slash :: name
        if pathMax ≤ safeTarget.length then .refused .pathTooLong
        else attempt tree safeTarget (tree.erase (directory ++ [name]))
      else .refused .deleteBeneath := by
  obtain ⟨before, split, nonempty, parent⟩ := link.parts
  unfold deleteMediaPath
  rw [if_neg (not_not.mpr link.absolute), link.isRoot, link.lstat]
  rw [split]
  unfold realpath
  rw [parent, bind_some]
  by_cases fits : (render directory).length < pathMax
  · rw [if_pos fits]
    simp only [link.inside_iff, eq_false nonempty, false_or, fits, true_and]
    by_cases inside : Inside root directory
    · rw [if_neg (not_not.mpr inside), if_pos inside]
      by_cases long : pathMax ≤ (render directory ++ slash :: name).length
      · rw [if_pos long, if_pos long]
      · unfold FileTree.lstat unlink
        rw [if_neg long, if_neg long, link.child (not_le.mp long), bind_some,
          bind_some, if_neg link.notDirectory, link.isLink]
    · rw [if_pos inside, if_neg inside]
  · rw [if_neg fits, if_neg fun both => fits both.1]

end

theorem outcome_link {root : Text} (absolute : path.head? = some slash)
    (isRoot : tree.realpath mediaRoot = some root)
    (isLink : tree.lstat path = some (.link target)) : Outcome tree mediaRoot path := by
  obtain ⟨root, directory, name, link⟩ := exists_linkPath absolute isRoot isLink
  have deletion := link.deletion
  by_cases offered : (render directory).length < pathMax ∧ Inside root directory
  · rw [if_pos offered] at deletion
    by_cases long : pathMax ≤ (render directory ++ slash :: name).length
    · rw [if_pos long] at deletion
      exact .overlong deletion (link.offered.mpr offered)
        ⟨root, directory, name, target, link, offered.2, offered.1, long⟩
    · obtain ⟨next, erased⟩ := exists_erase (by simp) link.notDirectory
      rw [if_neg long, erased] at deletion
      refine .removed deletion (link.child (not_le.mp long))
        ⟨root, link.atRoot, offered.2.child name⟩ (erase_shrunk erased) (fun _ => ?_)
        fun _ _ => link.resolved
      rw [erase_entry erased, if_pos rfl]
  · rw [if_neg offered] at deletion
    exact .refused deletion (Bool.eq_false_of_not_eq_true (mt link.offered.mp offered))

theorem outcome_other {kind : Kind} (absolute : path.head? = some slash) {root : Text}
    (isRoot : tree.realpath mediaRoot = some root) (isKind : tree.lstat path = some kind)
    (noLink : kind.isLink = false) : Outcome tree mediaRoot path := by
  have other : ∀ target, tree.lstat path ≠ some (.link target) := by
    intro target isLink
    rw [isKind] at isLink
    cases isLink
    cases noLink
  have deletion := deleteMediaPath.eq_1 tree mediaRoot path
  have can := pathCanBeDeleted.eq_1 tree mediaRoot path
  rw [if_neg (not_not.mpr absolute), isRoot, isKind] at deletion can
  cases kind with
  | link target => cases noLink
  | file | directory =>
    dsimp only at deletion can
    cases isPath : tree.realpath path with
    | none =>
      rw [isPath] at deletion can
      exact .refused deletion can
    | some resolved =>
      rw [isPath] at deletion can
      dsimp only at deletion can
      cases below : pathIsBelow root resolved with
      | false =>
        rw [if_pos below] at deletion
        exact .refused deletion (can.trans below)
      | true =>
        rw [if_neg (by rw [below]; decide)] at deletion
        obtain ⟨rootPlace, rootResolved, -, rfl⟩ := realpath_eq_some.mp isRoot
        obtain ⟨place, placeResolved, short, rfl⟩ := realpath_eq_some.mp isPath
        have stands := resolve_isSome placeResolved
        have solid := resolve_solid placeResolved
        obtain ⟨-, strictly⟩ := (pathIsBelow_render
          (fun name member =>
            isName_of_mem (resolve_isSome rootResolved) member)
          fun name member => isName_of_mem stands member).mp below
        have under : StrictlyBelow tree mediaRoot place := ⟨rootPlace, rootResolved, strictly⟩
        have notTop : place ≠ [] := by
          rintro rfl
          exact strictly.2 (prefix_nil.mp strictly.1)
        have same : tree.resolve false (render place) = some place :=
          resolve_render stands (.inl rfl) short
        have isEntry : tree.lstat (render place) = tree.entry place := by
          unfold lstat
          rw [same, bind_some]
        rw [isEntry] at deletion
        cases entry : tree.entry place with
        | none =>
          rw [entry] at stands
          cases stands
        | some here =>
          rw [entry] at deletion
          cases here with
          | directory =>
            obtain ⟨shrunk, gone⟩ := nftw_remove notTop entry short
            refine .removed deletion same under shrunk (fun done => ?_)
              fun target isLink => absurd isLink (other target)
            have none := gone done []
            rwa [append_nil] at none
          | link target =>
            obtain ⟨kind, isSolid, plain⟩ := solid
            rw [entry] at isSolid
            cases isSolid
            cases plain
          | file =>
            have notDirectory : tree.entry place ≠ some .directory := by
              rw [entry]
              exact fun same => by cases same
            obtain ⟨next, erased⟩ := exists_erase notTop notDirectory
            have unlinked : tree.unlink (render place) = some next := by
              unfold unlink
              rw [same, bind_some, if_neg notDirectory, erased]
            rw [unlinked] at deletion
            refine .removed deletion same under (erase_shrunk erased) (fun _ => ?_)
              fun target isLink => absurd isLink (other target)
            rw [erase_entry erased, if_pos rfl]

theorem outcome (tree : FileTree) (mediaRoot path : Text) : Outcome tree mediaRoot path := by
  by_cases absolute : path.head? = some slash
  · cases isRoot : tree.realpath mediaRoot with
    | none =>
      have deletion : deleteMediaPath tree mediaRoot path = .refused .targetMissing := by
        unfold deleteMediaPath
        rw [if_neg (not_not.mpr absolute), isRoot]
      refine .refused deletion ?_
      unfold pathCanBeDeleted
      rw [if_neg (not_not.mpr absolute), isRoot]
    | some root =>
      cases isKind : tree.lstat path with
      | none =>
        have deletion : deleteMediaPath tree mediaRoot path = .refused .targetMissing := by
          unfold deleteMediaPath
          rw [if_neg (not_not.mpr absolute), isRoot, isKind]
        refine .refused deletion ?_
        unfold pathCanBeDeleted
        rw [if_neg (not_not.mpr absolute), isRoot, isKind]
      | some kind =>
        cases kind with
        | link target => exact outcome_link absolute isRoot isKind
        | file => exact outcome_other absolute isRoot isKind rfl
        | directory => exact outcome_other absolute isRoot isKind rfl
  · exact .refused (if_pos absolute) (if_pos absolute)

/-! ### What a deletion changes -/

/-- A deletion changes nothing but entries below the media root, of a link nothing but the link, and
not the root; and what it would refuse is not offered. -/
structure Safe (tree : FileTree) (mediaRoot path : Text) : Prop where
  below : ∀ place,
    ((deleteMediaPath tree mediaRoot path).after tree).entry place ≠ tree.entry place →
      StrictlyBelow tree mediaRoot place
  link : ∀ target, tree.lstat path = some (.link target) → ∀ place,
    ((deleteMediaPath tree mediaRoot path).after tree).entry place ≠ tree.entry place →
      tree.resolve false path = some place
  root : ∀ root, tree.resolve true mediaRoot = some root →
    ((deleteMediaPath tree mediaRoot path).after tree).entry root = tree.entry root
  agrees : (∃ reason, deleteMediaPath tree mediaRoot path = .refused reason) →
    pathCanBeDeleted tree mediaRoot path = false

variable {place : Place}

theorem StrictlyBelow.of_shrunk {next : FileTree} {upper : Place}
    (under : StrictlyBelow tree mediaRoot upper) (shrunk : Shrunk tree next upper)
    (changed : next.entry place ≠ tree.entry place) : StrictlyBelow tree mediaRoot place := by
  obtain ⟨root, resolved, isPrefix, different⟩ := under
  have inside : upper <+: place := by
    by_contra outside
    exact changed (shrunk.outside place outside)
  refine ⟨root, resolved, isPrefix.trans inside, fun same => different ?_⟩
  rw [← same] at inside
  exact isPrefix.eq_of_length (le_antisymm isPrefix.length_le inside.length_le)

theorem strictlyBelow_of_changed
    (changed : ((deleteMediaPath tree mediaRoot path).after tree).entry place ≠ tree.entry place) :
    StrictlyBelow tree mediaRoot place := by
  cases outcome tree mediaRoot path with
  | refused deletion _ =>
    rw [deletion] at changed
    exact absurd rfl changed
  | overlong deletion _ _ =>
    rw [deletion] at changed
    exact absurd rfl changed
  | removed deletion _ under shrunk _ _ =>
    rw [deletion] at changed
    exact under.of_shrunk shrunk changed

/-- Of a link only the link is removed, because nothing is below it. -/
theorem resolve_of_changed {target : Text} (isLink : tree.lstat path = some (.link target))
    (changed : ((deleteMediaPath tree mediaRoot path).after tree).entry place ≠ tree.entry place) :
    tree.resolve false path = some place := by
  cases outcome tree mediaRoot path with
  | refused deletion _ =>
    rw [deletion] at changed
    exact absurd rfl changed
  | overlong deletion _ _ =>
    rw [deletion] at changed
    exact absurd rfl changed
  | @removed upper _ next _ deletion _ _ shrunk _ named =>
    rw [deletion] at changed
    have isUpper := named target isLink
    obtain ⟨rest, rfl⟩ : upper <+: place := by
      by_contra outside
      exact changed (shrunk.outside place outside)
    by_cases here : rest = []
    · rwa [here, append_nil]
    · have empty : tree.entry (upper ++ rest) = none := by
        by_contra stands
        have directory := directory_of_append (isSome_iff_ne_none.mpr stands) here
        unfold lstat at isLink
        rw [isUpper, bind_some, directory] at isLink
        cases isLink
      cases shrunk.fewer (upper ++ rest) with
      | inl gone => exact absurd (gone.trans empty.symm) changed
      | inr same => exact absurd same changed

theorem root_unchanged {root : Place} (resolved : tree.resolve true mediaRoot = some root) :
    ((deleteMediaPath tree mediaRoot path).after tree).entry root = tree.entry root := by
  by_contra changed
  obtain ⟨other, isRoot, -, different⟩ := strictlyBelow_of_changed changed
  rw [resolved] at isRoot
  exact different (some.inj isRoot).symm

theorem OverlongLink.refused (overlong : OverlongLink tree mediaRoot path) :
    (∃ reason, deleteMediaPath tree mediaRoot path = .refused reason) ∧
      pathCanBeDeleted tree mediaRoot path = true := by
  obtain ⟨root, directory, name, target, link, inside, fits, long⟩ := overlong
  refine ⟨⟨.pathTooLong, ?_⟩, link.offered.mpr ⟨fits, inside⟩⟩
  rw [link.deletion, if_pos ⟨fits, inside⟩]
  exact if_pos long

theorem safe_iff (tree : FileTree) (mediaRoot path : Text) :
    Safe tree mediaRoot path ↔ ¬ OverlongLink tree mediaRoot path := by
  constructor
  · intro safe overlong
    obtain ⟨refused, offered⟩ := overlong.refused
    have hidden := safe.agrees refused
    rw [offered] at hidden
    cases hidden
  · intro fits
    refine ⟨fun place => strictlyBelow_of_changed, fun target isLink place =>
      resolve_of_changed isLink, fun root => root_unchanged, ?_⟩
    rintro ⟨reason, isRefused⟩
    cases outcome tree mediaRoot path with
    | refused _ hidden => exact hidden
    | overlong _ _ overlong => exact absurd overlong fits
    | removed deletion _ _ _ _ _ =>
      rw [deletion] at isRefused
      cases isRefused

/-! ### A link that is offered and not removed -/

/-- A chain of directories in the media root, whose path is almost as long as a path can be. -/
def deepDirectory : Place := bytes "mnt" :: List.replicate 16 (List.replicate 254 97)

/-- A link at the end of the chain. -/
def deepLink : Place := deepDirectory ++ [List.replicate 11 98]

/-- A link to the end of the chain, from the media root. -/
def shortcut : Place := [bytes "mnt", bytes "s"]

def deepEntry (place : Place) : Option Kind :=
  if place = shortcut then some (.link (render deepDirectory))
  else if place = deepLink then some (.link (bytes "x"))
  else if place <+: deepDirectory then some .directory
  else none

theorem deepEntry_cases (stands : (deepEntry place).isSome = true) :
    place = shortcut ∨ place = deepLink ∨ place <+: deepDirectory := by
  unfold deepEntry at stands
  split at stands
  · next isShortcut => exact .inl isShortcut
  split at stands
  · next isLink => exact .inr (.inl isLink)
  split at stands
  · next above => exact .inr (.inr above)
  · cases stands

theorem deepEntry_of_prefix (above : place <+: deepDirectory) :
    deepEntry place = some .directory := by
  have notShortcut : place ≠ shortcut := by
    rintro rfl
    exact absurd above (by decide)
  have notLink : place ≠ deepLink := by
    rintro rfl
    have long := above.length_le
    rw [deepLink, length_append, length_singleton] at long
    omega
  unfold deepEntry
  rw [if_neg notShortcut, if_neg notLink, if_pos above]

def deepNames : List Text :=
  [bytes "mnt", bytes "s", List.replicate 254 97, List.replicate 11 98]

theorem isName_deepNames : ∀ name ∈ deepNames, IsName name := by
  intro name member
  simp only [deepNames, mem_cons, not_mem_nil, or_false] at member
  obtain rfl | rfl | rfl | rfl := member
  all_goals exact ⟨by decide +kernel, by decide, by decide, by decide, by decide, by decide +kernel⟩

theorem deepEntry_append {name : Text} (stands : (deepEntry (place ++ [name])).isSome = true) :
    place <+: deepDirectory ∧ name ∈ deepNames := by
  obtain isShortcut | isLink | above := deepEntry_cases stands
  · obtain ⟨rfl, same⟩ := append_inj' (show place ++ [name] = [bytes "mnt"] ++ [bytes "s"]
      from isShortcut) rfl
    obtain rfl := (cons.inj same).1
    exact ⟨⟨_, rfl⟩, by decide +kernel⟩
  · obtain ⟨rfl, same⟩ := append_inj' isLink rfl
    obtain rfl := (cons.inj same).1
    exact ⟨prefix_rfl, by decide +kernel⟩
  · have member : name ∈ deepDirectory := above.subset (mem_append_right _ (by simp))
    refine ⟨(prefix_append _ _).trans above, ?_⟩
    cases mem_cons.mp member with
    | inl first =>
      rw [first]
      decide
    | inr later =>
      rw [eq_of_mem_replicate later]
      decide +kernel

def deepTree : FileTree where
  entry := deepEntry
  names place := deepNames.filter fun name => (deepEntry (place ++ [name])).isSome
  depth := 18
  working := []
  root := deepEntry_of_prefix (List.nil_prefix)
  listed place name := by
    rw [List.mem_filter]
    exact ⟨fun both => both.2, fun stands => ⟨(deepEntry_append stands).2, stands⟩⟩
  distinct place := List.Nodup.filter _ (by decide)
  parent stands := deepEntry_of_prefix (deepEntry_append stands).1
  proper stands := isName_deepNames _ (deepEntry_append stands).2
  shallow stands := by
    obtain rfl | rfl | above := deepEntry_cases stands
    · decide
    · decide
    · exact above.length_le.trans (by decide)

/-- The link at the end of the chain, on the way over the shortcut. -/
def shortPath : Text := bytes "/mnt/s/" ++ List.replicate 11 98

theorem length_deepDirectory : (render deepDirectory).length = 4084 := by
  have first : (bytes "mnt").length = 3 := by decide
  unfold render deepDirectory
  rw [if_neg (cons_ne_nil _ _), flatMap_cons, length_append, length_cons, first,
    length_flatMap, map_replicate, sum_replicate_nat, length_cons,
    length_replicate]

theorem entry_deepTree (place : Place) : deepTree.entry place = deepEntry place := rfl

theorem entry_deepDirectory : deepTree.entry deepDirectory = some .directory := by
  rw [entry_deepTree]
  exact deepEntry_of_prefix prefix_rfl

theorem entry_deepLink : deepTree.entry deepLink = some (.link (bytes "x")) := by
  have other : deepLink ≠ shortcut := fun same => absurd (congrArg length same) (by decide)
  rw [entry_deepTree, deepEntry, if_neg other, if_pos rfl]

theorem entry_mediaRoot : deepTree.entry [bytes "mnt"] = some .directory := by
  rw [entry_deepTree]
  exact deepEntry_of_prefix (prefix_append [bytes "mnt"] _)

theorem entry_shortcut : deepTree.entry shortcut = some (.link (render deepDirectory)) := by
  rw [entry_deepTree, deepEntry, if_pos rfl]

theorem shortPath_resolved : deepTree.resolve false shortPath = some deepLink := by
  have parts : components shortPath = [[], bytes "mnt", bytes "s", replicate 11 98] := by decide
  have target : components (render deepDirectory) = [] :: deepDirectory := by
    refine components_render (fun name member => ?_) (cons_ne_nil _ _)
    have stands : (deepTree.entry deepDirectory).isSome = true := by
      rw [entry_deepDirectory]
      rfl
    exact (isName_of_mem stands member).plain
  have stands : (deepTree.entry ([] ++ deepLink)).isSome = true := by
    rw [nil_append, entry_deepLink]
    rfl
  have final : Walks deepTree false 39 [] deepLink 39 deepLink := walks_names 39 stands (.inl rfl)
  have top : start (render deepDirectory) [bytes "mnt"] = [] := by
    unfold start
    rw [head?_render, if_pos rfl]
  have inside : Walks deepTree false 40 [bytes "mnt"] [bytes "s", replicate 11 98] 39 deepLink := by
    refine .jump entry_mediaRoot (by decide) (by decide +kernel) entry_shortcut (by decide) ?_
    rw [top, target]
    exact .skip deepTree.root (.inl rfl) final
  refine resolve_eq_some.mpr ⟨by decide, by decide, 39, ?_⟩
  rw [parts]
  exact .skip deepTree.root (.inl rfl)
    (.down deepTree.root (by decide) (by decide) entry_mediaRoot rfl inside)

theorem shortPath_overlong : OverlongLink deepTree (bytes "/mnt") shortPath := by
  have root : render [bytes "mnt"] = bytes "/mnt" := by decide
  have stands : (deepTree.entry [bytes "mnt"]).isSome = true := by
    rw [entry_mediaRoot]
    rfl
  have atRoot : deepTree.resolve true (bytes "/mnt") = some [bytes "mnt"] := by
    rw [← root]
    exact resolve_render stands (.inr ⟨_, entry_mediaRoot, rfl⟩) (by decide)
  have inside : Inside [bytes "mnt"] deepDirectory :=
    .inr ⟨cons_ne_nil _ _, prefix_append _ _, by decide⟩
  have long := length_deepDirectory
  refine ⟨[bytes "mnt"], deepDirectory, replicate 11 98, bytes "x",
    ⟨by decide, atRoot, by decide, shortPath_resolved, entry_deepLink⟩, inside,
    ?_, ?_⟩
  · rw [long]
    decide
  · rw [length_append, long, length_cons, length_replicate]
    decide

theorem shortPath_unsafe : ¬ ∀ tree mediaRoot path, Safe tree mediaRoot path := by
  intro safe
  obtain ⟨refused, offered⟩ := shortPath_overlong.refused
  have hidden := (safe deepTree (bytes "/mnt") shortPath).agrees refused
  rw [offered] at hidden
  cases hidden

end MediaDeletion
