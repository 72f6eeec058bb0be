/-
This file is a library on the files of a POSIX system: the tree that directories, files and
symbolic links make up, how a path is resolved in it, and the calls that look at a file, give its
canonical path, take a file away or walk over a part of the tree.

The tree has one file system, and whoever calls may do everything in it. A place in the tree is the
list of the names from the root directory down; a path is a text that leads to one.
-/

import CameraGimbal.CText

namespace Posix

open List Option

open CText (Text)

/-! ### The tree -/

def slash : UInt8 := 47

/-- `PATH_MAX`, the end of the text included. -/
def pathMax : Nat := 4096

/-- `NAME_MAX`. -/
def nameMax : Nat := 255

/-- The symbolic links that are followed on one path. -/
def symlinkMax : Nat := 40

def dot : Text := [46]

def dotDot : Text := [46, 46]

/-- A name that an entry of a directory can have. -/
structure IsName (name : Text) : Prop where
  nonempty : name ≠ []
  plain : slash ∉ name
  noNul : 0 ∉ name
  notDot : name ≠ dot
  notDotDot : name ≠ dotDot
  short : name.length ≤ nameMax

inductive Kind where
  | file
  | link (target : Text)
  | directory
  deriving DecidableEq

def Kind.isLink : Kind → Bool
  | .link _ => true
  | _ => false

/-- The names from the root directory down. -/
abbrev Place := List Text

/-- A tree: what stands at a place, and what a directory lists. Every entry is listed once in its
directory, and no path down the tree is longer than the depth. Paths that do not start at the root
directory start at the working directory. -/
structure FileTree where
  entry : Place → Option Kind
  names : Place → List Text
  depth : Nat
  working : Place
  root : entry [] = some .directory
  listed : ∀ place name, name ∈ names place ↔ (entry (place ++ [name])).isSome = true
  distinct : ∀ place, (names place).Nodup
  parent : ∀ {place name}, (entry (place ++ [name])).isSome = true → entry place = some .directory
  proper : ∀ {place name}, (entry (place ++ [name])).isSome = true → IsName name
  shallow : ∀ {place}, (entry place).isSome = true → place.length ≤ depth

namespace FileTree

variable {tree : FileTree}

variable {place rest : Place}

/-- Above an entry there are directories. -/
theorem directory_of_append (stands : (tree.entry (place ++ rest)).isSome = true)
    (below : rest ≠ []) : tree.entry place = some .directory := by
  induction rest using reverseRecOn with
  | nil => exact absurd rfl below
  | append_singleton earlier name hypothesis =>
    rw [← append_assoc] at stands
    have above := tree.parent stands
    by_cases first : earlier = []
    · rwa [first, append_nil] at above
    · exact hypothesis (by rw [above]; rfl) first

theorem isSome_of_append (stands : (tree.entry (place ++ rest)).isSome = true) :
    (tree.entry place).isSome = true := by
  by_cases here : rest = []
  · rwa [here, append_nil] at stands
  · rw [directory_of_append stands here]
    rfl

variable {name : Text}

theorem isName_of_append {later : Place}
    (stands : (tree.entry (place ++ name :: later)).isSome = true) : IsName name := by
  rw [← singleton_append, ← append_assoc] at stands
  exact tree.proper (isSome_of_append stands)

theorem isName_of_mem (stands : (tree.entry place).isSome = true) (member : name ∈ place) :
    IsName name := by
  obtain ⟨before, after, rfl⟩ := append_of_mem member
  exact isName_of_append stands

/-- Only a directory lists names. -/
theorem names_eq_nil (other : tree.entry place ≠ some .directory) : tree.names place = [] := by
  refine eq_nil_iff_forall_not_mem.mpr fun name member => other ?_
  exact tree.parent ((tree.listed place name).mp member)

/-! ### Paths -/

/-- The parts of a path between slashes. -/
def components (path : Text) : List Text := path.splitOn slash

/-- Where a path starts, when it stands in a directory. -/
def start (path : Text) (place : Place) : Place := if path.head? = some slash then [] else place

/-- The resolution of the components of a path, up to the next symbolic link that is followed. The
last component is followed when it is asked for or when there is a slash behind it. -/
def stroll (tree : FileTree) (follow : Bool) (links : Nat)
    (enter : Place → List Text → Option (Nat × Place)) : Place → List Text → Option (Nat × Place)
  | place, [] => some (links, place)
  | place, name :: rest =>
    if tree.entry place ≠ some .directory then none
    else if name = [] ∨ name = dot then tree.stroll follow links enter place rest
    else if name = dotDot then tree.stroll follow links enter place.dropLast rest
    else
      match tree.entry (place ++ [name]) with
      | none => none
      | some (.link target) =>
        if rest = [] ∧ follow = false then some (links, place ++ [name])
        else enter (start target place) (components target ++ rest)
      | some _ => tree.stroll follow links enter (place ++ [name]) rest

/-- The resolution of the components of a path with so many links: how many are left, and the
place. -/
def walk (tree : FileTree) (follow : Bool) : Nat → Place → List Text → Option (Nat × Place)
  | 0 => tree.stroll follow 0 fun _ _ => none
  | links + 1 => tree.stroll follow (links + 1) (tree.walk follow links)

/-- The place that a path leads to. -/
def resolve (tree : FileTree) (follow : Bool) (path : Text) : Option Place :=
  if path = [] ∨ pathMax ≤ path.length then none
  else (tree.walk follow symlinkMax (start path tree.working) (components path)).map Prod.snd

/-- The path to a place without links. -/
def render (place : Place) : Text :=
  if place = [] then [slash] else place.flatMap fun name => slash :: name

/-! ### Calls -/

/-- The kind that `lstat` gives. -/
def lstat (tree : FileTree) (path : Text) : Option Kind := (tree.resolve false path).bind tree.entry

/-- `realpath`, into a buffer of `PATH_MAX` bytes. -/
def realpath (tree : FileTree) (path : Text) : Option Text :=
  (tree.resolve true path).bind fun place =>
    if (render place).length < pathMax then some (render place) else none

/-- The tree without an entry that has no others below it. -/
def erase (tree : FileTree) (place : Place) : Option FileTree :=
  if removable : place ≠ [] ∧ tree.names place = [] then
    some
      { tree with
        entry := fun other => if other = place then none else tree.entry other
        names := fun other => (tree.names other).filter fun name => other ++ [name] ≠ place
        root := by
          rw [if_neg (Ne.symm removable.1)]
          exact tree.root
        listed := fun other name => by
          rw [List.mem_filter, tree.listed, decide_eq_true_iff]
          split
          · next same => simp [same]
          · next different => simp [different]
        distinct := fun other => (tree.distinct other).filter _
        parent := fun {other name} stands => by
          split at stands
          · cases stands
          · have listed := (tree.listed other name).mpr stands
            have different : other ≠ place := by
              rintro rfl
              rw [removable.2] at listed
              cases listed
            rw [if_neg different]
            exact tree.parent stands
        proper := fun {other name} stands => by
          split at stands
          · cases stands
          · exact tree.proper stands
        shallow := fun {other} stands => by
          split at stands
          · cases stands
          · exact tree.shallow stands }
  else none

/-- `unlink`, which takes away what is not a directory. -/
def unlink (tree : FileTree) (path : Text) : Option FileTree :=
  (tree.resolve false path).bind fun place =>
    if tree.entry place = some .directory then none else tree.erase place

/-- `remove`, which takes away an empty directory too. -/
def remove (tree : FileTree) (path : Text) : Option FileTree :=
  (tree.resolve false path).bind tree.erase

/-- The paths that `nftw` visits with `FTW_DEPTH` and `FTW_PHYS`, for a tree of so many levels: what
a directory lists comes before the directory, and no link is followed. -/
def visits (tree : FileTree) : Nat → Text → Place → List Text
  | 0, path, _ => [path]
  | levels + 1, path, place =>
    ((tree.names place).flatMap fun name =>
      tree.visits levels (path ++ slash :: name) (place ++ [name])) ++ [path]

/-- A function that may change the tree is called for one path after another, up to the first one
that it fails for. -/
def forEach (call : FileTree → Text → Option FileTree) (tree : FileTree) :
    List Text → FileTree × Bool
  | [] => (tree, true)
  | path :: rest =>
    match call tree path with
    | none => (tree, false)
    | some next => forEach call next rest

/-- `nftw` with `FTW_DEPTH` and `FTW_PHYS`, and whether it gives zero. -/
def nftw (tree : FileTree) (path : Text) (call : FileTree → Text → Option FileTree) :
    FileTree × Bool :=
  match tree.resolve false path with
  | none => (tree, false)
  | some place => forEach call tree (tree.visits tree.depth path place)

/-! ### Resolution -/

/-- The components of a path lead from one place to another, with so many links left. -/
inductive Walks (tree : FileTree) (follow : Bool) :
    Nat → Place → List Text → Nat → Place → Prop where
  | done {links : Nat} {place : Place} : Walks tree follow links place [] links place
  | skip {links left : Nat} {place last : Place} {name : Text} {rest : List Text} :
      tree.entry place = some .directory → name = [] ∨ name = dot →
      Walks tree follow links place rest left last →
      Walks tree follow links place (name :: rest) left last
  | up {links left : Nat} {place last : Place} {rest : List Text} :
      tree.entry place = some .directory →
      Walks tree follow links place.dropLast rest left last →
      Walks tree follow links place (dotDot :: rest) left last
  | down {links left : Nat} {place last : Place} {name : Text} {rest : List Text} {kind : Kind} :
      tree.entry place = some .directory → ¬ (name = [] ∨ name = dot) → name ≠ dotDot →
      tree.entry (place ++ [name]) = some kind → kind.isLink = false →
      Walks tree follow links (place ++ [name]) rest left last →
      Walks tree follow links place (name :: rest) left last
  | stop {links : Nat} {place : Place} {name target : Text} :
      tree.entry place = some .directory → ¬ (name = [] ∨ name = dot) → name ≠ dotDot →
      tree.entry (place ++ [name]) = some (.link target) → follow = false →
      Walks tree follow links place [name] links (place ++ [name])
  | jump {links left : Nat} {place last : Place} {name target : Text} {rest : List Text} :
      tree.entry place = some .directory → ¬ (name = [] ∨ name = dot) → name ≠ dotDot →
      tree.entry (place ++ [name]) = some (.link target) → ¬ (rest = [] ∧ follow = false) →
      Walks tree follow links (start target place) (components target ++ rest) left last →
      Walks tree follow (links + 1) place (name :: rest) left last

theorem walk_nil (follow : Bool) (links : Nat) (place : Place) :
    tree.walk follow links place [] = some (links, place) := by
  cases links with
  | zero => rfl
  | succ fewer => rfl

theorem walk_cons (follow : Bool) (links : Nat) (place : Place) (name : Text) (rest : List Text) :
    tree.walk follow links place (name :: rest) =
      if tree.entry place ≠ some .directory then none
      else if name = [] ∨ name = dot then tree.walk follow links place rest
      else if name = dotDot then tree.walk follow links place.dropLast rest
      else
        match tree.entry (place ++ [name]) with
        | none => none
        | some (.link target) =>
          if rest = [] ∧ follow = false then some (links, place ++ [name])
          else
            match links with
            | 0 => none
            | fewer + 1 =>
              tree.walk follow fewer (start target place) (components target ++ rest)
        | some _ => tree.walk follow links (place ++ [name]) rest := by
  cases links with
  | zero => rfl
  | succ fewer => rfl

variable {follow : Bool} {links left : Nat} {last : Place} {names : List Text}

theorem walks_of_walk (walked : tree.walk follow links place names = some (left, last)) :
    Walks tree follow links place names left last := by
  induction links using Nat.strongRecOn generalizing place names with
  | ind links fewerLinks =>
    induction names generalizing place with
    | nil =>
      rw [walk_nil] at walked
      cases walked
      exact .done
    | cons name rest hypothesis =>
      rw [walk_cons] at walked
      split at walked
      · cases walked
      next isDirectory =>
      have stands := not_not.mp isDirectory
      split at walked
      · next blank => exact .skip stands blank (hypothesis walked)
      next visible =>
      split at walked
      · next isUp =>
        rw [isUp]
        exact .up stands (hypothesis walked)
      next notUp =>
      split at walked
      · cases walked
      · next target isLink =>
        split at walked
        · next ends =>
          cases walked
          obtain ⟨rfl, plain⟩ := ends
          exact .stop stands visible notUp isLink plain
        · next goesOn =>
          cases links with
          | zero => cases walked
          | succ fewer =>
            exact .jump stands visible notUp isLink goesOn
              (fewerLinks fewer (Nat.lt_succ_self _) walked)
      · next kind other isKind =>
        have noLink : kind.isLink = false := by
          cases kind with
          | link target => exact absurd rfl (other target)
          | file => rfl
          | directory => rfl
        exact .down stands visible notUp isKind noLink (hypothesis walked)

theorem Walks.walk (walks : Walks tree follow links place names left last) :
    tree.walk follow links place names = some (left, last) := by
  induction walks with
  | done => exact walk_nil _ _ _
  | skip stands blank _ hypothesis =>
    rw [walk_cons, if_neg (not_not.mpr stands), if_pos blank, hypothesis]
  | up stands _ hypothesis =>
    rw [walk_cons, if_neg (not_not.mpr stands), if_neg (by decide), if_pos rfl, hypothesis]
  | @down links left place last name rest kind stands visible notUp isKind noLink _ hypothesis =>
    rw [walk_cons, if_neg (not_not.mpr stands), if_neg visible, if_neg notUp, isKind]
    cases kind with
    | link target => cases noLink
    | file => exact hypothesis
    | directory => exact hypothesis
  | stop stands visible notUp isLink plain =>
    rw [walk_cons, if_neg (not_not.mpr stands), if_neg visible, if_neg notUp, isLink]
    exact if_pos ⟨rfl, plain⟩
  | jump stands visible notUp isLink goesOn _ hypothesis =>
    rw [walk_cons, if_neg (not_not.mpr stands), if_neg visible, if_neg notUp, isLink]
    dsimp only
    rw [if_neg goesOn, hypothesis]

/-- A directory, or a file that is not a link. -/
def Solid (tree : FileTree) (place : Place) : Prop :=
  ∃ kind, tree.entry place = some kind ∧ kind.isLink = false

section

variable (stands : tree.entry place = some .directory)

include stands

theorem solid_of_directory :
    tree.Solid place := ⟨.directory, stands, rfl⟩

theorem directory_dropLast :
    tree.entry place.dropLast = some .directory := by
  induction place using reverseRecOn with
  | nil => exact stands
  | append_singleton earlier name _ =>
    rw [dropLast_concat]
    exact tree.parent (by rw [stands]; rfl)

theorem directory_start (path : Text) :
    tree.entry (start path place) = some .directory := by
  unfold start
  split
  · exact tree.root
  · exact stands

end

theorem Walks.isSome (walks : Walks tree follow links place names left last)
    (stands : (tree.entry place).isSome = true) : (tree.entry last).isSome = true := by
  induction walks with
  | done => exact stands
  | skip _ _ _ hypothesis => exact hypothesis stands
  | up here _ hypothesis =>
    exact hypothesis (by rw [directory_dropLast here]; rfl)
  | down _ _ _ isKind _ _ hypothesis => exact hypothesis (by rw [isKind]; rfl)
  | stop _ _ _ isLink _ =>
    rw [isLink]
    rfl
  | jump here _ _ _ _ _ hypothesis =>
    exact hypothesis (by rw [directory_start here]; rfl)

/-- A path that is followed to its end does not end at a link. -/
theorem Walks.solid (walks : Walks tree true links place names left last)
    (solid : tree.Solid place) : tree.Solid last := by
  induction walks with
  | done => exact solid
  | skip _ _ _ hypothesis => exact hypothesis solid
  | up here _ hypothesis =>
    exact hypothesis (solid_of_directory (directory_dropLast here))
  | down _ _ _ isKind noLink _ hypothesis => exact hypothesis ⟨_, isKind, noLink⟩
  | stop _ _ _ _ plain => cases plain
  | jump here _ _ _ _ _ hypothesis =>
    exact hypothesis (solid_of_directory (directory_start here _))

/-- The links before the last components of a path are followed. -/
theorem Walks.split {earlier later : List Text}
    (walks : Walks tree follow links place (earlier ++ later) left last) (more : later ≠ []) :
    ∃ between middle, Walks tree true links place earlier between middle ∧
      Walks tree follow between middle later left last := by
  generalize whole : earlier ++ later = names at walks
  induction walks generalizing earlier with
  | done => exact absurd (append_eq_nil_iff.mp whole).2 more
  | @skip links left place last name rest stands blank walks hypothesis =>
    cases earlier with
    | nil =>
      obtain rfl : later = _ := whole
      exact ⟨_, _, .done, .skip stands blank walks⟩
    | cons first others =>
      obtain ⟨rfl, isRest⟩ := cons.inj whole
      obtain ⟨between, middle, before, behind⟩ := hypothesis isRest
      exact ⟨between, middle, .skip stands blank before, behind⟩
  | @up links left place last rest stands walks hypothesis =>
    cases earlier with
    | nil =>
      obtain rfl : later = _ := whole
      exact ⟨_, _, .done, .up stands walks⟩
    | cons first others =>
      obtain ⟨rfl, isRest⟩ := cons.inj whole
      obtain ⟨between, middle, before, behind⟩ := hypothesis isRest
      exact ⟨between, middle, .up stands before, behind⟩
  | @down links left place last name rest kind stands visible notUp isKind noLink walks
      hypothesis =>
    cases earlier with
    | nil =>
      obtain rfl : later = _ := whole
      exact ⟨_, _, .done, .down stands visible notUp isKind noLink walks⟩
    | cons first others =>
      obtain ⟨rfl, isRest⟩ := cons.inj whole
      obtain ⟨between, middle, before, behind⟩ := hypothesis isRest
      exact ⟨between, middle, .down stands visible notUp isKind noLink before, behind⟩
  | @stop links place name target stands visible notUp isLink plain =>
    cases earlier with
    | nil =>
      obtain rfl : later = _ := whole
      exact ⟨_, _, .done, .stop stands visible notUp isLink plain⟩
    | cons first others =>
      have none := (append_eq_nil_iff.mp (cons.inj whole).2).2
      exact absurd none more
  | @jump links left place last name target rest stands visible notUp isLink goesOn walks
      hypothesis =>
    cases earlier with
    | nil =>
      obtain rfl : later = _ := whole
      exact ⟨_, _, .done, .jump stands visible notUp isLink goesOn walks⟩
    | cons first others =>
      obtain ⟨rfl, rfl⟩ := cons.inj whole
      obtain ⟨between, middle, before, behind⟩ :=
        hypothesis (append_assoc (components target) others later)
      exact ⟨between, middle,
        .jump stands visible notUp isLink (fun both => by cases both.2) before, behind⟩

/-- Names lead down to what stands there, when that need not be followed. -/
theorem walks_names {follow : Bool} (links : Nat) {place : Place} {names : List Text}
    (stands : (tree.entry (place ++ names)).isSome = true)
    (ends : follow = false ∨ tree.Solid (place ++ names)) :
    Walks tree follow links place names links (place ++ names) := by
  induction names generalizing place with
  | nil =>
    rw [append_nil]
    exact .done
  | cons name rest hypothesis =>
    have here := directory_of_append stands (cons_ne_nil name rest)
    have isName := isName_of_append stands
    have visible : ¬ (name = [] ∨ name = dot) := by
      rintro (empty | isDot)
      · exact isName.nonempty empty
      · exact isName.notDot isDot
    have split : place ++ name :: rest = place ++ [name] ++ rest := by
      rw [append_assoc, singleton_append]
    rw [split] at stands ends ⊢
    have walks := hypothesis stands ends
    by_cases final : rest = []
    · subst final
      rw [append_nil] at stands ends ⊢
      obtain ⟨kind, isKind⟩ := isSome_iff_exists.mp stands
      cases ends with
      | inl plain =>
        cases kind with
        | link target => exact .stop here visible isName.notDotDot isKind plain
        | file => exact .down here visible isName.notDotDot isKind rfl .done
        | directory => exact .down here visible isName.notDotDot isKind rfl .done
      | inr solid =>
        obtain ⟨kind, isKind, noLink⟩ := solid
        exact .down here visible isName.notDotDot isKind noLink .done
    · have below := directory_of_append stands final
      exact .down here visible isName.notDotDot below rfl walks

/-- Names below which there are no links lead nowhere else. -/
theorem Walks.eq_append (walks : Walks tree false links place names left last)
    (proper : ∀ name ∈ names, IsName name)
    (linkless : ∀ before after, names = before ++ after → after ≠ [] → before ≠ [] →
      ∀ target, tree.entry (place ++ before) ≠ some (.link target)) : last = place ++ names := by
  induction walks with
  | done => exact (append_nil _).symm
  | @skip links left place last name rest stands blank _ _ =>
    have isName := proper name mem_cons_self
    cases blank with
    | inl empty => exact absurd empty isName.nonempty
    | inr isDot => exact absurd isDot isName.notDot
  | up _ _ _ => exact absurd rfl (proper dotDot mem_cons_self).notDotDot
  | @down links left place last name rest kind stands visible notUp isKind noLink _ hypothesis =>
    have below := hypothesis
      (fun other member => proper other (mem_cons_of_mem _ member))
      fun before after isRest more _ target isLink => by
        refine linkless (name :: before) after (by rw [isRest]; rfl) more (cons_ne_nil _ _)
          target ?_
        rwa [append_assoc] at isLink
    rw [below, append_assoc, singleton_append]
  | stop _ _ _ _ _ => rfl
  | @jump links left place last name target rest stands visible notUp isLink goesOn _ _ =>
    have more : rest ≠ [] := fun final => goesOn ⟨final, rfl⟩
    exact absurd isLink (linkless [name] rest rfl more (cons_ne_nil _ _) target)

variable {path : Text}

theorem resolve_eq_some :
    tree.resolve follow path = some place ↔ path ≠ [] ∧ path.length < pathMax ∧
      ∃ left, Walks tree follow symlinkMax (start path tree.working) (components path) left
        place := by
  unfold resolve
  constructor
  · intro resolved
    split at resolved
    · cases resolved
    next fits =>
    obtain ⟨nonempty, short⟩ := not_or.mp fits
    obtain ⟨⟨left, _⟩, walked, rfl⟩ := map_eq_some_iff.mp resolved
    exact ⟨nonempty, not_le.mp short, left, walks_of_walk walked⟩
  · rintro ⟨nonempty, short, left, walks⟩
    rw [if_neg (not_or.mpr ⟨nonempty, not_le.mpr short⟩), walks.walk]
    rfl

/-! ### Canonical paths -/

theorem render_cons (name : Text) (rest : Place) :
    render (name :: rest) = slash :: (name ++ rest.flatMap fun other => slash :: other) := by
  unfold render
  rw [if_neg (cons_ne_nil _ _), flatMap_cons, cons_append]

theorem splitOn_flatMap (plain : ∀ other ∈ name :: rest, slash ∉ other) :
    (name ++ rest.flatMap fun other => slash :: other).splitOn slash = name :: rest := by
  induction rest generalizing name with
  | nil =>
    rw [flatMap_nil, append_nil]
    exact splitOn_eq_singleton (plain name mem_cons_self)
  | cons other later hypothesis =>
    obtain ⟨first, others⟩ := forall_mem_cons.mp plain
    rw [flatMap_cons, cons_append, splitOn_append_cons_self_of_not_mem first, hypothesis others]

/-- The components of a canonical path. -/
theorem components_render (plain : ∀ name ∈ place, slash ∉ name) (below : place ≠ []) :
    components (render place) = [] :: place := by
  obtain ⟨name, rest, rfl⟩ := exists_cons_of_ne_nil below
  unfold components
  rw [render_cons, ← nil_append (slash :: _),
    splitOn_append_cons_self_of_not_mem (not_mem_nil), splitOn_flatMap plain]

theorem head?_render (place : Place) : (render place).head? = some slash := by
  cases place with
  | nil => rfl
  | cons name rest =>
    rw [render_cons]
    rfl

variable {upper : Place}

theorem render_append (below : upper ≠ []) (rest : Place) :
    render (upper ++ rest) = render upper ++ rest.flatMap fun name => slash :: name := by
  unfold render
  rw [if_neg below, if_neg (append_ne_nil_of_left_ne_nil below rest), flatMap_append]

theorem render_child (below : place ≠ []) (name : Text) :
    render place ++ slash :: name = render (place ++ [name]) := by
  rw [render_append below, flatMap_singleton]

theorem render_ne_nil (place : Place) : render place ≠ [] := by
  intro empty
  have head := head?_render place
  rw [empty] at head
  cases head

/-- What comes behind a canonical path and a slash are the names below it, and there are none
behind the path of the root directory. -/
theorem below_of_render {lower : Place} (plainUpper : ∀ name ∈ upper, IsName name)
    (plainLower : ∀ name ∈ lower, IsName name) {behind : Text}
    (same : render lower = render upper ++ slash :: behind) :
    upper ≠ [] ∧ upper <+: lower ∧ upper ≠ lower := by
  have parts : components (render lower) = components (render upper) ++ components behind := by
    unfold components
    rw [same, splitOn_append_cons_self]
  have some : components behind ≠ [] := splitOn_ne_nil _ _
  have below : lower ≠ [] := by
    rintro rfl
    have sizes := congrArg length same
    have long := length_pos_iff.mpr (render_ne_nil upper)
    rw [length_append, length_cons] at sizes
    have one : (render []).length = 1 := rfl
    omega
  rw [components_render (fun name member => (plainLower name member).plain) below] at parts
  by_cases top : upper = []
  · subst top
    have root : components (render []) = [[], []] := by decide
    rw [root] at parts
    have first : lower = [] :: components behind := (cons.inj parts).2
    exact absurd rfl (plainLower [] (first ▸ mem_cons_self)).nonempty
  · rw [components_render (fun name member => (plainUpper name member).plain) top] at parts
    have split : lower = upper ++ components behind := (cons.inj parts).2
    refine ⟨top, ⟨_, split.symm⟩, fun equal => some ?_⟩
    rw [← equal] at split
    exact append_right_eq_self.mp split.symm

theorem render_injective {first second : Place} (plainFirst : ∀ name ∈ first, IsName name)
    (plainSecond : ∀ name ∈ second, IsName name) (same : render first = render second) :
    first = second := by
  have parts := congrArg components same
  have plain {place : Place} (proper : ∀ name ∈ place, IsName name) :
      ∀ name ∈ place, slash ∉ name := fun name member => (proper name member).plain
  have root : components (render []) = [[], []] := by decide
  by_cases topFirst : first = []
  · by_cases topSecond : second = []
    · rw [topFirst, topSecond]
    · rw [topFirst, root, components_render (plain plainSecond) topSecond] at parts
      have isNil := (cons.inj parts).2
      exact absurd rfl (plainSecond [] (isNil ▸ mem_singleton_self _)).nonempty
  · rw [components_render (plain plainFirst) topFirst] at parts
    by_cases topSecond : second = []
    · rw [topSecond, root] at parts
      have isNil := (cons.inj parts).2
      exact absurd rfl (plainFirst [] (isNil ▸ mem_singleton_self _)).nonempty
    · rw [components_render (plain plainSecond) topSecond] at parts
      exact (cons.inj parts).2

/-- The path to an entry with more components in front of which there may be empty ones. -/
theorem resolve_of_components {follow : Bool} {path : Text} {place : Place} {blanks : Nat}
    (absolute : path.head? = some slash) (short : path.length < pathMax)
    (parts : components path = replicate blanks [] ++ place)
    (stands : (tree.entry place).isSome = true) (ends : follow = false ∨ tree.Solid place) :
    tree.resolve follow path = some place := by
  have nonempty : path ≠ [] := by
    rintro rfl
    cases absolute
  refine resolve_eq_some.mpr ⟨nonempty, short, symlinkMax, ?_⟩
  rw [start, if_pos absolute, parts]
  have names : Walks tree follow symlinkMax [] place symlinkMax place :=
    @walks_names tree follow symlinkMax [] place stands ends
  clear parts
  induction blanks with
  | zero => exact names
  | succ fewer hypothesis => exact .skip tree.root (.inl rfl) hypothesis

/-- A canonical path leads to its place. -/
theorem resolve_render (stands : (tree.entry place).isSome = true)
    (ends : follow = false ∨ tree.Solid place) (short : (render place).length < pathMax) :
    tree.resolve follow (render place) = some place := by
  by_cases top : place = []
  · subst top
    have parts : components (render []) = replicate 2 [] ++ [] := by decide
    exact resolve_of_components (head?_render []) short parts stands ends
  · have parts := components_render (fun name member => (isName_of_mem stands member).plain) top
    exact @resolve_of_components tree follow _ place 1 (head?_render place) short parts stands ends

/-- The canonical path of a directory leads, with a slash and a name behind it, to the entry of that
name. -/
theorem resolve_child (stands : (tree.entry (place ++ [name])).isSome = true)
    (ends : follow = false ∨ tree.Solid (place ++ [name]))
    (short : (render place ++ slash :: name).length < pathMax) :
    tree.resolve follow (render place ++ slash :: name) = some (place ++ [name]) := by
  by_cases top : place = []
  · subst top
    have plain := (tree.proper stands).plain
    have parts : components (render [] ++ slash :: name) = replicate 2 [] ++ [name] := by
      unfold components
      rw [splitOn_append_cons_self, splitOn_eq_singleton plain]
      rfl
    exact resolve_of_components rfl short parts stands ends
  · rw [render_child top] at short ⊢
    exact resolve_render stands ends short

/-- A canonical path is the path of what a path leads to, and that is not a link. -/
theorem realpath_eq_some {resolved : Text} :
    tree.realpath path = some resolved ↔ ∃ place, tree.resolve true path = some place ∧
      (render place).length < pathMax ∧ render place = resolved := by
  unfold realpath
  constructor
  · intro found
    obtain ⟨place, isPlace, found⟩ := bind_eq_some_iff.mp found
    split at found
    · next short => exact ⟨place, isPlace, short, some.inj found⟩
    · cases found
  · rintro ⟨place, isPlace, short, rfl⟩
    rw [isPlace, bind_some, if_pos short]

theorem Walks.directory (walks : Walks tree follow links place names left last)
    (some : names ≠ []) : tree.entry place = .some .directory := by
  cases walks with
  | done => exact absurd rfl some
  | skip here _ _ => exact here
  | up here _ => exact here
  | down here _ _ _ _ _ => exact here
  | stop here _ _ _ _ => exact here
  | jump here _ _ _ _ _ => exact here

theorem resolve_isSome (resolved : tree.resolve follow path = some place) :
    (tree.entry place).isSome = true := by
  obtain ⟨-, -, left, walks⟩ := resolve_eq_some.mp resolved
  refine walks.isSome ?_
  rw [walks.directory (splitOn_ne_nil _ _)]
  rfl

theorem resolve_solid (resolved : tree.resolve true path = some place) : tree.Solid place := by
  obtain ⟨-, -, left, walks⟩ := resolve_eq_some.mp resolved
  exact walks.solid (solid_of_directory (walks.directory (splitOn_ne_nil _ _)))

/-- A path that leads to a link ends in the name of the link, and what comes before is a path to
the directory of the link. -/
theorem resolve_link {before : Text} {target : Text} (plain : slash ∉ name)
    (resolved : tree.resolve false (before ++ slash :: name) = some place)
    (isLink : tree.entry place = some (.link target)) :
    ∃ directory, place = directory ++ [name] ∧ name ≠ [] ∧
      tree.entry directory = some .directory ∧
      (before ≠ [] → tree.resolve true before = some directory) ∧
      (before = [] → directory = []) := by
  obtain ⟨-, short, left, walks⟩ := resolve_eq_some.mp resolved
  have parts : components (before ++ slash :: name) = components before ++ [name] := by
    unfold components
    rw [splitOn_append_cons_self, splitOn_eq_singleton plain]
  rw [parts] at walks
  obtain ⟨between, directory, earlier, final⟩ := walks.split (cons_ne_nil name [])
  have here := final.directory (cons_ne_nil name [])
  have notDirectory : tree.entry place ≠ some .directory := by
    rw [isLink]
    exact fun same => by cases same
  obtain ⟨isPlace, nonempty⟩ : place = directory ++ [name] ∧ name ≠ [] := by
    cases final with
    | skip _ blank walks =>
      cases walks
      exact absurd here notDirectory
    | up _ walks =>
      cases walks
      exact absurd (directory_dropLast here) notDirectory
    | down _ visible _ _ _ walks =>
      cases walks
      exact ⟨rfl, (not_or.mp visible).1⟩
    | stop _ visible _ _ _ => exact ⟨rfl, (not_or.mp visible).1⟩
    | jump _ _ _ _ goesOn _ => exact absurd ⟨rfl, rfl⟩ goesOn
  refine ⟨directory, isPlace, nonempty, here, fun some => ?_, fun none => ?_⟩
  · refine resolve_eq_some.mpr ⟨some, ?_, between, ?_⟩
    · rw [length_append] at short
      omega
    · have same : start before tree.working = start (before ++ slash :: name) tree.working := by
        unfold start
        rw [head?_append_of_ne_nil _ some]
      rwa [same]
  · subst none
    have walksRoot : Walks tree true symlinkMax [] [[]] between directory := earlier
    cases walksRoot with
    | skip _ _ walks =>
      cases walks
      rfl
    | down _ visible _ _ _ _ => exact absurd (.inl rfl) visible
    | stop _ visible _ _ _ => exact absurd (.inl rfl) visible
    | jump _ visible _ _ _ _ => exact absurd (.inl rfl) visible

/-! ### Removal -/

/-- The tree lost entries, all of them at a place or below it. -/
structure Shrunk (tree next : FileTree) (upper : Place) : Prop where
  fewer : ∀ place, next.entry place = none ∨ next.entry place = tree.entry place
  outside : ∀ place, ¬ upper <+: place → next.entry place = tree.entry place

theorem Shrunk.refl (tree : FileTree) (upper : Place) : Shrunk tree tree upper :=
  ⟨fun _ => .inr rfl, fun _ _ => rfl⟩

variable {next : FileTree}

theorem Shrunk.trans {last : FileTree} (first : Shrunk tree next upper)
    (second : Shrunk next last upper) : Shrunk tree last upper where
  fewer place := by
    cases second.fewer place with
    | inl gone => exact .inl gone
    | inr same =>
      rw [same]
      exact first.fewer place
  outside place outside := (second.outside place outside).trans (first.outside place outside)

theorem Shrunk.mono {lower : Place} (shrunk : Shrunk tree next lower) (below : upper <+: lower) :
    Shrunk tree next upper :=
  ⟨shrunk.fewer, fun place outside => shrunk.outside place fun under => outside (below.trans under)⟩

theorem erase_entry (erased : tree.erase place = some next) (other : Place) :
    next.entry other = if other = place then none else tree.entry other := by
  unfold erase at erased
  split at erased
  · cases erased
    rfl
  · cases erased

theorem erase_shrunk (erased : tree.erase place = some next) : Shrunk tree next place where
  fewer other := by
    rw [erase_entry erased]
    split
    · exact .inl rfl
    · exact .inr rfl
  outside other outside := by
    rw [erase_entry erased, if_neg fun same => outside (by rw [same])]

theorem exists_erase (below : place ≠ []) (other : tree.entry place ≠ some .directory) :
    ∃ next, tree.erase place = some next := by
  unfold erase
  rw [dif_pos ⟨below, names_eq_nil other⟩]
  exact ⟨_, rfl⟩

/-- In a tree that only lost entries a canonical path leads nowhere else. -/
theorem Shrunk.resolve (shrunk : Shrunk tree next upper) (stands : (tree.entry place).isSome = true)
    (below : place ≠ []) (resolved : next.resolve false (render place) = some last) :
    last = place := by
  obtain ⟨-, -, left, walks⟩ := resolve_eq_some.mp resolved
  have proper : ∀ name ∈ place, IsName name := fun name member => isName_of_mem stands member
  rw [components_render (fun name member => (proper name member).plain) below, start,
    if_pos (head?_render place)] at walks
  cases walks with
  | skip _ _ walks =>
    refine walks.eq_append proper fun before after isPlace more _ target isLink => ?_
    rw [isPlace] at stands
    have above := directory_of_append stands more
    rw [nil_append] at isLink
    cases shrunk.fewer before with
    | inl gone =>
      rw [gone] at isLink
      cases isLink
    | inr same =>
      rw [same, above] at isLink
      cases isLink
  | down _ visible _ _ _ _ => exact absurd (.inl rfl) visible
  | stop _ visible _ _ _ => exact absurd (.inl rfl) visible
  | jump _ visible _ _ _ _ => exact absurd (.inl rfl) visible

theorem Shrunk.remove {last : FileTree} (shrunk : Shrunk tree next upper)
    (stands : (tree.entry place).isSome = true) (below : place ≠ [])
    (removed : next.remove (render place) = some last) : next.erase place = some last := by
  obtain ⟨other, resolved, erased⟩ := bind_eq_some_iff.mp removed
  obtain rfl := shrunk.resolve stands below resolved
  exact erased

theorem forEach_cons (call : FileTree → Text → Option FileTree) (tree : FileTree) (path : Text)
    (rest : List Text) :
    forEach call tree (path :: rest) =
      match call tree path with
      | none => (tree, false)
      | some next => forEach call next rest := rfl

/-- The canonical paths of entries at a place or below it. -/
def Canonical (tree : FileTree) (upper : Place) (paths : List Text) : Prop :=
  ∀ path ∈ paths, ∃ rest, (tree.entry (upper ++ rest)).isSome = true ∧
    path = render (upper ++ rest)

theorem Shrunk.remove_canonical {last : FileTree} (shrunk : Shrunk tree next upper)
    (below : upper ≠ []) {paths : List Text} (canonical : Canonical tree upper (path :: paths))
    (removed : next.remove path = some last) :
    ∃ rest, (tree.entry (upper ++ rest)).isSome = true ∧ path = render (upper ++ rest) ∧
      next.erase (upper ++ rest) = some last ∧ Shrunk next last upper := by
  obtain ⟨rest, stands, rfl⟩ := canonical path mem_cons_self
  have under : upper ++ rest ≠ [] := append_ne_nil_of_left_ne_nil below rest
  have erased := shrunk.remove stands under removed
  exact ⟨rest, stands, rfl, erased, (erase_shrunk erased).mono (prefix_append _ _)⟩

/-- Removing them changes nothing outside. -/
theorem Shrunk.forEach (shrunk : Shrunk tree next upper) (below : upper ≠ []) {paths : List Text}
    (canonical : Canonical tree upper paths) :
    Shrunk next (forEach FileTree.remove next paths).1 upper := by
  induction paths generalizing next with
  | nil => exact .refl next upper
  | cons path rest hypothesis =>
    rw [forEach_cons]
    cases removed : next.remove path with
    | none => exact .refl next upper
    | some last =>
      obtain ⟨-, -, -, -, step⟩ := shrunk.remove_canonical below canonical removed
      exact step.trans (hypothesis (shrunk.trans step) fun other member =>
        canonical other (mem_cons_of_mem _ member))

/-- When all of them could be removed, none is left. -/
theorem Shrunk.forEach_gone (shrunk : Shrunk tree next upper) (below : upper ≠ [])
    {paths : List Text} (canonical : Canonical tree upper paths)
    (all : (FileTree.forEach FileTree.remove next paths).2 = true)
    (stands : (tree.entry (upper ++ rest)).isSome = true) (listed : render
    (upper ++ rest) ∈ paths) :
    (FileTree.forEach FileTree.remove next paths).1.entry (upper ++ rest) = none := by
  induction paths generalizing next with
  | nil => cases listed
  | cons path paths hypothesis =>
    rw [forEach_cons] at all ⊢
    cases removed : next.remove path with
    | none =>
      rw [removed] at all
      cases all
    | some last =>
      rw [removed] at all
      obtain ⟨other, otherStands, rfl, erased, step⟩ :=
        shrunk.remove_canonical below canonical removed
      have later : Canonical tree upper paths := fun path member =>
        canonical path (mem_cons_of_mem _ member)
      cases mem_cons.mp listed with
      | inl same =>
        have equal : upper ++ rest = upper ++ other :=
          render_injective (fun name member => isName_of_mem stands member)
            (fun name member => isName_of_mem otherStands member) same
        have gone : last.entry (upper ++ rest) = none := by
          rw [erase_entry erased, if_pos equal]
        cases ((shrunk.trans step).forEach below later).fewer (upper ++ rest) with
        | inl none => exact none
        | inr unchanged => rw [unchanged, gone]
      | inr member => exact hypothesis (shrunk.trans step) later all member

theorem visits_canonical {levels : Nat} {place : Place} (below : place ≠ [])
    (stands : (tree.entry place).isSome = true) :
    Canonical tree place (tree.visits levels (render place) place) := by
  induction levels generalizing place with
  | zero =>
    intro path member
    refine ⟨[], ?_, ?_⟩
    · rwa [append_nil]
    · rw [append_nil]
      exact mem_singleton.mp member
  | succ levels hypothesis =>
    intro path member
    rw [visits] at member
    cases mem_append.mp member with
    | inl inside =>
      obtain ⟨name, listed, visited⟩ := mem_flatMap.mp inside
      rw [render_child below] at visited
      obtain ⟨rest, still, rfl⟩ :=
        hypothesis (by simp) ((tree.listed place name).mp listed) path visited
      refine ⟨name :: rest, ?_, ?_⟩
      · rwa [append_assoc] at still
      · rw [append_assoc, singleton_append]
    | inr last =>
      refine ⟨[], ?_, ?_⟩
      · rwa [append_nil]
      · rw [append_nil]
        exact mem_singleton.mp last

/-- Every entry below the place is visited. -/
theorem mem_visits {levels : Nat} (below : place ≠ [])
    (stands : (tree.entry (place ++ rest)).isSome = true)
    (deep : tree.depth ≤ place.length + levels) :
    render (place ++ rest) ∈ tree.visits levels (render place) place := by
  induction rest generalizing levels place with
  | nil =>
    rw [append_nil]
    cases levels with
    | zero => exact mem_singleton_self _
    | succ levels => exact mem_append_right _ (mem_singleton_self _)
  | cons name rest hypothesis =>
    rw [← singleton_append, ← append_assoc] at stands ⊢
    have child := isSome_of_append stands
    have bound := tree.shallow child
    rw [length_append, length_singleton] at bound
    obtain ⟨fewer, rfl⟩ : ∃ fewer, levels = fewer + 1 := Nat.exists_eq_add_one.mpr (by omega)
    refine mem_append_left _ (mem_flatMap.mpr ⟨name, (tree.listed _ _).mpr child, ?_⟩)
    rw [render_child below]
    refine hypothesis (by simp) stands ?_
    rw [length_append, length_singleton]
    omega

/-- A walk that removes what it visits changes nothing outside of the directory, and leaves nothing
of it when it comes to its end. -/
theorem nftw_remove (below : place ≠ []) (stands : tree.entry place = some .directory)
    (short : (render place).length < pathMax) :
    Shrunk tree (tree.nftw (render place) FileTree.remove).1 place ∧
      ((tree.nftw (render place) FileTree.remove).2 = true → ∀ rest,
        (tree.nftw (render place) FileTree.remove).1.entry (place ++ rest) = none) := by
  have isEntry : (tree.entry place).isSome = true := by rw [stands]; rfl
  have canonical := @visits_canonical tree tree.depth place below isEntry
  have shrunk := Shrunk.refl tree place
  have resolved : tree.resolve false (render place) = some place :=
    resolve_render isEntry (.inl rfl) short
  unfold nftw
  rw [resolved]
  refine ⟨shrunk.forEach below canonical, fun all rest => ?_⟩
  cases entry : tree.entry (place ++ rest) with
  | none =>
    cases (shrunk.forEach below canonical).fewer (place ++ rest) with
    | inl gone => exact gone
    | inr same => exact same.trans entry
  | some kind =>
    have inside : (tree.entry (place ++ rest)).isSome = true := by rw [entry]; rfl
    exact shrunk.forEach_gone below canonical all inside
      (mem_visits below inside (Nat.le_add_left _ _))

end FileTree

end Posix
