/-
This file proves what becomes of the photos of any number of threads that write at once.

A call that finds its path free may make its temporary file after another one has renamed its own to
that path, and then replaces a photo. A descriptor that could not be closed is closed once more,
though another call may have it by then. In runs in which neither happens, and in which the
temporary file of a call that failed can be removed, every photo that was finished stays as it is.
-/

import CameraGimbal.StillPhotos
import CameraGimbal.Transition

namespace Still

open List Function Option

open CText (Text bytes)
open Posix (pathMax)

/-! ### What holds of every run -/

/-- The file of a call, while it has a temporary one or has finished. -/
def Phase.file : Phase → Option Text
  | .holds path _ _ => some path.temporary
  | .renames path => some path.temporary
  | .unlinks path _ => some path.temporary
  | .returned (.ok path) => some path.text
  | _ => none

/-- The path that a call with a temporary file writes for. -/
def Phase.target : Phase → Option PhotoPath
  | .holds path _ _ => some path
  | .renames path => some path
  | .unlinks path _ => some path
  | _ => none

/-- What a call has still to write. -/
def Task.left : Task → Option Bytes
  | .writes block later => some (block ++ later.flatten)
  | .abandons _ => none
  | _ => some []

def Phase.left : Phase → Option Bytes
  | .holds _ _ task => task.left
  | .renames _ => some []
  | .returned (.ok _) => some []
  | _ => none

/-- The descriptor that a call goes on to use. -/
def Phase.descriptor : Phase → Option Nat
  | .holds _ _ (.abandons _) => none
  | .holds _ descriptor _ => some descriptor
  | _ => none

@[simp] theorem left_toWrite (blocks : List Bytes) :
    (toWrite blocks).left = some blocks.flatten := by
  induction blocks with
  | nil => rfl
  | cons block later hypothesis =>
    unfold toWrite
    split
    · next empty => rw [hypothesis, empty]; rfl
    · rfl

@[simp] theorem descriptor_toWrite (path : PhotoPath) (descriptor : Nat)
    (blocks : List Bytes) :
    (Phase.holds path descriptor (toWrite blocks)).descriptor = some descriptor := by
  induction blocks with
  | nil => rfl
  | cons block later hypothesis =>
    unfold toWrite
    split
    · exact hypothesis
    · rfl

/-- A call that has no file, and is not at its end with one. -/
def Phase.Empty (phase : Phase) : Prop :=
  phase.file = none ∧ phase.target = none ∧ phase.left = none ∧ phase.descriptor = none

theorem empty_attempts (request : Request) (moment : Moment) (attempt : Nat) :
    (attempts request moment attempt).Empty := by
  unfold attempts
  split
  · exact ⟨rfl, rfl, rfl, rfl⟩
  · split <;> exact ⟨rfl, rfl, rfl, rfl⟩

theorem empty_arrive (localtime : Int → Option Tm) (request : Request) :
    (arrive localtime request).Empty := by
  unfold arrive
  split
  · split
    · exact ⟨rfl, rfl, rfl, rfl⟩
    · split <;> exact ⟨rfl, rfl, rfl, rfl⟩
  · exact ⟨rfl, rfl, rfl, rfl⟩

theorem empty_made (answer : Answer) {next : Phase} (empty : next.Empty) :
    (made answer next).Empty := by
  unfold made
  split
  · split
    · exact empty
    · exact ⟨rfl, rfl, rfl, rfl⟩
  · exact empty

section Runs

variable {Call Directory : Type}

/-- Before a run no call has done anything, and no file is theirs. -/
structure Fresh (world : World Call Directory) : Prop where
  phase : ∀ call, world.phase call = .arrives
  entry : ∀ call entry, world.entry entry ≠ some (.of call)

/-- Every call that succeeded has its photo at its path, no two of them have the same one, what was
there before is there unchanged, and of a call that failed nothing is left. -/
structure Kept (locate : Text → Directory) (requests : Call → Request)
    (start world : World Call Directory) : Prop where
  whole : ∀ call path, world.phase call = .returned (.ok path) →
    world.entry (place locate path.text) = some (.of call) ∧
      world.content (.of call) = (requests call).photo
  apart : ∀ one other path, world.phase one = .returned (.ok path) →
    world.phase other = .returned (.ok path) → one = other
  old : ∀ entry number, start.entry entry = some (.before number) →
    world.entry entry = some (.before number) ∧
      world.content (.before number) = start.content (.before number)
  nothing : ∀ call error, world.phase call = .returned (.error error) →
    ∀ entry, world.entry entry ≠ some (.of call)

/-- A temporary file is made only while the photo is not there, the descriptor that a call closes
when it fails is not that of another file, and its temporary file can be removed. -/
def Lawful (locate : Text → Directory) (world : World Call Directory) (event : Call × Answer) :
    Prop :=
  match world.phase event.1, event.2 with
  | .opens _ _ path, .opened _ => world.entry (place locate path.text) = none
  | .holds _ descriptor (.abandons _), _ =>
    world.descriptor descriptor = none ∨ world.descriptor descriptor = some (.of event.1)
  | .unlinks _ _, .fails _ => False
  | _, _ => True

/-- The file of a call stands where the call is, nothing stands where the call is about to put it,
the descriptor is its own, and what it has written and has still to write is the photo. -/
structure Owns (locate : Text → Directory) (photo : Bytes) (world : World Call Directory)
    (call : Call) (phase : Phase) : Prop where
  stands : ∀ entry, world.entry entry = some (.of call) ↔
    phase.file.map (place locate) = some entry
  free : ∀ path, phase.target = some path → world.entry (place locate path.text) = none
  held : ∀ descriptor, phase.descriptor = some descriptor →
    world.descriptor descriptor = some (.of call)
  written : ∀ left, phase.left = some left → world.content (.of call) ++ left = photo

/-- So it is for every call, and what was there before is there unchanged. -/
structure Orderly (locate : Text → Directory) (requests : Call → Request)
    (start world : World Call Directory) : Prop where
  owns : ∀ call, Owns locate (requests call).photo world call (world.phase call)
  old : ∀ entry number, start.entry entry = some (.before number) →
    world.entry entry = some (.before number)
  same : ∀ number, world.content (.before number) = start.content (.before number)

variable {locate : Text → Directory} {requests : Call → Request}
  {start world : World Call Directory}

theorem Fresh.orderly (fresh : Fresh start) : Orderly locate requests start start where
  owns call := by
    rw [fresh.phase call]
    refine ⟨fun entry => ⟨fun stands => absurd stands (fresh.entry call entry), ?_⟩, ?_, ?_, ?_⟩
    · intro file
      cases file
    · intro path target
      cases target
    · intro descriptor held
      cases held
    · intro left isLeft
      cases isLeft
  old _ _ stands := stands
  same _ := rfl

theorem Orderly.kept (orderly : Orderly locate requests start world) :
    Kept locate requests start world := by
  have stands : ∀ call path, world.phase call = .returned (.ok path) →
      world.entry (place locate path.text) = some (.of call) := by
    intro call path returned
    rw [(orderly.owns call).stands, returned]
    rfl
  refine ⟨fun call path returned => ⟨stands call path returned, ?_⟩, ?_, ?_, ?_⟩
  · have written := (orderly.owns call).written [] (by rw [returned]; rfl)
    rwa [append_nil] at written
  · intro one other path first second
    have same := (stands one path first).symm.trans (stands other path second)
    exact File.of.inj (some.inj same)
  · exact fun entry number before => ⟨orderly.old entry number before, orderly.same number⟩
  · intro call error failed entry stands
    rw [(orderly.owns call).stands, failed] at stands
    cases stands

end Runs

/-! ### Steps -/

section Steps

variable {Call Directory : Type} {locate : Text → Directory} {photo : Bytes}
  {requests : Call → Request} {start world after : World Call Directory} {call other : Call}
  {phase next : Phase}

/-- What is not done to the file, the target or the descriptor of a call leaves them as they are. -/
theorem Owns.frame (owns : Owns locate photo world other phase)
    (entry : ∀ entry, after.entry entry = some (.of other) ↔ world.entry entry = some (.of other))
    (free : ∀ path, phase.target = some path → world.entry (place locate path.text) = none →
      after.entry (place locate path.text) = none)
    (descriptor : ∀ descriptor, world.descriptor descriptor = some (.of other) →
      after.descriptor descriptor = some (.of other))
    (content : after.content (.of other) = world.content (.of other)) :
    Owns locate photo after other phase where
  stands at' := (entry at').trans (owns.stands at')
  free path target := free path target (owns.free path target)
  held which holds := descriptor which (owns.held which holds)
  written left isLeft := by
    rw [content]
    exact owns.written left isLeft

theorem Owns.turn (owns : Owns locate photo world call phase) (file : next.file = phase.file)
    (target : ∀ path, next.target = some path → phase.target = some path)
    (descriptor : ∀ descriptor, next.descriptor = some descriptor →
      phase.descriptor = some descriptor)
    (left : ∀ left, next.left = some left → phase.left = some left) :
    Owns locate photo world call next where
  stands entry := by
    rw [file]
    exact owns.stands entry
  free path isTarget := owns.free path (target path isTarget)
  held which holds := owns.held which (descriptor which holds)
  written rest isLeft := owns.written rest (left rest isLeft)

theorem Owns.turn_empty (owns : Owns locate photo world call phase) (file : phase.file = none)
    (empty : next.Empty) : Owns locate photo world call next := by
  obtain ⟨noFile, noTarget, noLeft, noDescriptor⟩ := empty
  refine owns.turn (noFile.trans file.symm) (fun path target => ?_) (fun which holds => ?_)
    fun left isLeft => ?_
  · rw [noTarget] at target
    cases target
  · rw [noDescriptor] at holds
    cases holds
  · rw [noLeft] at isLeft
    cases isLeft

theorem before_ne (call : Call) (number : Nat) : File.before number ≠ File.of call := by
  intro same
  cases same

theorem stands_update [DecidableEq Directory] {entries : Place Directory → Option (File Call)}
    {there : Place Directory} {file : Option (File Call)}
    (before : entries there ≠ some (.of other)) (now : file ≠ some (.of other))
    (entry : Place Directory) :
    update entries there file entry = some (.of other) ↔ entries entry = some (.of other) := by
  by_cases same : entry = there
  · rw [same, update_self]
    exact iff_of_false now before
  · rw [update_of_ne same]

theorem of_ne (different : other ≠ call) : some (File.of call) ≠ some (.of other) :=
  fun same => different (File.of.inj (some.inj same)).symm

variable [DecidableEq Call]

/-- A step of one call, by what it does to that call and to the others. -/
theorem Orderly.move (orderly : Orderly locate requests start world)
    (phases : after.phase = update world.phase call next)
    (own : Owns locate (requests call).photo after call next) (others : ∀ other, other ≠ call →
      Owns locate (requests other).photo world other (world.phase other) →
      Owns locate (requests other).photo after other (world.phase other))
    (old : ∀ entry number, world.entry entry = some (.before number) →
      after.entry entry = some (.before number))
    (same : ∀ number, after.content (.before number) = world.content (.before number)) :
    Orderly locate requests start after where
  owns other := by
    rw [phases]
    by_cases isCall : other = call
    · rw [isCall, update_self]
      exact own
    · rw [update_of_ne isCall]
      exact others other isCall (orderly.owns other)
  old entry number before := old entry number (orderly.old entry number before)
  same number := (same number).trans (orderly.same number)

theorem Orderly.turn (orderly : Orderly locate requests start world)
    (own : Owns locate (requests call).photo world call next) :
    Orderly locate requests start (world.turn call next) := by
  refine orderly.move rfl ?_ (fun other _ owns => ?_) (fun _ _ before => before) fun _ => rfl
  · exact own.frame (fun _ => Iff.rfl) (fun _ _ free => free) (fun _ held => held) rfl
  · exact owns.frame (fun _ => Iff.rfl) (fun _ _ free => free) (fun _ held => held) rfl

theorem Orderly.close (orderly : Orderly locate requests start world) {descriptor : Nat}
    (own : Owns locate (requests call).photo world call next) (done : next.descriptor = none)
    (ours : world.descriptor descriptor = none ∨
      world.descriptor descriptor = some (.of call)) : Orderly locate requests start
      { world.turn call next with
        descriptor := update world.descriptor descriptor none } := by
  refine orderly.move rfl ?_ (fun other different owns => ?_) (fun _ _ before => before)
    fun _ => rfl
  · refine ⟨own.stands, own.free, fun which holds => ?_, own.written⟩
    rw [done] at holds
    cases holds
  · refine owns.frame (fun _ => Iff.rfl) (fun _ _ free => free) (fun which held => ?_) rfl
    have apart : which ≠ descriptor := by
      rintro rfl
      rw [held] at ours
      cases ours with
      | inl none => cases none
      | inr own => exact different (File.of.inj (some.inj own))
    exact (update_of_ne apart _ _).trans held

theorem Orderly.wrote (orderly : Orderly locate requests start world) {path : PhotoPath}
    {descriptor : Nat} {block : Bytes} {later : List (Bytes)}
    (here : world.phase call = .holds path descriptor (.writes block later)) (count : Nat) :
    Orderly locate requests start
      { world.turn call (.holds path descriptor (toWrite (block.drop count :: later))) with
        content := update world.content (.of call)
          (world.content (.of call) ++ block.take count) } := by
  have before := orderly.owns call
  rw [here] at before
  refine orderly.move rfl ?_ (fun other different owns => ?_) (fun _ _ old => old) fun number => ?_
  · refine ⟨before.stands, before.free, fun which holds => before.held which ?_,
      fun left isLeft => ?_⟩
    · rwa [descriptor_toWrite] at holds
    · have rest : left = block.drop count ++ later.flatten := by
        rw [Phase.left, left_toWrite, flatten_cons] at isLeft
        exact (some.inj isLeft).symm
      refine (congrArg (· ++ left) (update_self (File.of call) _ world.content)).trans ?_
      rw [rest, append_assoc, ← append_assoc (block.take count), take_append_drop]
      exact before.written _ rfl
  · refine owns.frame (fun _ => Iff.rfl) (fun _ _ free => free) (fun _ held => held) ?_
    exact update_of_ne (fun same => different (File.of.inj same)) _ _
  · exact update_of_ne (before_ne call number)
      (world.content (.of call) ++ block.take count) world.content

section Entries

variable [DecidableEq Directory]

variable {path : PhotoPath}

theorem Orderly.opened (orderly : Orderly locate requests start world) {moment : Moment}
    {attempt descriptor : Nat} (here : world.phase call = .opens moment attempt path)
    (missing : world.entry (place locate path.temporary) = none)
    (closed : world.descriptor descriptor = none)
    (free : world.entry (place locate path.text) = none) :
    Orderly locate requests start
      { entry := update world.entry (place locate path.temporary) (some (.of call))
        content := update world.content (.of call) []
        descriptor := update world.descriptor descriptor (some (.of call))
        phase := update world.phase call
          (.holds path descriptor (toWrite (requests call).blocks)) } := by
  have before := orderly.owns call
  rw [here] at before
  have elsewhere : ∀ {entry file}, world.entry entry = some file →
      entry ≠ place locate path.temporary := by
    rintro entry file stands rfl
    rw [missing] at stands
    cases stands
  refine orderly.move rfl ⟨fun entry => ?_, fun other target => ?_, fun which holds => ?_,
    fun left isLeft => ?_⟩ (fun other different owns => ?_) (fun entry number stands => ?_)
    fun number => ?_
  · show update _ _ _ entry = _ ↔ some (place locate path.temporary) = some entry
    by_cases there : entry = place locate path.temporary
    · rw [there, update_self]
      exact iff_of_true rfl rfl
    · rw [update_of_ne there, before.stands]
      exact ⟨fun none => (nomatch none), fun same => absurd (some.inj same).symm there⟩
  · cases target
    exact (update_of_ne (temporary_ne path path).symm _ _).trans free
  · rw [descriptor_toWrite] at holds
    cases holds
    exact update_self _ _ _
  · rw [Phase.left, left_toWrite] at isLeft
    cases isLeft
    refine (congrArg (· ++ _) (update_self (File.of call) _ world.content)).trans ?_
    rw [nil_append, flatten_blocks]
  · refine owns.frame (stands_update (by rw [missing]; rintro ⟨⟩) (of_ne different))
      (fun wanted _ none => ?_) (fun which held => ?_) ?_
    · exact (update_of_ne (temporary_ne path wanted).symm _ _).trans none
    · have apart : which ≠ descriptor := by
        rintro rfl
        rw [closed] at held
        cases held
      exact (update_of_ne apart _ _).trans held
    · exact update_of_ne (fun same => different (File.of.inj same)) _ _
  · exact (update_of_ne (elsewhere stands) _ _).trans stands
  · exact update_of_ne (before_ne call number) [] world.content

theorem file_of_target (target : phase.target = some path) : phase.file = some path.temporary := by
  cases phase with
  | holds _ _ _ => cases target; rfl
  | renames _ => cases target; rfl
  | unlinks _ _ => cases target; rfl
  | _ => cases target

theorem Orderly.renamed (orderly : Orderly locate requests start world)
    (here : world.phase call = .renames path) :
    Orderly locate requests start
      { world.turn call (.returned (.ok path)) with
        entry := update
          (update world.entry (place locate path.text) (some (.of call)))
          (place locate path.temporary) none } := by
  have before := orderly.owns call
  rw [here] at before
  have stands : world.entry (place locate path.temporary) = some (.of call) :=
    (before.stands _).mpr rfl
  have free : world.entry (place locate path.text) = none := before.free path rfl
  have apart : place locate path.text ≠ place locate path.temporary := (temporary_ne path path).symm
  refine orderly.move rfl ⟨fun entry => ?_, fun other target => ?_, fun which holds => ?_,
    before.written⟩ (fun other different owns => ?_) (fun entry number old => ?_) fun _ => rfl
  · show update _ _ _ entry = _ ↔ some (place locate path.text) = some entry
    by_cases temporary : entry = place locate path.temporary
    · rw [temporary, update_self]
      exact ⟨fun none => (nomatch none), fun same => absurd (some.inj same) apart⟩
    · rw [update_of_ne temporary]
      by_cases final : entry = place locate path.text
      · rw [final, update_self]
        exact iff_of_true rfl rfl
      · rw [update_of_ne final, before.stands]
        exact ⟨fun same => absurd (some.inj same).symm temporary,
          fun same => absurd (some.inj same).symm final⟩
  · cases target
  · cases holds
  · refine owns.frame (fun entry => ?_) (fun wanted target none => ?_) (fun _ held => held) rfl
    · refine (stands_update ?_ (by rintro ⟨⟩) entry).trans
        (stands_update (by rw [free]; rintro ⟨⟩) (of_ne different) entry)
      rw [update_of_ne apart.symm, stands]
      exact of_ne different
    · -- Two calls that write for one path would have the same temporary file.
      have others : place locate wanted.text ≠ place locate path.text := by
        intro same
        have mine := (owns.stands (place locate wanted.temporary)).mpr
          (by rw [file_of_target target]; rfl)
        rw [temporary_eq_iff.mpr same, stands] at mine
        exact different (File.of.inj (some.inj mine)).symm
      show update _ _ _ _ = _
      rw [update_of_ne (temporary_ne path wanted).symm, update_of_ne others]
      exact none
  · have notTemporary : entry ≠ place locate path.temporary := by
      rintro rfl
      rw [stands] at old
      cases old
    have notFinal : entry ≠ place locate path.text := by
      rintro rfl
      rw [free] at old
      cases old
    show update _ _ _ entry = _
    rw [update_of_ne notTemporary, update_of_ne notFinal]
    exact old

theorem Orderly.unlinked (orderly : Orderly locate requests start world) {error : Errno}
    (here : world.phase call = .unlinks path error) :
    Orderly locate requests start
      { world.turn call (.returned (.error error)) with
        entry := update world.entry (place locate path.temporary) none } := by
  have before := orderly.owns call
  rw [here] at before
  have stands : world.entry (place locate path.temporary) = some (.of call) :=
    (before.stands _).mpr rfl
  refine orderly.move rfl ⟨fun entry => ?_, fun other target => ?_, fun which holds => ?_,
    fun left isLeft => ?_⟩ (fun other different owns => ?_) (fun entry number old => ?_)
    fun _ => rfl
  · show update _ _ _ entry = _ ↔ none = some entry
    by_cases temporary : entry = place locate path.temporary
    · rw [temporary, update_self]
      exact ⟨fun none => (nomatch none), fun none => (nomatch none)⟩
    · rw [update_of_ne temporary, before.stands]
      exact ⟨fun same => absurd (some.inj same).symm temporary, fun none => (nomatch none)⟩
  · cases target
  · cases holds
  · cases isLeft
  · refine owns.frame (stands_update (by rw [stands]; exact of_ne different) (by rintro ⟨⟩))
      (fun wanted _ none => ?_) (fun _ held => held) rfl
    · exact (update_of_ne (temporary_ne path wanted).symm _ _).trans none
  · have elsewhere : entry ≠ place locate path.temporary := by
      rintro rfl
      rw [stands] at old
      cases old
    exact (update_of_ne elsewhere _ _).trans old

end Entries

theorem Orderly.used (orderly : Orderly locate requests start world) {path : PhotoPath}
    {descriptor : Nat} {task : Task} (here : world.phase call = .holds path descriptor task)
    (ours : ∀ error, task = .abandons error → world.descriptor descriptor = none ∨
      world.descriptor descriptor = some (.of call)) (answer : Answer) :
    Orderly locate requests start (world.use call path descriptor task answer) := by
  have owns := orderly.owns call
  rw [here] at owns
  have fails : ∀ error, Owns locate (requests call).photo world call
      (.holds path descriptor (.abandons error)) := fun error =>
    owns.turn rfl (fun _ target => target) (nofun) nofun
  cases task with
  | writes block later =>
    have held : world.descriptor descriptor = some (.of call) := owns.held descriptor rfl
    show Orderly locate requests start (world.write call path descriptor block later answer)
    unfold World.write
    rw [held]
    cases ended : world.ends descriptor answer with
    | some error =>
      dsimp only
      split
      · exact orderly
      · exact orderly.turn (fails error)
    | none =>
      cases answer with
      | wrote count =>
        dsimp only
        split
        · exact orderly.turn (fails .eio)
        · split
          · exact orderly.wrote here count
          · exact orderly
      | _ => exact orderly
  | stamps =>
    unfold World.use
    dsimp only
    split
    · exact orderly.turn (fails _)
    · exact orderly.turn (owns.turn rfl (fun _ target => target) (fun _ holds => holds)
        fun _ left => left)
  | syncs =>
    unfold World.use
    dsimp only
    split
    · exact orderly.turn (fails _)
    · exact orderly.turn (owns.turn rfl (fun _ target => target) (fun _ holds => holds)
        fun _ left => left)
  | closes =>
    have held : world.descriptor descriptor = some (.of call) := owns.held descriptor rfl
    unfold World.use
    dsimp only
    split
    · exact orderly.close (fails _) rfl (Or.inr held)
    · exact orderly.close (owns.turn rfl (fun _ target => target) (nofun)
        fun _ left => left) rfl (Or.inr held)
  | abandons error =>
    exact orderly.close (owns.turn rfl (fun _ target => target) (nofun) nofun) rfl (ours error rfl)

variable [DecidableEq Directory] {localtime : Int → Option Tm}

theorem step_orderly (event : Call × Answer) (lawful : Lawful locate world event)
    (orderly : Orderly locate requests start world) :
    Orderly locate requests start (step localtime locate requests world event) := by
  obtain ⟨call, answer⟩ := event
  have owns := orderly.owns call
  unfold Lawful at lawful
  unfold step
  dsimp only at lawful ⊢
  cases here : world.phase call with
  | arrives =>
    rw [here] at owns
    exact orderly.turn (owns.turn_empty rfl (empty_arrive _ _))
  | makesRoot moment =>
    rw [here] at owns
    refine orderly.turn (owns.turn_empty rfl (empty_made _ ?_))
    split <;> exact ⟨rfl, rfl, rfl, rfl⟩
  | makesDirectory moment =>
    rw [here] at owns
    exact orderly.turn (owns.turn_empty rfl (empty_made _ (empty_attempts _ _ _)))
  | looks moment attempt path =>
    rw [here] at owns
    have goes : ∀ {next : Phase}, next.Empty →
        Orderly locate requests start (world.turn call next) :=
      fun empty => orderly.turn (owns.turn_empty rfl empty)
    have found : Orderly locate requests start
        (if (world.entry (place locate path.text)).isSome then
          world.turn call (attempts (requests call) moment (attempt + 1))
        else if pathMax ≤ path.temporary.length then
          world.turn call (.returned (.error .enametoolong))
        else world.turn call (.opens moment attempt path)) := by
      split
      · exact goes (empty_attempts _ _ _)
      · split <;> exact goes ⟨rfl, rfl, rfl, rfl⟩
    cases answer with
    | fails error =>
      dsimp only
      split
      · exact orderly
      · exact goes ⟨rfl, rfl, rfl, rfl⟩
    | _ => exact found
  | opens moment attempt path =>
    rw [here] at owns lawful
    cases answer with
    | fails error =>
      refine orderly.turn (owns.turn_empty rfl ?_)
      split
      · exact empty_attempts _ _ _
      · exact ⟨rfl, rfl, rfl, rfl⟩
    | opened descriptor =>
      dsimp only
      split
      · next missing => exact orderly.opened here missing.1 missing.2 lawful
      · exact orderly
    | _ => exact orderly
  | holds path descriptor task =>
    rw [here] at lawful
    refine orderly.used here (fun error isTask => ?_) answer
    subst isTask
    exact lawful
  | renames path =>
    rw [here] at owns
    have stands : world.entry (place locate path.temporary) = some (.of call) :=
      (owns.stands _).mpr rfl
    dsimp only
    rw [stands]
    cases answer with
    | fails error =>
      exact orderly.turn (owns.turn rfl (fun _ target => target) (nofun) nofun)
    | _ => exact orderly.renamed here
  | unlinks path error =>
    rw [here] at lawful
    cases answer with
    | fails _ => exact lawful.elim
    | _ => exact orderly.unlinked here
  | returned result => exact orderly

end Steps

/-- In every run in which a temporary file is only made while its photo is not there, no call that
fails closes the descriptor of another file, and every temporary file can be removed, the photos
that are finished are kept. -/
theorem writeJpeg_kept {Call Directory : Type} [DecidableEq Call] [DecidableEq Directory]
    (localtime : Int → Option Tm) (locate : Text → Directory) (requests : Call → Request)
    {start : World Call Directory} (fresh : Fresh start) {events : List (Call × Answer)}
    (lawful : Transition.Along (step localtime locate requests) (Lawful locate) start events) :
    Kept locate requests start (events.foldl (step localtime locate requests) start) :=
  (Transition.foldl_keeps (fun _ event => step_orderly event) fresh.orderly lawful).kept

/-! ### Two photos at one time -/

/-- A clock that stands still. -/
def noon (_ : Int) : Option Tm := some ⟨126, 0, 1, 12, 0, 0⟩

def twoPhotos (second : Bool) : Request where
  root := bytes "c"
  suffix := 67
  jpeg := if second = true then [0xff, 0xd8, 0, 0xff, 0xd9] else [0xff, 0xd8, 0xff, 0xd9]
  seconds := 0
  nanoseconds := 0
  pathSize := 100
  segments := []

/-- No files, and no calls that have done anything. -/
def nothing : World Bool Text where
  entry _ := none
  content _ := []
  descriptor _ := none
  phase _ := .arrives

theorem nothing_fresh : Fresh nothing := ⟨fun _ => rfl, nofun⟩

/-- A call makes its directories and looks for its path. -/
def arrives (call : Bool) : List (Bool × Answer) :=
  [(call, .done), (call, .done), (call, .done), (call, .done)]

/-- A call writes its photo and renames it. -/
def finishes (call : Bool) (count : Nat) : List (Bool × Answer) :=
  [(call, .opened 3), (call, .wrote 2), (call, .wrote count), (call, .done), (call, .done),
    (call, .done), (call, .done)]

/-- The path that both photos have. -/
def noonPath : PhotoPath := (twoPhotos false).path ⟨⟨126, 0, 1, 12, 0, 0⟩, bytes "2026-01-01", 0⟩ 0

instance lawfulDecidable {Call Directory : Type} [DecidableEq Call] [DecidableEq Directory]
    (locate : Text → Directory) (world : World Call Directory) (event : Call × Answer) :
    Decidable (Lawful locate world event) := by
  unfold Lawful
  split
  · infer_instance
  · infer_instance
  · infer_instance
  · infer_instance

/-- The second call looks for its path when the first one has finished. -/
theorem writeJpeg_kept_inTurn :
    Kept id twoPhotos nothing ((arrives false ++ finishes false 2 ++ arrives true ++
      (true, .done) :: finishes true 3).foldl (step noon id twoPhotos) nothing) :=
  writeJpeg_kept noon id twoPhotos nothing_fresh (by decide +kernel)

/-- Both calls find the path free; then the second one replaces the photo of the first. -/
theorem photo_replaced :
    ¬ ∀ (start : World Bool Text) (events : List (Bool × Answer)), Fresh start →
      Kept id twoPhotos start (events.foldl (step noon id twoPhotos) start) := by
  intro kept
  have run := kept nothing
    (arrives false ++ arrives true ++ finishes false 2 ++ finishes true 3) nothing_fresh
  have first : ((arrives false ++ arrives true ++ finishes false 2 ++ finishes true 3).foldl
      (step noon id twoPhotos) nothing).phase false = .returned (.ok noonPath) := by
    decide +kernel
  have replaced : ((arrives false ++ arrives true ++ finishes false 2 ++ finishes true 3).foldl
      (step noon id twoPhotos) nothing).entry (place id noonPath.text) = some (.of true) := by
    decide +kernel
  rw [(run.whole false noonPath first).1] at replaced
  cases replaced

end Still
