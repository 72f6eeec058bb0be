/-
This file models the writing of still photos by any number of threads at once. Each call looks for a
path that is free, makes a temporary file beside it that nobody else has made, writes the JPEG with
the metadata behind its first two bytes, and renames the file.
-/

import CameraGimbal.Bytes
import CameraGimbal.PosixFiles

namespace Still

open List
open Function (update)

open CText (Text bytes printNat printInt)
open Posix (slash pathMax)

/-! ### Paths -/

/-- `struct tm`, with the year from 1900 on and the month from 0 on. -/
structure Tm where
  year : Int
  month : Int
  monthDay : Int
  hour : Int
  minute : Int
  second : Int
  deriving DecidableEq

/-- `%02d`. -/
def printTwo (number : Int) : Text :=
  if 0 ≤ number ∧ number < 10 then 48 :: printInt number else printInt number

/-- `strftime` with `%Y-%m-%d`, into a buffer of sixteen bytes. -/
def strftime (time : Tm) : Option Text :=
  let day := printInt (time.year + 1900) ++ bytes "-" ++ printTwo (time.month + 1) ++ bytes "-" ++
    printTwo time.monthDay
  if day.length < 16 then some day else none

inductive Errno where
  | eintr
  | eio
  | enoent
  | ebadf
  | eexist
  | einval
  | enametoolong
  | other (number : Nat)
  deriving DecidableEq

/-- What a photo is written from. A pointer that is `NULL` is a value that is refused in the same
way: no root, no JPEG, a time before 1970, or no room for the path. The segments are those of the
metadata when the call takes its snapshot. -/
structure Request where
  root : Text
  suffix : UInt8
  jpeg : Bytes
  seconds : Int
  nanoseconds : Int
  pathSize : Nat
  segments : Bytes

/-- The bytes of the finished photo. -/
def Request.photo (request : Request) : Bytes :=
  request.jpeg.take 2 ++ request.segments ++ request.jpeg.drop 2

/-- The blocks in which they are written. -/
def Request.blocks (request : Request) : List Bytes :=
  [request.jpeg.take 2, request.segments, request.jpeg.drop 2]

theorem flatten_blocks (request : Request) : request.blocks.flatten = request.photo := by
  unfold Request.blocks Request.photo
  rw [flatten_cons, flatten_cons, flatten_cons, flatten_nil, append_nil, ← append_assoc]

def Request.IsValid (request : Request) : Prop :=
  request.root ≠ [] ∧ 4 ≤ request.jpeg.length ∧ 0 ≤ request.seconds ∧ 0 ≤ request.nanoseconds ∧
    request.nanoseconds < 1000000000 ∧ request.pathSize ≠ 0 ∧
    request.jpeg.take 2 = [0xff, 0xd8] ∧
    request.jpeg.drop (request.jpeg.length - 2) = [0xff, 0xd9]

instance isValidDecidable (request : Request) : Decidable request.IsValid :=
  inferInstanceAs (Decidable (_ ∧ _))

/-- When a photo was taken. -/
structure Moment where
  time : Tm
  day : Text
  milliseconds : Nat
  deriving DecidableEq

def Request.directory (request : Request) (moment : Moment) : Text :=
  request.root ++ bytes "/" ++ moment.day

/-- The path of an attempt up to its suffix. -/
def Request.stem (request : Request) (moment : Moment) (attempt : Nat) : Text :=
  let first := request.directory moment ++ bytes "/" ++ moment.day ++ bytes "_" ++
    printTwo moment.time.hour ++ bytes "-" ++ printTwo moment.time.minute ++ bytes "-" ++
    printTwo moment.time.second ++ bytes "_" ++ printNat moment.milliseconds
  if attempt = 0 then first ++ bytes "_" else first ++ bytes "_" ++ printNat attempt ++ bytes "_"

/-- What follows on the stem. A suffix of `NUL` ends the text. -/
def Request.ending (request : Request) : Text :=
  if request.suffix = 0 then [] else request.suffix :: bytes ".jpg"

/-- What a path has behind it while the photo is not finished. -/
def part : Text := bytes ".part"

structure PhotoPath where
  text : Text
  finished : ¬ part <:+ text
  deriving DecidableEq

def PhotoPath.temporary (path : PhotoPath) : Text := path.text ++ part

theorem not_part_suffix {text : Text} (last : text.getLast? = some 95 ∨ text.getLast? = some 103) :
    ¬ part <:+ text := by
  rintro ⟨before, rfl⟩
  have ends : (before ++ part).getLast? = some 116 := by
    rw [getLast?_append]
    rfl
  rw [ends] at last
  revert last
  decide

theorem stem_last (request : Request) (moment : Moment) (attempt : Nat) :
    (request.stem moment attempt).getLast? = some 95 := by
  unfold Request.stem
  split
  · rw [getLast?_append]
    rfl
  · rw [getLast?_append]
    rfl

def Request.path (request : Request) (moment : Moment) (attempt : Nat) : PhotoPath where
  text := request.stem moment attempt ++ request.ending
  finished := by
    refine not_part_suffix ?_
    unfold Request.ending
    split
    · rw [List.append_nil]
      exact Or.inl (stem_last request moment attempt)
    · rw [List.getLast?_append, List.getLast?_cons]
      exact Or.inr rfl

/-- An entry of a directory. -/
abbrev Place (Directory : Type) : Type := Directory × Text

/-- The entry that a path leads to, when its directory is the one that the text before it leads
to. -/
def place {Directory : Type} (locate : Text → Directory) (path : Text) : Place Directory :=
  (locate (path.rdropWhile (· ≠ slash)), path.rtakeWhile (· ≠ slash))

section Places

variable {Directory : Type} {locate : Text → Directory}

theorem place_part (path : Text) :
    place locate (path ++ part) = ((place locate path).1, (place locate path).2 ++ part) := by
  have plain : ∀ byte ∈ part.reverse, decide (byte ≠ slash) = true := all_eq_true.mp rfl
  unfold place rdropWhile rtakeWhile
  rw [reverse_append, takeWhile_append_of_pos plain, dropWhile_append_of_pos plain,
    reverse_append, reverse_reverse]

theorem temporary_eq_iff {one other : PhotoPath} :
    place locate one.temporary = place locate other.temporary ↔
      place locate one.text = place locate other.text := by
  unfold PhotoPath.temporary
  rw [place_part, place_part, Prod.mk.injEq, append_left_inj, ← Prod.ext_iff]

theorem temporary_ne (one other : PhotoPath) :
    place locate one.temporary ≠ place locate other.text := by
  intro same
  refine other.finished ?_
  unfold PhotoPath.temporary at same
  rw [place_part] at same
  have name : (place locate one.text).2 ++ part = other.text.rtakeWhile (· ≠ slash) :=
    congrArg Prod.snd same
  exact (name ▸ suffix_append _ _ : part <:+ _).trans (rtakeWhile_suffix _ _)

end Places

/-! ### Calls -/

/-- What is still to do with the descriptor of a temporary file. -/
inductive Task where
  | writes (block : Bytes) (later : List Bytes)
  | stamps
  | syncs
  | closes
  | abandons (error : Errno)
  deriving DecidableEq

/-- Where a call is: at the call of the system that it makes next, or at its end. -/
inductive Phase where
  | arrives
  | makesRoot (moment : Moment)
  | makesDirectory (moment : Moment)
  | looks (moment : Moment) (attempt : Nat) (path : PhotoPath)
  | opens (moment : Moment) (attempt : Nat) (path : PhotoPath)
  | holds (path : PhotoPath) (descriptor : Nat) (task : Task)
  | renames (path : PhotoPath)
  | unlinks (path : PhotoPath) (error : Errno)
  | returned (result : Except Errno PhotoPath)
  deriving DecidableEq

/-- A file that a call has made, or that was there before them. -/
inductive File (Call : Type) where
  | of (call : Call)
  | before (number : Nat)
  deriving DecidableEq

/-- The files, the open descriptors of the process, and its calls. -/
structure World (Call Directory : Type) where
  entry : Place Directory → Option (File Call)
  content : File Call → Bytes
  descriptor : Nat → Option (File Call)
  phase : Call → Phase

/-- How the system answers a call. -/
inductive Answer where
  | done
  | opened (descriptor : Nat)
  | wrote (count : Nat)
  | fails (error : Errno)
  deriving DecidableEq

/-- An attempt, when there is one left and its path fits. -/
def attempts (request : Request) (moment : Moment) (attempt : Nat) : Phase :=
  if 1000 ≤ attempt then .returned (.error .eexist)
  else if request.pathSize ≤ (request.stem moment attempt).length + 1 + (bytes ".jpg").length then
    .returned (.error .enametoolong)
  else .looks moment attempt (request.path moment attempt)

/-- The checks of the arguments. -/
def arrive (localtime : Int → Option Tm) (request : Request) : Phase :=
  if request.IsValid then
    match localtime request.seconds with
    | none => .returned (.error .einval)
    | some time =>
      match strftime time with
      | none => .returned (.error .einval)
      | some day => .makesRoot ⟨time, day, (request.nanoseconds / 1000000).toNat⟩
  else .returned (.error .einval)

/-- `mkdir`, which may fail for a directory that is there. -/
def made (answer : Answer) (next : Phase) : Phase :=
  match answer with
  | .fails error => if error = .eexist then next else .returned (.error error)
  | _ => next

/-- The blocks that are still to be written. -/
def toWrite : List Bytes → Task
  | [] => .stamps
  | block :: later => if block = [] then toWrite later else .writes block later

section Calls

variable {Call Directory : Type} [DecidableEq Call] [DecidableEq Directory]

def World.turn (world : World Call Directory) (call : Call) (phase : Phase) :
    World Call Directory :=
  { world with phase := update world.phase call phase }

/-- How a call on a descriptor ends: it fails for one that is not open. -/
def World.ends (world : World Call Directory) (descriptor : Nat) (answer : Answer) :
    Option Errno :=
  match answer with
  | .fails error => some error
  | _ => if world.descriptor descriptor = none then some .ebadf else none

/-- `write`, which may take a part of the block or be interrupted. -/
def World.write (world : World Call Directory) (call : Call) (path : PhotoPath) (descriptor : Nat)
    (block : Bytes) (later : List Bytes) (answer : Answer) : World Call Directory :=
  match world.ends descriptor answer, answer, world.descriptor descriptor with
  | some error, _, _ =>
    if error = .eintr then world
    else world.turn call (.holds path descriptor (.abandons error))
  | none, .wrote count, some file =>
    if count = 0 then world.turn call (.holds path descriptor (.abandons .eio))
    else if count ≤ block.length then
      { world.turn call (.holds path descriptor (toWrite (block.drop count :: later))) with
        content := update world.content file (world.content file ++ block.take count) }
    else world
  | none, _, _ => world

/-- What a call does with the descriptor of its temporary file. A descriptor is free again once it
is closed, also when that fails. -/
def World.use (world : World Call Directory) (call : Call) (path : PhotoPath) (descriptor : Nat)
    (task : Task) (answer : Answer) : World Call Directory :=
  match task with
  | .writes block later => world.write call path descriptor block later answer
  | .stamps =>
    match world.ends descriptor answer with
    | some error => world.turn call (.holds path descriptor (.abandons error))
    | none => world.turn call (.holds path descriptor .syncs)
  | .syncs =>
    match world.ends descriptor answer with
    | some error => world.turn call (.holds path descriptor (.abandons error))
    | none => world.turn call (.holds path descriptor .closes)
  | .closes =>
    { world.turn call
        (match world.ends descriptor answer with
        | some error => .holds path descriptor (.abandons error)
        | none => .renames path) with
      descriptor := update world.descriptor descriptor none }
  | .abandons error =>
    { world.turn call (.unlinks path error) with
      descriptor := update world.descriptor descriptor none }

/-- `ca_still_write_jpeg`, up to the next call of the system. What the system cannot answer changes
nothing. -/
def step (localtime : Int → Option Tm) (locate : Text → Directory) (requests : Call → Request)
    (world : World Call Directory) (event : Call × Answer) : World Call Directory :=
  let ⟨call, answer⟩ := event
  let request := requests call
  match world.phase call with
  | .arrives => world.turn call (arrive localtime request)
  | .makesRoot moment =>
    world.turn call <| made answer <|
      if pathMax ≤ (request.directory moment).length then .returned (.error .enametoolong)
      else .makesDirectory moment
  | .makesDirectory moment => world.turn call (made answer (attempts request moment 0))
  | .looks moment attempt path =>
    match answer with
    | .fails error =>
      if error = .enoent then world else world.turn call (.returned (.error error))
    | _ =>
      if (world.entry (place locate path.text)).isSome then
        world.turn call (attempts request moment (attempt + 1))
      else if pathMax ≤ path.temporary.length then
        world.turn call (.returned (.error .enametoolong))
      else world.turn call (.opens moment attempt path)
  | .opens moment attempt path =>
    match answer with
    | .fails error =>
      world.turn call <|
        if error = .eexist then attempts request moment (attempt + 1)
        else .returned (.error error)
    | .opened descriptor =>
      if world.entry (place locate path.temporary) = none ∧ world.descriptor descriptor = none then
        { entry := update world.entry (place locate path.temporary) (some (.of call))
          content := update world.content (.of call) []
          descriptor := update world.descriptor descriptor (some (.of call))
          phase := update world.phase call
            (.holds path descriptor (toWrite request.blocks)) }
      else world
    | _ => world
  | .holds path descriptor task => world.use call path descriptor task answer
  | .renames path =>
    match answer, world.entry (place locate path.temporary) with
    | .fails error, _ => world.turn call (.unlinks path error)
    | _, none => world.turn call (.unlinks path .enoent)
    | _, some file =>
      { world.turn call (.returned (.ok path)) with
        entry := update
          (update world.entry (place locate path.text) (some file))
          (place locate path.temporary) none }
  | .unlinks path error =>
    match answer with
    | .fails _ => world.turn call (.returned (.error error))
    | _ =>
      { world.turn call (.returned (.error error)) with
        entry := update world.entry (place locate path.temporary) none }
  | .returned _ => world

end Calls

end Still
