/-
This file is about the photos that the web page shows: the list of the most recent ones, gathered
from the files that a walk visits. The list is an array of twelve photos in which each photo is
inserted behind those that are not older, and an index outside the array is a fault of the model.
-/

import CameraGimbal.HttpHeaders
import CameraGimbal.PosixFiles
import CameraGimbal.TopList
import Mathlib.Data.Prod.Lex

namespace RecentPhotos

open CText Option
open HttpRequest (toLower)
open Posix (slash pathMax)

/-! ### What a file is -/

def behindLast (mark : UInt8) (text : Text) : Option Text :=
  if mark ∈ text then some (text.rtakeWhile (· ≠ mark)) else none

def fileExtension (path : Text) : Text :=
  let base := (behindLast slash path).getD path
  (behindLast 46 base).getD []

/-- `strcasecmp(first, second) == 0`. -/
def sameCaseless (first second : Text) : Bool := first.map toLower == second.map toLower

/-- The types that `file_mime_type` knows, in the order in which it compares. -/
def mimeTypes : List (Text × Text) :=
  [(bytes "jpg", bytes "image/jpeg"), (bytes "jpeg", bytes "image/jpeg"),
    (bytes "png", bytes "image/png"), (bytes "gif", bytes "image/gif"),
    (bytes "webp", bytes "image/webp"), (bytes "bmp", bytes "image/bmp"),
    (bytes "mp4", bytes "video/mp4"), (bytes "m4v", bytes "video/mp4"),
    (bytes "webm", bytes "video/webm"), (bytes "mov", bytes "video/quicktime"),
    (bytes "mkv", bytes "video/x-matroska"), (bytes "avi", bytes "video/x-msvideo"),
    (bytes "txt", bytes "text/plain; charset=utf-8"),
    (bytes "log", bytes "text/plain; charset=utf-8"),
    (bytes "ini", bytes "text/plain; charset=utf-8"),
    (bytes "md", bytes "text/plain; charset=utf-8"), (bytes "json", bytes "application/json"),
    (bytes "pdf", bytes "application/pdf")]

def fileMimeType (path : Text) : Text :=
  ((mimeTypes.find? fun type => sameCaseless (fileExtension path) type.1).map Prod.snd).getD
    (bytes "application/octet-stream")

def mimeIsImage (mime : Text) : Bool := mime.take 6 == bytes "image/"

/-! ### The list -/

/-- `struct timespec`. -/
structure Timespec where
  sec : Int
  nsec : Int
  deriving DecidableEq, Repr

/-- What is read of a `struct stat`. -/
structure Stat where
  mtim : Timespec
  size : Int
  deriving DecidableEq, Repr

/-- `struct recent_photo`. -/
structure RecentPhoto where
  path : Text
  modified : Timespec
  size : Int
  deriving DecidableEq, Repr

/-- `RECENT_PHOTO_LIMIT`. -/
def limit : Nat := 12

/-- `struct recent_photo_list`. -/
structure RecentPhotoList where
  items : Vector RecentPhoto limit
  count : Nat

/-- The types of a visited file. -/
inductive FileType where
  | file | directory | unreadable | directoryBehind | unknown | link | danglingLink
  deriving DecidableEq, Repr

/-- A call of the walk: the path, the status unless it is `NULL`, and the type. -/
structure Visit where
  path : Text
  stat : Option Stat
  type : FileType

/-- An index outside the array. -/
inductive Fault where
  | outside
  deriving DecidableEq, Repr

def read (items : Vector RecentPhoto limit) (index : Nat) : Except Fault RecentPhoto :=
  match items[index]? with
  | some photo => .ok photo
  | none => .error .outside

def write (items : Vector RecentPhoto limit) (index : Nat) (photo : RecentPhoto) :
    Except Fault (Vector RecentPhoto limit) :=
  if inside : index < limit then .ok (items.set index photo inside) else .error .outside

def photoIsNewer (candidate : Stat) (existing : RecentPhoto) : Bool :=
  existing.modified.sec < candidate.mtim.sec ||
    (candidate.mtim.sec == existing.modified.sec &&
      existing.modified.nsec < candidate.mtim.nsec)

/-- The position, as the first loop leaves it. -/
def scan (st : Stat) (items : Vector RecentPhoto limit) : Nat → Except Fault Nat
  | 0 => .ok 0
  | position + 1 => do
    let existing ← read items position
    if photoIsNewer st existing then scan st items position else .ok (position + 1)

/-- The second loop, from an index down to the position. -/
def shift (position : Nat) : Nat → Vector RecentPhoto limit →
    Except Fault (Vector RecentPhoto limit)
  | 0, items => .ok items
  | index + 1, items =>
    if position < index + 1 then do
      let photo ← read items index
      let items ← write items (index + 1) photo
      shift position index items
    else .ok items

/-- The photo that a file is stored as. -/
def photoOf (path : Text) (st : Stat) : RecentPhoto where
  path := path.take (pathMax - 1)
  modified := st.mtim
  size := st.size

/-- The list with a photo at its place, if it has one. -/
def insertPhoto (list : RecentPhotoList) (path : Text) (st : Stat) :
    Except Fault RecentPhotoList := do
  let position ← scan st list.items (if limit < list.count then limit else list.count)
  if limit ≤ position then .ok list
  else
    let count := if list.count < limit then list.count + 1 else list.count
    let items ← shift position (count - 1) list.items
    let items ← write items position (photoOf path st)
    .ok { items, count }

/-- `collect_recent_photo`. The collection is nothing while it is `NULL`. The walk goes on in every
case. -/
def collectRecentPhoto (collection : Option RecentPhotoList) (visit : Visit) :
    Except Fault (Option RecentPhotoList) :=
  match collection, visit.stat with
  | some list, some st =>
    if visit.type ≠ .file ∨ mimeIsImage (fileMimeType visit.path) = false ∨
        pathMax ≤ visit.path.length then .ok collection
    else do
      let list ← insertPhoto list visit.path st
      .ok (some list)
  | _, _ => .ok collection

/-- The list that is cleared before the walk. -/
def emptyList : RecentPhotoList where
  items := Vector.replicate limit ⟨[], ⟨0, 0⟩, 0⟩
  count := 0

/-- `find_recent_photos`, with the files that the walk visits. -/
def findRecentPhotos (visits : List Visit) : Except Fault (Option RecentPhotoList) :=
  visits.foldlM collectRecentPhoto (some emptyList)

/-! ### The array and the list it holds -/

/-- The time of a photo, by seconds and then by nanoseconds. -/
def modifiedKey (photo : RecentPhoto) : ℤ ×ₗ ℤ := toLex (photo.modified.sec, photo.modified.nsec)

def RecentPhotoList.listed (list : RecentPhotoList) : List RecentPhoto :=
  list.items.toList.take list.count

theorem photoIsNewer_eq (path : Text) (st : Stat) (existing : RecentPhoto) :
    photoIsNewer st existing = TopList.isBelow modifiedKey (photoOf path st) existing := by
  rw [Bool.eq_iff_iff, TopList.isBelow, decide_eq_true_eq, modifiedKey, modifiedKey,
    Prod.Lex.toLex_lt_toLex]
  simp only [photoIsNewer, photoOf, Bool.or_eq_true, Bool.and_eq_true, decide_eq_true_eq,
    beq_iff_eq]
  rw [eq_comm (a := st.mtim.sec)]

section Array

variable {items : Vector RecentPhoto limit} {index : Nat} {photo : RecentPhoto}

theorem read_eq (stored : items[index]? = some photo) : read items index = .ok photo := by
  rw [read, stored]

theorem write_eq (photo : RecentPhoto) (inside : index < limit) :
    write items index photo = .ok (items.set index photo inside) := by
  rw [write, dif_pos inside]

theorem exists_item (items : Vector RecentPhoto limit) (inside : index < limit) :
    ∃ photo, items[index]? = some photo :=
  ⟨items[index], Vector.getElem?_eq_getElem inside⟩

theorem scan_succ (st : Stat) (stored : items[index]? = some photo) :
    scan st items (index + 1) =
      if photoIsNewer st photo then scan st items index else .ok (index + 1) := by
  rw [scan, read_eq stored]
  rfl

theorem shift_succ {position : Nat} (behind : position < index + 1)
    (inside : index + 1 < limit) (stored : items[index]? = some photo) :
    shift position (index + 1) items =
      shift position index (items.set (index + 1) photo inside) := by
  rw [shift, if_pos behind, read_eq stored]
  show (write items (index + 1) photo >>= shift position index) = _
  rw [write_eq photo inside]
  rfl

theorem scan_eq (path : Text) (st : Stat) (items : Vector RecentPhoto limit) {position : Nat}
    (inside : position ≤ limit) :
    scan st items position =
      .ok (TopList.place modifiedKey (photoOf path st) (items.toList.take position)) := by
  induction position with
  | zero => rfl
  | succ position hypothesis =>
    obtain ⟨existing, stored⟩ := exists_item items inside
    have longer : items.toList.take (position + 1) = items.toList.take position ++ [existing] := by
      rw [List.take_add_one, Vector.getElem?_toList, stored]
      rfl
    have short : (items.toList.take position).length = position := by
      rw [List.length_take, Vector.length_toList]
      exact min_eq_left (Nat.le_of_succ_le inside)
    rw [scan_succ st stored, longer, TopList.place_concat, photoIsNewer_eq path, short,
      hypothesis (Nat.le_of_succ_le inside)]
    split <;> rfl

theorem shift_spec (position : Nat) (items : Vector RecentPhoto limit) (inside : index < limit) :
    ∃ moved, shift position index items = .ok moved ∧ ∀ place, moved[place]? =
      if position < place ∧ place ≤ index then items[place - 1]? else items[place]? := by
  induction index generalizing items with
  | zero => exact ⟨items, rfl, fun place => (if_neg (by omega)).symm⟩
  | succ index hypothesis =>
    by_cases behind : position < index + 1
    · obtain ⟨photo, stored⟩ := exists_item items (Nat.lt_of_succ_lt inside)
      obtain ⟨moved, isMoved, places⟩ :=
        hypothesis (items.set (index + 1) photo inside) (Nat.lt_of_succ_lt inside)
      refine ⟨moved, (shift_succ behind inside stored).trans isMoved, fun place => ?_⟩
      rw [places]
      by_cases within : position < place ∧ place ≤ index
      · rw [if_pos within, if_pos ⟨within.1, Nat.le_succ_of_le within.2⟩, Vector.getElem?_set,
          if_neg (by omega)]
      · rw [if_neg within, Vector.getElem?_set]
        by_cases last : index + 1 = place
        · subst last
          rw [if_pos rfl, if_pos ⟨behind, le_rfl⟩, Nat.add_sub_cancel, stored]
        · rw [if_neg last, if_neg (by omega)]
    · refine ⟨items, ?_, fun place => (if_neg (by omega)).symm⟩
      rw [shift, if_neg behind]

end Array

/-! ### One photo -/

variable {list : RecentPhotoList}

theorem length_listed (fits : list.count ≤ limit) : list.listed.length = list.count := by
  rw [RecentPhotoList.listed, List.length_take, Vector.length_toList, min_eq_left fits]

theorem getElem?_listed (list : RecentPhotoList) (index : Nat) :
    list.listed[index]? = if index < list.count then list.items[index]? else none := by
  rw [RecentPhotoList.listed, List.getElem?_take, Vector.getElem?_toList]

theorem insertPhoto_spec (fits : list.count ≤ limit)
    (ordered : list.listed.Pairwise fun first second => modifiedKey second ≤ modifiedKey first)
    (path : Text) (st : Stat) :
    ∃ after, insertPhoto list path st = .ok after ∧ after.count ≤ limit ∧
      after.listed = (TopList.insert modifiedKey (photoOf path st) list.listed).take limit := by
  have found : scan st list.items (if limit < list.count then limit else list.count) =
      .ok (TopList.place modifiedKey (photoOf path st) list.listed) := by
    rw [if_neg (not_lt.mpr fits)]
    exact scan_eq path st list.items fits
  have within : TopList.place modifiedKey (photoOf path st) list.listed ≤ list.count :=
    (TopList.place_le _ _).trans_eq (length_listed fits)
  have inserted := TopList.getElem?_insert (photoOf path st) ordered
  unfold insertPhoto
  rw [found]
  generalize TopList.place modifiedKey (photoOf path st) list.listed = position at within inserted
  show ∃ after, (if limit ≤ position then Except.ok list else _) = _ ∧ _
  by_cases full : limit ≤ position
  · refine ⟨list, if_pos full, fits, List.ext_getElem? fun index => ?_⟩
    rw [List.getElem?_take, inserted, getElem?_listed]
    by_cases kept : index < limit
    · rw [if_pos kept, if_pos (kept.trans_le full)]
    · rw [if_neg kept, if_neg fun listed => kept (listed.trans_le fits)]
  · have room : position < limit := not_le.mp full
    rw [if_neg full]
    generalize isCount : (if list.count < limit then list.count + 1 else list.count) = count
    have counted : count = min limit (list.count + 1) := by
      rw [← isCount]
      split <;> omega
    obtain ⟨moved, isMoved, places⟩ := shift_spec position list.items
      (show count - 1 < limit by omega)
    refine ⟨⟨moved.set position (photoOf path st) room, count⟩, ?_, ?_, ?_⟩
    · show (shift position (count - 1) list.items >>= fun items => _) = _
      rw [isMoved]
      show (write moved position (photoOf path st) >>= fun items => _) = _
      rw [write_eq _ room]
      rfl
    · exact counted ▸ Nat.min_le_left _ _
    · refine List.ext_getElem? fun index => ?_
      rw [getElem?_listed, List.getElem?_take, inserted, getElem?_listed, getElem?_listed]
      show (if index < count then (moved.set position (photoOf path st) room)[index]? else none) = _
      rw [Vector.getElem?_set, places]
      -- every index is in front of the position, at it, behind it or outside the list
      rcases Nat.lt_trichotomy index position with before | rfl | behind
      · have listed : index < count := by omega
        rw [if_pos listed, if_neg before.ne', if_neg fun moved => before.asymm moved.1,
          if_pos (before.trans room), if_pos before, if_pos (before.trans_le within)]
      · have listed : index < count := by omega
        rw [if_pos listed, if_pos rfl, if_pos room, if_neg (lt_irrefl _), if_pos rfl]
      · rw [if_neg behind.ne, if_neg behind.asymm, if_neg behind.ne']
        by_cases listed : index < count
        · have kept : index < limit := by omega
          have stored : index - 1 < list.count := by omega
          rw [if_pos listed, if_pos ⟨behind, Nat.le_sub_one_of_lt listed⟩, if_pos kept,
            if_pos stored]
        · rw [if_neg listed]
          by_cases kept : index < limit
          · have free : ¬ index - 1 < list.count := by omega
            rw [if_pos kept, if_neg free]
          · rw [if_neg kept]

/-! ### All photos of a walk -/

def imageFile (visit : Visit) : Option RecentPhoto :=
  visit.stat.bind fun st =>
    if visit.type = .file ∧ mimeIsImage (fileMimeType visit.path) = true then
      some ⟨visit.path, st.mtim, st.size⟩
    else none

/-- The photo that a visited file is, if it is an image and its path fits its buffer. -/
def photo (visit : Visit) : Option RecentPhoto :=
  if visit.path.length < pathMax then imageFile visit else none

def imageFiles (visits : List Visit) : List RecentPhoto := visits.filterMap imageFile

/-- The image files with a path that fits its buffer. -/
def photos (visits : List Visit) : List RecentPhoto := visits.filterMap photo

theorem photos_of_short {visits : List Visit}
    (short : ∀ visit ∈ visits, visit.path.length < pathMax) : photos visits = imageFiles visits :=
  List.filterMap_congr fun visit visited => if_pos (short visit visited)

section Visit

variable {visit : Visit} {stored : RecentPhoto}

theorem collect_of_none (list : RecentPhotoList) (other : photo visit = none) :
    collectRecentPhoto (some list) visit = .ok (some list) := by
  unfold collectRecentPhoto
  split
  · next st isList hasStat =>
    cases isList
    refine if_pos ?_
    by_contra isPhoto
    push Not at isPhoto
    obtain ⟨isFile, isImage, short⟩ := isPhoto
    rw [photo, if_pos short, imageFile, hasStat, bind_some,
      if_pos ⟨isFile, eq_true_of_ne_false isImage⟩] at other
    exact some_ne_none _ other
  · rfl

theorem collect_of_some (list : RecentPhotoList) (isPhoto : photo visit = some stored) :
    ∃ st, photoOf visit.path st = stored ∧ collectRecentPhoto (some list) visit =
      insertPhoto list visit.path st >>= fun list => .ok (some list) := by
  have short : visit.path.length < pathMax := by
    by_contra long
    rw [photo, if_neg long] at isPhoto
    exact absurd isPhoto (some_ne_none _).symm
  rw [photo, if_pos short, imageFile, bind_eq_some_iff] at isPhoto
  obtain ⟨st, hasStat, isPhoto⟩ := isPhoto
  obtain ⟨⟨isFile, isImage⟩, isStored⟩ := ite_none_right_eq_some.mp isPhoto
  cases isStored
  refine ⟨st, ?_, ?_⟩
  · rw [photoOf, List.take_of_length_le (Nat.le_sub_one_of_lt short)]
  · unfold collectRecentPhoto
    rw [hasStat]
    refine if_neg ?_
    rintro (notFile | notImage | long)
    · exact notFile isFile
    · exact absurd (isImage.symm.trans notImage) Bool.true_eq_false.mp
    · exact absurd short (not_lt.mpr long)

end Visit

/-- The list after some photos. -/
structure Holds (list : RecentPhotoList) (all : List RecentPhoto) : Prop where
  fits : list.count ≤ limit
  listed : list.listed = (TopList.sorted modifiedKey all).take limit

theorem Holds.ordered {all : List RecentPhoto} (holds : Holds list all) :
    list.listed.Pairwise fun first second => modifiedKey second ≤ modifiedKey first := by
  rw [holds.listed]
  exact (TopList.pairwise_sorted all).sublist (List.take_sublist _ _)

theorem holds_empty : Holds emptyList [] := ⟨Nat.zero_le _, rfl⟩

theorem collectRecentPhoto_holds {all : List RecentPhoto} (holds : Holds list all) (visit : Visit) :
    ∃ after, collectRecentPhoto (some list) visit = .ok (some after) ∧
      Holds after (all ++ photos [visit]) := by
  cases isPhoto : photo visit with
  | none =>
    refine ⟨list, collect_of_none list isPhoto, ?_⟩
    rwa [photos, List.filterMap_cons_none isPhoto, List.filterMap_nil, List.append_nil]
  | some stored =>
    obtain ⟨st, rfl, collects⟩ := collect_of_some list isPhoto
    obtain ⟨after, inserts, fits, listed⟩ := insertPhoto_spec holds.fits holds.ordered visit.path st
    refine ⟨after, ?_, fits, ?_⟩
    · rw [collects, inserts]
      rfl
    · rw [listed, holds.listed, TopList.take_insert_take, photos, List.filterMap_cons_some isPhoto,
        List.filterMap_nil, TopList.sorted_concat]

theorem foldlM_holds {all : List RecentPhoto} (holds : Holds list all) (visits : List Visit) :
    ∃ after, visits.foldlM collectRecentPhoto (some list) = .ok (some after) ∧
      Holds after (all ++ photos visits) := by
  induction visits generalizing list all with
  | nil => exact ⟨list, rfl, by rwa [photos, List.filterMap_nil, List.append_nil]⟩
  | cons visit later hypothesis =>
    obtain ⟨next, isNext, nextHolds⟩ := collectRecentPhoto_holds holds visit
    obtain ⟨after, isAfter, afterHolds⟩ := hypothesis nextHolds
    refine ⟨after, ?_, ?_⟩
    · rw [List.foldlM_cons, isNext]
      exact isAfter
    · have joined : photos (visit :: later) = photos [visit] ++ photos later :=
        List.filterMap_append (l := [visit])
      rwa [joined, ← List.append_assoc]

/-- The list of recent photos is exactly the twelve most recent ones, the newest first and photos of
the same time in the order of their visits, whatever the walk visits, and no index is outside the
array. -/
theorem findRecentPhotos_top (visits : List Visit) :
    ∃ list, findRecentPhotos visits = .ok (some list) ∧
      list.count = min limit (photos visits).length ∧
      TopList.Top modifiedKey limit (photos visits) list.listed ∧
      ((∀ visit ∈ visits, visit.path.length < pathMax) → photos visits = imageFiles visits) := by
  obtain ⟨list, found, holds⟩ := foldlM_holds holds_empty visits
  rw [List.nil_append] at holds
  refine ⟨list, found, ?_, ?_, photos_of_short⟩
  · rw [← length_listed holds.fits, holds.listed, List.length_take, TopList.length_sorted]
  · rw [holds.listed]
    exact TopList.top_take modifiedKey limit _

end RecentPhotos
