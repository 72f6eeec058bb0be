/-
This file follows the pointers of an EXIF block. They are put into the first directory once the
directories they lead to are written, which changes four bytes of an entry and no place. So a block
is as long as what was put into it, and what is read of it is what was meant.
-/

import CameraGimbal.ExifBlock

namespace Exif

open List

/-! ### Slots -/

abbrev pointer (tag : UInt16) (offset : UInt32) : Field := (Put.long tag offset).field

theorem pointer_proper (tag : UInt16) (offset : UInt32) : (pointer tag offset).Proper := by
  have fits : (putU32 offset).length ≤ entryRoom := by
    rw [putU32_length]
    decide
  exact ⟨rfl, rfl, fits⟩

theorem store_middle (before behind : Bytes) {old new : Bytes} (same : new.length = old.length) :
    store (before ++ (old ++ behind)) before.length new = before ++ (new ++ behind) := by
  rw [store, take_left, same, ← append_assoc, ← length_append, drop_left, append_assoc]

open Exif.Field

theorem entriesBytes_append {front : List Field} (proper : ∀ field ∈ front, field.Proper)
    (rest : List TiffEntry) (dataOffset : Nat) :
    entriesBytes dataOffset (front.map entry ++ rest) =
      entriesBytes dataOffset (front.map entry) ++
        entriesBytes (front.foldl (fun offset field => field.dataAfter offset) dataOffset)
          rest := by
  induction front generalizing dataOffset with
  | nil => rfl
  | cons field tail hypothesis =>
    have isProper := proper field mem_cons_self
    have tailProper := fun other member => proper other (mem_cons_of_mem field member)
    rw [map_cons, cons_append, isProper.entriesBytes_cons, isProper.entriesBytes_cons,
      hypothesis tailProper, append_assoc, foldl_cons]

theorem directoryBytes_slot {front : List Field} (proper : ∀ field ∈ front, field.Proper)
    (back : List Field) (tag : UInt16) (offset : Nat) :
    ∃ before behind : Bytes, before.length = 2 + 12 * front.length + 8 ∧ ∀ value,
      directoryBytes offset ((front ++ pointer tag value :: back).map entry) =
        before ++ (putU32 value ++ behind) := by
  let dataOffset := offset + 2 + (front.length + (back.length + 1)) * 12 + 4
  let dataMiddle := front.foldl (fun offset field => field.dataAfter offset) dataOffset
  refine ⟨putU16 (.ofNat (front.length + (back.length + 1))) ++
      (entriesBytes dataOffset (front.map entry) ++ (pointer tag 0).head),
    entriesBytes dataMiddle (back.map entry) ++ ([0, 0, 0, 0] ++
      ((front.map entry).flatMap outOfLine ++ (back.map entry).flatMap outOfLine)),
    ?_, fun value => ?_⟩
  · rw [length_append, length_append, entriesBytes_length proper, putU16_length, add_assoc]
    rfl
  · have isProper := pointer_proper tag value
    have short : (pointer tag value).content.length ≤ 4 := le_refl 4
    have same : (pointer tag value).dataAfter dataMiddle = dataMiddle := if_pos short
    have slot : (pointer tag value).slot dataMiddle = putU32 value := by
      rw [slot, if_pos short]
      exact append_nil _
    rw [directoryBytes, map_append, map_cons, entriesBytes_append proper,
      isProper.entriesBytes_cons, flatMap_append, flatMap_cons,
      isProper.outOfLine_short short, isProper.raw]
    simp only [length_append, length_cons, length_map]
    rw [show front.foldl (fun offset field => field.dataAfter offset) _ = dataMiddle from rfl,
      same, slot]
    simp only [append_assoc, nil_append]
    rfl

/-- Put an offset into the pointers of a tag. -/
def point (tag : UInt16) (offset : UInt32) (field : Field) : Field :=
  if field.tag = tag then { field with content := putU32 offset } else field

theorem point_tag (tag : UInt16) (offset : UInt32) (field : Field) :
    (point tag offset field).tag = field.tag := by
  unfold point
  split <;> rfl

variable {fields : List Field}

theorem map_point_of_ne {tag : UInt16}
    (others : ∀ field ∈ fields, field.tag ≠ tag) (offset : UInt32) :
    fields.map (point tag offset) = fields := by
  refine (map_congr_left fun field member => ?_).trans (map_id fields)
  exact if_neg (others field member)

/-- Storing an offset where a directory has the pointer of a tag changes this pointer only. -/
theorem store_point (proper : ∀ field ∈ fields, field.Proper)
    (distinct : (fields.map tag).Nodup) {tag : UInt16} {old : UInt32}
    (member : pointer tag old ∈ fields) (before behind : Bytes) (found : Nat) (offset : UInt32) :
    slotPlace tag (before.length + 2) found (fields.map entry) + 4 ≤
        before.length + (directoryBytes before.length (fields.map entry)).length ∧
      store (before ++ (directoryBytes before.length (fields.map entry) ++ behind))
          (slotPlace tag (before.length + 2) found (fields.map entry)) (putU32 offset) =
        before ++ (directoryBytes before.length
          ((fields.map (point tag offset)).map entry) ++ behind) := by
  obtain ⟨front, back, rfl⟩ := append_of_mem member
  have frontProper := fun field isFront => proper field (mem_append_left _ isFront)
  rw [map_append, map_cons] at distinct
  obtain ⟨-, backDistinct, apart⟩ := nodup_append.mp distinct
  have frontOthers : ∀ field ∈ front, field.tag ≠ tag := fun field isFront =>
    apart field.tag (mem_map_of_mem isFront) tag mem_cons_self
  have backOthers : ∀ field ∈ back, field.tag ≠ tag := fun field isBack same =>
    (nodup_cons.mp backDistinct).1 (mem_map.mpr ⟨field, isBack, same⟩)
  have pointed : (front ++ pointer tag old :: back).map (point tag offset) =
      front ++ pointer tag offset :: back := by
    have one : point tag offset (pointer tag old) = pointer tag offset := if_pos rfl
    rw [map_append, map_cons, map_point_of_ne frontOthers, map_point_of_ne backOthers, one]
  have place : slotPlace tag (before.length + 2) found
      ((front ++ pointer tag old :: back).map entry) =
        before.length + 2 + 12 * front.length + 8 := by
    have isTag : (pointer tag old).entry.tag = tag := rfl
    rw [map_append, map_cons]
    refine (slotPlace_split isTag (fun other isBack => ?_) _ _).trans ?_
    · obtain ⟨field, isField, rfl⟩ := mem_map.mp isBack
      exact backOthers field isField
    · rw [length_map]
  obtain ⟨head, tail, headLength, bytes⟩ := directoryBytes_slot frontProper back tag before.length
  have begins : before.length + 2 + 12 * front.length + 8 = (before ++ head).length := by
    rw [length_append, headLength]
    omega
  rw [place, pointed, bytes, bytes, begins]
  constructor
  · rw [length_append, length_append, length_append, putU32_length]
    omega
  · have same : (putU32 offset).length = (putU32 old).length := rfl
    simpa only [append_assoc] using store_middle (before ++ head) (tail ++ behind) same

/-! ### What was put -/

def pointers (gps : Bool) (exifAt gpsAt : UInt32) : List Put :=
  .long 0x8769 exifAt :: if gps then [.long 0x8825 gpsAt] else []

theorem withPointers_fill (puts : List Put) (gps : Bool) :
    withPointers (fill puts) gps = fill (puts ++ pointers gps 0 0) := by
  unfold withPointers fill pointers
  rw [foldl_append]
  cases gps <;> rfl

def Field.outside (field : Field) : Nat :=
  if field.content.length ≤ 4 then 0 else evenSize field.content.length

/-- The bytes that a call takes in a directory. -/
def Put.size (put : Put) : Nat := 12 + put.field.outside

def directorySize (puts : List Put) : Nat := 2 + (puts.map Put.size).sum + 4

/-- The bytes of the calls for a directory, if it begins at the offset. -/
def putBytes (offset : Nat) (puts : List Put) : Bytes :=
  directoryBytes offset ((inOrder (puts.map Put.field)).map Field.entry)

variable {puts : List Put}

theorem Accepted.inOrder_proper (accepted : Accepted puts) :
    ∀ field ∈ inOrder (puts.map Put.field), field.Proper := fun field member =>
  accepted.proper field ((inOrder_perm (puts.map Put.field)).mem_iff.mp member)

theorem outOfLine_flatMap_length (proper : ∀ field ∈ fields, field.Proper) :
    ((fields.map entry).flatMap outOfLine).length = (fields.map outside).sum := by
  rw [length_flatMap, map_map]
  exact congrArg sum (map_congr_left fun field member => (proper field member).outOfLine_length)

theorem putBytes_length (accepted : Accepted puts) (offset : Nat) :
    (putBytes offset puts).length = directorySize puts := by
  have perm := inOrder_perm (puts.map Put.field)
  have data := outOfLine_flatMap_length accepted.inOrder_proper
  rw [(perm.map outside).sum_eq, map_map] at data
  have sizes : (puts.map Put.size).sum =
      12 * puts.length + (puts.map (outside ∘ Put.field)).sum := by
    unfold Put.size
    rw [sum_map_add, map_const', sum_replicate_nat, mul_comm]
    rfl
  have four : [(0 : UInt8), 0, 0, 0].length = 4 := rfl
  rw [putBytes, directoryBytes, length_append, length_append, length_append,
    putU16_length, entriesBytes_length accepted.inOrder_proper, perm.length_eq, length_map,
    data, directorySize, sizes, four]
  omega

theorem inOrder_map {change : Field → Field} (same : ∀ field, (change field).tag = field.tag)
    (fields : List Field) : inOrder (fields.map change) = (inOrder fields).map change := by
  refine (map_insertionSort _ _ change fields fun first _ second _ => ?_).symm
  rw [same, same]

/-- The calls that are left of a list after one place, in the file that was written. -/
theorem putBytes_point (before behind : Bytes) {puts changed : List Put}
    (accepted : Accepted puts) {tag : UInt16} {old offset : UInt32} (member : .long tag old ∈ puts)
    (change : changed.map Put.field = (puts.map Put.field).map (point tag offset)) (found : Nat) :
    slotPlace tag (before.length + 2) found ((inOrder (puts.map Put.field)).map Field.entry) + 4 ≤
        before.length + (putBytes before.length puts).length ∧
      store (before ++ (putBytes before.length puts ++ behind))
          (slotPlace tag (before.length + 2) found
            ((inOrder (puts.map Put.field)).map Field.entry)) (putU32 offset) =
        before ++ (putBytes before.length changed ++ behind) := by
  have perm := inOrder_perm (puts.map Put.field)
  have distinct : ((inOrder (puts.map Put.field)).map Field.tag).Nodup := by
    rw [(perm.map Field.tag).nodup_iff, map_map]
    exact accepted.distinct
  have isMember : pointer tag old ∈ inOrder (puts.map Put.field) :=
    perm.mem_iff.mpr (mem_map_of_mem member)
  have stored := store_point accepted.inOrder_proper distinct isMember before behind found offset
  rw [← inOrder_map (point_tag tag offset), ← change] at stored
  exact stored

/-! ### The file -/

/-- The file is these bytes if they fit, and is given up otherwise. -/
structure Wrote (output : Bytes) (capacity : Nat) (bytes : Bytes) (tiff : Tiff) : Prop where
  sound : Sound output tiff
  room : tiff.capacity = capacity
  written : tiff.written = if bytes.length ≤ capacity then some bytes else none

section Wrote

variable {output bytes : Bytes} {capacity : Nat} {tiff : Tiff}

theorem Wrote.fits (wrote : Wrote output capacity bytes tiff) (fits : tiff.overflow = false) :
    bytes.length ≤ capacity ∧ tiff.length = bytes.length := by
  have written := wrote.written
  rw [written_some fits] at written
  split at written
  · rename_i enough
    have same := wrote.sound.written_length (written_some fits)
    exact ⟨enough, same.symm.trans (congrArg length (Option.some.inj written))⟩
  · cases written

theorem Wrote.append (wrote : Wrote output capacity bytes tiff) {longer : Tiff}
    {data : Nat → Bytes} (appends : Appends output tiff data longer) :
    Wrote output capacity (bytes ++ data bytes.length) longer := by
  refine ⟨appends.sound, appends.capacity.trans wrote.room, ?_⟩
  rw [appends.written, wrote.written, wrote.room, length_append]
  by_cases enough : bytes.length ≤ capacity
  · rw [if_pos enough, Option.bind_some]
  · rw [if_neg enough, Option.bind_none, if_neg]
    omega

theorem Wrote.patch (wrote : Wrote output capacity bytes tiff) {place offset slot target : Nat}
    (known : tiff.overflow = false → place = slot ∧ offset = target)
    (inside : slot + 4 ≤ bytes.length) :
    Wrote output capacity (store bytes slot (putU32 (.ofNat target)))
      (patch tiff place offset) := by
  have length : (store bytes slot (putU32 (.ofNat target))).length = bytes.length :=
    store_length inside
  cases overflow : tiff.overflow with
  | true =>
    have same : Exif.patch tiff place offset = tiff := if_pos overflow
    have written := wrote.written
    rw [written_none overflow] at written
    rw [same]
    refine ⟨wrote.sound, wrote.room, ?_⟩
    rw [written_none overflow, length]
    split at written
    · cases written
    · rename_i long
      rw [if_neg long]
  | false =>
    obtain ⟨rfl, rfl⟩ := known overflow
    obtain ⟨enough, isLength⟩ := wrote.fits overflow
    obtain ⟨sound, sameCapacity, written⟩ :=
      patch_written wrote.sound place offset fun _ => isLength ▸ inside
    refine ⟨sound, sameCapacity.trans wrote.room, ?_⟩
    rw [written, wrote.written, length, if_pos enough, if_pos enough]
    rfl

end Wrote

/-! ### The block -/

/-- Where the EXIF directory begins. -/
def exifOffset (ifd0 : List Put) (gps : Bool) : Nat :=
  8 + directorySize (ifd0 ++ pointers gps 0 0)

/-- Where the GPS directory begins. -/
def gpsOffset (ifd0 exif : List Put) (gps : Bool) : Nat :=
  exifOffset ifd0 gps + directorySize exif

/-- The first directory, whose pointers lead to the others. -/
def ifd0Puts (ifd0 exif : List Put) (gps : Bool) : List Put :=
  ifd0 ++ pointers gps (.ofNat (exifOffset ifd0 gps)) (.ofNat (gpsOffset ifd0 exif gps))

def fileBytes (ifd0 exif : List Put) (gps : Option (List Put)) : Bytes :=
  tiffHeader ++ (putBytes 8 (ifd0Puts ifd0 exif gps.isSome) ++
    (putBytes (exifOffset ifd0 gps.isSome) exif ++
      (gps.map (putBytes (gpsOffset ifd0 exif gps.isSome))).getD []))

theorem pointers_accepted (gps : Bool) (exifAt gpsAt : UInt32) :
    ∀ put ∈ pointers gps exifAt gpsAt, put.Typed ∧ put.field.content.length ≤ entryRoom := by
  have long : ∀ tag value, (Put.long tag value).Typed ∧
      (Put.long tag value).field.content.length ≤ entryRoom := fun tag value =>
    ⟨trivial, (pointer_proper tag value).fits⟩
  intro put member
  unfold pointers at member
  rcases mem_cons.mp member with rfl | isGps
  · exact long _ _
  · cases gps with
    | false => exact absurd isGps not_mem_nil
    | true =>
      rw [mem_singleton.mp isGps]
      exact long _ _

theorem Accepted.pointers {ifd0 : List Put} {gps : Bool} {exifAt gpsAt : UInt32}
    (accepted : Accepted (ifd0 ++ pointers gps exifAt gpsAt)) (exifNow gpsNow : UInt32) :
    Accepted (ifd0 ++ Exif.pointers gps exifNow gpsNow) := by
  have length : (Exif.pointers gps exifNow gpsNow).length =
      (Exif.pointers gps exifAt gpsAt).length := by
    cases gps <;> rfl
  have tags : (Exif.pointers gps exifNow gpsNow).map (fun put => put.field.tag) =
      (Exif.pointers gps exifAt gpsAt).map fun put => put.field.tag := by
    cases gps <;> rfl
  refine ⟨fun put member => ?_, fun put member => ?_, ?_, ?_⟩
  · rcases mem_append.mp member with isFirst | isPointer
    · exact accepted.typed put (mem_append_left _ isFirst)
    · exact (pointers_accepted gps exifNow gpsNow put isPointer).1
  · rcases mem_append.mp member with isFirst | isPointer
    · exact accepted.fits put (mem_append_left _ isFirst)
    · exact (pointers_accepted gps exifNow gpsNow put isPointer).2
  · rw [length_append, length, ← length_append]
    exact accepted.few
  · rw [map_append, tags, ← map_append]
    exact accepted.distinct

theorem Accepted.other_tag {front back : List Put} (accepted : Accepted (front ++ back))
    {put : Put} (member : put ∈ back) :
    ∀ field ∈ front.map Put.field, field.tag ≠ put.field.tag := by
  intro field isField
  obtain ⟨early, isEarly, rfl⟩ := mem_map.mp isField
  have distinct := accepted.distinct
  rw [map_append] at distinct
  exact (nodup_append.mp distinct).2.2 _ (mem_map_of_mem isEarly) _ (mem_map_of_mem member)

theorem pointers_exif {ifd0 : List Put} {gps : Bool} {exifAt gpsAt : UInt32}
    (accepted : Accepted (ifd0 ++ pointers gps exifAt gpsAt)) (offset : UInt32) :
    (ifd0 ++ pointers gps offset gpsAt).map Put.field =
      ((ifd0 ++ pointers gps exifAt gpsAt).map Put.field).map (point 0x8769 offset) := by
  have others := accepted.other_tag mem_cons_self
  rw [map_append, map_append, map_append]
  refine congrArg₂ _ (map_point_of_ne others offset).symm ?_
  cases gps <;> rfl

theorem pointers_gps {ifd0 : List Put} {exifAt gpsAt : UInt32}
    (accepted : Accepted (ifd0 ++ pointers true exifAt gpsAt)) (offset : UInt32) :
    (ifd0 ++ pointers true exifAt offset).map Put.field =
      ((ifd0 ++ pointers true exifAt gpsAt).map Put.field).map (point 0x8825 offset) := by
  have others := accepted.other_tag (mem_cons_of_mem _ mem_cons_self)
  rw [map_append, map_append, map_append]
  exact congrArg₂ _ (map_point_of_ne others offset).symm rfl

theorem directorySize_pointers (ifd0 : List Put) (gps : Bool) (exifAt gpsAt : UInt32) :
    directorySize (ifd0 ++ pointers gps exifAt gpsAt) =
      directorySize (ifd0 ++ pointers gps 0 0) := by
  unfold directorySize
  rw [map_append, map_append]
  cases gps <;> rfl

theorem slotPlace_point (tag other : UInt16) (offset : UInt32) (fields : List Field)
    (place found : Nat) :
    slotPlace tag place found ((fields.map (point other offset)).map entry) =
      slotPlace tag place found (fields.map entry) := by
  induction fields generalizing place found with
  | nil => rfl
  | cons field rest hypothesis =>
    have same : (point other offset field).entry.tag = field.entry.tag := point_tag _ _ _
    rw [map_cons, map_cons, slotPlace, same, hypothesis]
    rfl

section Block

variable {output : Bytes} {capacity : Nat} {bytes : Bytes} {tiff : Tiff}

theorem Wrote.directory (wrote : Wrote output capacity bytes tiff)
    (accepted : Accepted puts) (places : Pointers) :
    Wrote output capacity (bytes ++ putBytes bytes.length puts)
      (tiffWriteIfd tiff (fill puts) places).1 := by
  have appended := wrote.append (tiffWriteIfd_appends wrote.sound (fill puts) places)
  rw [accepted.fill_eq, sorted_entries] at appended
  rw [accepted.fill_eq]
  exact appended

end Block

/-- The block has these bytes behind its prefix if they fit, it is nothing otherwise, and the memory
behind the room is what it was. -/
structure Returned (output : Bytes) (capacity : Nat) (bytes : Bytes) (result : Bytes × Nat) :
    Prop where
  size : result.1.length = output.length
  behind : result.1.drop capacity = output.drop capacity
  fits : exifPrefix.length + bytes.length ≤ capacity →
    result.2 = exifPrefix.length + bytes.length ∧ result.1.take result.2 = exifPrefix ++ bytes
  long : capacity < exifPrefix.length + bytes.length → result.2 = 0

/-- The file that was begun. -/
def begun (output : Bytes) (capacity : Nat) : Tiff :=
  { memory := store output 0 exifPrefix
    capacity := capacity - exifPrefix.length
    length := 0
    overflow := false }

/-- The file after the first directory. -/
def firstWritten (output : Bytes) (capacity : Nat) (ifd0 : Ifd) : Tiff × Pointers × Nat :=
  tiffWriteIfd (tiffAppend (begun output capacity) tiffHeader) ifd0 ⟨0, 0⟩

/-- The file after the pointer to the second directory is put. -/
def secondWritten (output : Bytes) (capacity : Nat) (ifd0 exif : Ifd) : Tiff :=
  let first := firstWritten output capacity ifd0
  let second := tiffWriteIfd first.1 exif first.2.1
  patch second.1 first.2.1.exif second.2.2

theorem patch_overflow (tiff : Tiff) (place offset : Nat) :
    (patch tiff place offset).overflow = tiff.overflow := by
  unfold patch
  split <;> rfl

/-- Where the first directory has the pointer of a tag. -/
def slotOf (tag : UInt16) (ifd0 : List Put) : Nat :=
  slotPlace tag 10 0 ((inOrder (ifd0.map Put.field)).map Field.entry)

section Block

variable {output : Bytes} {capacity : Nat} (room : capacity ≤ output.length)
  (prefixed : exifPrefix.length ≤ capacity)

include room prefixed

theorem begun_wrote : Wrote output (capacity - exifPrefix.length) [] (begun output capacity) := by
  have whole : exifPrefix.length + (capacity - exifPrefix.length) = capacity :=
    Nat.add_sub_cancel' prefixed
  refine ⟨⟨?_, Nat.zero_le _, ?_, ?_, ?_⟩, rfl, ?_⟩
  · exact whole.trans_le room
  · exact store_length (by omega)
  · exact take_left
  · exact drop_store (Nat.le_add_right _ _) (whole.trans_le room)
  · exact (written_some rfl).trans (if_pos (Nat.zero_le _)).symm

theorem header_wrote : Wrote output (capacity - exifPrefix.length) tiffHeader
    (tiffAppend (begun output capacity) tiffHeader) :=
  (begun_wrote room prefixed).append (tiffAppend_appends (begun_wrote room prefixed).sound _)

variable {ifd0 : List Put}

theorem first_wrote (accepted : Accepted ifd0) : Wrote output (capacity - exifPrefix.length)
    (tiffHeader ++ putBytes 8 ifd0) (firstWritten output capacity (fill ifd0)).1 :=
  (header_wrote room prefixed).directory accepted ⟨0, 0⟩

theorem first_places (accepted : Accepted ifd0)
    (fits : (firstWritten output capacity (fill ifd0)).1.overflow = false) :
    (firstWritten output capacity (fill ifd0)).2.1 = ⟨slotOf 0x8769 ifd0, slotOf 0x8825 ifd0⟩ := by
  have header := header_wrote room prefixed
  have appended := tiffWriteIfd_appends header.sound (fill ifd0) ⟨0, 0⟩
  have length := (header.fits (appended.fits header.sound fits).1).2
  have isSorted : sorted (fill ifd0) = (inOrder (ifd0.map Put.field)).map entry := by
    rw [accepted.fill_eq, sorted_entries]
  have places := tiffWriteIfd_places header.sound accepted.inOrder_proper isSorted ⟨0, 0⟩ fits
  rw [length] at places
  exact places

variable {exif : List Put} {gps : Bool}

theorem first_fits (accepted : Accepted ifd0)
    (fits : (secondWritten output capacity (fill ifd0) (fill exif)).overflow = false) :
    (firstWritten output capacity (fill ifd0)).1.overflow = false := by
  have one := first_wrote room prefixed accepted
  rw [secondWritten, patch_overflow] at fits
  exact ((tiffWriteIfd_appends one.sound (fill exif) _).fits one.sound fits).1

theorem second_wrote (accepted : Accepted (ifd0 ++ pointers gps 0 0))
    (acceptedExif : Accepted exif) :
    Wrote output (capacity - exifPrefix.length)
      (tiffHeader ++ (putBytes 8 (ifd0 ++ pointers gps (.ofNat (exifOffset ifd0 gps)) 0) ++
        putBytes (exifOffset ifd0 gps) exif))
      (secondWritten output capacity (fill (ifd0 ++ pointers gps 0 0)) (fill exif)) := by
  have one := first_wrote room prefixed accepted
  have two := one.directory acceptedExif
    (firstWritten output capacity (fill (ifd0 ++ pointers gps 0 0))).2.1
  have firstLength : (tiffHeader ++ putBytes 8 (ifd0 ++ pointers gps 0 0)).length =
      exifOffset ifd0 gps := by
    rw [length_append, putBytes_length accepted]
    rfl
  have known : (tiffWriteIfd (firstWritten output capacity (fill (ifd0 ++ pointers gps 0 0))).1
        (fill exif) (firstWritten output capacity
          (fill (ifd0 ++ pointers gps 0 0))).2.1).1.overflow = false →
      (firstWritten output capacity (fill (ifd0 ++ pointers gps 0 0))).2.1.exif =
          slotOf 0x8769 (ifd0 ++ pointers gps 0 0) ∧
        (firstWritten output capacity (fill (ifd0 ++ pointers gps 0 0))).1.length =
          exifOffset ifd0 gps := by
    intro fits
    have firstFits := first_fits room prefixed accepted ((patch_overflow _ _ _).trans fits)
    rw [first_places room prefixed accepted firstFits, (one.fits firstFits).2]
    exact ⟨rfl, firstLength⟩
  obtain ⟨inside, stored⟩ := putBytes_point tiffHeader (putBytes (exifOffset ifd0 gps) exif)
    accepted (mem_append_right ifd0 mem_cons_self)
    (pointers_exif accepted (.ofNat (exifOffset ifd0 gps))) 0
  have patched := two.patch known (inside.trans ?_)
  · rw [firstLength, append_assoc] at patched
    exact stored ▸ patched
  · have eight : tiffHeader.length = 8 := rfl
    simp only [length_append, eight]
    omega

theorem third_wrote {gpsPuts : List Put} (accepted : Accepted (ifd0 ++ pointers true 0 0))
    (acceptedExif : Accepted exif) (acceptedGps : Accepted gpsPuts) :
    let second := secondWritten output capacity (fill (ifd0 ++ pointers true 0 0)) (fill exif)
    let places := (firstWritten output capacity (fill (ifd0 ++ pointers true 0 0))).2.1
    let third := tiffWriteIfd second (fill gpsPuts) places
    Wrote output (capacity - exifPrefix.length) (fileBytes ifd0 exif (some gpsPuts))
      (patch third.1 places.gps third.2.2) := by
  intro second places third
  have two := second_wrote room prefixed accepted acceptedExif
  have three := two.directory acceptedGps places
  have secondLength : (tiffHeader ++ (putBytes 8 (ifd0 ++ pointers true
      (.ofNat (exifOffset ifd0 true)) 0) ++ putBytes (exifOffset ifd0 true) exif)).length =
        gpsOffset ifd0 exif true := by
    rw [length_append, length_append, putBytes_length (accepted.pointers _ _),
      putBytes_length acceptedExif, directorySize_pointers, ← add_assoc]
    rfl
  have known : third.1.overflow = false →
      places.gps = slotOf 0x8825 (ifd0 ++ pointers true (.ofNat (exifOffset ifd0 true)) 0) ∧
        second.length = gpsOffset ifd0 exif true := by
    intro fits
    have secondFits := ((tiffWriteIfd_appends two.sound (fill gpsPuts) places).fits two.sound
      fits).1
    have isPlaces := first_places room prefixed accepted
      (first_fits room prefixed accepted secondFits)
    refine ⟨?_, (two.fits secondFits).2.trans secondLength⟩
    rw [slotOf, pointers_exif accepted, inOrder_map (point_tag _ _), slotPlace_point]
    exact congrArg Pointers.gps isPlaces
  have acceptedPointed := accepted.pointers (.ofNat (exifOffset ifd0 true)) 0
  obtain ⟨inside, stored⟩ := putBytes_point tiffHeader (putBytes (exifOffset ifd0 true) exif ++
      putBytes (gpsOffset ifd0 exif true) gpsPuts) acceptedPointed
    (mem_append_right ifd0 (mem_cons_of_mem _ mem_cons_self))
    (pointers_gps acceptedPointed (.ofNat (gpsOffset ifd0 exif true))) 0
  have patched := three.patch known (inside.trans ?_)
  · have whole : fileBytes ifd0 exif (some gpsPuts) = _ := stored.symm
    rw [secondLength, append_assoc, append_assoc] at patched
    rw [whole]
    exact patched
  · have eight : tiffHeader.length = 8 := rfl
    simp only [length_append, eight]
    omega

omit room in
theorem Wrote.returned {bytes : Bytes} {tiff : Tiff}
    (wrote : Wrote output (capacity - exifPrefix.length) bytes tiff) :
    Returned output capacity bytes
      (tiff.memory, if tiff.overflow then 0 else tiff.length + exifPrefix.length) := by
  have whole : exifPrefix.length + (capacity - exifPrefix.length) = capacity :=
    Nat.add_sub_cancel' prefixed
  have behind := wrote.sound.behind
  rw [wrote.room, whole] at behind
  refine ⟨wrote.sound.size, behind, fun enough => ?_, fun long => ?_⟩
  · have fits : tiff.overflow = false := by
      have written := wrote.written
      rw [if_pos (by omega)] at written
      refine Bool.eq_false_iff.mpr fun overflow => ?_
      rw [written_none overflow] at written
      cases written
    have length := (wrote.fits fits).2
    have written := wrote.written
    rw [written_some fits, if_pos (by omega)] at written
    dsimp only
    rw [if_neg (by rw [fits]; exact Bool.false_ne_true), Nat.add_comm, List.take_add,
      wrote.sound.front, Option.some.inj written, length]
    exact ⟨rfl, rfl⟩
  · dsimp only
    rw [if_pos]
    by_contra short
    have fits := (wrote.fits (Bool.eq_false_iff.mpr short)).1
    omega

omit prefixed in
theorem writeExif_returned {gpsPuts : Option (List Put)}
    (accepted : Accepted (ifd0 ++ pointers gpsPuts.isSome 0 0)) (acceptedExif : Accepted exif)
    (acceptedGps : ∀ puts ∈ gpsPuts, Accepted puts) :
    Returned output capacity (fileBytes ifd0 exif gpsPuts)
      (writeExif (withPointers (fill ifd0) gpsPuts.isSome) (fill exif) (gpsPuts.map fill) output
        capacity) := by
  by_cases short : capacity < exifPrefix.length
  · rw [writeExif, if_pos short]
    exact ⟨rfl, rfl, fun enough => by omega, fun _ => rfl⟩
  · have prefixed := Nat.not_lt.mp short
    rw [writeExif, if_neg short, withPointers_fill]
    cases gpsPuts with
    | none =>
      have two := second_wrote room prefixed accepted acceptedExif
      have bytes : fileBytes ifd0 exif none = tiffHeader ++
          (putBytes 8 (ifd0 ++ pointers false (.ofNat (exifOffset ifd0 false)) 0) ++
            putBytes (exifOffset ifd0 false) exif) :=
        congrArg (tiffHeader ++ ·) (congrArg (putBytes 8 _ ++ ·) (List.append_nil _))
      rw [bytes]
      exact two.returned prefixed
    | some puts =>
      have three := third_wrote room prefixed accepted acceptedExif (acceptedGps puts rfl)
      exact three.returned prefixed

end Block

end Exif
