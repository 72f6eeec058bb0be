/-
This file reads the block that is written. Its header leads to the first directory, the pointers of
the first directory lead to the other two, and each directory has the fields that were put into it.
The segments of a photo, one of which holds the block, are read back too.
-/

import CameraGimbal.ExifPointers
import Mathlib.Algebra.Order.BigOperators.Group.List

namespace Exif

open List

/-! ### What a block means -/

/-- A directory that is read at an offset: the fields are those of the calls, in the order of their
tags, and no directory comes next. -/
def DirectoryAt (file : Bytes) (offset : Nat) (puts : List Put) : Prop :=
  ∃ directory, readDirectory file offset = some directory ∧ directory.next = 0 ∧
    (directory.fields.map Prod.fst).Perm (puts.map Put.field) ∧
    (directory.fields.map Prod.fst).Pairwise fun first second => first.tag < second.tag

/-- The parts of a file that its header and its directories take. -/
def fileRegions (file : Bytes) (exifAt gpsAt : UInt32) (gps : Bool) : List (Nat × Nat) :=
  (0, 8) :: (regionsAt file 8 ++ (regionsAt file exifAt.toNat ++
    if gps then regionsAt file gpsAt.toNat else []))

/-- A file in little-endian order that has the directories, each part of it apart from the others
and inside. -/
structure Holds (file : Bytes) (ifd0 exif : List Put) (gps : Option (List Put))
    (exifAt gpsAt : UInt32) : Prop where
  order : u16At file 0 = some 0x4949
  version : u16At file 2 = some 42
  begins : u32At file 4 = some 8
  firstDirectory : DirectoryAt file 8 (ifd0 ++ pointers gps.isSome exifAt gpsAt)
  exifDirectory : DirectoryAt file exifAt.toNat exif
  gpsDirectory : ∀ puts ∈ gps, DirectoryAt file gpsAt.toNat puts
  regions : Within 0 file.length (fileRegions file exifAt gpsAt gps.isSome)

/-- The bytes that a block takes. -/
def blockSize (ifd0 exif : List Put) (gps : Option (List Put)) : Nat :=
  exifPrefix.length + tiffHeader.length + directorySize (ifd0 ++ pointers gps.isSome 0 0) +
    directorySize exif + (gps.map directorySize).getD 0

/-- A block is there if and only if it fits, and then it is the prefix and a file that has what was
put into the directories. The memory behind the room is what it was. -/
structure Meant (output : Bytes) (capacity : Nat) (ifd0 exif : List Put)
    (gps : Option (List Put)) (result : Bytes × Nat) : Prop where
  size : result.1.length = output.length
  behind : result.1.drop capacity = output.drop capacity
  long : capacity < blockSize ifd0 exif gps → result.2 = 0
  fits : blockSize ifd0 exif gps ≤ capacity → result.2 = blockSize ifd0 exif gps
  block : result.2 ≠ 0 → result.1.take exifPrefix.length = exifPrefix ∧ ∃ exifAt gpsAt,
    Holds ((result.1.take result.2).drop exifPrefix.length) ifd0 exif gps exifAt gpsAt

/-! ### Reading it -/

theorem Put.size_le {put : Put} (fits : put.field.content.length ≤ entryRoom) : put.size ≤ 36 := by
  have small : put.field.content.length ≤ 24 := fits
  unfold Put.size Field.outside evenSize
  split <;> omega

variable {puts : List Put}

theorem directorySize_le (accepted : Accepted puts) : directorySize puts ≤ 582 := by
  have few : puts.length ≤ 16 := accepted.few
  have sum : (puts.map Put.size).sum ≤ puts.length * 36 := by
    have each : (puts.map Put.size).sum ≤ (puts.map Put.size).length * 36 := by
      refine sum_le_card_nsmul _ 36 fun size member => ?_
      obtain ⟨put, isPut, rfl⟩ := mem_map.mp member
      exact put.size_le (accepted.fits put isPut)
    rw [length_map] at each
    exact each
  unfold directorySize
  omega

theorem directoryAt_put (front back : Bytes) {file : Bytes} (accepted : Accepted puts)
    (small : file.length < 4294967296) (laid : file = front ++
    (putBytes front.length puts ++ back)) : DirectoryAt file front.length puts ∧
      Within front.length (front.length + directorySize puts) (regionsAt file front.length) := by
  have few : (inOrder (puts.map Put.field)).length < 65536 := by
    rw [(inOrder_perm _).length_eq, length_map]
    exact lt_of_le_of_lt accepted.few (by decide)
  have distinct : ((puts.map Put.field).map Field.tag).Nodup := by
    rw [map_map]
    exact accepted.distinct
  constructor
  · refine ⟨_, readDirectory_bytes accepted.inOrder_proper small few laid, rfl, ?_, ?_⟩
    · rw [placed_fields]
      exact inOrder_perm _
    · rw [placed_fields]
      exact inOrder_sorted distinct
  · rw [← putBytes_length accepted front.length]
    exact regionsAt_within accepted.inOrder_proper small few laid

section Block

variable {ifd0 exif : List Put} {gps : Option (List Put)}
  (accepted : Accepted (ifd0 ++ pointers gps.isSome 0 0)) (acceptedExif : Accepted exif)
  (acceptedGps : ∀ puts ∈ gps, Accepted puts)

include accepted acceptedExif acceptedGps

theorem fileBytes_length : exifPrefix.length + (fileBytes ifd0 exif gps).length =
    blockSize ifd0 exif gps := by
  have third : ((gps.map (putBytes (gpsOffset ifd0 exif gps.isSome))).getD []).length =
      (gps.map directorySize).getD 0 := by
    cases gps with
    | none => rfl
    | some puts => exact putBytes_length (acceptedGps puts rfl) _
  rw [fileBytes, ifd0Puts, length_append, length_append, length_append, third,
    putBytes_length acceptedExif, putBytes_length (accepted.pointers _ _),
    directorySize_pointers, blockSize]
  omega

theorem blockSize_le : blockSize ifd0 exif gps ≤ 1760 := by
  have one := directorySize_le accepted
  have two := directorySize_le acceptedExif
  have three : (gps.map directorySize).getD 0 ≤ 582 := by
    cases gps with
    | none => exact Nat.zero_le _
    | some puts => exact directorySize_le (acceptedGps puts rfl)
  have front : exifPrefix.length + tiffHeader.length = 14 := rfl
  unfold blockSize
  omega

theorem file_small : (fileBytes ifd0 exif gps).length < 4294967296 := by
  have total := fileBytes_length accepted acceptedExif acceptedGps
  have most := blockSize_le accepted acceptedExif acceptedGps
  omega

omit acceptedGps in
theorem offsets_exact :
    (UInt32.ofNat (exifOffset ifd0 gps.isSome)).toNat = exifOffset ifd0 gps.isSome ∧
      (UInt32.ofNat (gpsOffset ifd0 exif gps.isSome)).toNat = gpsOffset ifd0 exif gps.isSome := by
  have one := directorySize_le accepted
  have two := directorySize_le acceptedExif
  have limit : UInt32.size = 4294967296 := rfl
  constructor
  · refine UInt32.toNat_ofNat_of_lt' ?_
    rw [limit, exifOffset]
    omega
  · refine UInt32.toNat_ofNat_of_lt' ?_
    rw [limit, gpsOffset, exifOffset]
    omega

theorem firstDirectory_read :
    DirectoryAt (fileBytes ifd0 exif gps) 8 (ifd0Puts ifd0 exif gps.isSome) ∧
      Within 8 (exifOffset ifd0 gps.isSome) (regionsAt (fileBytes ifd0 exif gps) 8) := by
  have acceptedFirst := accepted.pointers (.ofNat (exifOffset ifd0 gps.isSome))
    (.ofNat (gpsOffset ifd0 exif gps.isSome))
  have read := directoryAt_put tiffHeader _ acceptedFirst
    (file_small accepted acceptedExif acceptedGps) rfl
  rw [directorySize_pointers] at read
  exact read

omit acceptedExif acceptedGps in
theorem exifFront_length (exif : List Put) :
    (tiffHeader ++ putBytes 8 (ifd0Puts ifd0 exif gps.isSome)).length =
      exifOffset ifd0 gps.isSome := by
  rw [List.length_append, ifd0Puts, putBytes_length (accepted.pointers _ _),
    directorySize_pointers]
  rfl

theorem exifDirectory_read :
    DirectoryAt (fileBytes ifd0 exif gps) (exifOffset ifd0 gps.isSome) exif ∧
      Within (exifOffset ifd0 gps.isSome) (gpsOffset ifd0 exif gps.isSome)
        (regionsAt (fileBytes ifd0 exif gps) (exifOffset ifd0 gps.isSome)) := by
  have front := exifFront_length accepted exif
  have read := directoryAt_put (tiffHeader ++ putBytes 8 (ifd0Puts ifd0 exif gps.isSome))
    ((gps.map (putBytes (gpsOffset ifd0 exif gps.isSome))).getD []) acceptedExif
    (file_small accepted acceptedExif acceptedGps) (by rw [front, append_assoc]; rfl)
  rw [front] at read
  exact read

theorem gpsDirectory_read :
    (∀ puts ∈ gps, DirectoryAt (fileBytes ifd0 exif gps) (gpsOffset ifd0 exif gps.isSome) puts) ∧
      Within (gpsOffset ifd0 exif gps.isSome) (fileBytes ifd0 exif gps).length
        (if gps.isSome then regionsAt (fileBytes ifd0 exif gps) (gpsOffset ifd0 exif gps.isSome)
          else []) := by
  have small := file_small accepted acceptedExif acceptedGps
  have front := exifFront_length accepted exif
  have total := fileBytes_length accepted acceptedExif acceptedGps
  have size : blockSize ifd0 exif gps = exifPrefix.length + tiffHeader.length +
    directorySize (ifd0 ++ pointers gps.isSome 0 0) + directorySize exif +
      (gps.map directorySize).getD 0 := rfl
  have offset : gpsOffset ifd0 exif gps.isSome = 8 +
      directorySize (ifd0 ++ pointers gps.isSome 0 0) + directorySize exif := rfl
  have eight : tiffHeader.length = 8 := rfl
  cases gps with
  | none =>
    refine ⟨fun puts isPuts => absurd isPuts (Option.not_mem_none puts), Within.nil ?_⟩
    omega
  | some puts =>
    have before : (tiffHeader ++ putBytes 8 (ifd0Puts ifd0 exif true) ++
        putBytes (exifOffset ifd0 true) exif).length = gpsOffset ifd0 exif true := by
      rw [length_append, putBytes_length acceptedExif]
      exact congrArg (· + directorySize exif) front
    obtain ⟨read, regions⟩ := directoryAt_put (tiffHeader ++
      putBytes 8 (ifd0Puts ifd0 exif true) ++ putBytes (exifOffset ifd0 true) exif) []
      (acceptedGps puts rfl) small
      (by rw [before, append_nil, append_assoc, append_assoc]; rfl)
    rw [before] at read regions
    have length : (fileBytes ifd0 exif (some puts)).length =
        gpsOffset ifd0 exif true + directorySize puts := by
      rw [Option.map_some, Option.getD_some] at size
      rw [Option.isSome_some] at size offset
      omega
    refine ⟨fun other isOther => ?_, ?_⟩
    · rw [← Option.some.inj isOther]
      exact read
    · rw [length]
      exact regions

theorem fileBytes_holds : Holds (fileBytes ifd0 exif gps) ifd0 exif gps
    (.ofNat (exifOffset ifd0 gps.isSome)) (.ofNat (gpsOffset ifd0 exif gps.isSome)) := by
  obtain ⟨exifExact, gpsExact⟩ := offsets_exact accepted acceptedExif
  obtain ⟨firstRead, firstRegions⟩ := firstDirectory_read accepted acceptedExif acceptedGps
  obtain ⟨exifRead, exifRegions⟩ := exifDirectory_read accepted acceptedExif acceptedGps
  obtain ⟨gpsRead, gpsRegions⟩ := gpsDirectory_read accepted acceptedExif acceptedGps
  refine ⟨u16At_put [] _ rfl rfl, u16At_put [0x49, 0x49] _ rfl rfl,
    u32At_put [0x49, 0x49, 0x2a, 0] _ rfl rfl, firstRead, ?_, ?_, ?_⟩
  · rw [exifExact]
    exact exifRead
  · rw [gpsExact]
    exact gpsRead
  · rw [fileRegions, exifExact, gpsExact]
    exact (Within.single 0 8).append (firstRegions.append (exifRegions.append gpsRegions))

end Block

theorem Returned.meant {ifd0 exif : List Put} {gps : Option (List Put)} {output : Bytes}
    {capacity : Nat} {result : Bytes × Nat}
    (returned : Returned output capacity (fileBytes ifd0 exif gps) result)
    (accepted : Accepted (ifd0 ++ pointers gps.isSome 0 0)) (acceptedExif : Accepted exif)
    (acceptedGps : ∀ puts ∈ gps, Accepted puts) : Meant output capacity ifd0 exif gps result := by
  have total := fileBytes_length accepted acceptedExif acceptedGps
  refine ⟨returned.size, returned.behind, fun long => returned.long (total ▸ long),
    fun fits => ?_, fun something => ?_⟩
  · rw [← total] at fits ⊢
    exact (returned.fits fits).1
  · have fits : exifPrefix.length + (fileBytes ifd0 exif gps).length ≤ capacity := by
      by_contra long
      exact something (returned.long (not_le.mp long))
    obtain ⟨length, block⟩ := returned.fits fits
    have front : result.1.take exifPrefix.length = exifPrefix := by
      have shorter := congrArg (take exifPrefix.length) block
      rw [take_take, take_left, length, Nat.min_eq_left (Nat.le_add_right _ _)] at shorter
      exact shorter
    rw [block, drop_left]
    exact ⟨front, _, _, fileBytes_holds accepted acceptedExif acceptedGps⟩

/-- Whatever is put into the directories, the block means it, or is nothing if it does not fit. -/
theorem writeExif_meant {ifd0 exif : List Put} {gps : Option (List Put)} {output : Bytes}
    {capacity : Nat} (room : capacity ≤ output.length)
    (accepted : Accepted (ifd0 ++ pointers gps.isSome 0 0)) (acceptedExif : Accepted exif)
    (acceptedGps : ∀ puts ∈ gps, Accepted puts) :
    Meant output capacity ifd0 exif gps
      (writeExif (withPointers (fill ifd0) gps.isSome) (fill exif) (gps.map fill) output
        capacity) :=
  (writeExif_returned room accepted acceptedExif acceptedGps).meant accepted acceptedExif
    acceptedGps

instance Put.decidableTyped : DecidablePred Put.Typed
  | .ascii _ _ => isTrue trivial
  | .long _ _ => isTrue trivial
  | .bytes _ type _ => inferInstanceAs (Decidable (formatSize type = some 1))
  | .rationals _ type _ => inferInstanceAs (Decidable (type = tiffRational ∨ type = tiffSrational))

/-- A photo with a model, a version and a latitude. -/
theorem writeExif_meant_latitude :
    Meant (List.replicate 200 0) 200 [.ascii 0x0110 [0x5a, 0x52, 0x31, 0x30]]
      [.bytes 0x9000 tiffUndefined [0x30, 0x32, 0x33, 0x32]]
      (some [.rationals 0x0002 tiffRational (coordinatePairs 515000000)])
      (writeExif (withPointers (fill [.ascii 0x0110 [0x5a, 0x52, 0x31, 0x30]]) true)
        (fill [.bytes 0x9000 tiffUndefined [0x30, 0x32, 0x33, 0x32]])
        (some (fill [.rationals 0x0002 tiffRational (coordinatePairs 515000000)]))
        (List.replicate 200 0) 200) := by
  refine writeExif_meant (le_of_eq List.length_replicate.symm)
    ⟨by decide, by decide, by decide, by decide⟩ ⟨by decide, by decide, by decide, by decide⟩
    fun puts isPuts => ?_
  rw [← Option.some.inj isPuts]
  exact ⟨by decide, by decide, by decide, by decide⟩

/-! ### The directories of a photo -/

/-- The calls whose helpers take their data. -/
def taken (puts : List Put) : List Put :=
  puts.filter fun put => decide (put.field.content.length ≤ entryRoom)

theorem Put.into_long (put : Put) (ifd : Ifd) (long : entryRoom < put.field.content.length) :
    put.into ifd = ifd := by
  cases put with
  | ascii tag text =>
    have length : (text ++ [0]).length = text.length + 1 := length_append
    exact if_pos (length ▸ long)
  | long tag value => exact absurd long (by show ¬ 24 < 4; decide)
  | bytes tag type data => exact if_pos long
  | rationals tag type pairs => exact if_pos (pairBytes_length pairs ▸ long)

theorem fill_taken (puts : List Put) : fill (taken puts) = fill puts := by
  unfold fill taken
  rw [foldl_filter]
  congr 1
  funext ifd put
  by_cases fits : put.field.content.length ≤ entryRoom
  · rw [if_pos (decide_eq_true fits)]
  · rw [if_neg (by simpa using fits), put.into_long ifd (not_le.mp fits)]

theorem taken_accepted {rest : List Put} (typed : ∀ put ∈ puts ++ rest, put.Typed)
    (fits : ∀ put ∈ rest, put.field.content.length ≤ entryRoom)
    (few : (puts ++ rest).length ≤ ifdMaxEntries)
    (distinct : ((puts ++ rest).map fun put => put.field.tag).Nodup) :
    Accepted (taken puts ++ rest) := by
  have sublist : (taken puts ++ rest).Sublist (puts ++ rest) := (filter_sublist).append_right rest
  refine ⟨fun put member => typed put (sublist.mem member), fun put member => ?_,
    sublist.length_le.trans few, (sublist.map _).nodup distinct⟩
  rcases mem_append.mp member with isTaken | isRest
  · exact of_decide_eq_true (mem_filter.mp isTaken).2
  · exact fits put isRest

/-- The calls for the first directory. -/
def ifd0Calls (metadata : Metadata) : List Put :=
  [.ascii 0x010f (CText.bytes "ArduPilot"),
    .ascii 0x0110 (if metadata.model = [] then CText.bytes "AP_CameraGimbal" else metadata.model),
    .ascii 0x0132 metadata.dateTime, .ascii 0x0131 (CText.bytes "AP_CameraGimbal")]

def exifCalls (metadata : Metadata) : List Put :=
  [.bytes 0x9000 tiffUndefined (CText.bytes "0232"), .ascii 0x9003 metadata.dateTime,
    .ascii 0x9004 metadata.dateTime, .ascii 0x9291 metadata.subsecond,
    .ascii 0x9292 metadata.subsecond, .ascii 0x9011 metadata.offset,
    .ascii 0x9012 metadata.offset] ++
    match metadata.zoom with
    | none => []
    | some zoom => [.rationals 0xa404 tiffRational [(zoom, 100)]]

def gpsCalls (position : Position) : List Put :=
  [.bytes 0x0000 tiffByte [2, 3, 0, 0],
    .ascii 0x0001 (CText.bytes (if position.latE7 < 0 then "S" else "N")),
    .rationals 0x0002 tiffRational (coordinatePairs position.latE7),
    .ascii 0x0003 (CText.bytes (if position.lonE7 < 0 then "W" else "E")),
    .rationals 0x0004 tiffRational (coordinatePairs position.lonE7),
    .bytes 0x0005 tiffByte [if position.belowSea then 1 else 0],
    .rationals 0x0006 tiffRational [(position.altitude, 100)],
    .rationals 0x0007 tiffRational
      [(position.hour, 1), (position.minute, 1), (position.second, 1)],
    .ascii 0x0012 (CText.bytes "WGS-84"), .ascii 0x001d position.date] ++
    match position.direction with
    | none => []
    | some direction =>
      [.ascii 0x0010 (CText.bytes "T"), .rationals 0x0011 tiffRational [(direction, 100)]]

section

variable (metadata : Metadata)

theorem fillExif_eq : fillExif metadata = fill (exifCalls metadata) := by
  unfold fillExif exifCalls
  cases metadata.zoom <;> rfl

theorem fillGps_eq (position : Position) : fillGps position = fill (gpsCalls position) := by
  unfold fillGps gpsCalls
  cases position.direction <;> rfl

theorem ifd0Calls_accepted (gps : Bool) :
    Accepted (taken (ifd0Calls metadata) ++ pointers gps 0 0) := by
  have tags : (ifd0Calls metadata).map (fun put => put.field.tag) =
      [0x010f, 0x0110, 0x0132, 0x0131] := rfl
  refine taken_accepted (fun put member => ?_)
    (fun put member => (pointers_accepted gps 0 0 put member).2) ?_ ?_
  · rcases mem_append.mp member with isCall | isPointer
    · simp only [ifd0Calls, mem_cons, not_mem_nil, or_false] at isCall
      rcases isCall with rfl | rfl | rfl | rfl <;> trivial
    · exact (pointers_accepted gps 0 0 put isPointer).1
  · rw [length_append, ← length_map (fun put : Put => put.field.tag), tags]
    cases gps <;> decide
  · rw [map_append, tags]
    cases gps <;> decide

theorem taken_accepted_alone (typed : ∀ put ∈ puts, put.Typed) (few : puts.length ≤ ifdMaxEntries)
    (distinct : (puts.map fun put => put.field.tag).Nodup) : Accepted (taken puts) := by
  rw [← append_nil (taken puts)]
  refine taken_accepted ?_ (nofun) ?_ ?_ <;>
    rwa [append_nil]

theorem exifCalls_accepted : Accepted (taken (exifCalls metadata)) := by
  unfold exifCalls
  cases metadata.zoom with
  | none =>
    refine taken_accepted_alone (fun put member => ?_) (by decide : 7 ≤ 16)
      (by decide : [(0x9000 : UInt16), 0x9003, 0x9004, 0x9291, 0x9292, 0x9011, 0x9012].Nodup)
    simp only [append_nil, mem_cons, not_mem_nil, or_false] at member
    rcases member with rfl | rfl | rfl | rfl | rfl | rfl | rfl <;> trivial
  | some zoom =>
    refine taken_accepted_alone (fun put member => ?_) (by decide : 8 ≤ 16)
      (by decide :
        [(0x9000 : UInt16), 0x9003, 0x9004, 0x9291, 0x9292, 0x9011, 0x9012, 0xa404].Nodup)
    simp only [cons_append, nil_append, mem_cons, not_mem_nil, or_false] at member
    rcases member with rfl | rfl | rfl | rfl | rfl | rfl | rfl | rfl <;>
      first | trivial | exact Or.inl rfl

theorem gpsCalls_accepted (position : Position) : Accepted (taken (gpsCalls position)) := by
  unfold gpsCalls
  cases position.direction with
  | none =>
    refine taken_accepted_alone (fun put member => ?_) (by decide : 10 ≤ 16)
      (by decide : [(0x0000 : UInt16), 1, 2, 3, 4, 5, 6, 7, 0x0012, 0x001d].Nodup)
    simp only [append_nil, mem_cons, not_mem_nil, or_false] at member
    rcases member with rfl | rfl | rfl | rfl | rfl | rfl | rfl | rfl | rfl | rfl <;>
      first | trivial | exact Or.inl rfl
  | some direction =>
    refine taken_accepted_alone (fun put member => ?_) (by decide : 12 ≤ 16)
      (by decide : [(0x0000 : UInt16), 1, 2, 3, 4, 5, 6, 7, 0x0012, 0x001d, 0x0010, 0x0011].Nodup)
    simp only [cons_append, nil_append, mem_cons, not_mem_nil, or_false] at member
    rcases member with rfl | rfl | rfl | rfl | rfl | rfl | rfl | rfl | rfl | rfl | rfl | rfl <;>
      first | trivial | exact Or.inl rfl

theorem buildExif_meant {output : Bytes} {capacity : Nat}
    (room : capacity ≤ output.length) :
    Meant output capacity (taken (ifd0Calls metadata)) (taken (exifCalls metadata))
      (metadata.position.map fun position => taken (gpsCalls position))
      (buildExif metadata output capacity) := by
  have first : fillIfd0 metadata = fill (taken (ifd0Calls metadata)) :=
    (fill_taken (ifd0Calls metadata)).symm
  have second : fillExif metadata = fill (taken (exifCalls metadata)) := by
    rw [fill_taken, fillExif_eq]
  have third : metadata.position.map fillGps =
      (metadata.position.map fun position => taken (gpsCalls position)).map fill := by
    rw [Option.map_map]
    refine congrArg (metadata.position.map ·) (funext fun position => ?_)
    rw [Function.comp_apply, fill_taken, fillGps_eq]
  have present : metadata.position.isSome =
      (metadata.position.map fun position => taken (gpsCalls position)).isSome :=
    Option.isSome_map.symm
  have accepted := ifd0Calls_accepted metadata
    (metadata.position.map fun position => taken (gpsCalls position)).isSome
  have acceptedGps : ∀ puts ∈ metadata.position.map (fun position => taken (gpsCalls position)),
      Accepted puts := by
    intro puts isPuts
    obtain ⟨position, -, rfl⟩ := Option.mem_map.mp isPuts
    exact gpsCalls_accepted position
  rw [buildExif, first, second, third, present]
  exact (writeExif_returned room accepted (exifCalls_accepted metadata) acceptedGps).meant accepted
    (exifCalls_accepted metadata) acceptedGps

end

/-! ### The segments of a photo -/

/-- `app1`: a segment of a JPEG file, if it fits. -/
def app1 (capacity : Nat) (body : Bytes) : Option Bytes :=
  let size := body.length + 2
  if 0xffff < size ∨ capacity < body.length + 4 then none
  else some ([0xff, 0xe1, UInt8.ofNat (size / 256), UInt8.ofNat size] ++ body)

/-- `ca_metadata_jpeg_segments`, with what `build_xmp` gives. -/
def jpegSegments (metadata : Metadata) (xmp : Bytes) (capacity : Nat) : Option Bytes :=
  let exif := buildExif metadata (List.replicate 1024 0) 1024
  if exif.2 = 0 ∨ xmp = [] then none
  else
    (app1 capacity (exif.1.take exif.2)).bind fun first =>
      (app1 (capacity - first.length) xmp).map (first ++ ·)

/-- The body of the segment that a file goes on with, and what follows it. -/
def readSegment : Bytes → Option (Bytes × Bytes)
  | 0xff :: 0xe1 :: high :: low :: rest =>
    let size := high.toNat * 256 + low.toNat - 2
    if size ≤ rest.length then some (rest.take size, rest.drop size) else none
  | _ => none

theorem readSegment_app1 {capacity : Nat} {body segment : Bytes}
    (fits : app1 capacity body = some segment) (rest : Bytes) :
    segment.length ≤ capacity ∧ readSegment (segment ++ rest) = some (body, rest) := by
  unfold app1 at fits
  dsimp only at fits
  split at fits
  · cases fits
  next bounds =>
    cases fits
    have size :
        (body.length + 2) / 256 % 256 * 256 + (body.length + 2) % 256 - 2 = body.length := by
      omega
    refine ⟨by simp; omega, ?_⟩
    simp [readSegment, size]

/-- The segments of a photo fit, and are read back: the first is a block that says what was put into
its directories, the second the XMP. -/
theorem segments_read_back (metadata : Metadata) (xmp rest : Bytes) (capacity : Nat) :
    ∀ segments ∈ jpegSegments metadata xmp capacity, segments.length ≤ capacity ∧
      ∃ block behind exifAt gpsAt,
        readSegment (segments ++ rest) = some (exifPrefix ++ block, behind) ∧
        readSegment behind = some (xmp, rest) ∧
        Holds block (taken (ifd0Calls metadata)) (taken (exifCalls metadata))
          (metadata.position.map fun position => taken (gpsCalls position)) exifAt gpsAt := by
  intro segments made
  have meant := buildExif_meant metadata (List.length_replicate (a := (0 : UInt8)) (n := 1024)).ge
  unfold jpegSegments at made
  generalize buildExif metadata (List.replicate 1024 0) 1024 = exif at meant made
  dsimp only at made
  split at made
  · cases made
  next neither =>
    have present := (not_or.mp neither).1
    have long : exifPrefix.length ≤ exif.2 := by
      rw [meant.fits (not_lt.mp fun long => present (meant.long long))]
      unfold blockSize
      omega
    obtain ⟨isPrefix, exifAt, gpsAt, holds⟩ := meant.block present
    obtain ⟨first, isFirst, made⟩ := Option.bind_eq_some_iff.mp made
    obtain ⟨second, isSecond, rfl⟩ := Option.map_eq_some_iff.mp made
    obtain ⟨fits, reads⟩ := readSegment_app1 isFirst (second ++ rest)
    obtain ⟨fitsBehind, readsBehind⟩ := readSegment_app1 isSecond rest
    refine ⟨by rw [List.length_append]; omega, _, _, exifAt, gpsAt, ?_, readsBehind, holds⟩
    have whole := List.take_append_drop exifPrefix.length (exif.1.take exif.2)
    rw [List.take_take, min_eq_left long, isPrefix] at whole
    rw [List.append_assoc, reads, whole]

/-- A photo taken above a place in the south-east. -/
def located : Metadata where
  model := []
  dateTime := []
  subsecond := []
  offset := []
  zoom := none
  position := some
    { latE7 := -353632610, lonE7 := 1491652300, belowSea := false, altitude := 58400, hour := 1
      minute := 2, second := 300, date := [], direction := some 9000 }

theorem segments_read_back_located :
    ∃ segments, jpegSegments located [60] 4096 = some segments ∧ segments.length ≤ 4096 ∧
      ∃ block behind exifAt gpsAt,
        readSegment segments = some (exifPrefix ++ block, behind) ∧
        readSegment behind = some ([60], []) ∧
        Holds block (taken (ifd0Calls located)) (taken (exifCalls located))
          (located.position.map fun position => taken (gpsCalls position)) exifAt gpsAt := by
  obtain ⟨segments, made⟩ := Option.isSome_iff_exists.mp
    (show (jpegSegments located [60] 4096).isSome = true by decide +kernel)
  have read := segments_read_back located [60] [] 4096 segments made
  rw [List.append_nil] at read
  exact ⟨segments, made, read⟩

end Exif
