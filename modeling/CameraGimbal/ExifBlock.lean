/-
This file is about the EXIF block as a whole. What the helpers take is put into directories, and a
file that fits has three directories of it: everything is where its offset is, and nothing is taken
twice. A file that does not fit is given up, and the memory behind the room is never written.
-/

import CameraGimbal.ExifReading

namespace Exif

open List Option Exif.Field

/-! ### What is put into a directory -/

/-- A call of a helper. -/
inductive Put where
  | ascii (tag : UInt16) (text : Bytes)
  | long (tag : UInt16) (value : UInt32)
  | bytes (tag type : UInt16) (data : Bytes)
  | rationals (tag type : UInt16) (pairs : List (UInt32 × UInt32))

/-- Make the call. -/
def Put.into (put : Put) (ifd : Ifd) : Ifd :=
  match put with
  | .ascii tag text => ifdAscii ifd tag text
  | .long tag value => ifdLong ifd tag value
  | .bytes tag type data => ifdBytes ifd tag type data
  | .rationals tag type pairs => ifdRationals ifd tag type pairs

/-- The directory after the calls. -/
def fill (puts : List Put) : Ifd := puts.foldl (fun ifd put => put.into ifd) []

/-- The field that a call means. -/
def Put.field : Put → Field
  | .ascii tag text => ⟨tag, tiffAscii, .ofNat (text.length + 1), text ++ [0]⟩
  | .long tag value => ⟨tag, tiffLong, 1, putU32 value⟩
  | .bytes tag type data => ⟨tag, type, .ofNat data.length, data⟩
  | .rationals tag type pairs => ⟨tag, type, .ofNat pairs.length, pairBytes pairs⟩

/-- A type of the size that the helper takes its data for. -/
def Put.Typed : Put → Prop
  | .bytes _ type _ => formatSize type = some 1
  | .rationals _ type _ => type = tiffRational ∨ type = tiffSrational
  | _ => True

/-- The calls for a directory, which their helpers take. -/
structure Accepted (puts : List Put) : Prop where
  typed : ∀ put ∈ puts, put.Typed
  fits : ∀ put ∈ puts, put.field.content.length ≤ entryRoom
  few : puts.length ≤ ifdMaxEntries
  distinct : (puts.map fun put => put.field.tag).Nodup

theorem pairBytes_length (pairs : List (UInt32 × UInt32)) :
    (pairBytes pairs).length = pairs.length * 8 := by
  induction pairs with
  | nil => rfl
  | cons pair rest hypothesis =>
    have cons : pairBytes (pair :: rest) = putU32 pair.1 ++ putU32 pair.2 ++ pairBytes rest := rfl
    rw [cons, length_append, hypothesis, length_cons, add_mul]
    exact add_comm _ _

variable {ifd : Ifd}

theorem ifdAdd_room (room : ifd.length < ifdMaxEntries) (field : Field) :
    ifdAdd ifd field.tag field.type field.count field.content = ifd ++ [field.entry] := by
  rw [ifdAdd, if_neg (not_le.mpr room)]
  rfl

theorem Put.into_room (put : Put) (room : ifd.length < ifdMaxEntries)
    (fits : put.field.content.length ≤ entryRoom) : put.into ifd = ifd ++ [put.field.entry] := by
  rw [← ifdAdd_room room]
  cases put with
  | ascii tag text =>
    have length : (text ++ [0]).length = text.length + 1 := length_append
    have short : text.length + 1 ≤ entryRoom := length.symm.trans_le fits
    exact if_neg (not_lt.mpr short)
  | long tag value => rfl
  | bytes tag type data => exact if_neg (not_lt.mpr fits)
  | rationals tag type pairs =>
    have short : pairs.length * 8 ≤ entryRoom := by
      rw [← pairBytes_length]
      exact fits
    exact if_neg (not_lt.mpr short)

variable {puts : List Put}

theorem foldl_into (fits : ∀ put ∈ puts, put.field.content.length ≤ entryRoom)
    (few : ifd.length + puts.length ≤ ifdMaxEntries) :
    puts.foldl (fun ifd put => put.into ifd) ifd = ifd ++ (puts.map Put.field).map entry := by
  induction puts generalizing ifd with
  | nil => exact (append_nil ifd).symm
  | cons put rest hypothesis =>
    have room : ifd.length < ifdMaxEntries := by
      rw [length_cons] at few
      omega
    rw [foldl_cons, put.into_room room (fits put mem_cons_self),
      hypothesis fun other member => fits other (mem_cons_of_mem put member)]
    · rw [append_assoc]
      rfl
    · rw [length_append, length_singleton, add_assoc, add_comm 1]
      exact few

theorem Accepted.fill_eq (accepted : Accepted puts) :
    fill puts = (puts.map Put.field).map entry := by
  rw [fill, foldl_into accepted.fits]
  · rfl
  · rw [length_nil, zero_add]
    exact accepted.few

theorem typeSize_of_one {type : UInt16} (one : formatSize type = some 1) : typeSize type = 1 := by
  unfold formatSize at one
  split_ifs at one with byte
  · simp only [mem_cons, not_mem_nil, or_false] at byte
    rcases byte with rfl | rfl | rfl | rfl <;> rfl
  all_goals exact absurd (some.inj one) (by decide)

theorem ofNat_exact {number : Nat} (fits : number ≤ entryRoom) :
    (UInt32.ofNat number).toNat = number :=
  UInt32.toNat_ofNat_of_lt' (lt_of_le_of_lt fits (by decide))

theorem Put.proper {put : Put} (typed : put.Typed)
    (fits : put.field.content.length ≤ entryRoom) : put.field.Proper := by
  cases put with
  | ascii tag text =>
    have length : (text ++ [0]).length = text.length + 1 := length_append
    refine ⟨rfl, ?_, fits⟩
    show 1 * (UInt32.ofNat (text.length + 1)).toNat = (text ++ [0]).length
    rw [one_mul, ← length]
    exact ofNat_exact fits
  | long tag value => exact ⟨rfl, rfl, fits⟩
  | bytes tag type data =>
    have one := typeSize_of_one typed
    refine ⟨typed.trans (congrArg some one.symm), ?_, fits⟩
    show typeSize type * (UInt32.ofNat data.length).toNat = data.length
    rw [one, one_mul]
    exact ofNat_exact fits
  | rationals tag type pairs =>
    have length := pairBytes_length pairs
    have short : pairs.length ≤ entryRoom := by
      have long : (pairBytes pairs).length ≤ entryRoom := fits
      omega
    have eight : typeSize type = 8 := by rcases typed with rfl | rfl <;> rfl
    refine ⟨?_, ?_, fits⟩
    · show formatSize type = some (typeSize type)
      rcases typed with rfl | rfl <;> rfl
    · show typeSize type * (UInt32.ofNat pairs.length).toNat = (pairBytes pairs).length
      rw [eight, ofNat_exact short, length, mul_comm]

theorem Accepted.proper (accepted : Accepted puts) :
    ∀ field ∈ puts.map Put.field, field.Proper := by
  intro field member
  obtain ⟨put, isPut, rfl⟩ := mem_map.mp member
  exact put.proper (accepted.typed put isPut) (accepted.fits put isPut)

/-! ### Fields in order -/

/-- The fields in the order of their tags. -/
def inOrder (fields : List Field) : List Field :=
  fields.insertionSort fun first second => first.tag.toNat ≤ second.tag.toNat

theorem sorted_entries (fields : List Field) :
    sorted (fields.map entry) = (inOrder fields).map entry := by
  rw [sorted, inOrder]
  exact (map_insertionSort _ _ entry fields fun _ _ _ _ => Iff.rfl).symm

theorem inOrder_perm (fields : List Field) : (inOrder fields).Perm fields :=
  perm_insertionSort _ fields

variable {fields : List Field}

theorem inOrder_sorted (distinct : (fields.map tag).Nodup) :
    (inOrder fields).Pairwise fun first second => first.tag < second.tag := by
  have apart : (inOrder fields).Pairwise fun first second => first.tag ≠ second.tag :=
    pairwise_map.mp (((inOrder_perm fields).map tag).nodup_iff.mpr distinct)
  have weakly : (inOrder fields).Pairwise fun first second =>
      first.tag.toNat ≤ second.tag.toNat := by
    have : Std.Total fun first second : Field => first.tag.toNat ≤ second.tag.toNat :=
      ⟨fun first second => le_total _ _⟩
    have : IsTrans Field fun first second => first.tag.toNat ≤ second.tag.toNat :=
      ⟨fun _ _ _ => le_trans⟩
    exact pairwise_insertionSort _ fields
  refine (apart.and weakly).imp fun {first second} both => ?_
  exact UInt16.lt_iff_toNat_lt.mpr
    (Nat.lt_of_le_of_ne both.2 fun same => both.1 (UInt16.toNat_inj.mp same))

/-! ### Writing -/

/-- The bytes that were written, if there was room for them. -/
def Tiff.written (tiff : Tiff) : Option Bytes :=
  if tiff.overflow then none else some ((tiff.memory.drop exifPrefix.length).take tiff.length)

/-- The file is in the room that the memory has, behind the prefix, and the memory behind the room
is what it was. -/
structure Sound (output : Bytes) (tiff : Tiff) : Prop where
  room : exifPrefix.length + tiff.capacity ≤ output.length
  length : tiff.length ≤ tiff.capacity
  size : tiff.memory.length = output.length
  front : tiff.memory.take exifPrefix.length = exifPrefix
  behind : tiff.memory.drop (exifPrefix.length + tiff.capacity) =
    output.drop (exifPrefix.length + tiff.capacity)

/-- The file is longer by the data, which may depend on where they begin. -/
structure Appends (output : Bytes) (tiff : Tiff) (data : Nat → Bytes) (longer : Tiff) : Prop where
  sound : Sound output longer
  capacity : longer.capacity = tiff.capacity
  written : longer.written = tiff.written.bind fun bytes =>
    if bytes.length + (data bytes.length).length ≤ tiff.capacity then
      some (bytes ++ data bytes.length)
    else none

section Writing

variable {output : Bytes} {tiff : Tiff}

theorem Sound.memory_room (sound : Sound output tiff) :
    exifPrefix.length + tiff.capacity ≤ tiff.memory.length :=
  sound.size ▸ sound.room

theorem Sound.written_length (sound : Sound output tiff) {bytes : Bytes}
    (written : tiff.written = some bytes) : bytes.length = tiff.length := by
  unfold Tiff.written at written
  split at written
  · cases written
  · have room := sound.memory_room
    have length := sound.length
    rw [← some.inj written, length_take, length_drop]
    omega

theorem written_none (overflow : tiff.overflow = true) : tiff.written = none := if_pos overflow

theorem written_some (fits : tiff.overflow = false) :
    tiff.written = some ((tiff.memory.drop exifPrefix.length).take tiff.length) :=
  if_neg (by rw [fits]; exact Bool.false_ne_true)

variable {memory data : Bytes} {place : Nat}

theorem store_length (room : place + data.length ≤ memory.length) :
    (store memory place data).length = memory.length := by
  rw [store, length_append, length_append, length_take, length_drop]
  omega

theorem drop_store {limit : Nat} (room : place + data.length ≤ limit)
    (inside : limit ≤ memory.length) :
    (store memory place data).drop limit = memory.drop limit := by
  have front : (memory.take place ++ data).length = place + data.length := by
    rw [length_append, length_take]
    omega
  rw [store, drop_append, drop_eq_nil_of_le (front.trans_le room), nil_append, drop_drop, front]
  congr 1
  omega

theorem take_store {limit : Nat} (behind : limit ≤ place) (inside : place ≤ memory.length) :
    (store memory place data).take limit = memory.take limit := by
  have front : limit ≤ (memory.take place).length := by
    rw [length_take]
    omega
  rw [store, append_assoc, take_append_of_le_length front, take_take, min_eq_left behind]

theorem drop_store_front {limit : Nat} (inside : limit + place ≤ memory.length) :
    (store memory (limit + place) data).drop limit = store (memory.drop limit) place data := by
  have front : limit ≤ (memory.take (limit + place)).length := by
    rw [length_take]
    omega
  rw [store, append_assoc, drop_append_of_le_length front, drop_take,
    Nat.add_sub_cancel_left, store, drop_drop, append_assoc, add_assoc]

theorem take_store_whole {limit : Nat} (room : place + data.length ≤ limit)
    (inside : place ≤ memory.length) :
    (store memory place data).take limit = store (memory.take limit) place data := by
  have front : (memory.take place ++ data).length = place + data.length := by
    rw [length_append, length_take_of_le inside]
  rw [store, take_append, take_of_length_le (front.trans_le room), front, store,
    take_take, min_eq_left (by omega), drop_take]

theorem Sound.store (sound : Sound output tiff) (place : Nat) (data : Bytes)
    (room : place + data.length ≤ tiff.capacity) {longer : Tiff}
    (memory : longer.memory = store tiff.memory (exifPrefix.length + place) data)
    (capacity : longer.capacity = tiff.capacity) (length : longer.length ≤ tiff.capacity) :
    Sound output longer := by
  have whole := sound.memory_room
  refine ⟨?_, ?_, ?_, ?_, ?_⟩
  · rw [capacity]
    exact sound.room
  · rw [capacity]
    exact length
  · rw [memory, store_length (by omega), sound.size]
  · rw [memory, take_store (Nat.le_add_right _ _) (by omega), sound.front]
  · rw [memory, capacity, drop_store (by omega) whole, sound.behind]

theorem tiffAppend_appends (sound : Sound output tiff) (data : Bytes) :
    Appends output tiff (fun _ => data) (tiffAppend tiff data) := by
  have room := sound.memory_room
  have length := sound.length
  by_cases full : tiff.overflow = true ∨ tiff.capacity - tiff.length < data.length
  · rw [tiffAppend, if_pos full]
    refine ⟨⟨sound.room, length, sound.size, sound.front, sound.behind⟩, rfl, ?_⟩
    rw [written_none rfl]
    rcases full with overflow | long
    · rw [written_none overflow]
      rfl
    · cases isWritten : tiff.written with
      | none => rfl
      | some bytes =>
        have same := sound.written_length isWritten
        rw [bind_some, if_neg (by omega)]
  · rw [tiffAppend, if_neg full]
    obtain ⟨fits, short⟩ := not_or.mp full
    have fits : tiff.overflow = false := Bool.eq_false_iff.mpr fits
    have enough : tiff.length + data.length ≤ tiff.capacity := by omega
    have bytesLength : ((tiff.memory.drop exifPrefix.length).take tiff.length).length =
        tiff.length :=
      sound.written_length (written_some fits)
    refine ⟨sound.store tiff.length data enough rfl rfl enough, rfl, ?_⟩
    rw [written_some fits, written_some (by exact fits), bind_some, bytesLength,
      if_pos enough, drop_store_front (by omega)]
    dsimp only
    rw [Exif.store, take_left' ?_]
    rw [length_append, bytesLength]

theorem Appends.refl (sound : Sound output tiff) : Appends output tiff (fun _ => []) tiff := by
  refine ⟨sound, rfl, ?_⟩
  cases isWritten : tiff.written with
  | none => rfl
  | some bytes =>
    rw [bind_some, append_nil, length_nil, add_zero,
      sound.written_length isWritten, if_pos sound.length]

theorem Appends.trans {longer last : Tiff} {first second : Nat → Bytes}
    (one : Appends output tiff first longer) (two : Appends output longer second last) :
    Appends output tiff (fun place => first place ++ second (place + (first place).length))
      last := by
  refine ⟨two.sound, two.capacity.trans one.capacity, ?_⟩
  rw [two.written, one.written, one.capacity, bind_assoc]
  congr 1
  funext bytes
  by_cases enough : bytes.length + (first bytes.length).length ≤ tiff.capacity
  · rw [if_pos enough, bind_some, length_append, length_append, append_assoc, add_assoc]
  · rw [if_neg enough, if_neg, bind_none]
    rw [length_append]
    omega

theorem Appends.congr {longer : Tiff} {first second : Nat → Bytes}
    (appends : Appends output tiff first longer) (same : first tiff.length = second tiff.length)
    (sound : Sound output tiff) : Appends output tiff second longer := by
  refine ⟨appends.sound, appends.capacity, ?_⟩
  rw [appends.written]
  cases isWritten : tiff.written with
  | none => rfl
  | some bytes => rw [bind_some, bind_some, sound.written_length isWritten, same]

theorem writeEntries_appends (entries : List TiffEntry) :
    ∀ {tiff : Tiff} (dataOffset : Nat) (pointers : Pointers), Sound output tiff →
      Appends output tiff (fun _ => entriesBytes dataOffset entries)
        (writeEntries tiff dataOffset pointers entries).1 := by
  induction entries with
  | nil =>
    intro tiff dataOffset pointers sound
    exact Appends.refl sound
  | cons entry rest hypothesis =>
    intro tiff dataOffset pointers sound
    have first := tiffAppend_appends sound (rawEntry entry dataOffset)
    exact first.trans (hypothesis _ _ first.sound)

theorem writeData_appends (entries : List TiffEntry) :
    ∀ {tiff : Tiff}, Sound output tiff →
      Appends output tiff (fun _ => entries.flatMap outOfLine) (writeData tiff entries) := by
  induction entries with
  | nil =>
    intro tiff sound
    exact Appends.refl sound
  | cons entry rest hypothesis =>
    intro tiff sound
    rw [writeData, flatMap_cons, outOfLine]
    split
    · exact hypothesis sound
    · have first := tiffAppend_appends sound (entry.data.take entry.size)
      split
      · have second := tiffAppend_appends first.sound [0]
        rw [append_assoc]
        exact first.trans (second.trans (hypothesis second.sound))
      · rw [append_nil]
        exact first.trans (hypothesis first.sound)

theorem tiffWriteIfd_appends (sound : Sound output tiff) (ifd : Ifd) (pointers : Pointers) :
    Appends output tiff (fun offset => directoryBytes offset (sorted ifd))
      (tiffWriteIfd tiff ifd pointers).1 := by
  have counted := tiffAppend_appends sound (putU16 (.ofNat (sorted ifd).length))
  have entries := writeEntries_appends (sorted ifd)
    (tiff.length + 2 + (sorted ifd).length * 12 + 4) pointers counted.sound
  have ended := tiffAppend_appends entries.sound [0, 0, 0, 0]
  have data := writeData_appends (sorted ifd) ended.sound
  exact (counted.trans (entries.trans (ended.trans data))).congr rfl sound

/-! ### Pointers -/

/-- Where the data of the last entry with the tag lie, if the entries begin at the place. -/
def slotPlace (tag : UInt16) (place found : Nat) : List TiffEntry → Nat
  | [] => found
  | entry :: rest =>
    slotPlace tag (place + 12) (if entry.tag = tag then place + 8 else found) rest

theorem Appends.fits {longer : Tiff} {data : Nat → Bytes}
    (appends : Appends output tiff data longer) (sound : Sound output tiff)
    (fits : longer.overflow = false) :
    tiff.overflow = false ∧ longer.length = tiff.length + (data tiff.length).length := by
  have written := appends.written
  rw [written_some fits] at written
  obtain ⟨bytes, isWritten, appended⟩ := bind_eq_some_iff.mp written.symm
  have length := sound.written_length isWritten
  refine ⟨Bool.eq_false_iff.mpr fun overflow => ?_, ?_⟩
  · rw [written_none overflow] at isWritten
    cases isWritten
  · split at appended
    · rw [← appends.sound.written_length (written_some fits), ← some.inj appended,
        length_append, length]
    · cases appended

theorem writeEntries_places (proper : ∀ field ∈ fields, field.Proper) :
    ∀ {tiff : Tiff} (dataOffset : Nat) (pointers : Pointers), Sound output tiff →
      (writeEntries tiff dataOffset pointers (fields.map entry)).1.overflow = false →
      (writeEntries tiff dataOffset pointers (fields.map entry)).2 =
        ⟨slotPlace 0x8769 tiff.length pointers.exif (fields.map entry),
          slotPlace 0x8825 tiff.length pointers.gps (fields.map entry)⟩ := by
  induction fields with
  | nil =>
    intros
    rfl
  | cons field rest hypothesis =>
    intro tiff dataOffset pointers sound fits
    have isProper := proper field mem_cons_self
    have restProper := fun other member => proper other (mem_cons_of_mem field member)
    have first := tiffAppend_appends sound (rawEntry field.entry dataOffset)
    have before := ((writeEntries_appends (rest.map entry) _ _ first.sound).fits first.sound fits).1
    have length := (first.fits sound before).2
    rw [isProper.raw_length] at length
    have behind := hypothesis restProper _ _ first.sound fits
    rw [length] at behind
    exact behind

theorem slotPlace_split {tag : UInt16} {front back : List TiffEntry} {entry : TiffEntry}
    (isTag : entry.tag = tag) (others : ∀ other ∈ back, other.tag ≠ tag) (place found : Nat) :
    slotPlace tag place found (front ++ entry :: back) = place + 12 * front.length + 8 := by
  have none : ∀ place found, slotPlace tag place found back = found := by
    induction back with
    | nil => exact fun _ _ => rfl
    | cons other rest hypothesis =>
      intro place found
      rw [slotPlace, if_neg (others other mem_cons_self)]
      exact hypothesis (fun another member =>
        others another (mem_cons_of_mem other member)) _ _
  induction front generalizing place found with
  | nil =>
    rw [nil_append, slotPlace, if_pos isTag, none]
    rfl
  | cons first rest hypothesis =>
    rw [cons_append, slotPlace, hypothesis, length_cons]
    omega

theorem tiffWriteIfd_places (sound : Sound output tiff)
    (proper : ∀ field ∈ fields, field.Proper)
    (isSorted : sorted ifd = fields.map entry) (pointers : Pointers)
    (fits : (tiffWriteIfd tiff ifd pointers).1.overflow = false) :
    (tiffWriteIfd tiff ifd pointers).2.1 =
      ⟨slotPlace 0x8769 (tiff.length + 2) pointers.exif (fields.map entry),
        slotPlace 0x8825 (tiff.length + 2) pointers.gps (fields.map entry)⟩ := by
  unfold tiffWriteIfd at fits ⊢
  rw [isSorted] at fits ⊢
  dsimp only at fits ⊢
  have counted := tiffAppend_appends sound (putU16 (.ofNat (fields.map entry).length))
  have entries := writeEntries_appends (fields.map entry)
    (tiff.length + 2 + (fields.map entry).length * 12 + 4) pointers counted.sound
  have ended := tiffAppend_appends entries.sound [0, 0, 0, 0]
  have endedFits := ((writeData_appends (fields.map entry) ended.sound).fits ended.sound fits).1
  have entriesFits := (ended.fits entries.sound endedFits).1
  have countedFits := (entries.fits counted.sound entriesFits).1
  have length := (counted.fits sound countedFits).2
  rw [putU16_length] at length
  rw [writeEntries_places proper _ _ counted.sound entriesFits, length]

theorem patch_written (sound : Sound output tiff) (place offset : Nat)
    (inside : tiff.overflow = false → place + 4 ≤ tiff.length) :
    Sound output (patch tiff place offset) ∧
      (patch tiff place offset).capacity = tiff.capacity ∧
      (patch tiff place offset).written =
        tiff.written.map fun bytes => store bytes place (putU32 (.ofNat offset)) := by
  unfold patch
  cases overflow : tiff.overflow with
  | true =>
    rw [if_pos rfl, written_none overflow]
    exact ⟨sound, rfl, rfl⟩
  | false =>
    have room := sound.memory_room
    have length := sound.length
    have within := inside overflow
    rw [if_neg Bool.false_ne_true]
    have fitting : place + (putU32 (.ofNat offset)).length ≤ tiff.length := within
    refine ⟨sound.store place (putU32 (.ofNat offset)) (fitting.trans length) rfl rfl length,
      rfl, ?_⟩
    rw [written_some overflow, written_some rfl, map_some, drop_store_front (by omega),
      take_store_whole fitting (by rw [length_drop]; omega)]

end Writing

end Exif
