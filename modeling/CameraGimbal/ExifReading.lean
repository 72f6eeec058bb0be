/-
This file reads a TIFF file in little-endian order: the sizes are those that the format gives to its
types, and what a field has is taken where the file has it. A directory that is laid out as its
number of entries, the entries, the end and the data is read back, and what it takes of the file is
in order.
-/

import CameraGimbal.Exif

namespace Exif

open List Option

/-! ### The reader -/

/-- The number at a place. -/
def u16At (block : Bytes) (place : Nat) : Option UInt16 := do
  let low ← block[place]?
  let high ← block[place + 1]?
  some (.ofNat (low.toNat + 256 * high.toNat))

/-- The long number at a place. -/
def u32At (block : Bytes) (place : Nat) : Option UInt32 := do
  let low ← u16At block place
  let high ← u16At block (place + 2)
  some (.ofNat (low.toNat + 65536 * high.toNat))

/-- The sizes of the types of the format. -/
def formatSize (type : UInt16) : Option Nat :=
  if type ∈ [1, 2, 6, 7] then some 1
  else if type ∈ [3, 8] then some 2
  else if type ∈ [4, 9, 11] then some 4
  else if type ∈ [5, 10, 12] then some 8
  else none

structure Field where
  tag : UInt16
  type : UInt16
  count : UInt32
  content : Bytes
  deriving DecidableEq, Repr

def readField (block : Bytes) (place : Nat) : Option (Field × Nat) := do
  let tag ← u16At block place
  let type ← u16At block (place + 2)
  let count ← u32At block (place + 4)
  let unit ← formatSize type
  let size := unit * count.toNat
  let start ← if size ≤ 4 then some (place + 8) else (u32At block (place + 8)).map UInt32.toNat
  if start + size ≤ block.length then
    some (⟨tag, type, count, (block.drop start).take size⟩, start)
  else none

def readFields (block : Bytes) (place : Nat) : Nat → Option (List (Field × Nat))
  | 0 => some []
  | count + 1 => do
    let first ← readField block place
    let rest ← readFields block (place + 12) count
    some (first :: rest)

/-- A directory: its fields with the places of their contents, and the offset of the next one. -/
structure Directory where
  fields : List (Field × Nat)
  next : UInt32

def readDirectory (block : Bytes) (offset : Nat) : Option Directory := do
  let count ← u16At block offset
  let fields ← readFields block (offset + 2) count.toNat
  let next ← u32At block (offset + 2 + 12 * count.toNat)
  some ⟨fields, next⟩

/-- The parts of a file, by place and size, that contents outside the entries take. -/
def contentRegions (fields : List (Field × Nat)) : List (Nat × Nat) :=
  fields.filterMap fun read =>
    if read.1.content.length ≤ 4 then none else some (read.2, read.1.content.length)

/-- The parts of a file that the directory at an offset takes. -/
def regionsAt (block : Bytes) (offset : Nat) : List (Nat × Nat) :=
  match readDirectory block offset with
  | none => []
  | some directory =>
    (offset, 2 + 12 * directory.fields.length + 4) :: contentRegions directory.fields

/-- A part ends before another begins. -/
def Before (first second : Nat × Nat) : Prop := first.1 + first.2 ≤ second.1

/-! ### What is laid out -/

/-- A field that an entry can have: the type gives its content the size that the writer takes. -/
structure Field.Proper (field : Field) : Prop where
  format : formatSize field.type = some (typeSize field.type)
  counted : typeSize field.type * field.count.toNat = field.content.length
  fits : field.content.length ≤ entryRoom

def Field.entry (field : Field) : TiffEntry :=
  ⟨field.tag, field.type, field.count,
    field.content ++ List.replicate (entryRoom - field.content.length) 0⟩

def entriesBytes (dataOffset : Nat) : List TiffEntry → Bytes
  | [] => []
  | entry :: rest =>
    rawEntry entry dataOffset ++
      entriesBytes (if entry.size ≤ 4 then dataOffset else dataOffset + evenSize entry.size) rest

/-- The bytes behind the entries that an entry has. -/
def outOfLine (entry : TiffEntry) : Bytes :=
  if entry.size ≤ 4 then []
  else entry.data.take entry.size ++ if entry.size % 2 = 1 then [0] else []

def directoryBytes (offset : Nat) (entries : List TiffEntry) : Bytes :=
  putU16 (.ofNat entries.length) ++
    (entriesBytes (offset + 2 + entries.length * 12 + 4) entries ++
      ([0, 0, 0, 0] ++ entries.flatMap outOfLine))

/-- Where the data go on behind those of a field. -/
def Field.dataAfter (field : Field) (dataOffset : Nat) : Nat :=
  if field.content.length ≤ 4 then dataOffset else dataOffset + evenSize field.content.length

/-- The fields with their places, if the entries and the data begin at these. -/
def placed (place dataOffset : Nat) : List Field → List (Field × Nat)
  | [] => []
  | field :: rest =>
    (field, if field.content.length ≤ 4 then place + 8 else dataOffset) ::
      placed (place + 12) (field.dataAfter dataOffset) rest

theorem placed_length (fields : List Field) (place dataOffset : Nat) :
    (placed place dataOffset fields).length = fields.length := by
  induction fields generalizing place dataOffset with
  | nil => rfl
  | cons field rest hypothesis =>
    exact congrArg Nat.succ (hypothesis _ _)

theorem placed_fields (fields : List Field) (place dataOffset : Nat) :
    (placed place dataOffset fields).map Prod.fst = fields := by
  induction fields generalizing place dataOffset with
  | nil => rfl
  | cons field rest hypothesis =>
    exact congrArg (field :: ·) (hypothesis _ _)

section Layout

variable {block : Bytes} (front back : Bytes) {place : Nat}

theorem putU16_length (value : UInt16) : (putU16 value).length = 2 := rfl

theorem putU32_length (value : UInt32) : (putU32 value).length = 4 := rfl

theorem u16_joined (value : UInt16) :
    UInt16.ofNat (value.toUInt8.toNat + 256 * (value >>> 8).toUInt8.toNat) = value := by
  apply UInt16.toNat_inj.mp
  have bound := value.toNat_lt
  have shifted : (value >>> 8).toNat = value.toNat / 256 := by
    rw [UInt16.toNat_shiftRight]
    exact Nat.shiftRight_eq_div_pow value.toNat 8
  rw [UInt16.toNat_toUInt8, UInt16.toNat_toUInt8, shifted, UInt16.toNat_ofNat']
  omega

theorem u32_joined (value : UInt32) :
    UInt32.ofNat (value.toUInt16.toNat + 65536 * (value >>> 16).toUInt16.toNat) = value := by
  apply UInt32.toNat_inj.mp
  have bound := value.toNat_lt
  have shifted : (value >>> 16).toNat = value.toNat / 65536 := by
    rw [UInt32.toNat_shiftRight]
    exact Nat.shiftRight_eq_div_pow value.toNat 16
  rw [UInt32.toNat_toUInt16, UInt32.toNat_toUInt16, shifted, UInt32.toNat_ofNat']
  omega

theorem getElem?_behind (front rest : Bytes) (index : Nat) :
    (front ++ rest)[front.length + index]? = rest[index]? := by
  rw [getElem?_append_right (Nat.le_add_right _ _), Nat.add_sub_cancel_left]

theorem u16At_put {value : UInt16} (laid : block = front ++ (putU16 value ++ back))
    (begins : place = front.length) : u16At block place = some value := by
  subst laid begins
  have low := getElem?_behind front (putU16 value ++ back) 0
  have high := getElem?_behind front (putU16 value ++ back) 1
  rw [add_zero] at low
  rw [u16At, low, high]
  exact congrArg some (u16_joined value)

theorem u32At_put {value : UInt32} (laid : block = front ++ (putU32 value ++ back))
    (begins : place = front.length) : u32At block place = some value := by
  have low : u16At block place = some value.toUInt16 := by
    refine u16At_put front (putU16 (value >>> 16).toUInt16 ++ back) ?_ begins
    rw [laid, putU32, append_assoc]
  have high : u16At block (place + 2) = some (value >>> 16).toUInt16 := by
    refine u16At_put (front ++ putU16 value.toUInt16) back ?_ ?_
    · rw [laid, putU32, append_assoc, append_assoc]
    · rw [begins, length_append]
      rfl
  rw [u32At, low, high]
  exact congrArg some (u32_joined value)

theorem slice_put {content : Bytes} (laid : block = front ++ (content ++ back))
    (begins : place = front.length) :
    (block.drop place).take content.length = content ∧ place + content.length ≤ block.length := by
  subst laid begins
  constructor
  · rw [drop_left, take_left]
  · rw [length_append, length_append]
    omega

end Layout

variable {block front back : Bytes}

/-! ### Entries -/

section Entries

variable {field : Field}

theorem Field.Proper.size_eq (proper : field.Proper) : field.entry.size = field.content.length :=
  proper.counted

theorem Field.Proper.take_data (proper : field.Proper) :
    field.entry.data.take field.entry.size = field.content := by
  rw [proper.size_eq]
  exact take_left

/-- The first eight bytes of an entry. -/
def Field.head (field : Field) : Bytes :=
  putU16 field.tag ++ (putU16 field.type ++ putU32 field.count)

/-- The last four bytes of an entry. -/
def Field.slot (field : Field) (dataOffset : Nat) : Bytes :=
  if field.content.length ≤ 4 then field.content ++ List.replicate (4 - field.content.length) 0
  else putU32 (.ofNat dataOffset)

theorem Field.Proper.raw (proper : field.Proper) (dataOffset : Nat) :
    rawEntry field.entry dataOffset = field.head ++ field.slot dataOffset := by
  unfold rawEntry Field.head Field.slot
  rw [proper.take_data, proper.size_eq]
  simp only [Field.entry, append_assoc]

theorem Field.slot_length (field : Field) (dataOffset : Nat) :
    (field.slot dataOffset).length = 4 := by
  unfold Field.slot
  split
  · rename_i short
    rw [length_append, length_replicate]
    omega
  · rfl

section

variable (proper : field.Proper)

include proper

variable (dataOffset : Nat)

theorem Field.Proper.raw_length :
    (rawEntry field.entry dataOffset).length = 12 := by
  rw [proper.raw, length_append, Field.slot_length]
  rfl

theorem Field.Proper.outOfLine_short (short : field.content.length ≤ 4) :
    outOfLine field.entry = [] := by
  rw [outOfLine, proper.size_eq, if_pos short]

theorem Field.Proper.outOfLine_long (long : ¬ field.content.length ≤ 4) :
    outOfLine field.entry = field.content ++ if field.content.length % 2 = 1 then [0] else [] := by
  rw [outOfLine, proper.take_data, proper.size_eq, if_neg long]

theorem Field.Proper.outOfLine_length :
    (outOfLine field.entry).length =
      if field.content.length ≤ 4 then 0 else evenSize field.content.length := by
  by_cases short : field.content.length ≤ 4
  · rw [proper.outOfLine_short short, if_pos short, length_nil]
  · rw [proper.outOfLine_long short, if_neg short, length_append, evenSize]
    split
    · rename_i odd
      rw [odd, length_singleton]
    · rename_i even
      rw [Nat.mod_two_ne_one.mp even, length_nil]

theorem Field.Proper.entriesBytes_cons (rest : List TiffEntry) :
    entriesBytes dataOffset (field.entry :: rest) =
      rawEntry field.entry dataOffset ++ entriesBytes (field.dataAfter dataOffset) rest := by
  rw [entriesBytes, proper.size_eq, Field.dataAfter]

theorem Field.Proper.dataAfter_eq :
    field.dataAfter dataOffset = dataOffset + (outOfLine field.entry).length := by
  rw [Field.dataAfter, proper.outOfLine_length]
  split <;> rfl

end

/-- The head of an entry tells what comes behind it. -/
theorem readField_head {place : Nat}
    (laid : block = front ++ (field.head ++ back)) (begins : place = front.length)
    (proper : field.Proper) :
    readField block place =
      (if field.content.length ≤ 4 then some (place + 8)
        else (u32At block (place + 8)).map UInt32.toNat).bind fun start =>
      if start + field.content.length ≤ block.length then
        some (⟨field.tag, field.type, field.count,
          (block.drop start).take field.content.length⟩, start)
      else none := by
  have tag : u16At block place = some field.tag := by
    refine u16At_put front (putU16 field.type ++ putU32 field.count ++ back) ?_ begins
    rw [laid, Field.head]
    simp only [append_assoc]
  have type : u16At block (place + 2) = some field.type := by
    refine u16At_put (front ++ putU16 field.tag) (putU32 field.count ++ back) ?_ ?_
    · rw [laid, Field.head]
      simp only [append_assoc]
    · rw [begins, length_append]
      rfl
  have count : u32At block (place + 4) = some field.count := by
    refine u32At_put (front ++ (putU16 field.tag ++ putU16 field.type)) back ?_ ?_
    · rw [laid, Field.head]
      simp only [append_assoc]
    · rw [begins, length_append]
      rfl
  unfold readField
  rw [tag, type, count]
  simp only [bind_eq_bind, bind_some, proper.format, proper.counted]
  split <;> rfl

theorem readField_entry (proper : field.Proper) {place dataOffset : Nat}
    (laid : block = front ++ (rawEntry field.entry dataOffset ++ back))
    (begins : place = front.length) (data : ¬ field.content.length ≤ 4 → ∃ before behind,
      block = before ++ (field.content ++ behind) ∧ dataOffset = before.length)
    (small : block.length < 4294967296) :
    readField block place =
      some (field, if field.content.length ≤ 4 then place + 8 else dataOffset) := by
  rw [proper.raw, append_assoc] at laid
  have slotBegins : place + 8 = (front ++ field.head).length := by
    rw [begins, length_append]
    rfl
  rw [← append_assoc] at laid
  rw [readField_head (laid.trans (append_assoc _ _ _)) begins proper]
  by_cases short : field.content.length ≤ 4
  · rw [Field.slot, if_pos short, append_assoc field.content] at laid
    obtain ⟨content, inside⟩ := slice_put _ _ laid slotBegins
    rw [if_pos short, if_pos short, bind_some, if_pos inside, content]
  · obtain ⟨before, behind, dataLaid, dataBegins⟩ := data short
    obtain ⟨content, inside⟩ := slice_put _ _ dataLaid dataBegins
    rw [Field.slot, if_neg short] at laid
    have exact : (UInt32.ofNat dataOffset).toNat = dataOffset :=
      UInt32.toNat_ofNat_of_lt' (lt_of_le_of_lt (Nat.le_of_add_right_le inside) small)
    rw [if_neg short, if_neg short, u32At_put _ _ laid slotBegins, map_some, exact,
      bind_some, if_pos inside, content]

end Entries

/-! ### Directories -/

variable {fields : List Field}

open Exif.Field

theorem entriesBytes_length (proper : ∀ field ∈ fields, field.Proper) (dataOffset : Nat) :
    (entriesBytes dataOffset (fields.map entry)).length = 12 * fields.length := by
  induction fields generalizing dataOffset with
  | nil => rfl
  | cons field rest hypothesis =>
    have isProper := proper field mem_cons_self
    have restProper := fun other member => proper other (mem_cons_of_mem field member)
    rw [map_cons, isProper.entriesBytes_cons, length_append, isProper.raw_length,
      hypothesis restProper, length_cons]
    omega

/-- The fields are read from their entries, with the data behind them. -/
theorem readFields_entries {block : Bytes} (proper : ∀ field ∈ fields, field.Proper)
    (small : block.length < 4294967296) (front middle back : Bytes) {place dataOffset : Nat}
    (laid : block = front ++ (entriesBytes dataOffset (fields.map entry) ++
      (middle ++ ((fields.map entry).flatMap outOfLine ++ back))))
    (begins : place = front.length)
    (dataBegins : dataOffset = front.length + 12 * fields.length + middle.length) :
    readFields block place fields.length = some (placed place dataOffset fields) := by
  induction fields generalizing front middle place dataOffset with
  | nil => rfl
  | cons field rest hypothesis =>
    have isProper := proper field mem_cons_self
    have restProper := fun other member => proper other (mem_cons_of_mem field member)
    have entriesLength := entriesBytes_length restProper
    simp only [map_cons, isProper.entriesBytes_cons, flatMap_cons, append_assoc] at laid
    have first := readField_entry isProper laid begins (fun long => ?_) small
    · have read : readFields block (place + 12) rest.length =
          some (placed (place + 12) (field.dataAfter dataOffset) rest) := by
        refine hypothesis restProper (front ++ rawEntry field.entry dataOffset)
          (middle ++ outOfLine field.entry) ?_ ?_ ?_
        · rw [laid]
          simp only [append_assoc]
        · rw [length_append, isProper.raw_length, begins]
        · rw [length_cons] at dataBegins
          rw [length_append, length_append, isProper.raw_length, isProper.dataAfter_eq]
          omega
      simp only [length_cons, readFields, placed]
      rw [first, read]
      rfl
    -- the data of the first entry come right behind the entries and the data before
    · refine ⟨front ++ (rawEntry field.entry dataOffset ++ (entriesBytes
        (field.dataAfter dataOffset) (rest.map entry) ++ middle)),
        (if field.content.length % 2 = 1 then [0] else []) ++
          ((rest.map entry).flatMap outOfLine ++ back), ?_, ?_⟩
      · rw [laid, isProper.outOfLine_long long]
        simp only [append_assoc]
      · simp only [length_append, isProper.raw_length, entriesLength]
        rw [dataBegins, length_cons]
        omega

theorem readDirectory_bytes (proper : ∀ field ∈ fields, field.Proper)
    (small : block.length < 4294967296) (few : fields.length < 65536)
    (laid : block = front ++ (directoryBytes front.length (fields.map entry) ++ back)) :
    readDirectory block front.length = some
      ⟨placed (front.length + 2) (front.length + 2 + fields.length * 12 + 4) fields, 0⟩ := by
  have exact : (UInt16.ofNat fields.length).toNat = fields.length := UInt16.toNat_ofNat_of_lt' few
  have entriesLength := entriesBytes_length proper
  simp only [directoryBytes, length_map, append_assoc] at laid
  have count := u16At_put _ _ laid rfl
  have read : readFields block (front.length + 2) fields.length = some
      (placed (front.length + 2) (front.length + 2 + fields.length * 12 + 4) fields) := by
    refine readFields_entries proper small
      (front ++ putU16 (.ofNat fields.length)) [0, 0, 0, 0] back ?_ ?_ ?_
    · rw [laid]
      simp only [append_assoc]
    · rw [length_append, putU16_length]
    · rw [length_append, putU16_length, mul_comm 12]
      rfl
  have next : u32At block (front.length + 2 + 12 * fields.length) = some 0 := by
    refine u32At_put (front ++ (putU16 (.ofNat fields.length) ++
      entriesBytes (front.length + 2 + fields.length * 12 + 4) (fields.map entry)))
      ((fields.map entry).flatMap outOfLine ++ back) ?_ ?_
    · rw [laid]
      simp only [append_assoc]
      rfl
    · rw [length_append, length_append, entriesLength, putU16_length, add_assoc]
  unfold readDirectory
  rw [count]
  simp only [bind_eq_bind, bind_some, exact]
  rw [read, next]
  rfl

/-! ### Regions -/

/-- The parts are in order, and lie between two places. -/
structure Within (start stop : Nat) (regions : List (Nat × Nat)) : Prop where
  order : start ≤ stop
  apart : regions.Pairwise Before
  inside : ∀ region ∈ regions, start ≤ region.1 ∧ region.1 + region.2 ≤ stop

theorem Within.nil {start stop : Nat} (order : start ≤ stop) : Within start stop [] :=
  ⟨order, List.Pairwise.nil, nofun⟩

theorem Within.single (start size : Nat) : Within start (start + size) [(start, size)] := by
  refine ⟨Nat.le_add_right start size, pairwise_singleton _ _, fun region member => ?_⟩
  rw [mem_singleton.mp member]
  exact ⟨le_rfl, le_rfl⟩

theorem Within.append {start middle stop : Nat} {first second : List (Nat × Nat)}
    (front : Within start middle first) (back : Within middle stop second) :
    Within start stop (first ++ second) := by
  refine ⟨front.order.trans back.order, ?_, ?_⟩
  · refine pairwise_append.mpr ⟨front.apart, back.apart, fun one early other late => ?_⟩
    exact (front.inside one early).2.trans (back.inside other late).1
  · intro region member
    rcases mem_append.mp member with early | late
    · exact ⟨(front.inside region early).1, (front.inside region early).2.trans back.order⟩
    · exact ⟨front.order.trans (back.inside region late).1, (back.inside region late).2⟩

theorem contentRegions_cons (read : Field × Nat) (rest : List (Field × Nat)) :
    contentRegions (read :: rest) =
      if read.1.content.length ≤ 4 then contentRegions rest
      else (read.2, read.1.content.length) :: contentRegions rest := by
  by_cases short : read.1.content.length ≤ 4
  · rw [if_pos short, contentRegions, filterMap_cons, if_pos short]
    rfl
  · rw [if_neg short, contentRegions, filterMap_cons, if_neg short]
    rfl

theorem contentRegions_within (proper : ∀ field ∈ fields, field.Proper) (place dataOffset : Nat) :
    Within dataOffset (dataOffset + ((fields.map entry).flatMap outOfLine).length)
      (contentRegions (placed place dataOffset fields)) := by
  induction fields generalizing place dataOffset with
  | nil => exact Within.nil (Nat.le_add_right _ _)
  | cons field rest hypothesis =>
    have isProper := proper field mem_cons_self
    have restProper := fun other member => proper other (mem_cons_of_mem field member)
    have behind := hypothesis restProper (place + 12) (field.dataAfter dataOffset)
    have after := isProper.dataAfter_eq dataOffset
    rw [map_cons, flatMap_cons, length_append, ← add_assoc, ← after, placed, contentRegions_cons]
    by_cases short : field.content.length ≤ 4
    · rw [if_pos short]
      exact (Within.nil (after ▸ Nat.le_add_right _ _)).append behind
    · have ends : dataOffset + field.content.length ≤ field.dataAfter dataOffset := by
        rw [after, isProper.outOfLine_length, if_neg short, evenSize]
        omega
      rw [if_neg short, if_neg short]
      exact (Within.single dataOffset _).append ((Within.nil ends).append behind)

theorem regionsAt_within (proper : ∀ field ∈ fields, field.Proper)
    (small : block.length < 4294967296) (few : fields.length < 65536)
    (laid : block = front ++ (directoryBytes front.length (fields.map entry) ++ back)) :
    Within front.length
      (front.length + (directoryBytes front.length (fields.map entry)).length)
      (regionsAt block front.length) := by
  have total : (directoryBytes front.length (fields.map entry)).length =
      2 + 12 * fields.length + 4 + ((fields.map entry).flatMap outOfLine).length := by
    rw [directoryBytes, length_append, length_append, length_append,
      putU16_length, entriesBytes_length proper]
    simp only [length_cons, length_nil]
    omega
  have table := Within.single front.length (2 + 12 * fields.length + 4)
  have data := contentRegions_within proper (front.length + 2)
    (front.length + (2 + 12 * fields.length + 4))
  have offset : front.length + 2 + fields.length * 12 + 4 =
      front.length + (2 + 12 * fields.length + 4) := by
    omega
  rw [regionsAt, readDirectory_bytes proper small few laid, total, ← add_assoc]
  dsimp only
  rw [placed_length, offset]
  exact table.append data

end Exif
