/-
This file is about the private link to the motors of the MT11: building a frame,
and the parser that is fed whatever bytes have been read.

The parser delivers the frames of the greedy scan of all it was fed, however that
was cut into reads, and the frames that were built come out as they went in.
-/

import CameraGimbal.Siyi

namespace PrivateUart

open Framing List
open Siyi (byteAt getU16le crc16)

/-- The length of the longest payload. -/
def maxPayload : Nat := 4096

/-- The length of the longest frame. -/
def maxFrame : Nat := maxPayload + 14

def bufferSize : Nat := maxFrame * 2

/-! ### Frames -/

def crc8Bit (crc : UInt8) : UInt8 :=
  if crc &&& 1 ≠ 0 then (crc >>> 1) ^^^ 0x8c else crc >>> 1

/-- One byte of the CRC-8, least significant bit first. -/
def crc8Byte (crc byte : UInt8) : UInt8 :=
  (List.range 8).foldl (fun crc _ => crc8Bit crc) (crc ^^^ byte)

/-- The CRC-8 that protects the start of a frame. -/
def crc8Maxim (data : Bytes) : UInt8 :=
  data.foldl crc8Byte 0

/-- The two bytes of a little-endian number. -/
def putU16le (value : UInt16) : Bytes :=
  [value.toUInt8, (value >>> 8).toUInt8]

structure Frame where
  control : UInt8
  sequence : UInt16
  source : UInt8
  destination : UInt8
  link : UInt8
  command : UInt8
  payload : Bytes
  deriving DecidableEq, Repr

/-- The bytes the CRC-8 covers. -/
def Frame.start (frame : Frame) : Bytes :=
  [0xaa, frame.control, 3] ++ putU16le (UInt16.ofNat frame.payload.length)

/-- The bytes the CRC-16 covers. -/
def Frame.body (frame : Frame) : Bytes :=
  frame.start ++ [crc8Maxim frame.start] ++ putU16le frame.sequence ++
    [frame.source, frame.destination, frame.link, frame.command] ++ frame.payload

def Frame.bytes (frame : Frame) : Bytes :=
  frame.body ++ putU16le (crc16 frame.body)

/-- `ca_private_build`; nothing when the frame is too long. -/
def build (frame : Frame) (capacity : Nat) : Option Bytes :=
  if capacity < frame.payload.length + 14 ∨ maxPayload < frame.payload.length then none
  else some frame.bytes

/-! ### The parser -/

/-- The parser's buffer and counters. What it has delivered, and whether its buffer was ever
full, are its history. -/
structure Parser where
  data : Bytes
  discarded : UInt32
  badHeaderCrc : UInt32
  badFrameCrc : UInt32
  delivered : List Frame
  noRoom : Bool

/-- `ca_private_parser_init`. -/
def Parser.init : Parser where
  data := []
  discarded := 0
  badHeaderCrc := 0
  badFrameCrc := 0
  delivered := []
  noRoom := false

def discardPrefix (parser : Parser) (count : Nat) : Parser :=
  if parser.data.length ≤ count then { parser with data := [] }
  else { parser with data := parser.data.drop count }

/-- The number of bytes before the first sync byte. -/
def syncStart (data : Bytes) : Nat :=
  (data.takeWhile (· != 0xaa)).length

/-- Discard what is in front of the first sync byte. -/
def syncParser (parser : Parser) : Parser :=
  let sync := syncStart parser.data
  if sync ≠ 0 then
    { discardPrefix parser sync with discarded := parser.discarded + UInt32.ofNat sync }
  else parser

/-- The frame at the head of the data. -/
def readFrame (data : Bytes) : Frame where
  control := byteAt data 1
  sequence := getU16le data 6
  source := byteAt data 8
  destination := byteAt data 9
  link := byteAt data 10
  command := byteAt data 11
  payload := (data.drop 12).take (getU16le data 3).toNat

/-- One turn of the loop over the buffer; false when the loop ends with it. -/
def turn (parser : Parser) : Parser × Bool :=
  let synced := syncParser parser
  let data := synced.data
  let total := (getU16le data 3).toNat + 14
  if data.length < 6 then (synced, false)
  else if byteAt data 2 ≠ 3 ∨ maxPayload < (getU16le data 3).toNat then
    (discardPrefix { synced with discarded := synced.discarded + 1 } 1, true)
  else if data.length < total then (synced, false)
  else if byteAt data 5 ≠ crc8Maxim (data.take 5) then
    (discardPrefix { synced with badHeaderCrc := synced.badHeaderCrc + 1 } 1, true)
  else if getU16le data (total - 2) ≠ crc16 (data.take (total - 2)) then
    (discardPrefix { synced with badFrameCrc := synced.badFrameCrc + 1 } 1, true)
  else
    (discardPrefix { synced with delivered := synced.delivered ++ [readFrame data] } total, true)

variable (parser : Parser)

@[simp] theorem discardPrefix_data (count : Nat) :
    (discardPrefix parser count).data = parser.data.drop count := by
  unfold discardPrefix
  split
  · next short => exact (drop_eq_nil_of_le short).symm
  · rfl

theorem length_syncParser :
    (syncParser parser).data.length ≤ parser.data.length := by
  unfold syncParser
  simp only
  split
  · rw [discardPrefix_data]
    exact (drop_suffix _ _).length_le
  · exact le_rfl

theorem turn_shrinks {parser after : Parser} (goesOn : turn parser = (after, true)) :
    after.data.length < parser.data.length := by
  have synced := length_syncParser parser
  have shrinks (enough : ¬ (syncParser parser).data.length < 6) {count : Nat}
      (positive : 0 < count) :
      ((syncParser parser).data.drop count).length < parser.data.length := by
    rw [length_drop]
    omega
  unfold turn at goesOn
  simp only at goesOn
  split at goesOn
  · cases goesOn
  next enough =>
  split at goesOn
  · rw [← (Prod.mk.inj goesOn).1, discardPrefix_data]
    exact shrinks enough Nat.one_pos
  split at goesOn
  · cases goesOn
  split at goesOn
  · rw [← (Prod.mk.inj goesOn).1, discardPrefix_data]
    exact shrinks enough Nat.one_pos
  split at goesOn
  · rw [← (Prod.mk.inj goesOn).1, discardPrefix_data]
    exact shrinks enough Nat.one_pos
  · rw [← (Prod.mk.inj goesOn).1, discardPrefix_data]
    exact shrinks enough (Nat.succ_pos _)

/-- The loop over the buffer. -/
def consume (parser : Parser) : Parser :=
  if parser.data = [] then parser
  else
    match _goesOn : turn parser with
    | (after, false) => after
    | (after, true) => consume after
termination_by parser.data.length
decreasing_by exact turn_shrinks _goesOn

/-- `ca_private_parser_feed`: the data is copied as far as there is room, and consumed. -/
def feed (parser : Parser) (data : Bytes) : Parser :=
  let copy := min (bufferSize - parser.data.length) data.length
  if data = [] then parser
  else if copy = 0 then
    feed (discardPrefix
      { parser with discarded := parser.discarded + 1, noRoom := true } 1) data
  else feed (consume { parser with data := parser.data ++ data.take copy }) (data.drop copy)
termination_by (data.length, parser.data.length)
decreasing_by
  · next fed blocked =>
    have size : 0 < bufferSize := by decide
    have := List.length_pos_iff.mpr fed
    rw [discardPrefix_data, List.length_drop]
    exact Prod.Lex.right _ (by simp only; omega)
  · next fed _ =>
    have := List.length_pos_iff.mpr fed
    exact Prod.Lex.left _ _ (by rw [List.length_drop]; omega)

/-! ### The format -/

/-- What is done with the bytes at the head of the buffer: skip to a sync byte, skip a byte
whose header is not allowed, wait for the whole frame, skip a byte when a checksum does not
match, and otherwise take the frame. -/
def verdict (data : Bytes) : Verdict :=
  let payloadLength := (getU16le data 3).toNat
  let total := payloadLength + 14
  if data = [] then .wait
  else if byteAt data 0 ≠ 0xaa then .skip
  else if data.length < 6 then .wait
  else if byteAt data 2 ≠ 3 ∨ maxPayload < payloadLength then .skip
  else if data.length < total then .wait
  else if byteAt data 5 ≠ crc8Maxim (data.take 5) then .skip
  else if getU16le data (total - 2) ≠ crc16 (data.take (total - 2)) then .skip
  else .frame total

variable {data : Bytes}

theorem verdict_frame {total : Nat} (found : verdict data = .frame total) :
    data ≠ [] ∧ total = (getU16le data 3).toNat + 14 ∧ total ≤ data.length ∧ total ≤ maxFrame := by
  unfold verdict at found
  simp only at found
  split at found
  · cases found
  next nonempty =>
  split at found
  · cases found
  split at found
  · cases found
  split at found
  · cases found
  next allowed =>
  obtain ⟨-, fits⟩ := not_or.mp allowed
  split at found
  · cases found
  next whole =>
  split at found
  · cases found
  split at found
  · cases found
  cases found
  refine ⟨nonempty, rfl, Nat.le_of_not_lt whole, ?_⟩
  unfold maxFrame
  omega

theorem length_lt_of_wait (waits : verdict data = .wait) : data.length < maxFrame := by
  have long : 6 < maxFrame := by decide
  unfold verdict at waits
  simp only at waits
  split at waits
  · next empty =>
    rw [empty]
    decide
  split at waits
  · cases waits
  split at waits
  · omega
  split at waits
  · cases waits
  next allowed =>
  obtain ⟨-, fits⟩ := not_or.mp allowed
  split at waits
  · unfold maxFrame
    omega
  split at waits
  · cases waits
  split at waits <;> cases waits

theorem verdict_append (later : Bytes) (decided : verdict data ≠ .wait) :
    verdict (data ++ later) = verdict data := by
  have nonempty : data ≠ [] := by
    rintro rfl
    exact decided rfl
  have grown : data ++ later ≠ [] := fun empty => nonempty (append_eq_nil_iff.mp empty).1
  have positive : 0 < data.length := length_pos_iff.mpr nonempty
  have length : (data ++ later).length = data.length + later.length := length_append
  have byte (index : Nat) (inside : index < data.length) :
      byteAt (data ++ later) index = byteAt data index := Siyi.byteAt_append later inside
  have word (index : Nat) (inside : index + 1 < data.length) :
      getU16le (data ++ later) index = getU16le data index := Siyi.getU16le_append later inside
  have start (count : Nat) (inside : count ≤ data.length) :
      (data ++ later).take count = data.take count := take_append_of_le_length inside
  unfold verdict at decided ⊢
  simp only [if_neg nonempty, if_neg grown] at decided ⊢
  rw [byte 0 positive]
  by_cases sync : byteAt data 0 ≠ 0xaa
  · rw [if_pos sync, if_pos sync]
  rw [if_neg sync] at decided ⊢
  rw [if_neg sync]
  by_cases short : data.length < 6
  · exact absurd (if_pos short) decided
  rw [if_neg short] at decided ⊢
  rw [if_neg (by omega), byte 2 (by omega), word 3 (by omega)]
  by_cases refused : byteAt data 2 ≠ 3 ∨ maxPayload < (getU16le data 3).toNat
  · rw [if_pos refused, if_pos refused]
  rw [if_neg refused] at decided ⊢
  rw [if_neg refused]
  by_cases cut : data.length < (getU16le data 3).toNat + 14
  · exact absurd (if_pos cut) decided
  rw [if_neg cut, if_neg (by omega), byte 5 (by omega), word _ (by omega), start 5 (by omega),
    start _ (by omega)]

def privateFormat : Format UInt8 where
  verdict := verdict
  skip_nonempty := by
    rintro data skips rfl
    cases skips
  frame_pos := by
    intro data total found
    have := (verdict_frame found).2.1
    omega
  frame_le := fun found => (verdict_frame found).2.2.1
  stable := fun later decided => verdict_append later decided

/-! ### The parser follows the scan -/

theorem drop_syncStart (data : Bytes) :
    data.drop (syncStart data) = data.dropWhile (· != 0xaa) := by
  unfold syncStart
  induction data with
  | nil => rfl
  | cons first rest hypothesis =>
    rw [takeWhile_cons, dropWhile_cons]
    cases first != 0xaa with
    | true => exact hypothesis
    | false => rfl

theorem syncParser_eq :
    (syncParser parser).data = parser.data.dropWhile (· != 0xaa) ∧
      (syncParser parser).delivered = parser.delivered ∧
      (syncParser parser).noRoom = parser.noRoom := by
  unfold syncParser discardPrefix
  rw [← drop_syncStart]
  simp only
  split
  · split
    · next long => exact ⟨(drop_eq_nil_of_le long).symm, rfl, rfl⟩
    · exact ⟨rfl, rfl, rfl⟩
  · next none =>
    rw [not_not.mp none]
    exact ⟨rfl, rfl, rfl⟩

theorem verdict_of_unsynced {first : UInt8} {rest : Bytes} (before : first ≠ 0xaa) :
    verdict (first :: rest) = .skip := by
  unfold verdict
  rw [if_neg (cons_ne_nil first rest)]
  exact if_pos before

/-- The verdict on bytes with a sync byte at their head. -/
theorem verdict_synced (synced : data ≠ [] → byteAt data 0 = 0xaa) :
    verdict data =
      if data.length < 6 then .wait
      else if byteAt data 2 ≠ 3 ∨ maxPayload < (getU16le data 3).toNat then .skip
      else if data.length < (getU16le data 3).toNat + 14 then .wait
      else if byteAt data 5 ≠ crc8Maxim (data.take 5) then .skip
      else if getU16le data ((getU16le data 3).toNat + 14 - 2) ≠
        crc16 (data.take ((getU16le data 3).toNat + 14 - 2)) then .skip
      else .frame ((getU16le data 3).toNat + 14) := by
  by_cases empty : data = []
  · rw [empty]
    rfl
  · unfold verdict
    rw [if_neg empty, if_neg (not_not.mpr (synced empty))]

theorem byteAt_dropWhile (data : Bytes) (nonempty : data.dropWhile (· != 0xaa) ≠ []) :
    byteAt (data.dropWhile (· != 0xaa)) 0 = 0xaa := by
  induction data with
  | nil => exact absurd rfl nonempty
  | cons first rest hypothesis =>
    rw [dropWhile_cons] at nonempty ⊢
    cases before : first != 0xaa with
    | true =>
      rw [before] at nonempty
      exact hypothesis nonempty
    | false => exact bne_eq_false_iff_eq.mp before

variable {received : Bytes}

theorem inStep_sync {frames : List (Bytes)} {buffered : Bytes}
    (step : InStep privateFormat received frames buffered) :
    InStep privateFormat received frames (buffered.dropWhile (· != 0xaa)) := by
  induction buffered with
  | nil => exact step
  | cons first rest hypothesis =>
    rw [dropWhile_cons]
    cases before : first != 0xaa with
    | true =>
      exact hypothesis (step.skip (verdict_of_unsynced (bne_iff_ne.mp before)))
    | false => exact step

theorem byteAt_take {count index : Nat} (inside : index < count) :
    byteAt (data.take count) index = byteAt data index := by
  unfold Siyi.byteAt
  rw [getD_eq_getElem?_getD, getD_eq_getElem?_getD, getElem?_take_of_lt inside]

theorem getU16le_take {count index : Nat} (inside : index + 1 < count) :
    getU16le (data.take count) index = getU16le data index := by
  unfold Siyi.getU16le
  rw [byteAt_take inside, byteAt_take (Nat.lt_of_succ_lt inside)]

theorem readFrame_take (data : Bytes) :
    readFrame (data.take ((getU16le data 3).toNat + 14)) = readFrame data := by
  unfold readFrame
  rw [byteAt_take (by omega), byteAt_take (by omega), byteAt_take (by omega),
    byteAt_take (by omega), byteAt_take (by omega), getU16le_take (by omega),
    getU16le_take (by omega), drop_take, take_take, min_eq_left (by omega)]

/-- The parser has taken the frames of what it has received, up to what it still holds, and its
buffer was never full. -/
structure Sound (parser : Parser) (received : Bytes) : Prop where
  framed : ∃ frames, InStep privateFormat received frames parser.data ∧
    parser.delivered = frames.map readFrame
  room : parser.noRoom = false

theorem Sound.init : Sound Parser.init [] :=
  ⟨⟨[], .start, rfl⟩, rfl⟩

/-- What a turn establishes: the parser stays sound, and when the loop ends, it waits. -/
structure TurnSound (after : Parser) (goesOn : Bool) (received : Bytes) : Prop where
  sound : Sound after received
  waits : goesOn = false → verdict after.data = .wait

theorem TurnSound.skip {synced middle : Parser} {received : Bytes}
    (sound : Sound synced received) (skips : verdict synced.data = .skip)
    (data : middle.data = synced.data) (delivered : middle.delivered = synced.delivered)
    (noRoom : middle.noRoom = synced.noRoom) :
    TurnSound (discardPrefix middle 1) true received := by
  obtain ⟨⟨frames, step, delivers⟩, room⟩ := sound
  refine ⟨⟨⟨frames, ?_, ?_⟩, ?_⟩, nofun⟩
  · rw [discardPrefix_data, data, drop_one]
    exact step.skip skips
  · unfold discardPrefix
    split <;> exact delivered.trans delivers
  · unfold discardPrefix
    split <;> exact noRoom.trans room

theorem TurnSound.take {synced : Parser} {received : Bytes} (sound : Sound synced received)
    (found : verdict synced.data = .frame ((getU16le synced.data 3).toNat + 14)) :
    TurnSound
      (discardPrefix { synced with delivered := synced.delivered ++ [readFrame synced.data] }
        ((getU16le synced.data 3).toNat + 14)) true received := by
  obtain ⟨⟨frames, step, delivers⟩, room⟩ := sound
  refine ⟨⟨⟨frames ++ [synced.data.take ((getU16le synced.data 3).toNat + 14)], ?_, ?_⟩, ?_⟩, nofun⟩
  · rw [discardPrefix_data]
    exact step.take found
  · have kept : synced.delivered ++ [readFrame synced.data] =
        (frames ++ [synced.data.take ((getU16le synced.data 3).toNat + 14)]).map readFrame := by
      rw [map_append, ← delivers, map_singleton, readFrame_take]
    unfold discardPrefix
    split <;> exact kept
  · unfold discardPrefix
    split <;> exact room

theorem turn_sound {parser : Parser} (sound : Sound parser received) :
    TurnSound (turn parser).1 (turn parser).2 received := by
  obtain ⟨data, delivered, noRoom⟩ := syncParser_eq parser
  have kept : Sound (syncParser parser) received := by
    obtain ⟨⟨frames, step, delivers⟩, room⟩ := sound
    refine ⟨⟨frames, ?_, delivered.trans delivers⟩, noRoom.trans room⟩
    rw [data]
    exact inStep_sync step
  have synced : (syncParser parser).data ≠ [] → byteAt (syncParser parser).data 0 = 0xaa := by
    rw [data]
    exact byteAt_dropWhile parser.data
  have decided := verdict_synced synced
  unfold turn
  by_cases short : (syncParser parser).data.length < 6
  · rw [if_pos short] at decided ⊢
    exact ⟨kept, fun _ => decided⟩
  rw [if_neg short] at decided ⊢
  by_cases refused : byteAt (syncParser parser).data 2 ≠ 3 ∨
      maxPayload < (getU16le (syncParser parser).data 3).toNat
  · rw [if_pos refused] at decided ⊢
    exact .skip kept decided rfl rfl rfl
  rw [if_neg refused] at decided ⊢
  by_cases cut : (syncParser parser).data.length < (getU16le (syncParser parser).data 3).toNat + 14
  · rw [if_pos cut] at decided ⊢
    exact ⟨kept, fun _ => decided⟩
  rw [if_neg cut] at decided ⊢
  by_cases badHeader : byteAt (syncParser parser).data 5 ≠
      crc8Maxim ((syncParser parser).data.take 5)
  · rw [if_pos badHeader] at decided ⊢
    exact .skip kept decided rfl rfl rfl
  rw [if_neg badHeader] at decided ⊢
  by_cases badFrame : getU16le (syncParser parser).data
        ((getU16le (syncParser parser).data 3).toNat + 14 - 2) ≠
      crc16 ((syncParser parser).data.take ((getU16le (syncParser parser).data 3).toNat + 14 - 2))
  · rw [if_pos badFrame] at decided ⊢
    exact .skip kept decided rfl rfl rfl
  rw [if_neg badFrame] at decided ⊢
  exact .take kept decided

theorem consume_sound (sound : Sound parser received) :
    Sound (consume parser) received ∧ verdict (consume parser).data = .wait := by
  induction parser using consume.induct with
  | case1 parser empty =>
    rw [consume, if_pos empty]
    refine ⟨sound, ?_⟩
    rw [empty]
    rfl
  | case2 parser nonempty after ends =>
    have turned := turn_sound sound
    rw [ends] at turned
    rw [consume, if_neg nonempty]
    split
    · next ends' =>
      obtain ⟨rfl, -⟩ := Prod.mk.inj (ends.symm.trans ends')
      exact ⟨turned.sound, turned.waits rfl⟩
    · next ends' => cases ends.symm.trans ends'
  | case3 parser nonempty after goesOn hypothesis =>
    have turned := turn_sound sound
    rw [goesOn] at turned
    rw [consume, if_neg nonempty]
    split
    · next goesOn' => cases goesOn.symm.trans goesOn'
    · next goesOn' =>
      obtain ⟨rfl, -⟩ := Prod.mk.inj (goesOn.symm.trans goesOn')
      exact hypothesis turned.sound

/-- A feed keeps a parser that waits sound, and leaves it waiting. There is always room, since
what waits is shorter than a frame. -/
theorem feed_sound (data : Bytes) (sound : Sound parser received)
    (waits : verdict parser.data = .wait) :
    Sound (feed parser data) (received ++ data) ∧ verdict (feed parser data).data = .wait := by
  induction parser, data using feed.induct generalizing received with
  | case1 parser =>
    rw [feed, append_nil]
    exact ⟨sound, waits⟩
  | case2 parser data copy fed blocked =>
    have short := length_lt_of_wait waits
    have size : bufferSize = maxFrame * 2 := rfl
    have := length_pos_iff.mpr fed
    omega
  | case3 parser data copy fed room =>
    rename_i hypothesis
    rw [feed, if_neg fed, if_neg room]
    have grown : Sound { parser with data := parser.data ++ data.take copy }
        (received ++ data.take copy) := by
      obtain ⟨⟨frames, step, delivers⟩, notFull⟩ := sound
      exact ⟨⟨frames, step.receive _, delivers⟩, notFull⟩
    obtain ⟨kept, waits⟩ := consume_sound _ grown
    have fedOn := hypothesis kept waits
    rwa [append_assoc, take_append_drop] at fedOn

theorem feedAll_sound (chunks : List Bytes) (parser : Parser) (sound : Sound parser received)
    (waits : verdict parser.data = .wait) :
    Sound (chunks.foldl feed parser) (received ++ chunks.flatten) ∧
      verdict (chunks.foldl feed parser).data = .wait := by
  induction chunks generalizing parser received with
  | nil =>
    rw [flatten_nil, append_nil]
    exact ⟨sound, waits⟩
  | cons chunk rest hypothesis =>
    obtain ⟨fed, waits⟩ := feed_sound parser chunk sound waits
    rw [foldl_cons, flatten_cons, ← append_assoc]
    exact hypothesis (feed parser chunk) fed waits

/-! ### A frame comes out as it went in -/

theorem getU16le_putU16le (value : UInt16) :
    value.toUInt8.toUInt16 ||| ((value >>> 8).toUInt8.toUInt16 <<< (8 : UInt16)) = value := by
  have small := value.toNat_lt
  have low : value.toNat % 2 ^ 8 < 2 ^ 8 := Nat.mod_lt _ (by decide)
  have high : (value.toNat >>> 8 % 2 ^ 8) <<< 8 % 2 ^ 16 = (value.toNat / 2 ^ 8) <<< 8 := by
    rw [Nat.shiftRight_eq_div_pow, Nat.shiftLeft_eq, Nat.shiftLeft_eq]
    omega
  have whole : value.toNat % 2 ^ 8 ||| (value.toNat / 2 ^ 8) <<< 8 = value.toNat := by
    rw [Nat.or_comm, ← Nat.shiftLeft_add_eq_or_of_lt low, Nat.shiftLeft_eq]
    omega
  refine UInt16.toNat_inj.mp ?_
  simp only [UInt16.toNat_or, UInt8.toNat_toUInt16, UInt16.toNat_toUInt8, UInt16.toNat_shiftLeft,
    UInt16.toNat_shiftRight, UInt16.toNat_ofNat]
  exact (congrArg (value.toNat % 2 ^ 8 ||| ·) high).trans whole

/-- The bytes of a frame in front of its payload. -/
def Frame.header (frame : Frame) : Bytes :=
  frame.start ++ [crc8Maxim frame.start] ++ putU16le frame.sequence ++
    [frame.source, frame.destination, frame.link, frame.command]

variable (frame : Frame)

theorem length_header : frame.header.length = 12 := rfl

theorem body_eq : frame.body = frame.header ++ frame.payload := rfl

theorem length_body : frame.body.length = frame.payload.length + 12 := by
  rw [body_eq, length_append, length_header, Nat.add_comm]

theorem length_bytes : frame.bytes.length = frame.payload.length + 14 := by
  unfold Frame.bytes
  rw [length_append, length_body]
  rfl

theorem byteAt_bytes {index : Nat} (inside : index < 12) :
    byteAt frame.bytes index = byteAt frame.header index := by
  have whole : frame.bytes = frame.header ++ (frame.payload ++ putU16le (crc16 frame.body)) := by
    unfold Frame.bytes
    rw [body_eq, append_assoc]
  rw [whole, Siyi.byteAt_append _ (by rw [length_header]; exact inside)]

theorem getU16le_bytes {index : Nat} (inside : index + 1 < 12) :
    getU16le frame.bytes index = getU16le frame.header index := by
  unfold Siyi.getU16le
  rw [byteAt_bytes frame inside, byteAt_bytes frame (Nat.lt_of_succ_lt inside)]

theorem headerCrc_header : byteAt frame.header 5 = crc8Maxim frame.start := by
  unfold Frame.header
  generalize crc8Maxim frame.start = crc
  rfl

theorem payloadLength_bytes (fits : frame.payload.length ≤ maxPayload) :
    (getU16le frame.bytes 3).toNat = frame.payload.length := by
  have small : frame.payload.length < 2 ^ 16 := lt_of_le_of_lt fits (by decide)
  have header : getU16le frame.header 3 = UInt16.ofNat frame.payload.length :=
    getU16le_putU16le (UInt16.ofNat frame.payload.length)
  rw [getU16le_bytes frame (by decide), header, UInt16.toNat_ofNat', Nat.mod_eq_of_lt small]

theorem trailer_bytes : getU16le frame.bytes (frame.payload.length + 12) = crc16 frame.body := by
  have behind (index : Nat) : byteAt frame.bytes (frame.payload.length + 12 + index) =
      byteAt (putU16le (crc16 frame.body)) index := by
    unfold Siyi.byteAt Frame.bytes
    rw [getD_eq_getElem?_getD, getD_eq_getElem?_getD,
      getElem?_append_right (by rw [length_body]; exact Nat.le_add_right _ _), length_body,
      Nat.add_sub_cancel_left]
  unfold Siyi.getU16le
  rw [behind 1, show frame.payload.length + 12 = frame.payload.length + 12 + 0 from rfl, behind 0]
  exact getU16le_putU16le (crc16 frame.body)

theorem verdict_bytes (fits : frame.payload.length ≤ maxPayload) :
    verdict frame.bytes = .frame frame.bytes.length := by
  have synced : frame.bytes ≠ [] → byteAt frame.bytes 0 = 0xaa := fun _ => by
    rw [byteAt_bytes frame (by decide)]
    rfl
  have allowed : ¬ (byteAt frame.bytes 2 ≠ 3 ∨ maxPayload < frame.payload.length) := by
    rw [byteAt_bytes frame (by decide)]
    exact not_or.mpr ⟨not_not.mpr rfl, not_lt.mpr fits⟩
  have headerCrc : byteAt frame.bytes 5 = crc8Maxim (frame.bytes.take 5) := by
    have start : frame.bytes.take 5 = frame.start := rfl
    rw [byteAt_bytes frame (by decide), start, headerCrc_header]
  have covered : frame.bytes.take (frame.payload.length + 12) = frame.body := by
    rw [← length_body]
    exact take_left
  rw [verdict_synced synced, payloadLength_bytes frame fits, length_bytes, if_neg (by omega),
    if_neg allowed, if_neg (lt_irrefl _), if_neg (not_not.mpr headerCrc)]
  refine if_neg (not_not.mpr ?_)
  exact (trailer_bytes frame).trans (congrArg crc16 covered.symm)

theorem readFrame_bytes (fits : frame.payload.length ≤ maxPayload) :
    readFrame frame.bytes = frame := by
  have sequence : getU16le frame.header 6 = frame.sequence := getU16le_putU16le frame.sequence
  have payload : (frame.bytes.drop 12).take frame.payload.length = frame.payload := by
    have behind : frame.bytes.drop 12 = frame.payload ++ putU16le (crc16 frame.body) := rfl
    rw [behind, take_left]
  unfold readFrame
  rw [payloadLength_bytes frame fits, payload, getU16le_bytes frame (by decide), sequence,
    byteAt_bytes frame (by decide), byteAt_bytes frame (by decide), byteAt_bytes frame (by decide),
    byteAt_bytes frame (by decide), byteAt_bytes frame (by decide)]
  rfl

theorem scan_bytes (frames : List Frame)
    (fit : ∀ frame ∈ frames, frame.payload.length ≤ maxPayload) :
    scan privateFormat (frames.map Frame.bytes).flatten = (frames.map Frame.bytes, []) := by
  induction frames with
  | nil => exact scan_of_wait rfl
  | cons frame rest hypothesis =>
    have alone := verdict_bytes frame (fit frame mem_cons_self)
    have found : privateFormat.verdict (frame.bytes ++ (rest.map Frame.bytes).flatten) =
        .frame frame.bytes.length :=
      (verdict_append _ (by rw [alone]; nofun)).trans alone
    rw [map_cons, flatten_cons, scan_of_frame found, take_left, drop_left,
      hypothesis fun other member => fit other (mem_cons_of_mem frame member)]

/-- The bytes of a list of frames, each as it was built. -/
def Built (frames : List Frame) (built : List Bytes) : Prop :=
  List.Forall₂ (fun frame bytes => ∃ capacity, build frame capacity = some bytes) frames built

theorem Built.bytes {frames : List Frame} {built : List (Bytes)}
    (isBuilt : Built frames built) :
    built = frames.map Frame.bytes ∧ ∀ frame ∈ frames, frame.payload.length ≤ maxPayload := by
  induction isBuilt with
  | nil => exact ⟨rfl, nofun⟩
  | @cons frame bytes frames built first _ hypothesis =>
    obtain ⟨capacity, first⟩ := first
    obtain ⟨rfl, fit⟩ := hypothesis
    unfold build at first
    split at first
    · cases first
    next fits =>
    cases first
    refine ⟨rfl, forall_mem_cons.mpr ⟨?_, fit⟩⟩
    exact Nat.le_of_not_lt fun long => fits (.inr long)

/-- However a stream is cut into calls, the frames delivered are those of its greedy scan, what
is kept after a call is a suffix of the stream that is shorter than the longest frame, the
buffer is never full, and frames that were built come out as they went in. -/
theorem frames_delivered (chunks : List Bytes) :
    let parser : Parser := chunks.foldl feed Parser.init
    let scanned := scan privateFormat chunks.flatten
    parser.delivered = scanned.1.map readFrame ∧
      parser.data = scanned.2 ∧
      parser.data <:+ chunks.flatten ∧
      parser.data.length < maxFrame ∧
      parser.noRoom = false ∧
      ∀ frames built, Built frames built → chunks.flatten = built.flatten →
        parser.delivered = frames ∧ parser.data = [] := by
  obtain ⟨⟨⟨frames, step, delivers⟩, room⟩, waits⟩ := feedAll_sound chunks .init .init rfl
  rw [List.nil_append] at step
  have done := step.done waits
  have suffix : (scan privateFormat chunks.flatten).2 <:+ chunks.flatten := scan_suffix _
  simp only [done] at suffix ⊢
  refine ⟨delivers, trivial, suffix, length_lt_of_wait waits, room, ?_⟩
  intro sent built isBuilt stream
  obtain ⟨rfl, fit⟩ := isBuilt.bytes
  rw [stream, scan_bytes sent fit] at done
  obtain ⟨rfl, empty⟩ := Prod.mk.inj done
  refine ⟨?_, empty.symm⟩
  rw [delivers, List.map_map]
  exact (List.map_congr_left fun frame member => readFrame_bytes frame (fit frame member)).trans
    (List.map_id sent)

end PrivateUart
