/-
This file is about the private links of the simulated gimbal, which builds and parses in Python what
the drivers build and parse in C.

What one side builds the other takes with the same fields, and neither takes a frame in which one
byte is another.
-/

import CameraGimbal.SiyiLink
import CameraGimbal.SiyiPeers

namespace PrivatePeers

open Framing List Option
open PrivateUart (crc8Bit crc8Byte crc8Maxim putU16le maxPayload sealed length_sealed Intact
  sealed_set_not_intact)
open Siyi (byteAt getU16le crc16)
open SiyiLink (linkMaxPayload linkFrame linkVerdict parseRx)
open SiyiPeers (packShort unpackShort simCrc16)

/-! ### The simulator -/

def simCrc8Bit (value : Nat) : Nat :=
  if value &&& 1 ≠ 0 then (value >>> 1) ^^^ 0x8c else value >>> 1

/-- The simulator's `crc8`. -/
def simCrc8 (data : Bytes) : Nat :=
  data.foldl (fun value byte =>
    (List.range 8).foldl (fun value _ => simCrc8Bit value) (value ^^^ byte.toNat)) 0

/-- Store into a `bytearray`; an error when the number is no byte. -/
def packByte (value : Nat) : Option Bytes :=
  if value < 2 ^ 8 then some [UInt8.ofNat value] else none

def mt11PrivateFrame (control sequence command : Nat) (payload : Bytes) :
    Option Bytes := do
  let control ← packByte control
  let payloadLength ← packShort payload.length
  let start := [0xaa] ++ control ++ [3] ++ payloadLength
  let check ← packByte (simCrc8 start)
  let sequence ← packShort sequence
  let command ← packByte command
  let result := start ++ check ++ sequence ++ [0x2e, 0x34, 0x6b] ++ command ++ payload
  let crc ← packShort (simCrc16 result)
  some (result ++ crc)

def a8PrivateFrame (control sequence command : Nat) (payload : Bytes) :
    Option Bytes :=
  if 255 < payload.length then none
  else do
    let control ← packByte control
    let payloadLength ← packByte payload.length
    let low ← packByte (sequence &&& 0xff)
    let high ← packByte (sequence >>> 8)
    let command ← packByte command
    let start := [0xaa] ++ control ++ [0x02] ++ payloadLength
    let check ← packByte (simCrc8 start)
    let result := start ++ check ++ low ++ high ++ [0x2e, 0x2c, 0x6b] ++ command ++ payload
    let crc ← packShort (simCrc16 result)
    some (result ++ crc)

/-- The tuple that the parsers return. -/
structure Parsed where
  control : UInt8
  sequence : Nat
  source : UInt8
  destination : UInt8
  link : UInt8
  command : UInt8
  payload : Bytes
  deriving DecidableEq, Repr

/-- `parse_mt11_private`; none is an error. -/
def parseMt11Private (data : Bytes) : Option Parsed :=
  if data.length < 14 ∨ byteAt data 0 ≠ 0xaa ∨ byteAt data 2 ≠ 3 ∨
      simCrc8 (data.take 5) ≠ (byteAt data 5).toNat then none
  else do
    let payloadLength ← unpackShort (data.drop 3)
    let received ← unpackShort (data.drop (data.length - 2))
    if data.length ≠ payloadLength + 14 ∨ simCrc16 (data.take (data.length - 2)) ≠ received then
      none
    else
      let sequence ← unpackShort (data.drop 6)
      some
        { control := byteAt data 1
          sequence
          source := byteAt data 8
          destination := byteAt data 9
          link := byteAt data 10
          command := byteAt data 11
          payload := (data.take (data.length - 2)).drop 12 }

/-- `parse_a8_private`; none is an error. -/
def parseA8Private (data : Bytes) : Option Parsed :=
  if data.length < 13 ∨ byteAt data 0 ≠ 0xaa ∨ byteAt data 2 ≠ 0x02 ∨
      simCrc8 (data.take 4) ≠ (byteAt data 4).toNat then none
  else do
    let payloadLength := (byteAt data 3).toNat
    let received ← unpackShort (data.drop (data.length - 2))
    if data.length ≠ payloadLength + 13 ∨ simCrc16 (data.take (data.length - 2)) ≠ received then
      none
    else
      let sequence ← unpackShort (data.drop 5)
      some
        { control := byteAt data 1
          sequence
          source := byteAt data 7
          destination := byteAt data 8
          link := byteAt data 9
          command := byteAt data 10
          payload := (data.take (data.length - 2)).drop 11 }

/-! ### The same numbers -/

theorem simCrc8Bit_toNat (crc : UInt8) : simCrc8Bit crc.toNat = (crc8Bit crc).toNat := by
  have shifted : (crc >>> (1 : UInt8)).toNat = crc.toNat >>> 1 := UInt8.toNat_shiftRight crc 1
  have bottom : crc &&& (1 : UInt8) ≠ 0 ↔ crc.toNat &&& 1 ≠ 0 := by
    rw [Ne, ← UInt8.toNat_inj, UInt8.toNat_and]
    rfl
  unfold simCrc8Bit crc8Bit
  by_cases set : crc &&& (1 : UInt8) ≠ 0
  · rw [if_pos set, if_pos (bottom.mp set), UInt8.toNat_xor, shifted]
    rfl
  · rw [if_neg set, if_neg (mt bottom.mpr set), shifted]

theorem simCrc8Bits_toNat (crc : UInt8) (bits : List Nat) :
    bits.foldl (fun value _ => simCrc8Bit value) crc.toNat =
      (bits.foldl (fun crc _ => crc8Bit crc) crc).toNat := by
  induction bits generalizing crc with
  | nil => rfl
  | cons bit rest hypothesis =>
    rw [foldl_cons, foldl_cons, simCrc8Bit_toNat]
    exact hypothesis (crc8Bit crc)

theorem simCrc8Bytes_toNat (crc : UInt8) (data : Bytes) :
    data.foldl (fun value byte =>
        (range 8).foldl (fun value _ => simCrc8Bit value) (value ^^^ byte.toNat)) crc.toNat =
      (data.foldl crc8Byte crc).toNat := by
  induction data generalizing crc with
  | nil => rfl
  | cons byte rest hypothesis =>
    have first : (range 8).foldl (fun value _ => simCrc8Bit value) (crc.toNat ^^^ byte.toNat) =
        (crc8Byte crc byte).toNat := by
      rw [← UInt8.toNat_xor, simCrc8Bits_toNat]
      rfl
    rw [foldl_cons, foldl_cons, first]
    exact hypothesis (crc8Byte crc byte)

theorem simCrc8_eq (data : Bytes) : simCrc8 data = (crc8Maxim data).toNat :=
  simCrc8Bytes_toNat 0 data

theorem packByte_toNat (value : UInt8) : packByte value.toNat = some [value] := by
  unfold packByte
  rw [if_pos value.toNat_lt, UInt8.ofNat_toNat]

theorem unpackShort_drop {data : Bytes} {index : Nat} (inside : index + 1 < data.length) :
    unpackShort (data.drop index) = some (getU16le data index).toNat := by
  have two : data.drop index = byteAt data index :: byteAt data (index + 1) ::
      data.drop (index + 2) := by
    rw [drop_eq_getElem_cons (by omega), drop_eq_getElem_cons inside,
      PrivateUart.byteAt_eq_getElem, PrivateUart.byteAt_eq_getElem]
  have reread := SiyiPeers.unpackShort_putU16le (getU16le data index) (data.drop (index + 2))
  rw [Siyi.putU16le_getU16le] at reread
  rw [two]
  exact reread

/-! ### The link of the MT11 -/

section Mt11

open PrivateUart (Frame Parser build feed verdict privateFormat)

/-- What is behind the start of a frame. -/
def frameRest (frame : Frame) : Bytes :=
  putU16le frame.sequence ++ [frame.source, frame.destination, frame.link, frame.command] ++
    frame.payload

theorem bytes_eq_sealed (frame : Frame) : frame.bytes = sealed frame.start (frameRest frame) := rfl

theorem mt11PrivateFrame_eq (control command : UInt8) (sequence : UInt16) {payload : Bytes}
    (small : payload.length < 2 ^ 16) :
    mt11PrivateFrame control.toNat sequence.toNat command.toNat payload =
      some (Frame.mk control sequence 0x2e 0x34 0x6b command payload).bytes := by
  have length : packShort payload.length = some (putU16le (UInt16.ofNat payload.length)) :=
    if_pos small
  unfold mt11PrivateFrame
  rw [packByte_toNat, length, SiyiPeers.packShort_toNat, packByte_toNat]
  simp only [bind_eq_bind, bind_some]
  rw [simCrc8_eq, packByte_toNat, bind_some, SiyiPeers.simCrc16_eq, SiyiPeers.packShort_toNat]
  rfl

/-- What the simulator or the driver puts on the link. -/
def Mt11Frame (bytes : Bytes) : Prop :=
  (∃ (control command : UInt8) (sequence : UInt16) (payload : Bytes),
    mt11PrivateFrame control.toNat sequence.toNat command.toNat payload = some bytes) ∨
  ∃ frame capacity, build frame capacity = some bytes

theorem build_eq_bytes {frame : Frame} {capacity : Nat} {bytes : Bytes}
    (built : build frame capacity = some bytes) :
    bytes = frame.bytes ∧ frame.payload.length ≤ maxPayload := by
  unfold build at built
  split at built
  · cases built
  next fits =>
  exact ⟨(some.inj built).symm, Nat.le_of_not_lt (not_or.mp fits).2⟩

theorem Mt11Frame.exists_frame {bytes : Bytes} (sent : Mt11Frame bytes) :
    ∃ frame : Frame, bytes = frame.bytes ∧ frame.payload.length < 2 ^ 16 := by
  rcases sent with ⟨control, command, sequence, payload, built⟩ | ⟨frame, capacity, built⟩
  · have small : payload.length < 2 ^ 16 := by
      by_contra long
      have refused : packShort payload.length = none := if_neg long
      unfold mt11PrivateFrame at built
      rw [packByte_toNat, refused] at built
      cases built
    rw [mt11PrivateFrame_eq control command sequence small] at built
    exact ⟨_, (some.inj built).symm, small⟩
  · obtain ⟨equal, fits⟩ := build_eq_bytes built
    exact ⟨frame, equal, lt_of_le_of_lt fits (by decide)⟩

/-- The fields as the simulator returns them. -/
def parsedOf (frame : Frame) : Parsed where
  control := frame.control
  sequence := frame.sequence.toNat
  source := frame.source
  destination := frame.destination
  link := frame.link
  command := frame.command
  payload := frame.payload

theorem parseMt11Private_bytes (frame : Frame) (fits : frame.payload.length ≤ maxPayload) :
    parseMt11Private frame.bytes = some (parsedOf frame) := by
  have intact := PrivateUart.sealed_intact frame.start (frameRest frame) []
  rw [append_nil, ← bytes_eq_sealed] at intact
  have length := PrivateUart.length_bytes frame
  have declared := PrivateUart.payloadLength_bytes frame fits
  have header : ¬ (frame.bytes.length < 14 ∨ byteAt frame.bytes 0 ≠ 0xaa ∨
      byteAt frame.bytes 2 ≠ 3 ∨ simCrc8 (frame.bytes.take 5) ≠ (byteAt frame.bytes 5).toNat) := by
    have start : byteAt frame.bytes 5 = crc8Maxim (frame.bytes.take 5) := intact.start
    rw [simCrc8_eq, start, length]
    exact not_or.mpr ⟨by omega, not_or.mpr ⟨not_not.mpr rfl, not_or.mpr ⟨not_not.mpr rfl,
      not_not.mpr rfl⟩⟩⟩
  have sequence : getU16le frame.bytes 6 = frame.sequence :=
    PrivateUart.getU16le_putU16le frame.sequence
  have payload : (frame.bytes.take (frame.bytes.length - 2)).drop 12 = frame.payload := by
    have body : frame.bytes.length - 2 = frame.body.length := by
      rw [length, PrivateUart.length_body]
      rfl
    rw [body]
    exact congrArg (drop 12) take_left
  unfold parseMt11Private
  rw [if_neg header, unpackShort_drop (by omega), unpackShort_drop (by omega),
    unpackShort_drop (by omega), bind_eq_bind, bind_some, bind_some, declared,
    SiyiPeers.simCrc16_eq, intact.body,
    if_neg (not_or.mpr ⟨not_not.mpr length, not_not.mpr rfl⟩), bind_some, sequence, payload]
  rfl

theorem parseMt11Private_intact {data : Bytes} {parsed : Parsed}
    (accepted : parseMt11Private data = some parsed) : Intact 5 data.length data := by
  unfold parseMt11Private at accepted
  split at accepted
  · cases accepted
  next header =>
  obtain ⟨long, -, -, start⟩ : ¬ data.length < 14 ∧ ¬ byteAt data 0 ≠ 0xaa ∧
      ¬ byteAt data 2 ≠ 3 ∧ ¬ simCrc8 (data.take 5) ≠ (byteAt data 5).toNat := by
    simpa only [not_or] using header
  rw [unpackShort_drop (by omega), unpackShort_drop (by omega), bind_eq_bind,
    bind_some, bind_some] at accepted
  split at accepted
  · cases accepted
  next checked =>
  have body := not_not.mp (not_or.mp checked).2
  rw [simCrc8_eq] at start
  rw [SiyiPeers.simCrc16_eq] at body
  exact ⟨(UInt8.toNat_inj.mp (not_not.mp start)).symm, (UInt16.toNat_inj.mp body).symm⟩

theorem verdict_intact {data : Bytes} {total : Nat} (found : verdict data = .frame total) :
    Intact 5 total data := by
  obtain ⟨-, size, -, -⟩ := PrivateUart.verdict_frame found
  subst size
  unfold verdict at found
  simp only at found
  split at found
  · cases found
  split at found
  · cases found
  split at found
  · cases found
  split at found
  · cases found
  split at found
  · cases found
  split at found
  · cases found
  next start =>
  split at found
  · cases found
  next body =>
  exact ⟨not_not.mp start, not_not.mp body⟩

theorem declared_set {frame : Frame} (small : frame.payload.length < 2 ^ 16) {index : Nat}
    (behind : 5 < index) (byte : UInt8) (later : Bytes) :
    (getU16le (frame.bytes.set index byte ++ later) 3).toNat + 14 = frame.bytes.length := by
  have length := PrivateUart.length_bytes frame
  have declared : getU16le frame.bytes 3 = UInt16.ofNat frame.payload.length :=
    PrivateUart.getU16le_putU16le (UInt16.ofNat frame.payload.length)
  have kept : getU16le (frame.bytes.set index byte) 3 = getU16le frame.bytes 3 := by
    unfold getU16le
    rw [PrivateUart.byteAt_set_of_ne _ _ (by omega), PrivateUart.byteAt_set_of_ne _ _ (by omega)]
  rw [Siyi.getU16le_append later (by rw [length_set]; omega), kept, declared,
    UInt16.toNat_ofNat', Nat.mod_eq_of_lt small, length]

theorem verdict_set_ne {frame : Frame} (small : frame.payload.length < 2 ^ 16) {index : Nat}
    (inside : index < frame.bytes.length) {byte : UInt8} (differs : byteAt frame.bytes index ≠ byte)
    (later : Bytes) (total : Nat) :
    verdict (frame.bytes.set index byte ++ later) ≠ .frame total := by
  intro found
  refine @sealed_set_not_intact frame.start (frameRest frame) index total inside byte differs
    (fun behind => ?_) later (verdict_intact found)
  rw [(PrivateUart.verdict_frame found).2.1]
  exact declared_set small behind byte later

end Mt11

/-! ### The link of the A8 -/

section A8

open SiyiLink (Receiver SendError sendLink linkFormat frameSub framePayload linkOverhead)

def a8Start (control : UInt8) (payload : Bytes) : Bytes :=
  [0xaa, control, 0x02, UInt8.ofNat payload.length]

/-- What is behind the start of a frame. -/
def a8Rest (sequence : UInt16) (source destination command : UInt8) (payload : Bytes) :
    Bytes :=
  putU16le sequence ++ [source, destination, 0x6b, command] ++ payload

/-- A frame of either side. -/
def a8Bytes (control : UInt8) (sequence : UInt16) (source destination command : UInt8)
    (payload : Bytes) : Bytes :=
  sealed (a8Start control payload) (a8Rest sequence source destination command payload)

theorem length_a8Bytes (control : UInt8) (sequence : UInt16)
    (source destination command : UInt8) (payload : Bytes) :
    (a8Bytes control sequence source destination command payload).length = payload.length + 13 := by
  unfold a8Bytes
  rw [length_sealed, a8Rest, length_append]
  show 4 + (6 + payload.length) + 3 = payload.length + 13
  omega

theorem a8PrivateFrame_eq (control command : UInt8) (sequence : UInt16) {payload : Bytes}
    (fits : payload.length ≤ 255) :
    a8PrivateFrame control.toNat sequence.toNat command.toNat payload =
      some (a8Bytes control sequence 0x2e 0x2c command payload) := by
  have length : packByte payload.length = some [UInt8.ofNat payload.length] :=
    if_pos (Nat.lt_succ_of_le fits)
  have low : sequence.toNat &&& 0xff = sequence.toUInt8.toNat := by
    rw [UInt16.toNat_toUInt8]
    exact Nat.and_two_pow_sub_one_eq_mod _ 8
  have high : sequence.toNat >>> 8 = (sequence >>> 8).toUInt8.toNat := by
    have small := sequence.toNat_lt
    rw [UInt16.toNat_toUInt8, UInt16.toNat_shiftRight]
    show sequence.toNat >>> 8 = sequence.toNat >>> 8 % 2 ^ 8
    rw [Nat.shiftRight_eq_div_pow]
    omega
  unfold a8PrivateFrame
  rw [if_neg (not_lt.mpr fits), packByte_toNat, length, low, high, packByte_toNat,
    packByte_toNat, packByte_toNat]
  simp only [bind_eq_bind, bind_some]
  rw [simCrc8_eq, packByte_toNat, bind_some, SiyiPeers.simCrc16_eq, SiyiPeers.packShort_toNat]
  rfl

/-- What the simulator or the driver puts on the link. -/
def A8Frame (bytes : Bytes) : Prop :=
  (∃ (control command : UInt8) (sequence : UInt16) (payload : Bytes),
    a8PrivateFrame control.toNat sequence.toNat command.toNat payload = some bytes) ∨
  ∃ connected linkSequence flags subCommand payload next,
    sendLink connected linkSequence flags subCommand payload = .ok (bytes, next)

theorem sendLink_eq_a8Bytes {connected : Bool} {linkSequence next : UInt16}
    {flags subCommand : UInt8} {payload bytes : Bytes}
    (sent : sendLink connected linkSequence flags subCommand payload = .ok (bytes, next)) :
    bytes = a8Bytes flags linkSequence 0x2c 0x2e subCommand payload ∧ payload.length ≤ 255 := by
  unfold sendLink at sent
  split at sent
  · cases sent
  next fits =>
  split at sent
  · cases sent
  obtain ⟨rfl, -⟩ := Prod.mk.inj (Except.ok.inj sent)
  exact ⟨rfl, Nat.le_of_not_lt fits⟩

theorem A8Frame.exists_bytes {bytes : Bytes} (sent : A8Frame bytes) :
    ∃ control sequence source destination command payload,
      bytes = a8Bytes control sequence source destination command payload ∧
        payload.length ≤ 255 := by
  rcases sent with ⟨control, command, sequence, payload, built⟩ |
    ⟨connected, linkSequence, flags, subCommand, payload, next, sent⟩
  · have fits : payload.length ≤ 255 := by
      by_contra long
      unfold a8PrivateFrame at built
      rw [if_pos (Nat.lt_of_not_le long)] at built
      cases built
    rw [a8PrivateFrame_eq control command sequence fits] at built
    exact ⟨_, _, _, _, _, _, (some.inj built).symm, fits⟩
  · exact ⟨_, _, _, _, _, _, sendLink_eq_a8Bytes sent⟩

variable (control : UInt8) (sequence : UInt16) (source destination command : UInt8)
  {payload : Bytes}

theorem a8Declared (fits : payload.length ≤ 255) :
    (UInt8.ofNat payload.length).toNat = payload.length := by
  rw [UInt8.toNat_ofNat']
  exact Nat.mod_eq_of_lt (Nat.lt_succ_of_le fits)

theorem parseA8Private_a8Bytes (fits : payload.length ≤ 255) :
    parseA8Private (a8Bytes control sequence source destination command payload) =
      some
        { control, source, destination, command, payload
          sequence := sequence.toNat
          link := 0x6b } := by
  have intact := PrivateUart.sealed_intact (a8Start control payload)
    (a8Rest sequence source destination command payload) []
  rw [append_nil] at intact
  change Intact 4 (a8Bytes control sequence source destination command payload).length
    (a8Bytes control sequence source destination command payload) at intact
  have length := length_a8Bytes control sequence source destination command payload
  have declared : (byteAt (a8Bytes control sequence source destination command payload) 3).toNat =
      payload.length := a8Declared fits
  have numbered : getU16le (a8Bytes control sequence source destination command payload) 5 =
      sequence := PrivateUart.getU16le_putU16le sequence
  have carried : ((a8Bytes control sequence source destination command payload).take
      ((a8Bytes control sequence source destination command payload).length - 2)).drop 11 =
        payload := by
    have behind : ∃ crc, a8Bytes control sequence source destination command payload =
        (a8Start control payload ++ [crc8Maxim (a8Start control payload)] ++ putU16le sequence ++
          [source, destination, 0x6b, command] ++ payload) ++ putU16le crc := ⟨_, rfl⟩
    obtain ⟨crc, equal⟩ := behind
    rw [length, equal, show payload.length + 13 - 2 = 11 + payload.length from by omega,
      take_left' (by rw [length_append]; rfl)]
    rfl
  have header : ¬ ((a8Bytes control sequence source destination command payload).length < 13 ∨
      byteAt (a8Bytes control sequence source destination command payload) 0 ≠ 0xaa ∨
      byteAt (a8Bytes control sequence source destination command payload) 2 ≠ 0x02 ∨
      simCrc8 ((a8Bytes control sequence source destination command payload).take 4) ≠
        (byteAt (a8Bytes control sequence source destination command payload) 4).toNat) := by
    rw [simCrc8_eq, intact.start, length]
    exact not_or.mpr ⟨by omega, not_or.mpr ⟨not_not.mpr rfl, not_or.mpr ⟨not_not.mpr rfl,
      not_not.mpr rfl⟩⟩⟩
  unfold parseA8Private
  rw [if_neg header, unpackShort_drop (by omega), unpackShort_drop (by omega)]
  simp only [bind_eq_bind, bind_some]
  rw [declared, SiyiPeers.simCrc16_eq, intact.body,
    if_neg (not_or.mpr ⟨not_not.mpr length, not_not.mpr rfl⟩), numbered, carried]
  rfl

theorem parseA8Private_intact {data : Bytes} {parsed : Parsed}
    (accepted : parseA8Private data = some parsed) : Intact 4 data.length data := by
  unfold parseA8Private at accepted
  split at accepted
  · cases accepted
  next header =>
  obtain ⟨long, -, -, start⟩ : ¬ data.length < 13 ∧ ¬ byteAt data 0 ≠ 0xaa ∧
      ¬ byteAt data 2 ≠ 0x02 ∧ ¬ simCrc8 (data.take 4) ≠ (byteAt data 4).toNat := by
    simpa only [not_or] using header
  rw [unpackShort_drop (by omega), bind_eq_bind, bind_some] at accepted
  split at accepted
  · cases accepted
  next checked =>
  have body := not_not.mp (not_or.mp checked).2
  rw [simCrc8_eq] at start
  rw [SiyiPeers.simCrc16_eq] at body
  exact ⟨(UInt8.toNat_inj.mp (not_not.mp start)).symm, (UInt16.toNat_inj.mp body).symm⟩

theorem linkVerdict_intact {data : Bytes} {total : Nat}
    (found : linkVerdict data = .frame total) : Intact 4 total data := by
  obtain ⟨size, -⟩ := SiyiLink.linkVerdict_frame found
  subst size
  unfold linkVerdict at found
  simp only at found
  split at found
  · cases found
  split at found
  · cases found
  next header =>
  split at found
  · cases found
  split at found
  · cases found
  next body =>
  have start := not_not.mp (not_or.mp (not_or.mp header).2).2
  exact ⟨start.symm, (not_not.mp body).symm⟩

theorem linkVerdict_a8Bytes (fits : payload.length ≤ 255) (later : Bytes) :
    linkVerdict (a8Bytes control sequence source destination command payload ++ later) =
      .frame (a8Bytes control sequence source destination command payload).length := by
  refine SiyiLink.linkVerdict_sealed control fits ?_ later
  rw [a8Rest, length_append]
  exact add_comm _ _

theorem linkVerdict_set_ne (fits : payload.length ≤ 255) {index : Nat}
    (inside : index < (a8Bytes control sequence source destination command payload).length)
    {byte : UInt8}
    (differs : byteAt (a8Bytes control sequence source destination command payload) index ≠ byte)
    (later : Bytes) (total : Nat) :
    linkVerdict ((a8Bytes control sequence source destination command payload).set index byte ++
      later) ≠ .frame total := by
  intro found
  refine sealed_set_not_intact inside differs (fun behind => ?_) later (linkVerdict_intact found)
  have length := length_a8Bytes control sequence source destination command payload
  have behind : 4 < index := behind
  have kept : (byteAt ((a8Bytes control sequence source destination command payload).set index
      byte ++ later) 3).toNat = payload.length := by
    rw [Siyi.byteAt_append later (by rw [length_set]; omega),
      PrivateUart.byteAt_set_of_ne _ _ (by omega)]
    exact a8Declared fits
  rw [(SiyiLink.linkVerdict_frame found).1, kept]
  exact (add_comm _ _).trans length.symm

end A8

/-! ### Both sides -/

open PrivateUart (Frame Parser build feed privateFormat readFrame)
open SiyiLink (Receiver sendLink linkFormat frameSub framePayload)

/-- What the simulator builds the drivers take as one frame with the same fields, and what they
build the simulator takes; and where one byte of a frame is another, neither finds a frame at its
start, whatever follows. -/
theorem links_agree :
    (∀ (control command : UInt8) (sequence : UInt16) (payload : Bytes),
      payload.length ≤ maxPayload →
        ∃ bytes, mt11PrivateFrame control.toNat sequence.toNat command.toNat payload = some bytes ∧
          ∀ chunks : List Bytes, chunks.flatten = bytes →
            (chunks.foldl feed Parser.init).delivered =
                [{ control, sequence, command, payload
                   source := 0x2e
                   destination := 0x34
                   link := 0x6b }] ∧
              (chunks.foldl feed Parser.init).data = []) ∧
    (∀ (frame : Frame) (capacity : Nat) (bytes : Bytes), build frame capacity = some bytes →
      parseMt11Private bytes = some (parsedOf frame)) ∧
    (∀ (control command : UInt8) (sequence : UInt16) (payload : Bytes),
      payload.length ≤ linkMaxPayload →
        ∃ bytes, a8PrivateFrame control.toNat sequence.toNat command.toNat payload = some bytes ∧
          (byteAt bytes 1 = control ∧ getU16le bytes 5 = sequence ∧ byteAt bytes 7 = 0x2e ∧
            byteAt bytes 8 = 0x2c ∧ byteAt bytes 9 = 0x6b ∧ frameSub bytes = command ∧
            framePayload bytes = payload) ∧
          ∀ receiver : Receiver, receiver.rx = bytes →
            parseRx receiver = { receiver with rx := [], handled := receiver.handled ++ [bytes] }) ∧
    (∀ (connected : Bool) (linkSequence : UInt16) (flags subCommand : UInt8)
      (payload frame : Bytes) (next : UInt16),
      sendLink connected linkSequence flags subCommand payload = .ok (frame, next) →
        parseA8Private frame =
          some
            { control := flags
              sequence := linkSequence.toNat
              source := 0x2c
              destination := 0x2e
              link := 0x6b
              command := subCommand
              payload }) ∧
    (∀ bytes, Mt11Frame bytes → ∀ (index : Nat) (byte : UInt8), index < bytes.length →
      byteAt bytes index ≠ byte →
        parseMt11Private (bytes.set index byte) = none ∧
        ∀ (later : Bytes) (chunks : List Bytes),
          chunks.flatten = bytes.set index byte ++ later →
            (chunks.foldl feed Parser.init).delivered = [] ∨
              (chunks.foldl feed Parser.init).delivered =
                (scan privateFormat (bytes.set index byte ++ later).tail).1.map readFrame) ∧
    ∀ bytes, A8Frame bytes → ∀ (index : Nat) (byte : UInt8), index < bytes.length →
      byteAt bytes index ≠ byte →
        parseA8Private (bytes.set index byte) = none ∧
        ∀ (later : Bytes) (receiver : Receiver),
          receiver.rx = bytes.set index byte ++ later →
            (parseRx receiver).handled = receiver.handled ∨
              (parseRx receiver).handled = receiver.handled ++
                (scan linkFormat (bytes.set index byte ++ later).tail).1 := by
  refine ⟨?_, ?_, ?_, ?_, ?_, ?_⟩
  · intro control command sequence payload fits
    have small : payload.length < 2 ^ 16 := lt_of_le_of_lt fits (by decide)
    refine ⟨_, mt11PrivateFrame_eq control command sequence small, fun chunks whole => ?_⟩
    have built : PrivateUart.Built [Frame.mk control sequence 0x2e 0x34 0x6b command payload]
        [(Frame.mk control sequence 0x2e 0x34 0x6b command payload).bytes] :=
      .cons ⟨payload.length + 14, if_neg (not_or.mpr ⟨lt_irrefl _, not_lt.mpr fits⟩)⟩ .nil
    obtain ⟨-, -, -, -, -, delivers⟩ := PrivateUart.frames_delivered chunks
    refine delivers _ _ built ?_
    rw [whole, List.flatten_singleton]
  · intro frame capacity bytes built
    obtain ⟨rfl, fits⟩ := build_eq_bytes built
    exact parseMt11Private_bytes frame fits
  · intro control command sequence payload fits
    refine ⟨_, a8PrivateFrame_eq control command sequence fits, ⟨rfl,
      PrivateUart.getU16le_putU16le sequence, rfl, rfl, rfl, rfl, ?_⟩, fun receiver held => ?_⟩
    · have declared : (byteAt (a8Bytes control sequence 0x2e 0x2c command payload) 3).toNat =
          payload.length := a8Declared fits
      unfold framePayload
      rw [declared]
      exact List.take_left
    · have found := linkVerdict_a8Bytes control sequence 0x2e 0x2c command fits []
      rw [List.append_nil] at found
      have scanned := @scan_of_frame _ linkFormat _ _ found
      rw [List.take_length, List.drop_length] at scanned
      rw [SiyiLink.parseRx_eq_scan, held, scanned, @scan_of_wait _ linkFormat [] rfl]
  · intro connected linkSequence flags subCommand payload frame next sent
    obtain ⟨rfl, fits⟩ := sendLink_eq_a8Bytes sent
    exact parseA8Private_a8Bytes flags linkSequence 0x2c 0x2e subCommand fits
  · intro bytes sent index byte inside differs
    obtain ⟨frame, rfl, small⟩ := sent.exists_frame
    refine ⟨?_, fun later chunks stream => ?_⟩
    · refine Option.eq_none_iff_forall_ne_some.mpr fun parsed accepted => ?_
      have intact := parseMt11Private_intact accepted
      rw [List.length_set, ← List.append_nil (frame.bytes.set index byte)] at intact
      exact @sealed_set_not_intact frame.start (frameRest frame) index _ inside byte differs
        (fun _ => rfl) [] intact
    · have delivered := (PrivateUart.frames_delivered chunks).1
      have none : ∀ total, privateFormat.verdict (frame.bytes.set index byte ++ later) ≠
          .frame total := verdict_set_ne small inside differs later
      rw [delivered, stream]
      rcases scan_of_not_frame none with nothing | next
      · left
        rw [nothing, List.map_nil]
      · right
        rw [next]
  · intro bytes sent index byte inside differs
    obtain ⟨control, sequence, source, destination, command, payload, rfl, fits⟩ :=
      sent.exists_bytes
    refine ⟨?_, fun later receiver held => ?_⟩
    · refine Option.eq_none_iff_forall_ne_some.mpr fun parsed accepted => ?_
      have intact := parseA8Private_intact accepted
      rw [List.length_set, ← List.append_nil (List.set _ index byte)] at intact
      exact sealed_set_not_intact inside differs (fun _ => rfl) [] intact
    · have none : ∀ total, linkFormat.verdict
          ((a8Bytes control sequence source destination command payload).set index byte ++ later) ≠
            .frame total :=
        linkVerdict_set_ne control sequence source destination command fits inside differs later
      rw [SiyiLink.parseRx_eq_scan, held]
      rcases scan_of_not_frame none with nothing | next
      · left
        show receiver.handled ++ _ = _
        rw [nothing, List.append_nil]
      · right
        show receiver.handled ++ _ = _
        rw [next]

end PrivatePeers
