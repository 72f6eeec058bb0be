/-
This file is about the two other ends that speak SIYI: the Lua script on the autopilot and the
simulator of the gimbal, written in Python.

Their checksums are the camera's, what they build the camera parses, and what the camera builds the
script hands to its handlers.
-/

import Mathlib.Algebra.Group.Nat.Defs
import CameraGimbal.SiyiCodec

namespace SiyiPeers

open List

open PrivateUart (putU16le)
open Siyi (crc16 crcBit crcByte minPacket maxPacket)

/-! ### Packed numbers -/

/-- The numbers of the format `<BBBHHB`. -/
structure Header where
  header1 : Nat
  header2 : Nat
  control : Nat
  plen : Nat
  sequence : Nat
  command : Nat
  deriving DecidableEq, Repr

/-- Pack by `<BBBHHB`; an error when a number does not fit its field. -/
def packHeader (header : Header) : Option Bytes :=
  if header.header1 < 2 ^ 8 ∧ header.header2 < 2 ^ 8 ∧ header.control < 2 ^ 8 ∧
      header.plen < 2 ^ 16 ∧ header.sequence < 2 ^ 16 ∧ header.command < 2 ^ 8 then
    some ([UInt8.ofNat header.header1, UInt8.ofNat header.header2, UInt8.ofNat header.control] ++
      putU16le (UInt16.ofNat header.plen) ++ putU16le (UInt16.ofNat header.sequence) ++
      [UInt8.ofNat header.command])
  else none

/-- Pack by `<H`. -/
def packShort (value : Nat) : Option Bytes :=
  if value < 2 ^ 16 then some (putU16le (UInt16.ofNat value)) else none

/-- Unpack by `<BBBHHB`; an error when the string is too short. -/
def unpackHeader : Bytes → Option Header
  | header1 :: header2 :: control :: plen :: plenHigh :: sequence :: sequenceHigh :: command :: _ =>
    some
      { header1 := header1.toNat
        header2 := header2.toNat
        control := control.toNat
        plen := plen.toNat + 2 ^ 8 * plenHigh.toNat
        sequence := sequence.toNat + 2 ^ 8 * sequenceHigh.toNat
        command := command.toNat }
  | _ => none

open Option

/-- Unpack by `<H`. -/
def unpackShort : Bytes → Option Nat
  | low :: high :: _ => some (low.toNat + 2 ^ 8 * high.toNat)
  | _ => none

/-! ### The Lua script -/

def luaCrcBit (crc : Nat) : Nat :=
  if crc &&& 0x8000 ≠ 0 then ((crc <<< 1) ^^^ 0x1021) &&& 0xffff else (crc <<< 1) &&& 0xffff

/-- The script's `crc16`. -/
def luaCrc16 (bytes : Bytes) : Nat :=
  bytes.foldl (fun crc byte =>
    (List.range 8).foldl (fun crc _ => luaCrcBit crc) (crc ^^^ (byte.toNat <<< 8))) 0 &&& 0xffff

/-- `send_packet`: the bytes sent, and the next sequence number. -/
def sendPacket (sendSequence commandId : Nat) (pkt : Option Bytes) :
    Option (Bytes × Nat) := do
  let plen := (pkt.map List.length).getD 0
  let header ← packHeader
    { header1 := 0x55, header2 := 0x66, control := 1, plen, sequence := sendSequence
      command := commandId }
  let buf := header ++ pkt.getD []
  let crc ← packShort (luaCrc16 buf)
  some (buf ++ crc, (sendSequence + 1) % 0xffff)

/-- The first position of `string.sub`, counted from one, or from the end when negative. -/
def subStart (length : Nat) (start : Int) : Nat :=
  if 0 < start then start.toNat
  else if start = 0 ∨ start < -length then 1
  else (length + start + 1).toNat

/-- The last position of `string.sub`. -/
def subStop (length : Nat) (stop : Int) : Nat :=
  if (length : Int) < stop then length
  else if 0 ≤ stop then stop.toNat
  else if stop < -length then 0
  else (length + stop + 1).toNat

/-- `string.sub`. -/
def sub (bytes : Bytes) (start : Int) (stop : Int) : Bytes :=
  (bytes.take (subStop bytes.length stop)).drop (subStart bytes.length start - 1)

/-- The functions of the script that take a packet's data. -/
inductive Handler where
  | firmwareVersion
  | tempFullScreen
  | gimbalAttitude
  | laserRange
  deriving DecidableEq, Repr

def handlerOf (cmd : Nat) : Option Handler :=
  if cmd = 0x01 then some .firmwareVersion
  else if cmd = 0x14 then some .tempFullScreen
  else if cmd = 0x0d then some .gimbalAttitude
  else if cmd = 0x15 then some .laserRange
  else none

/-- `parse_packet`: the handler called and its data, if any; `none` is an error. -/
def parsePacket (pkt : Bytes) : Option (Option (Handler × Bytes)) := do
  let header ← unpackHeader (sub pkt 1 8)
  let data := sub pkt 9 (-3)
  let crc ← unpackShort (sub pkt (-2) (-1))
  let crc2 := luaCrc16 (sub pkt 1 (-3))
  if crc ≠ crc2 then some none
  else some ((handlerOf header.command).map fun handler => (handler, data))

theorem length_sub_tail (pkt : Bytes) (plen : Nat) (enough : 10 ≤ pkt.length) :
    (sub pkt (plen + 11) (-1)).length < pkt.length := by
  have start : subStart pkt.length (plen + 11) = plen + 11 := by
    unfold subStart
    rw [if_pos (by omega)]
    omega
  unfold sub
  rw [start, length_drop, length_take]
  omega

/-- `parse_data`: the handlers called, in order. -/
def parseData (pkt : Bytes) : Option (List (Handler × Bytes)) :=
  if _enough : 10 ≤ pkt.length then do
    let header ← unpackHeader (sub pkt 1 8)
    if header.header1 ≠ 0x55 ∨ header.header2 ≠ 0x66 then some []
    else if pkt.length < header.plen + 10 then some []
    else do
      let call ← parsePacket (sub pkt 1 (header.plen + 10))
      let calls ← parseData (sub pkt (header.plen + 11) (-1))
      some (call.toList ++ calls)
  else some []
termination_by pkt.length
decreasing_by exact length_sub_tail pkt header.plen _enough

/-! ### The simulator -/

def simCrcBit (value : Nat) : Nat :=
  if value &&& 0x8000 ≠ 0 then ((value <<< 1) ^^^ 0x1021) &&& 0xffff else (value <<< 1) &&& 0xffff

/-- The simulator's `crc16`. -/
def simCrc16 (data : Bytes) : Nat :=
  data.foldl (fun value byte =>
    (List.range 8).foldl (fun value _ => simCrcBit value) (value ^^^ (byte.toNat <<< 8))) 0

def siyiFrame (control sequence opcode : Nat) (payload : Bytes) : Option Bytes := do
  let header ← packHeader
    { header1 := 0x55, header2 := 0x66, control, plen := payload.length, sequence
      command := opcode }
  let result := header ++ payload
  let crc ← packShort (simCrc16 result)
  some (result ++ crc)

/-! ### The checksums are equal -/

variable (crc : UInt16)

theorem luaCrcBit_toNat : luaCrcBit crc.toNat = (crcBit crc).toNat := by
  have mask (value : Nat) : value &&& 0xffff = value % 2 ^ 16 :=
    Nat.and_two_pow_sub_one_eq_mod value 16
  have shifted : (crc <<< (1 : UInt16)).toNat = (crc.toNat <<< 1) % 2 ^ 16 :=
    UInt16.toNat_shiftLeft crc 1
  have top : crc &&& (0x8000 : UInt16) ≠ 0 ↔ crc.toNat &&& 0x8000 ≠ 0 := by
    rw [Ne, ← UInt16.toNat_inj, UInt16.toNat_and]
    rfl
  unfold luaCrcBit crcBit
  by_cases set : crc &&& (0x8000 : UInt16) ≠ 0
  · rw [if_pos set, if_pos (top.mp set), UInt16.toNat_xor, shifted, mask, Nat.xor_mod_two_pow]
    rfl
  · rw [if_neg set, if_neg (mt top.mpr set), shifted, mask]

theorem luaCrcBits_toNat (bits : List Nat) :
    bits.foldl (fun crc _ => luaCrcBit crc) crc.toNat =
      (bits.foldl (fun crc _ => crcBit crc) crc).toNat := by
  induction bits generalizing crc with
  | nil => rfl
  | cons bit rest hypothesis =>
    rw [foldl_cons, foldl_cons, luaCrcBit_toNat]
    exact hypothesis (crcBit crc)

theorem crcByte_toNat (byte : UInt8) :
    (range 8).foldl (fun crc _ => luaCrcBit crc) (crc.toNat ^^^ (byte.toNat <<< 8)) =
      (crcByte crc byte).toNat := by
  have small := byte.toNat_lt
  have moved : (byte.toUInt16 <<< (8 : UInt16)).toNat = byte.toNat <<< 8 := by
    rw [UInt16.toNat_shiftLeft, UInt8.toNat_toUInt16]
    show byte.toNat <<< 8 % 2 ^ 16 = _
    rw [Nat.shiftLeft_eq]
    omega
  unfold crcByte
  rw [← luaCrcBits_toNat, UInt16.toNat_xor, moved]

theorem crcBytes_toNat (data : Bytes) :
    data.foldl (fun crc byte => (range 8).foldl (fun crc _ => luaCrcBit crc)
        (crc ^^^ (byte.toNat <<< 8))) crc.toNat = (data.foldl crcByte crc).toNat := by
  induction data generalizing crc with
  | nil => rfl
  | cons byte rest hypothesis =>
    rw [foldl_cons, foldl_cons, crcByte_toNat]
    exact hypothesis (crcByte crc byte)

theorem luaCrc16_eq (data : Bytes) : luaCrc16 data = (crc16 data).toNat := by
  unfold luaCrc16 crc16
  rw [show (0 : Nat) = (0 : UInt16).toNat from rfl, crcBytes_toNat]
  exact (Nat.and_two_pow_sub_one_eq_mod _ 16).trans (Nat.mod_eq_of_lt (UInt16.toNat_lt _))

theorem simCrc16_eq (data : Bytes) : simCrc16 data = (crc16 data).toNat :=
  crcBytes_toNat 0 data

/-! ### What they build -/

variable (control opcode : UInt8) (sequence : UInt16)

theorem packHeader_eq {plen : Nat} (small : plen < 2 ^ 16) :
    packHeader
        { header1 := 0x55, header2 := 0x66, control := control.toNat, plen
          sequence := sequence.toNat, command := opcode.toNat } =
      some (Siyi.packetHeader control sequence opcode (UInt16.ofNat plen)) := by
  have first : (0x55 : Nat) < 2 ^ 8 := by decide
  have second : (0x66 : Nat) < 2 ^ 8 := by decide
  unfold packHeader Siyi.packetHeader
  rw [if_pos ⟨first, second, control.toNat_lt, small, sequence.toNat_lt, opcode.toNat_lt⟩]
  simp only [UInt8.ofNat_toNat, UInt16.ofNat_toNat]
  rfl

theorem packShort_toNat (value : UInt16) : packShort value.toNat = some (putU16le value) := by
  unfold packShort
  rw [if_pos value.toNat_lt, UInt16.ofNat_toNat]

theorem siyiFrame_eq {payload : Bytes} (fits : payload.length ≤ maxPacket - 10) :
    siyiFrame control.toNat sequence.toNat opcode.toNat payload =
      some (Siyi.packetBytes control sequence opcode payload) := by
  have small : payload.length < 2 ^ 16 := fits.trans_lt (by decide)
  unfold siyiFrame
  rw [packHeader_eq control opcode sequence small, bind_eq_bind, bind_some]
  simp only
  rw [simCrc16_eq, packShort_toNat]
  rfl

theorem sendPacket_eq (commandId : UInt8) (sendSequence : UInt16) {pkt : Option (Bytes)}
    (fits : (pkt.getD []).length ≤ maxPacket - 10) :
    sendPacket sendSequence.toNat commandId.toNat pkt =
      some (Siyi.packetBytes 1 sendSequence commandId (pkt.getD []),
        (sendSequence.toNat + 1) % 0xffff) := by
  have small : (pkt.getD []).length < 2 ^ 16 := fits.trans_lt (by decide)
  have plen : (pkt.map length).getD 0 = (pkt.getD []).length := by
    cases pkt with
    | none => rfl
    | some payload => rfl
  have header := packHeader_eq 1 commandId sendSequence small
  unfold sendPacket
  simp only
  rw [plen]
  refine (congrArg (Option.bind · _) header).trans ?_
  rw [bind_some, luaCrc16_eq]
  exact congrArg (Option.bind · _) (packShort_toNat _)

/-! ### What they parse -/

theorem sub_prefix (bytes : Bytes) (stop : Nat) (inside : stop ≤ bytes.length) :
    sub bytes 1 stop = bytes.take stop := by
  have last : subStop bytes.length stop = stop := by
    unfold subStop
    rw [if_neg (by omega), if_pos (by omega)]
    exact Int.toNat_natCast stop
  unfold sub
  rw [last]
  rfl

theorem subStop_neg {length : Nat} (back : Nat) (inside : back < length) :
    subStop length (-(back + 1)) = length - back := by
  unfold subStop
  rw [if_neg (by omega), if_neg (by omega), if_neg (by omega)]
  omega

theorem sub_from (bytes : Bytes) (count : Nat) (nonempty : bytes ≠ []) :
    sub bytes (count + 1) (-1) = bytes.drop count := by
  have first : subStart bytes.length (count + 1) = count + 1 := by
    unfold subStart
    rw [if_pos (by omega)]
    omega
  have last : subStop bytes.length (-1) = bytes.length :=
    subStop_neg 0 (length_pos_iff.mpr nonempty)
  unfold sub
  rw [first, last, take_length]
  rfl

theorem unpackShort_putU16le (value : UInt16) (later : Bytes) :
    unpackShort (putU16le value ++ later) = some value.toNat := by
  have small := value.toNat_lt
  show some (value.toUInt8.toNat + 2 ^ 8 * (value >>> 8).toUInt8.toNat) = _
  rw [UInt16.toNat_toUInt8, UInt16.toNat_toUInt8, UInt16.toNat_shiftRight,
    Nat.shiftRight_eq_div_pow]
  show some (value.toNat % 2 ^ 8 + 2 ^ 8 * (value.toNat / 2 ^ 8 % 2 ^ 8)) = _
  rw [some.injEq]
  omega

theorem unpackHeader_packetHeader (control opcode : UInt8) (sequence plen : UInt16) :
    unpackHeader (Siyi.packetHeader control sequence opcode plen) =
      some
        { header1 := 0x55, header2 := 0x66, control := control.toNat, plen := plen.toNat
          sequence := sequence.toNat, command := opcode.toNat } := by
  have length := some.inj (unpackShort_putU16le plen [])
  have number := some.inj (unpackShort_putU16le sequence [])
  rw [← length, ← number]
  rfl

theorem parsePacket_packetBytes (payload : Bytes) :
    parsePacket (Siyi.packetBytes control sequence opcode payload) =
      some ((handlerOf opcode.toNat).map fun handler => (handler, payload)) := by
  have whole := Siyi.length_packetBytes control sequence opcode payload
  have ten : minPacket = 10 := rfl
  have front := Siyi.length_packetBody control sequence opcode payload
  have header : sub (Siyi.packetBytes control sequence opcode payload) 1 8 =
      Siyi.packetHeader control sequence opcode (UInt16.ofNat payload.length) :=
    sub_prefix _ 8 (by omega)
  have body : (Siyi.packetBytes control sequence opcode payload).take (payload.length + 8) =
      Siyi.packetBody control sequence opcode payload := by
    rw [← front]
    exact take_left
  have back : subStop (payload.length + minPacket) (-3) = payload.length + 8 :=
    subStop_neg 2 (by omega)
  have checked : sub (Siyi.packetBytes control sequence opcode payload) 1 (-3) =
      Siyi.packetBody control sequence opcode payload := by
    unfold sub
    rw [whole, back, body]
    rfl
  have data : sub (Siyi.packetBytes control sequence opcode payload) 9 (-3) = payload := by
    unfold sub
    rw [whole, back, body]
    rfl
  have start : subStart (payload.length + minPacket) (-2) - 1 = payload.length + 8 := by
    unfold subStart
    rw [if_neg (by omega), if_neg (by omega)]
    omega
  have last : subStop (payload.length + minPacket) (-1) = payload.length + minPacket :=
    subStop_neg 0 (by omega)
  have trailer : sub (Siyi.packetBytes control sequence opcode payload) (-2) (-1) =
      putU16le (crc16 (Siyi.packetBody control sequence opcode payload)) := by
    unfold sub
    rw [whole, start, last, ← whole, take_length, ← front]
    exact drop_left
  have unpacked := unpackHeader_packetHeader control opcode sequence (UInt16.ofNat payload.length)
  have crc := unpackShort_putU16le (crc16 (Siyi.packetBody control sequence opcode payload)) []
  rw [append_nil] at crc
  unfold parsePacket
  rw [header, unpacked, trailer, crc, checked, data, luaCrc16_eq]
  exact if_neg (not_not.mpr rfl)

theorem parseData_packet {payload : Bytes}
    (fits : payload.length + minPacket ≤ maxPacket) {later : Bytes}
    {calls : List (Handler × Bytes)} (parsed : parseData later = some calls) :
    parseData (Siyi.packetBytes control sequence opcode payload ++ later) =
      some (((handlerOf opcode.toNat).map fun handler => (handler, payload)).toList ++ calls) := by
  have ten : minPacket = 10 := rfl
  have most : maxPacket = 2048 := rfl
  have whole := Siyi.length_packetBytes control sequence opcode payload
  have total : (Siyi.packetBytes control sequence opcode payload ++ later).length =
      payload.length + 10 + later.length := by
    rw [length_append, whole]
    rfl
  have nonempty : Siyi.packetBytes control sequence opcode payload ++ later ≠ [] := by
    intro empty
    rw [empty] at total
    exact absurd total (by rw [length_nil]; omega)
  have header : sub (Siyi.packetBytes control sequence opcode payload ++ later) 1 8 =
      Siyi.packetHeader control sequence opcode (UInt16.ofNat payload.length) :=
    sub_prefix _ 8 (by omega)
  have plen : (UInt16.ofNat payload.length).toNat = payload.length := by
    rw [UInt16.toNat_ofNat', Nat.mod_eq_of_lt (by omega)]
  have first : sub (Siyi.packetBytes control sequence opcode payload ++ later) 1
      ((payload.length : Int) + 10) = Siyi.packetBytes control sequence opcode payload := by
    have taken := sub_prefix (Siyi.packetBytes control sequence opcode payload ++ later)
      (payload.length + 10) (by omega)
    refine taken.trans ?_
    rw [← ten, ← whole]
    exact take_left
  have rest : sub (Siyi.packetBytes control sequence opcode payload ++ later)
      ((payload.length : Int) + 11) (-1) = later := by
    have left := sub_from (Siyi.packetBytes control sequence opcode payload ++ later)
      (payload.length + 10) nonempty
    refine left.trans ?_
    rw [← ten, ← whole]
    exact drop_left
  rw [parseData, dif_pos (by omega), header, unpackHeader_packetHeader, bind_eq_bind, bind_some]
  simp only
  rw [plen, if_neg (not_or.mpr ⟨not_not.mpr rfl, not_not.mpr rfl⟩), if_neg (by omega), first,
    parsePacket_packetBytes control opcode sequence payload, rest, parsed]
  rfl

/-! ### The three ends -/

/-- The checksums of the three ends are equal, the camera parses what the script and the simulator
build, and the script calls its handlers for what the camera builds. -/
theorem peers_interoperate :
    (∀ data, luaCrc16 data = (crc16 data).toNat ∧ simCrc16 data = (crc16 data).toNat) ∧
    (∀ (commandId : UInt8) (sendSequence : UInt16) (pkt : Option Bytes),
      (pkt.getD []).length ≤ maxPacket - 10 →
        ∃ buf, sendPacket sendSequence.toNat commandId.toNat pkt =
            some (buf, (sendSequence.toNat + 1) % 0xffff) ∧
          ∀ later, Siyi.parseOne (buf ++ later) =
            .packet
              { control := 1, sequence := sendSequence, opcode := commandId
                payload := pkt.getD []
                payloadLength := UInt16.ofNat (pkt.getD []).length
                raw := buf }
              buf.length) ∧
    (∀ (control : UInt8) (sequence : UInt16) (opcode : UInt8) (payload : Bytes),
      payload.length ≤ maxPacket - 10 →
        ∃ frame, siyiFrame control.toNat sequence.toNat opcode.toNat payload = some frame ∧
          ∀ later, Siyi.parseOne (frame ++ later) =
            .packet
              { control, sequence, opcode, payload
                payloadLength := UInt16.ofNat payload.length
                raw := frame }
              frame.length) ∧
    ∀ (packets : List Siyi.Packet) (built : List Bytes),
      List.Forall₂ (fun packet bytes => ∃ capacity,
          Siyi.build capacity packet.control packet.sequence packet.opcode packet.payload =
            some bytes) packets built →
        parseData built.flatten =
          some (packets.filterMap fun packet =>
            (handlerOf packet.opcode.toNat).map fun handler => (handler, packet.payload)) := by
  refine ⟨fun data => ⟨luaCrc16_eq data, simCrc16_eq data⟩, ?_, ?_, ?_⟩
  · intro commandId sendSequence pkt fits
    refine ⟨_, sendPacket_eq commandId sendSequence fits, fun later => ?_⟩
    rw [Siyi.length_packetBytes]
    refine Siyi.parseOne_packetBytes 1 sendSequence commandId ?_ later
    exact Nat.add_le_of_le_sub (by decide) fits
  · intro control sequence opcode payload fits
    refine ⟨_, siyiFrame_eq control opcode sequence fits, fun later => ?_⟩
    rw [Siyi.length_packetBytes]
    refine Siyi.parseOne_packetBytes control sequence opcode ?_ later
    exact Nat.add_le_of_le_sub (by decide) fits
  · intro packets built each
    induction each with
    | nil =>
      rw [List.flatten_nil, parseData]
      rfl
    | cons isBuilt _ hypothesis =>
      obtain ⟨capacity, isBuilt⟩ := isBuilt
      obtain ⟨-, fits, rfl⟩ := Siyi.build_eq_some.mp isBuilt
      rw [List.flatten_cons, parseData_packet _ _ _ fits hypothesis, List.filterMap_cons]
      cases handlerOf _ with
      | none => rfl
      | some handler => rfl

end SiyiPeers
