/-
This file models the two programs that know the format of a ZR10 firmware file: the tool that packs
and validates one, and the check of the web server. A file is a script that is filled up to its
size, the image of the customer partition, and a trailer with the CRC of both.

The tool takes the file as a whole and leaves the CRC to zlib, which looks bytes up in a table. The
server reads the file in pieces and computes the CRC bit by bit.
-/

import CameraGimbal.CText
import CameraGimbal.Checksum

namespace Zr10Firmware

open CText

/-- `SCRIPT_SIZE`. -/
def scriptSize : Nat := 0x4000

/-- `CUSTOMER_SIZE`. -/
def customerSize : Nat := 0x6b0000

/-- `TRAILER_SIZE`. -/
def trailerSize : Nat := 36

/-- `FIRMWARE_SIZE`. -/
def firmwareSize : Nat := scriptSize + customerSize + trailerSize

/-- `MAGIC`. -/
def magic : Text := bytes "ZR10AP01"

def trailerMark : Text := bytes "12345678"

/-! ### The tool -/

/-- A round of the loop in which zlib makes its table. -/
def tableBit (crc : UInt32) : UInt32 :=
  if crc &&& 1 ≠ 0 then 0xedb88320 ^^^ crc >>> (1 : UInt32) else crc >>> (1 : UInt32)

def crcTable (index : UInt32) : UInt32 := tableBit^[8] index

def tableByte (crc : UInt32) (byte : UInt8) : UInt32 :=
  crcTable ((crc ^^^ byte.toUInt32) &&& 0xff) ^^^ crc >>> (8 : UInt32)

/-- `zlib.crc32`. -/
def zlibCrc32 (data : Text) : UInt32 := data.foldl tableByte 0xffffffff ^^^ 0xffffffff

/-- `struct.pack('<I', number)`. -/
def packUInt32 (number : UInt32) : Text :=
  [number.toUInt8, (number >>> (8 : UInt32)).toUInt8, (number >>> (16 : UInt32)).toUInt8,
    (number >>> (24 : UInt32)).toUInt8]

def endOfScript : Text := bytes "% <- this is end of script symbol\n"

/-- `script_header`, for the bytes of the script. -/
def scriptHeader (script : Text) : Except String Text :=
  if scriptSize ≤ script.length ∨ ¬ endOfScript <:+ script then .error "Invalid upgrade script"
  else .ok (script ++ List.replicate (scriptSize - script.length) 0xff)

def pack (script customer : Text) : Except String Text :=
  if customer.length ≠ customerSize ∨ customer.take 2 ≠ [0x85, 0x19] then
    .error "Expected a padded little-endian JFFS2 customer partition"
  else
    match scriptHeader script with
    | .error message => .error message
    | .ok header =>
      let contents := header ++ customer
      .ok (contents ++ magic ++ packUInt32 (zlibCrc32 contents) ++ trailerMark ++ contents.take 16)

def validate (script contents : Text) : Except String Unit :=
  if contents.length ≠ firmwareSize then
    .error "Firmware size or script differs from the customer-only format"
  else
    match scriptHeader script with
    | .error message => .error message
    | .ok header =>
      if contents.take scriptSize ≠ header then
        .error "Firmware size or script differs from the customer-only format"
      else if (contents.drop scriptSize).take 2 ≠ [0x85, 0x19] then
        .error "Invalid JFFS2 magic, trailer or CRC"
      else
        match pack script ((contents.take (contents.length - trailerSize)).drop scriptSize) with
        | .error message => .error message
        | .ok packed =>
          if packed ≠ contents then .error "Invalid JFFS2 magic, trailer or CRC" else .ok ()

/-- `packaging/zr10/upgrade_script.txt`, the script that the header command writes out for the
server. -/
def upgradeScript : Text :=
  ["# AP_CameraGimbal ZR10 customer-only update; keep kernel and root filesystem.",
   "# sdstar ignores command errors. One command per variable makes run fail fast.",
   "# Check partition geometry and the CRC of header + payload before erasing.",
   "# File Partition: customer",
   "setenv zr10_probe 'sf probe 0'",
   "setenv zr10_info 'mxp r.info customer'",
   "setenv zr10_start 'mw 0x21800008 $\x7bsf_part_start\x7d 1'",
   "setenv zr10_size 'mw 0x2180000c $\x7bsf_part_size\x7d 1'",
   "setenv zr10_exstart 'mw 0x21800010 0x950000 1'",
   "setenv zr10_exsize 'mw 0x21800014 0x6b0000 1'",
   "setenv zr10_geometry 'cmp.l 0x21800008 0x21800010 2'",
   "setenv zr10_fill 'mw 0x21000000 0xffffffff 0x1ad000'",
   "setenv zr10_load 'fatload mmc 0 0x21000000 $\x7bSdUpgradeImage\x7d 0x6b4000 0'",
   "setenv zr10_clear 'mw 0x21800000 0 2'",
   "setenv zr10_expected 'fatload mmc 0 0x21800000 $\x7bSdUpgradeImage\x7d 4 0x6b4008'",
   "setenv zr10_crc 'crc32 0x21000000 0x6b4000 0x21800004'",
   "setenv zr10_verify 'cmp.l 0x21800000 0x21800004 1'",
   "setenv zr10_erase 'sf erase $\x7bsf_part_start\x7d $\x7bsf_part_size\x7d'",
   "setenv zr10_write 'sf write 0x21004000 $\x7bsf_part_start\x7d 0x6b0000'",
   "setenv zr10_read 'sf read 0x22000000 $\x7bsf_part_start\x7d 0x6b0000'",
   "setenv zr10_check 'cmp.l 0x21004000 0x22000000 0x1ac000'",
   "run zr10_probe zr10_info zr10_start zr10_size zr10_exstart zr10_exsize zr10_geometry " ++
      "zr10_fill zr10_load zr10_clear zr10_expected zr10_crc zr10_verify zr10_erase zr10_write " ++
      "zr10_read zr10_check",
   "# The retained rootfs starts telnet even if the customer update failed.",
   "run bootcmd",
   "% <- this is end of script symbol"].flatMap fun line => bytes line ++ [newline]

/-! ### The server -/

def crcBit (crc : UInt32) : UInt32 :=
  crc >>> (1 : UInt32) ^^^ (0xedb88320 &&& (0 - (crc &&& 1)))

def crcByte (crc : UInt32) (byte : UInt8) : UInt32 := crcBit^[8] (crc ^^^ byte.toUInt32)

/-- The byte that the script has at a position, where the file has to hold it. -/
def expectedByte (script : Text) (position : Nat) : UInt8 :=
  if position < script.length then script.getD position 0 else 0xff

/-- What is checked of a byte by its position. -/
def byteFits (script : Text) (position : Nat) (byte : UInt8) : Bool :=
  !(position < scriptSize && byte != expectedByte script position) &&
    !(position == scriptSize && byte != 0x85) && !(position == scriptSize + 1 && byte != 0x19)

/-- The loop over the bytes of a read, from a position on; none when a byte does not fit. -/
def scanBytes (script : Text) : Nat → UInt32 → Text → Option UInt32
  | _, crc, [] => some crc
  | position, crc, byte :: rest =>
    if byteFits script position byte then scanBytes script (position + 1) (crcByte crc byte) rest
    else none

/-- The result of a `pread`. It gives at least one byte when the file has any there. -/
inductive Pread where
  | some (more : Nat)
  | interrupted
  | failed

def bodySize : Nat := scriptSize + customerSize

/-- The loop that reads the body, from an offset on: none while it goes on, and no CRC when it
refuses the file. -/
def scanBody (script contents : Text) : List Pread → Nat → UInt32 → Option (Option UInt32)
  | [], offset, crc => if bodySize ≤ offset then some (some crc) else none
  | read :: rest, offset, crc =>
    if bodySize ≤ offset then some (some crc)
    else
      match read with
      | .interrupted => scanBody script contents rest offset crc
      | .failed => some none
      | .some more =>
        let size := min (bodySize - offset) 16384
        let got := (contents.drop offset).take (min (more + 1) size)
        if got = [] then some none
        else
          match scanBytes script offset crc got with
          | none => some none
          | some next => scanBody script contents rest (offset + got.length) next

/-- The little-endian number at an index. -/
def getUInt32 (data : Text) (index : Nat) : UInt32 :=
  (data.getD index 0).toUInt32 ||| (data.getD (index + 1) 0).toUInt32 <<< (8 : UInt32) |||
    (data.getD (index + 2) 0).toUInt32 <<< (16 : UInt32) |||
    (data.getD (index + 3) 0).toUInt32 <<< (24 : UInt32)

def trailerFits (script trailer : Text) (crc : UInt32) : Bool :=
  getUInt32 trailer 8 == crc ^^^ 0xffffffff && trailer.take 8 == magic &&
    (trailer.drop 12).take 8 == trailerMark && (trailer.drop 20).take 16 == script.take 16

/-- `zr10_valid_firmware`, with the reads of the body: the verdict, or none while the body is still
being read. `fstat` gives the size, and the trailer is read whole. -/
def validFirmware (script contents : Text) (reads : List Pread) : Option Bool :=
  if contents.length ≠ firmwareSize then some false
  else
    (scanBody script contents reads 0 0xffffffff).map fun
      | none => false
      | some crc => trailerFits script ((contents.drop bodySize).take trailerSize) crc

end Zr10Firmware
