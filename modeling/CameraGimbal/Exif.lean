/-
This file models the EXIF block of a photo: a TIFF file in little-endian order with three
directories, behind the prefix that tells EXIF apart. A directory takes its entries first, and is
then written with the data that do not fit into them behind it.

The texts and numbers that the clock, the formats and the floats give are fields here. The helpers
are only called with a few numbers at a time.
-/

import CameraGimbal.Bytes
import CameraGimbal.CText

namespace Exif

open CText

/-! ### Numbers -/

def putU16 (value : UInt16) : Bytes := [value.toUInt8, (value >>> 8).toUInt8]

def putU32 (value : UInt32) : Bytes := putU16 value.toUInt16 ++ putU16 (value >>> 16).toUInt16

/-! ### Entries -/

/-- `enum tiff_type`. -/
def tiffByte : UInt16 := 1

def tiffAscii : UInt16 := 2

def tiffShort : UInt16 := 3

def tiffLong : UInt16 := 4

def tiffRational : UInt16 := 5

def tiffUndefined : UInt16 := 7

def tiffSrational : UInt16 := 10

def typeSize (type : UInt16) : Nat :=
  if type = tiffShort then 2
  else if type = tiffLong then 4
  else if type = tiffRational ∨ type = tiffSrational then 8
  else 1

def entryRoom : Nat := 24

/-- `struct tiff_entry`. -/
structure TiffEntry where
  tag : UInt16
  type : UInt16
  count : UInt32
  data : Bytes
  deriving DecidableEq, Repr

def TiffEntry.size (entry : TiffEntry) : Nat := typeSize entry.type * entry.count.toNat

/-- `IFD_MAX_ENTRIES`. -/
def ifdMaxEntries : Nat := 16

/-- `struct ifd`. -/
abbrev Ifd := List TiffEntry

/-- `ifd_add`, with the data put into the entry; without room nothing is added. -/
def ifdAdd (ifd : Ifd) (tag type : UInt16) (count : UInt32) (data : Bytes) : Ifd :=
  if ifdMaxEntries ≤ ifd.length then ifd
  else ifd ++ [⟨tag, type, count, data ++ List.replicate (entryRoom - data.length) 0⟩]

def ifdAscii (ifd : Ifd) (tag : UInt16) (text : Bytes) : Ifd :=
  if entryRoom < text.length + 1 then ifd
  else ifdAdd ifd tag tiffAscii (.ofNat (text.length + 1)) (text ++ [0])

def ifdLong (ifd : Ifd) (tag : UInt16) (value : UInt32) : Ifd :=
  ifdAdd ifd tag tiffLong 1 (putU32 value)

def ifdBytes (ifd : Ifd) (tag type : UInt16) (data : Bytes) : Ifd :=
  if entryRoom < data.length then ifd else ifdAdd ifd tag type (.ofNat data.length) data

/-- The bytes of pairs of numbers. -/
def pairBytes (pairs : List (UInt32 × UInt32)) : Bytes :=
  pairs.flatMap fun pair => putU32 pair.1 ++ putU32 pair.2

def ifdRationals (ifd : Ifd) (tag type : UInt16) (pairs : List (UInt32 × UInt32)) : Ifd :=
  if entryRoom < pairs.length * 8 then ifd
  else ifdAdd ifd tag type (.ofNat pairs.length) (pairBytes pairs)

def ifdRational (ifd : Ifd) (tag : UInt16) (numerator denominator : UInt32) : Ifd :=
  ifdRationals ifd tag tiffRational [(numerator, denominator)]

/-! ### Coordinates -/

/-- The degrees, minutes and seconds of a coordinate in units of 1e-7 degrees. -/
def coordinatePairs (valueE7 : Int32) : List (UInt32 × UInt32) :=
  let total := valueE7.toInt.natAbs
  let degrees := total / 10000000
  let minutesE7 := total % 10000000 * 60
  let minutes := minutesE7 / 10000000
  let secondsE4 := minutesE7 % 10000000 * 60 / 1000
  [(.ofNat degrees, 1), (.ofNat minutes, 1), (.ofNat secondsE4, 10000)]

def gpsCoordinate (ifd : Ifd) (tag : UInt16) (valueE7 : Int32) : Ifd :=
  ifdRationals ifd tag tiffRational (coordinatePairs valueE7)

/-! ### Writing -/

/-- Copy bytes to a place in memory. -/
def store (memory : Bytes) (place : Nat) (data : Bytes) : Bytes :=
  memory.take place ++ data ++ memory.drop (place + data.length)

def exifPrefix : Bytes := [0x45, 0x78, 0x69, 0x66, 0, 0]

/-- `struct tiff`. The memory is that of the caller, and the buffer begins behind the prefix. -/
structure Tiff where
  memory : Bytes
  capacity : Nat
  length : Nat
  overflow : Bool

def tiffAppend (tiff : Tiff) (data : Bytes) : Tiff :=
  if tiff.overflow ∨ tiff.capacity - tiff.length < data.length then
    { tiff with overflow := true }
  else
    { tiff with
      memory := store tiff.memory (exifPrefix.length + tiff.length) data
      length := tiff.length + data.length }

/-- The places of the two pointers. -/
structure Pointers where
  exif : Nat
  gps : Nat

/-- The bytes of an entry, whose data lie at the offset if they are too long for it. -/
def rawEntry (entry : TiffEntry) (dataOffset : Nat) : Bytes :=
  putU16 entry.tag ++ putU16 entry.type ++ putU32 entry.count ++
    if entry.size ≤ 4 then entry.data.take entry.size ++ List.replicate (4 - entry.size) 0
    else putU32 (.ofNat dataOffset)

/-- Data begin at even offsets. -/
def evenSize (size : Nat) : Nat := size + size % 2

/-- The loop over the entries. -/
def writeEntries (tiff : Tiff) (dataOffset : Nat) (pointers : Pointers) :
    List TiffEntry → Tiff × Pointers
  | [] => (tiff, pointers)
  | entry :: rest =>
    let place := tiff.length + 8
    let pointers :=
      { exif := if entry.tag = 0x8769 then place else pointers.exif
        gps := if entry.tag = 0x8825 then place else pointers.gps }
    writeEntries (tiffAppend tiff (rawEntry entry dataOffset))
      (if entry.size ≤ 4 then dataOffset else dataOffset + evenSize entry.size) pointers rest

/-- The loop over the data. -/
def writeData (tiff : Tiff) : List TiffEntry → Tiff
  | [] => tiff
  | entry :: rest =>
    if entry.size ≤ 4 then writeData tiff rest
    else
      let tiff := tiffAppend tiff (entry.data.take entry.size)
      writeData (if entry.size % 2 = 1 then tiffAppend tiff [0] else tiff) rest

/-- The entries in the order of their tags. -/
def sorted (ifd : Ifd) : List TiffEntry :=
  ifd.insertionSort fun first second => first.tag.toNat ≤ second.tag.toNat

/-- `tiff_write_ifd`: the file, the places of the pointers, and the offset of the directory. -/
def tiffWriteIfd (tiff : Tiff) (ifd : Ifd) (pointers : Pointers) : Tiff × Pointers × Nat :=
  let entries := sorted ifd
  let dataOffset := tiff.length + 2 + entries.length * 12 + 4
  let counted := tiffAppend tiff (putU16 (.ofNat entries.length))
  let written := writeEntries counted dataOffset pointers entries
  let ended := tiffAppend written.1 [0, 0, 0, 0]
  (writeData ended entries, written.2, tiff.length)

/-- Put the offset of a directory to its pointer. -/
def patch (tiff : Tiff) (place offset : Nat) : Tiff :=
  if tiff.overflow then tiff
  else
    { tiff with
      memory := store tiff.memory (exifPrefix.length + place) (putU32 (.ofNat offset)) }

/-- The header of the file: little-endian order, and the first directory behind the header. -/
def tiffHeader : Bytes := [0x49, 0x49, 0x2a, 0, 8, 0, 0, 0]

/-- The part of `build_exif` that writes the directories: the memory of the caller, and the length
of the block. -/
def writeExif (ifd0 exif : Ifd) (gps : Option Ifd) (output : Bytes) (capacity : Nat) :
    Bytes × Nat :=
  if capacity < exifPrefix.length then (output, 0)
  else
    let tiff : Tiff :=
      { memory := store output 0 exifPrefix
        capacity := capacity - exifPrefix.length
        length := 0
        overflow := false }
    let first := tiffWriteIfd (tiffAppend tiff tiffHeader) ifd0 ⟨0, 0⟩
    -- the other two directories have no pointers
    let second := tiffWriteIfd first.1 exif first.2.1
    let tiff := patch second.1 first.2.1.exif second.2.2
    let tiff :=
      match gps with
      | none => tiff
      | some gps =>
        let third := tiffWriteIfd tiff gps first.2.1
        patch third.1 first.2.1.gps third.2.2
    (tiff.memory, if tiff.overflow then 0 else tiff.length + exifPrefix.length)

/-! ### The directories of a photo -/

/-- The first directory, with its pointers behind the entries. -/
def withPointers (ifd : Ifd) (position : Bool) : Ifd :=
  let ifd := ifdLong ifd 0x8769 0
  if position then ifdLong ifd 0x8825 0 else ifd

/-- What the photo says of the position: the numbers are hundredths. -/
structure Position where
  latE7 : Int32
  lonE7 : Int32
  belowSea : Bool
  altitude : UInt32
  hour : UInt32
  minute : UInt32
  second : UInt32
  date : Bytes
  direction : Option UInt32

/-- What the photo says. -/
structure Metadata where
  model : Bytes
  dateTime : Bytes
  subsecond : Bytes
  offset : Bytes
  zoom : Option UInt32
  position : Option Position

/-- The entries of the first directory. -/
def fillIfd0 (metadata : Metadata) : Ifd :=
  let ifd := ifdAscii [] 0x010f (bytes "ArduPilot")
  let ifd := ifdAscii ifd 0x0110
    (if metadata.model = [] then bytes "AP_CameraGimbal" else metadata.model)
  let ifd := ifdAscii ifd 0x0132 metadata.dateTime
  ifdAscii ifd 0x0131 (bytes "AP_CameraGimbal")

/-- The entries of the EXIF directory. -/
def fillExif (metadata : Metadata) : Ifd :=
  let ifd := ifdBytes [] 0x9000 tiffUndefined (bytes "0232")
  let ifd := ifdAscii ifd 0x9003 metadata.dateTime
  let ifd := ifdAscii ifd 0x9004 metadata.dateTime
  let ifd := ifdAscii ifd 0x9291 metadata.subsecond
  let ifd := ifdAscii ifd 0x9292 metadata.subsecond
  let ifd := ifdAscii ifd 0x9011 metadata.offset
  let ifd := ifdAscii ifd 0x9012 metadata.offset
  match metadata.zoom with
  | none => ifd
  | some zoom => ifdRational ifd 0xa404 zoom 100

/-- The entries of the GPS directory. -/
def fillGps (position : Position) : Ifd :=
  let ifd := ifdBytes [] 0x0000 tiffByte [2, 3, 0, 0]
  let ifd := ifdAscii ifd 0x0001 (bytes (if position.latE7 < 0 then "S" else "N"))
  let ifd := gpsCoordinate ifd 0x0002 position.latE7
  let ifd := ifdAscii ifd 0x0003 (bytes (if position.lonE7 < 0 then "W" else "E"))
  let ifd := gpsCoordinate ifd 0x0004 position.lonE7
  let ifd := ifdBytes ifd 0x0005 tiffByte [if position.belowSea then 1 else 0]
  let ifd := ifdRational ifd 0x0006 position.altitude 100
  let ifd := ifdRationals ifd 0x0007 tiffRational
    [(position.hour, 1), (position.minute, 1), (position.second, 1)]
  let ifd := ifdAscii ifd 0x0012 (bytes "WGS-84")
  let ifd := ifdAscii ifd 0x001d position.date
  match position.direction with
  | none => ifd
  | some direction => ifdRational (ifdAscii ifd 0x0010 (bytes "T")) 0x0011 direction 100

def buildExif (metadata : Metadata) (output : Bytes) (capacity : Nat) : Bytes × Nat :=
  writeExif (withPointers (fillIfd0 metadata) metadata.position.isSome) (fillExif metadata)
    (metadata.position.map fillGps) output capacity

end Exif
