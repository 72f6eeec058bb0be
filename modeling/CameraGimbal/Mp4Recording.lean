/-
This file models the recording of H.264 access units into MP4 files: the file with the guard of
its size, the sample that an access unit becomes, and the writer that goes on in the next file
when a file on FAT comes near the largest size, with the worker that closes the file before.

The multiplexer is outside. It appears as the writes it makes through the callback it was opened
with and as what it reports; the system calls appear as what they report. A file keeps the
parameter sets and the samples that the multiplexer took.
-/

import CameraGimbal.CText
import CameraGimbal.VideoMetadata

namespace Mp4

open AnnexB CText SupportVideo VideoMetadata
open Siyi (byteAt)

/-! ### Constants -/

abbrev Errno := Nat

/-- `EIO`. -/
def inputOutput : Errno := 5

/-- `ENOMEM`. -/
def noMemory : Errno := 12

/-- `EINVAL`. -/
def invalid : Errno := 22

/-- `EFBIG`. -/
def fileTooBig : Errno := 27

/-- `EOVERFLOW`. -/
def overflow : Errno := 75

/-- `INT_MAX`. -/
def intMax : Nat := 2147483647

/-- `UINT_MAX`. -/
def uintMax : Nat := 4294967295

/-- `INT64_MAX`. -/
def int64Max : Nat := 9223372036854775807

/-- `CA_FAT_MAX_BYTES`. -/
def fatMaxBytes : Nat := 4294967295

/-- `CA_FAT_ROLL_BYTES`. -/
def fatRollBytes : Nat := fatMaxBytes - 67108863

/-- `CA_MP4_HEADERS_MAX`. -/
def headersMax : Nat := 65536

/-! ### Access units -/

def nalType (nal : Bytes) : UInt8 := unitType .h264 (byteAt nal 0)

def isParameterSet (nal : Bytes) : Bool := nalType nal = 7 || nalType nal = 8

def isVcl (nal : Bytes) : Bool := videoNalIsVcl .h264 (byteAt nal 0)

/-- The NAL units of an access unit that are not empty. -/
def nals (unit : Bytes) : List Bytes := (nalUnits unit).filter fun nal => nal ≠ []

/-- Whether an access unit has a NAL unit of a type. -/
def hasType (type : UInt8) (unit : Bytes) : Bool :=
  (nals unit).any fun nal => nalType nal = type

/-- `picture` of `write_h264`. -/
def hasPicture (unit : Bytes) : Bool := (nals unit).any isVcl

/-- `key` of `write_h264` and `idr` of `cache_headers`. -/
def hasIdr (unit : Bytes) : Bool := hasType 5 unit

/-! ### Files -/

/-- A sample of a track, with the access unit it was made of. -/
structure Sample where
  unit : Bytes
  data : Bytes
  duration : Nat
  key : Bool

/-- `mp4_h26x_writer_t`, with what the multiplexer took. -/
structure Track where
  needSps : Bool
  needPps : Bool
  needIdr : Bool
  parameterSets : List Bytes
  samples : List Sample

/-- `struct ca_mp4_file`. `extent` is the size of the file in the file system, which a write that
fails half way can enlarge, too. -/
structure File where
  part : Nat
  hardLimit : Nat
  bytes : Nat
  extent : Nat
  frameDuration : Nat
  nextPts90k : Nat
  track : Track

/-- A write of the multiplexer: the place, the size, and the number of bytes after which `pwrite`
fails, if it does. -/
structure Piece where
  offset : Int
  size : Nat
  failure : Option Nat

/-- The size of a file after a write. -/
def enlarged (extent offset size : Nat) : Nat :=
  if size = 0 then extent else max extent (offset + size)

def File.writeAt (file : File) (piece : Piece) : File × Bool :=
  let offset := piece.offset.toNat
  if piece.offset < 0 ∨ file.hardLimit < offset ∨ file.hardLimit - offset < piece.size then
    (file, false)
  else
    match piece.failure with
    | some done =>
      ({ file with extent := enlarged file.extent offset (min done piece.size) }, false)
    | none =>
      ({ file with
          bytes := max file.bytes (offset + piece.size)
          extent := enlarged file.extent offset piece.size },
        true)

/-- The writes of one call of the multiplexer, which stops at the first that fails. -/
def File.writePieces (file : File) : List Piece → File × Bool
  | [] => (file, true)
  | piece :: rest =>
    let written := file.writeAt piece
    if written.2 then written.1.writePieces rest else (written.1, false)

/-- A file as `open` and `MP4E_open` leave it: whether the file system is FAT, and the bytes that
the multiplexer writes at once. -/
structure Opened where
  fat : Bool
  header : Nat
  small : header ≤ 4096

/-- `width`, `height` and `frame_rate`. -/
structure Format where
  width : Nat
  height : Nat
  frameRate : Nat
  deriving DecidableEq

def Format.valid (format : Format) : Bool :=
  format.width ≠ 0 && format.height ≠ 0 && format.frameRate ≠ 0

def fileOpen (part : Nat) (format : Format) (opened : Except Errno Opened) : Except Errno File :=
  if format.valid then
    match opened with
    | .error errno => .error errno
    | .ok opened =>
      .ok
        { part
          hardLimit := if opened.fat then fatMaxBytes else int64Max
          bytes := opened.header
          extent := opened.header
          frameDuration := 90000 / format.frameRate
          nextPts90k := 0
          track := ⟨true, true, true, [], []⟩ }
  else .error invalid

/-! ### Writing an access unit to a file -/

/-- What is reported while an access unit is written: the error of the flushing thread, zero when
there is none, `flock`, whether `MP4E_set_sps` and `MP4E_set_pps` take a parameter set as the last
of those given, `clock_gettime`, the telemetry text, `malloc`, the writes and the outcome of
`MP4E_put_sample`, and the second `flock`. -/
structure WriteCalls where
  syncError : Errno
  lock : Option Errno
  takes : List Bytes → Bool
  clock : Option Errno
  json : Nat → Bytes
  memory : Bool
  pieces : List Piece
  stored : Bool
  unlock : Option Errno

/-- The first loop of `write_h264`, over the parameter sets. -/
def Track.scan (takes : List Bytes → Bool) (track : Track) :
    List Bytes → Track × Bool
  | [] => (track, true)
  | nal :: rest =>
    if isParameterSet nal then
      let asked :=
        { track with
          needSps := track.needSps && nalType nal ≠ 7
          needPps := track.needPps && nalType nal ≠ 8 }
      let parameterSets := track.parameterSets ++ [nal]
      if takes parameterSets then Track.scan takes { asked with parameterSets } rest
      else (asked, false)
    else Track.scan takes track rest

/-- `APPEND_NAL`. -/
def appendNal (nal : Bytes) : Bytes :=
  [UInt8.ofNat (nal.length / 2 ^ 24), UInt8.ofNat (nal.length / 2 ^ 16),
    UInt8.ofNat (nal.length / 2 ^ 8), UInt8.ofNat nal.length] ++ nal

/-- The second loop of `write_h264`: the telemetry in front of the first slice, the slices and the
other SEI units. -/
def sampleData (sei : Bytes) (inserted : Bool) : List Bytes → Bytes
  | [] => []
  | nal :: rest =>
    (if isVcl nal && !inserted then appendNal sei else []) ++
      (if isVcl nal || nalType nal = 6 then appendNal nal else []) ++
      sampleData sei (inserted || isVcl nal) rest

/-- `MP4E_put_sample`. -/
def File.putSample (file : File) (calls : WriteCalls) (sample : Sample) : File × Bool :=
  let written := file.writePieces calls.pieces
  if written.2 && calls.stored then
    ({ written.1 with
        track := { written.1.track with samples := written.1.track.samples ++ [sample] } },
      true)
  else (written.1, false)

/-- `write_h264`: whether a sample was written. -/
def File.writeH264 (file : File) (calls : WriteCalls) (unit : Bytes) :
    File × Except Errno Bool :=
  if unit = [] ∨ intMax - seiMax < unit.length then (file, .error invalid)
  else
    let scanned := file.track.scan calls.takes (nals unit)
    let file := { file with track := scanned.1 }
    if !scanned.2 then (file, .error inputOutput)
    else if !hasPicture unit then (file, .ok false)
    else if scanned.1.needSps || scanned.1.needPps || scanned.1.needIdr && !hasIdr unit then
      (file, .ok false)
    else
      match calls.clock, videoMetadataSei .h264 (calls.json file.nextPts90k) seiMax with
      | some errno, _ => (file, .error errno)
      | none, none => (file, .error overflow)
      | none, some sei =>
        if (intMax - seiMax) / 2 < unit.length then (file, .error overflow)
        else if !calls.memory then (file, .error noMemory)
        else
          let sample :=
            ⟨unit, sampleData (sei.drop 4) false (nals unit), file.frameDuration, hasIdr unit⟩
          let put := file.putSample calls sample
          if put.2 then
            ({ put.1 with track := { put.1.track with needIdr := false } }, .ok true)
          else (put.1, .error inputOutput)

def File.writeRecordingFrame (file : File) (calls : WriteCalls) (unit : Bytes) :
    File × Except Errno Bool :=
  let written := file.writeH264 calls unit
  match written.2 with
  | .ok true =>
    ({ written.1 with nextPts90k := written.1.nextPts90k + written.1.frameDuration }, .ok true)
  | result => (written.1, result)

/-- `file_write_h264`: the error, if any. -/
def File.write (file : File) (calls : WriteCalls) (unit : Bytes) : File × Option Errno :=
  if calls.syncError ≠ 0 then (file, some calls.syncError)
  else
    match calls.lock with
    | some errno => (file, some errno)
    | none =>
      let written := file.writeRecordingFrame calls unit
      match written.2 with
      | .error errno => (written.1, some errno)
      | .ok _ => (written.1, calls.unlock)

/-- What is reported while a file is closed: the writes of `MP4E_close`, whether the multiplexer,
the flushing thread and `close` report success, and `errno` if not. -/
structure CloseCalls where
  pieces : List Piece
  closed : Bool
  errno : Errno

/-- `file_close`. -/
def File.close (file : File) (calls : CloseCalls) : File × Option Errno :=
  let written := file.writePieces calls.pieces
  (written.1, if written.2 && calls.closed then none else some calls.errno)

/-! ### The writer -/

/-- A file that a worker closes, with `retire_error` from `retire_done` on. -/
structure Retired where
  file : File
  result : Option Errno

/-- `struct ca_mp4`. The last three are its history: the files that are behind it, and the parts
whose worker was joined and whose file was closed. -/
structure Writer where
  path : Text
  format : Format
  part : Nat
  rollBytes : Nat
  file : File
  headers : Bytes
  error : Errno
  retired : Option Retired
  finished : List File
  joins : List Nat
  closes : List Nat

/-- `errno ? errno : EIO`. -/
def errnoOr (errno : Errno) : Errno := if errno = 0 then inputOutput else errno

/-- The loop of `cache_headers`, with `realloc` for each larger buffer. -/
def cacheHeaders (realloc : Bytes → Bool) (headers : Bytes) :
    List Bytes → Bytes × Option Errno
  | [] => (headers, none)
  | nal :: rest =>
    if !isParameterSet nal || (nalUnits headers).contains nal then
      cacheHeaders realloc headers rest
    else if headersMax - 4 < headers.length ∨ headersMax - 4 - headers.length < nal.length then
      (headers, some overflow)
    else
      let larger := headers ++ ([0, 0, 0, 1] ++ nal)
      if realloc larger then cacheHeaders realloc larger rest else (headers, some noMemory)

/-- The length of a path in front of the extension of its file name. -/
def stem (path : Text) : Nat :=
  let name := path.rtakeWhile (· ≠ 47)
  if name.contains 46 then path.length - (name.rtakeWhile (· ≠ 46)).length - 1 else path.length

/-- The path of a part: `"%.*s_part%04u%s"`. -/
def partPath (path : Text) (part : Nat) : Text :=
  path.take (stem path) ++ [95, 112, 97, 114, 116] ++ (printNat part).leftpad 4 48 ++
    path.drop (stem path)

/-- What is reported while the writer goes on in the next file: `asprintf`, the system calls of
`file_open` at a path, the calls while the parameter sets are written, and `pthread_create`. -/
structure RollCalls where
  memory : Bool
  opened : Text → Except Errno Opened
  seed : WriteCalls
  create : Option Errno

/-- `roll_file`: the error, if any. A next file that cannot be used is closed and unlinked. -/
def Writer.rollFile (writer : Writer) (calls : RollCalls) : Writer × Option Errno :=
  if intMax < stem writer.path ∨ writer.part = uintMax then (writer, some overflow)
  else if !calls.memory then (writer, some noMemory)
  else
    let path := partPath writer.path (writer.part + 1)
    match fileOpen (writer.part + 1) writer.format (calls.opened path) with
    | .error errno => (writer, some errno)
    | .ok next =>
      let seeded :=
        if writer.headers = [] then (next, none) else next.write calls.seed writer.headers
      match seeded.2.or calls.create with
      | some errno => (writer, some errno)
      | none =>
        ({ writer with
            part := writer.part + 1
            file := seeded.1
            retired := some ⟨writer.file, none⟩ },
          none)

/-- `retire_file`: the worker closes the file. -/
def Writer.retireFile (writer : Writer) (calls : CloseCalls) : Writer :=
  match writer.retired with
  | some ⟨file, none⟩ =>
    let closed := file.close calls
    { writer with
      retired := some ⟨closed.1, some (closed.2.elim 0 errnoOr)⟩
      closes := writer.closes ++ [file.part] }
  | _ => writer

/-- `reap_file` without waiting: whether a file still awaits its worker. -/
def Writer.reapFile (writer : Writer) : Writer × Except Errno Bool :=
  match writer.retired with
  | none => (writer, .ok false)
  | some ⟨_, none⟩ => (writer, .ok true)
  | some ⟨file, some error⟩ =>
    ({ writer with
        retired := none
        finished := writer.finished ++ [file]
        joins := writer.joins ++ [file.part] },
      if error = 0 then .ok false else .error error)

/-- What is reported while an access unit is written. -/
structure UnitCalls where
  realloc : Bytes → Bool
  roll : RollCalls
  write : WriteCalls

/-- The first half of `ca_mp4_write_h264`, up to the bound: the error, if any. -/
def Writer.prepare (writer : Writer) (calls : UnitCalls) (unit : Bytes) :
    Writer × Option Errno :=
  let reaped := writer.reapFile
  match reaped.2 with
  | .error errno => (reaped.1, some errno)
  | .ok awaits =>
    if reaped.1.rollBytes = 0 then (reaped.1, none)
    else
      let cached := cacheHeaders calls.realloc reaped.1.headers (nals unit)
      let ready := { reaped.1 with headers := cached.1 }
      match cached.2 with
      | some errno => (ready, some errno)
      | none =>
        if hasIdr unit && ready.rollBytes ≤ ready.file.bytes && !awaits then
          ready.rollFile calls.roll
        else (ready, none)

def bound (unit : Bytes) : Nat := unit.length * 2 + seiMax + headersMax + 4096

/-- How a call ended: the access unit was taken, an argument was refused, or the call failed. -/
inductive Outcome
  | taken | argument | failed
  deriving DecidableEq

def Writer.fail (writer : Writer) (errno : Errno) : Writer × Outcome :=
  ({ writer with error := errnoOr errno }, .failed)

/-- `ca_mp4_write_h264`. -/
def Writer.writeH264 (writer : Writer) (calls : UnitCalls) (unit : Bytes) :
    Writer × Outcome :=
  if unit = [] ∨ intMax / 2 < unit.length then (writer, .argument)
  else if writer.error ≠ 0 then (writer, .failed)
  else
    let prepared := writer.prepare calls unit
    match prepared.2 with
    | some errno => prepared.1.fail errno
    | none =>
      if prepared.1.file.hardLimit - prepared.1.file.bytes < bound unit then
        prepared.1.fail fileTooBig
      else
        let written := prepared.1.file.write calls.write unit
        let after := { prepared.1 with file := written.1 }
        match written.2 with
        | some errno => after.fail errno
        | none => (after, .taken)

/-- `CAMERA_APP_RECORD_SEGMENT_BYTES`, which can lower the threshold. -/
def segmentBytes (setting : Text) : Nat :=
  if setting.head?.any isDigit then
    match strtoul 64 setting with
    | none => fatRollBytes
    | some converted =>
      if converted.inRange && converted.rest = [] && 65536 ≤ converted.value &&
          converted.value < fatRollBytes then
        converted.value.toNat
      else fatRollBytes
  else fatRollBytes

/-- `ca_mp4_open`. -/
def mp4Open (path : Text) (format : Format) (setting : Option Text)
    (opened : Except Errno Opened) : Except Errno Writer :=
  match fileOpen 1 format opened with
  | .error errno => .error errno
  | .ok file =>
    .ok
      { path, format, file
        part := 1
        rollBytes :=
          if file.hardLimit = fatMaxBytes then setting.elim fatRollBytes segmentBytes else 0
        headers := []
        error := 0
        retired := none
        finished := []
        joins := []
        closes := [] }

/-- `ca_mp4_close`, which waits for the worker. -/
def Writer.close (writer : Writer) (calls worker : CloseCalls) : Writer × Option Errno :=
  let closed := writer.file.close calls
  let last := { writer with file := closed.1, closes := writer.closes ++ [writer.file.part] }
  let reaped := (last.retireFile worker).reapFile
  let error := if writer.error ≠ 0 then writer.error else closed.2.elim 0 errnoOr
  let error :=
    match reaped.2 with
    | .error errno => if error ≠ 0 then error else errnoOr errno
    | .ok _ => error
  (reaped.1, if error = 0 then none else some error)

/-! ### Runs -/

/-- An access unit that was given to the writer, and how the call ended. -/
structure Entry where
  unit : Bytes
  outcome : Outcome

/-- A recording: the writer and the calls so far. -/
structure Recording where
  writer : Writer
  log : List Entry

/-- The recording thread writes an access unit, or the worker of the retired file closes it. -/
inductive Event
  | write (unit : Bytes) (calls : UnitCalls)
  | retire (calls : CloseCalls)

def step (recording : Recording) : Event → Recording
  | .write unit calls =>
    let written := recording.writer.writeH264 calls unit
    ⟨written.1, recording.log ++ [⟨unit, written.2⟩]⟩
  | .retire calls => { recording with writer := recording.writer.retireFile calls }

def run (recording : Recording) (events : List Event) : Recording := events.foldl step recording

end Mp4
