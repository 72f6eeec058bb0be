/-
This file models the recording of DataFlash logs: the records that other threads emit, the ring
through which they and the starts and stops of sessions reach the writer, and the writer, which
alone opens, writes and syncs the files.

A step is one section under the lock, or the work on the file that the writer does between two of
them. The control thread starts, stops and closes; every thread may emit. The file system appears
as what its calls report. Which session an entry, a record and a file belong to is kept beside the
state; nothing the code computes depends on it.
-/

import CameraGimbal.CText
import CameraGimbal.RingQueue

namespace Binlog

open CText

/-! ### The format table -/

/-- `struct fmt_record`, without what every one of them begins with. -/
structure Format where
  type : UInt8
  /-- The length of a record, its three bytes of header included. -/
  length : UInt8
  name : String
  format : String
  labels : String
  deriving DecidableEq, Repr

/-- A `char` array of a fixed size, filled from a string literal. -/
def padded (size : Nat) (literal : String) : Text :=
  (bytes literal ++ List.replicate size 0).take size

/-- The bytes of a `struct fmt_record`. -/
def Format.record (entry : Format) : Text :=
  [0xa3, 0x95, 128, entry.type, entry.length].append
    ((padded 4 entry.name).append ((padded 16 entry.format).append (padded 64 entry.labels)))

/-- `FMT`, from the size of the structure that the record holds. -/
def fmt (type size : UInt8) (name format labels : String) : Format :=
  { type, length := 3 + size, name, format, labels }

/-- `formats`. -/
def formatTable : List Format := [
  { type := 128, length := 89, name := "FMT", format := "BBnNZ",
    labels := "Type,Length,Name,Format,Columns" },
  fmt 146 46 "AE" "QBBHBBifffffff" "TimeUS,Lens,Src,Valid,Mode,State,Result,US,AG,DG,IG,Y,Targ,Err",
  fmt 145 75 "VEND" "QBHZ" "TimeUS,Opcode,Length,Payload",
  fmt 129 28 "PARM" "QNf" "TimeUS,Name,Value",
  fmt 130 72 "MSG" "QZ" "TimeUS,Message",
  fmt 131 40 "POS" "QILLfffff" "TimeUS,BootMS,Lat,Lng,Alt,RelAlt,VN,VE,VD",
  fmt 132 37 "ATT" "QIBffffff" "TimeUS,BootMS,Src,Roll,Pitch,Yaw,RollRate,PitchRate,YawRate",
  fmt 133 40 "GIMB" "QQffffff" "TimeUS,SampleUS,Roll,Pitch,Yaw,RollRate,PitchRate,YawRate",
  fmt 134 52 "PIDP" "Qfffffffffff" "TimeUS,Tar,Act,Rate,FF,Err,P,I,D,Out,DT,Age",
  fmt 135 52 "PIDY" "Qfffffffffff" "TimeUS,Tar,Act,Rate,FF,Err,P,I,D,Out,DT,Age",
  fmt 136 18 "MODE" "QIBBBBBB" "TimeUS,FlightMode,Armed,Mode,Method,YawLock,Recording,SysId",
  fmt 137 41 "CMD" "QHBBBfffffff" "TimeUS,Cmd,SysId,CompId,Result,P1,P2,P3,P4,P5,P6,P7",
  fmt 138 37 "CAM" "QBiLLffff" "TimeUS,Scope,Result,Lat,Lng,Alt,Roll,Pitch,Yaw",
  fmt 139 77 "VID" "QBiZ" "TimeUS,Active,Result,Path",
  fmt 140 29 "GCMD" "QBffffi" "TimeUS,Mode,Pitch,Yaw,WireP,WireY,Result",
  fmt 141 20 "STAT" "QIII" "TimeUS,Dropped,Queued,Errors",
  fmt 142 16 "TIME" "QQ" "TimeUS,UTC",
  fmt 143 21 "ROI" "QLLfB" "TimeUS,Lat,Lng,Alt,Active",
  fmt 144 28 "PRMA" "QNf" "TimeUS,Name,Value"]

/-- The bytes a log file begins with. -/
def formats : Text := formatTable.flatMap Format.record

/-- The bytes that a letter of a format stands for. -/
def letterSize (letter : Char) : Nat :=
  match letter with
  | 'B' => 1
  | 'H' => 2
  | 'I' | 'i' | 'L' | 'f' | 'n' => 4
  | 'Q' => 8
  | 'N' => 16
  | 'Z' => 64
  | _ => 0

theorem formatTable_lengths :
    (∀ entry ∈ formatTable,
      entry.length.toNat = 3 + (entry.format.toList.map letterSize).sum) ∧
      (formatTable.map Format.type).Nodup := by
  decide +kernel

/-! ### The ring -/

/-- `QUEUE_SIZE`. -/
abbrev queueSize : Nat := 4096

instance : NeZero queueSize := ⟨by decide⟩

/-- The `kind` of an entry: 0, 1 or 2. -/
inductive Kind where
  | record
  | start
  | stop
  deriving DecidableEq, Repr

/-- `struct entry`: the bytes up to `length`. The session it belongs to is kept beside them. -/
structure Entry where
  kind : Kind
  data : Text
  session : Nat
  deriving DecidableEq, Repr

/-- `logger`, without the thread, the lock and the directory. -/
structure Logger where
  queue : RingQueue Entry queueSize
  dropped : UInt32
  errors : UInt32
  initialized : Bool
  active : Bool
  quit : Bool

/-- What is under the lock before the writer was ever started. -/
def Logger.initial : Logger where
  queue :=
    { slots := fun _ => { kind := .record, data := [], session := 0 }, head := 0, count := 0 }
  dropped := 0
  errors := 0
  initialized := false
  active := false
  quit := false

/-- The most bytes of a record that is emitted. -/
def emitMax : Nat := 252

/-- The bytes of an entry for a record. -/
def emitted (id : UInt8) (data : Text) : Text := 0xa3 :: 0x95 :: id :: data

/-- Whether `ca_binlog_emit` puts a record of this size into the ring. -/
def Logger.takes (logger : Logger) (size : Nat) : Bool :=
  decide (size ≤ emitMax) && logger.active && decide (logger.queue.count < queueSize - 2)

/-- `ca_binlog_emit`, in the session that the records belong to. -/
def Logger.emit (logger : Logger) (session : Nat) (id : UInt8) (data : Text) : Logger :=
  if emitMax < data.length then logger
  else if logger.active then
    if logger.queue.count < queueSize - 2 then
      { logger with
        queue := logger.queue.enqueue { kind := .record, data := emitted id data, session } }
    else { logger with dropped := logger.dropped + 1 }
  else logger

/-- Whether `ca_binlog_start` starts a session. -/
def Logger.starts (logger : Logger) : Bool :=
  !(!logger.initialized || logger.active || decide (queueSize / 2 ≤ logger.queue.count))

/-- The section of `ca_binlog_start`; its message and parameters are emitted after it. -/
def Logger.start (logger : Logger) (session : Nat) : Logger :=
  if logger.starts then
    { logger with
      queue := logger.queue.enqueue { kind := .start, data := [], session }
      active := true }
  else logger

/-- `ca_binlog_stop`. -/
def Logger.stop (logger : Logger) (session : Nat) : Logger :=
  if logger.active then
    { logger with
      active := false
      queue := logger.queue.enqueue { kind := .stop, data := [], session } }
  else logger

/-- The section of the writer that discards a session it failed in. -/
def Logger.discard (logger : Logger) : Logger :=
  { logger with errors := logger.errors + 1, active := false, queue := logger.queue.clear }

/-! ### The writer -/

/-- What `write_all` does: it writes everything, or fails after some bytes. -/
inductive Written where
  | all
  | failed (count : Nat)
  deriving DecidableEq, Repr

/-- The bytes that reach the file. -/
def Written.reached (written : Written) (text : Text) : Text :=
  match written with
  | .all => text
  | .failed count => text.take count

/-- What `open_log` finds: the directory, the path or the file is refused, or there is a new
file, into which the format table is written. -/
inductive Opening where
  | refused
  | created (written : Written)
  deriving DecidableEq, Repr

/-- A file with the content it has and the session it was opened for. -/
structure LogFile where
  session : Nat
  content : Text
  deriving DecidableEq, Repr

/-- What the calls report during one pass of the writer. -/
structure Pass where
  now : UInt64
  flush : Written
  synced : Bool
  opening : Opening
  deriving DecidableEq, Repr

/-- The size of the `buffer` of the writer. -/
def bufferSize : Nat := 65536

/-- Where the writer is. -/
inductive Phase where
  /-- There is no thread. -/
  | absent
  /-- About to take an entry. -/
  | taking
  /-- With what it took, and whether it is to quit. -/
  | working (taken : Option Entry) (quit : Bool)
  /-- Failed, and about to discard the session. -/
  | failed (quit : Bool)
  | finished
  deriving DecidableEq, Repr

/-- The variables of the writer and the files it closed. The buffer holds the bytes up to `used`. -/
structure Writer where
  phase : Phase
  fd : Option LogFile
  buffer : Text
  flushed : UInt64
  syncedAt : UInt64
  /-- Whether a call of this pass failed. -/
  failure : Bool
  closed : List LogFile
  deriving DecidableEq, Repr

/-- Every log file. -/
def Writer.files (writer : Writer) : List LogFile := writer.closed ++ writer.fd.toList

def lifecycle (taken : Option Entry) : Bool :=
  match taken with
  | some entry => decide (entry.kind ≠ .record)
  | none => false

/-- `entry.length`, of the empty entry when none was taken. -/
def takenLength (taken : Option Entry) : Nat :=
  match taken with
  | some entry => entry.data.length
  | none => 0

/-- Whether the writer empties its buffer. -/
def Writer.flushes (writer : Writer) (taken : Option Entry) (quit : Bool) (now : UInt64) : Bool :=
  decide (writer.buffer ≠ []) && (lifecycle taken || quit ||
    decide (bufferSize < writer.buffer.length + takenLength taken) ||
    decide (250000 ≤ now - writer.flushed))

/-- Write the buffer to the open file. -/
def Writer.flush (writer : Writer) (taken : Option Entry) (quit : Bool) (pass : Pass) : Writer :=
  match writer.fd with
  | some file =>
    if writer.flushes taken quit pass.now then
      { writer with
        fd := some { file with content := file.content ++ pass.flush.reached writer.buffer }
        buffer := []
        flushed := pass.now
        failure := decide (pass.flush ≠ .all) }
    else writer
  | none => writer

/-- `fdatasync` the open file. -/
def Writer.sync (writer : Writer) (taken : Option Entry) (quit : Bool) (pass : Pass) : Writer :=
  if writer.fd.isSome && (quit || lifecycle taken || decide (2000000 ≤ pass.now - writer.syncedAt))
  then { writer with failure := writer.failure || !pass.synced, syncedAt := pass.now }
  else writer

/-- Close the file that is open, if one is. -/
def Writer.shut (writer : Writer) : Writer :=
  { writer with closed := writer.closed ++ writer.fd.toList, fd := none }

/-- `open_log`, for a session. -/
def Writer.openLog (writer : Writer) (session : Nat) (opening : Opening) : Writer :=
  match opening with
  | .refused => { writer with failure := true }
  | .created .all => { writer with fd := some { session, content := formats } }
  | .created (.failed count) =>
    { writer with
      closed := writer.closed ++ [{ session, content := (Written.failed count).reached formats }]
      failure := true }

/-- The end of one session's file and the beginning of another's. -/
def Writer.turn (writer : Writer) (taken : Option Entry) (quit : Bool) (pass : Pass) : Writer :=
  let shut := if lifecycle taken || quit then writer.shut else writer
  match taken with
  | some entry => if entry.kind = .start then shut.openLog entry.session pass.opening else shut
  | none => shut

/-- Copy a record behind the buffer, if a file is open for it. -/
def Writer.append (writer : Writer) (taken : Option Entry) : Writer :=
  match taken with
  | some entry =>
    if entry.kind = .record ∧ writer.fd.isSome then
      { writer with buffer := writer.buffer ++ entry.data }
    else writer
  | none => writer

/-- Where the writer goes from the end of a pass. -/
def nextPhase (quit : Bool) : Phase := if quit then .finished else .taking

/-- The work between the section that takes an entry and the end of the pass or the section that
discards the session. -/
def Writer.work (writer : Writer) (taken : Option Entry) (quit : Bool) (pass : Pass) : Writer :=
  let done := ((Writer.flush { writer with failure := false } taken quit pass).sync taken quit
    pass).turn taken quit pass
  if done.failure then { done.shut with buffer := [], phase := .failed quit }
  else { done.append taken with phase := nextPhase quit }

/-! ### The system -/

/-- Where the control thread is in `ca_binlog_close`. -/
inductive Control where
  | free
  /-- The session is stopped. -/
  | stopped
  /-- Waiting for the writer. -/
  | joining
  deriving DecidableEq, Repr

/-- The threads, how many sessions were started, and the records that were accepted, each with
its session. -/
structure System where
  logger : Logger
  writer : Writer
  control : Control
  sessions : Nat
  accepted : List (Nat × Text)

/-- Before `ca_binlog_init`. -/
def System.initial : System where
  logger := .initial
  writer :=
    { phase := .absent, fd := none, buffer := [], flushed := 0, syncedAt := 0, failure := false,
      closed := [] }
  control := .free
  sessions := 0
  accepted := []

/-- A section under the lock, or the work of the writer between two of them. -/
inductive Event where
  /-- `ca_binlog_init`; whether the memory and the thread could be had, and the time. -/
  | init (memory thread : Bool) (now : UInt64)
  | start
  | stop
  | emit (id : UInt8) (data : Text)
  /-- The next part of `ca_binlog_close`. -/
  | close
  | take
  | work (pass : Pass)
  | discard
  deriving DecidableEq, Repr

def System.session (system : System) : Nat := system.sessions - 1

/-- The new ring and the new writer, which has nothing open. -/
def System.launch (system : System) (now : UInt64) : System :=
  { system with
    logger := { system.logger with
      queue := { Logger.initial.queue with
        head := system.logger.queue.head, count := system.logger.queue.count }
      quit := false
      initialized := true }
    writer := { system.writer with
      phase := .taking, fd := none, buffer := [], flushed := now, syncedAt := now } }

/-- `ca_binlog_init`. -/
def System.init (system : System) (memory thread : Bool) (now : UInt64) : System :=
  if !memory then system
  else if thread then system.launch now
  else { system with logger := { system.logger with quit := false } }

/-- The next part of `ca_binlog_close`: stop the session, tell the writer to quit, and go on when
it is gone. -/
def System.close (system : System) : System :=
  match system.control with
  | .free =>
    if system.logger.initialized then
      { system with logger := system.logger.stop system.session, control := .stopped }
    else system
  | .stopped => { system with logger := { system.logger with quit := true }, control := .joining }
  | .joining =>
    if system.writer.phase = .finished then
      { system with logger := { system.logger with initialized := false }, control := .free }
    else system

/-- The section in which the writer takes an entry. -/
def System.take (system : System) : System :=
  let (taken, queue) := system.logger.queue.dequeue
  { system with
    logger := { system.logger with queue }
    writer := { system.writer with
      phase := .working taken (system.logger.quit && taken.isNone) } }

/-- `ca_binlog_start`. -/
def System.start (system : System) : System :=
  { system with
    logger := system.logger.start system.sessions
    sessions := if system.logger.starts then system.sessions + 1 else system.sessions }

/-- `ca_binlog_stop`. -/
def System.stop (system : System) : System :=
  { system with logger := system.logger.stop system.session }

/-- `ca_binlog_emit`. -/
def System.emit (system : System) (id : UInt8) (data : Text) : System :=
  { system with
    logger := system.logger.emit system.session id data
    accepted :=
      if system.logger.takes data.length then
        system.accepted ++ [(system.session, emitted id data)]
      else system.accepted }

/-- The work of the writer between two sections. -/
def System.work (system : System) (pass : Pass) : System :=
  match system.writer.phase with
  | .working taken quit => { system with writer := system.writer.work taken quit pass }
  | _ => system

/-- The section in which the writer discards the session it failed in. -/
def System.discard (system : System) : System :=
  match system.writer.phase with
  | .failed quit =>
    { system with
      logger := system.logger.discard
      writer := { system.writer with phase := nextPhase quit } }
  | _ => system

/-- One step. What a thread is not about to do leaves everything as it is. -/
def step (system : System) (event : Event) : System :=
  match event with
  | .init memory thread now =>
    if system.control = .free ∧ system.logger.initialized = false then
      system.init memory thread now
    else system
  | .start => if system.control = .free then system.start else system
  | .stop => if system.control = .free then system.stop else system
  | .emit id data => system.emit id data
  | .close => system.close
  | .take => if system.writer.phase = .taking then system.take else system
  | .work pass => system.work pass
  | .discard => system.discard

/-- Any interleaving of steps. -/
def run (events : List Event) : System := events.foldl step .initial

end Binlog
