/-
This file proves the invariant of the log recorder over every interleaving: what each section and
each pass of the writer keeps, and from it what every file, the ring and the sessions keep.
-/

import CameraGimbal.BinlogSessions

namespace Binlog

open CText List Option RingQueue

/-! ### The invariant -/

/-- What the writer has taken and not yet worked on. -/
def Phase.taken (phase : Phase) : Option Entry :=
  match phase with
  | .working taken _ => taken
  | _ => none

/-- Whether there is no writer thread that goes on. -/
def Phase.gone (phase : Phase) : Bool :=
  match phase with
  | .absent | .finished => true
  | _ => false

/-- The entries that were queued and not yet worked on. -/
def System.pending (system : System) : List Entry :=
  system.writer.phase.taken.toList ++ system.logger.queue.contents

/-- The session that goes on, if logging is active. -/
def System.current (system : System) : Option Nat :=
  if system.logger.active then some system.session else none

/-- The invariant of every interleaving. -/
structure Sound (system : System) : Prop where
  room : system.logger.queue.count < queueSize
  activeRoom : system.logger.active = true → system.logger.queue.count + 1 < queueSize
  known : system.logger.active = true → system.session < system.sessions
  recording : Recording system.accepted system.sessions system.writer system.pending system.current
  closing : system.control ≠ .free → system.logger.active = false
  quitting : system.logger.quit = true →
    system.logger.active = false ∧ (system.control = .joining ∨ system.logger.initialized = false)
  leaving : ∀ taken, system.writer.phase = .working taken true →
    taken = none ∧ system.logger.queue.count = 0 ∧ system.logger.quit = true
  failing : system.writer.phase = .failed true → system.logger.quit = true
  gone : system.writer.phase.gone = true →
    system.writer.fd = none ∧ system.logger.queue.count = 0 ∧ system.logger.active = false ∧
      (system.control ≠ .free ∨ system.logger.initialized = false)
  absent : system.logger.initialized = false → system.writer.phase.gone = true

theorem Sound.initial : Sound .initial where
  room := by decide
  activeRoom := nofun
  known := nofun
  recording :=
    { short := nofun
      numbered := nofun
      ordered := .nil
      bounded := nofun
      buffered := Nat.zero_le _
      closed := nofun
      opened := nofun
      idle := fun _ => rfl
      failing := fun _ => rfl
      follows := fun _ => rfl }
  closing := fun busy => absurd rfl busy
  quitting := nofun
  leaving := nofun
  failing := nofun
  gone := fun _ => ⟨rfl, rfl, rfl, .inr rfl⟩
  absent := fun _ => rfl

/-! ### The sections -/

theorem Logger.stop_of_inactive {logger : Logger} (inactive : logger.active = false)
    (session : Nat) : logger.stop session = logger := by
  rw [stop, if_neg (by simp [inactive])]

theorem Logger.stop_of_active {logger : Logger} (active : logger.active = true) (session : Nat) :
    logger.stop session =
      { logger with
        active := false
        queue := logger.queue.enqueue { kind := .stop, data := [], session } } := if_pos active

theorem Logger.starts_iff (logger : Logger) :
    logger.starts = true ↔ logger.initialized = true ∧ logger.active = false ∧
      logger.queue.count < queueSize / 2 := by
  simp [Logger.starts, and_assoc]

theorem Logger.emit_cases (logger : Logger) (session : Nat) (id : UInt8) (data : Text) :
    (logger.takes data.length = true ∧ logger.active = true ∧
      logger.queue.count < queueSize - 2 ∧ data.length ≤ emitMax ∧
      logger.emit session id data =
        { logger with
          queue := logger.queue.enqueue
            { kind := .record, data := emitted id data, session } }) ∨
    (logger.takes data.length = false ∧
      ∃ dropped, logger.emit session id data = { logger with dropped }) := by
  by_cases large : emitMax < data.length
  · refine .inr ⟨?_, logger.dropped, if_pos large⟩
    simp [takes, Nat.not_le_of_lt large]
  · have small : data.length ≤ emitMax := Nat.le_of_not_lt large
    unfold emit
    rw [if_neg large]
    by_cases active : logger.active = true
    · rw [if_pos active]
      by_cases room : logger.queue.count < queueSize - 2
      · exact .inl ⟨by simp [takes, small, active, room], active, room, small, if_pos room⟩
      · exact .inr ⟨by simp [takes, room], _, if_neg room⟩
    · rw [if_neg active]
      exact .inr ⟨by simp [takes, active], logger.dropped, rfl⟩

variable {system : System}

open Binlog.System

theorem System.pending_enqueue {logger : Logger} {entry : Entry}
    (room : system.logger.queue.count < queueSize)
    (queue : logger.queue = system.logger.queue.enqueue entry) :
    pending { system with logger } = system.pending ++ [entry] := by
  show system.writer.phase.taken.toList ++ logger.queue.contents = _
  rw [queue, contents_enqueue _ _ room, ← append_assoc]
  rfl

variable {system : System}

theorem System.current_of_active (active : system.logger.active = true) :
    system.current = some system.session := if_pos active

theorem System.current_of_inactive (inactive : system.logger.active = false) :
    system.current = none := by
  rw [current, inactive]
  rfl

theorem Sound.stop (sound : Sound system) : Sound system.stop := by
  unfold System.stop
  cases active : system.logger.active with
  | false =>
    rw [Logger.stop_of_inactive active]
    exact sound
  | true =>
    rw [Logger.stop_of_active active]
    have recording := sound.recording
    rw [System.current_of_active active] at recording
    refine { sound with
      room := sound.activeRoom active
      activeRoom := nofun
      known := nofun
      recording := ?_
      closing := fun _ => rfl
      quitting := fun quit => ⟨rfl, (sound.quitting quit).2⟩
      leaving := fun taken working => ?_
      gone := fun isGone => ?_ }
    · rw [System.pending_enqueue sound.room rfl]
      exact recording.stop
    · have inactive := (sound.quitting (sound.leaving taken working).2.2).1
      rw [active] at inactive
      cases inactive
    · have inactive := (sound.gone isGone).2.2.1
      rw [active] at inactive
      cases inactive

theorem Sound.start (sound : Sound system) (free : system.control = .free)
    (starts : system.logger.starts = true) : Sound system.start := by
  obtain ⟨initialized, inactive, half⟩ := system.logger.starts_iff.mp starts
  have started : system.logger.start system.sessions =
      { system.logger with
        queue := system.logger.queue.enqueue
          { kind := .start, data := [], session := system.sessions }
        active := true } := if_pos starts
  unfold System.start
  rw [started, if_pos starts]
  have recording := sound.recording
  rw [System.current_of_inactive inactive] at recording
  have notGone : system.writer.phase.gone ≠ true := by
    intro isGone
    rcases (sound.gone isGone).2.2.2 with busy | uninitialized
    · exact busy free
    · rw [initialized] at uninitialized
      cases uninitialized
  have notQuitting : system.logger.quit ≠ true := by
    intro quit
    rcases (sound.quitting quit).2 with joining | uninitialized
    · rw [free] at joining
      cases joining
    · rw [initialized] at uninitialized
      cases uninitialized
  refine { sound with
    room := ?_
    activeRoom := fun _ => ?_
    known := fun _ => Nat.lt_succ_self _
    recording := ?_
    closing := fun busy => absurd free busy
    quitting := fun quit => absurd quit notQuitting
    leaving := fun taken working => absurd (sound.leaving taken working).2.2 notQuitting
    gone := fun isGone => absurd isGone notGone }
  · show system.logger.queue.count + 1 < queueSize
    exact lt_of_lt_of_le (Nat.succ_lt_succ half) (by decide)
  · show system.logger.queue.count + 1 + 1 < queueSize
    exact lt_of_lt_of_le (Nat.succ_lt_succ (Nat.succ_lt_succ half)) (by decide)
  · have pending := @System.pending_enqueue system { system.logger with
      queue := system.logger.queue.enqueue
        { kind := .start, data := [], session := system.sessions }
      active := true } _ sound.room rfl
    show Recording _ _ _ (System.pending _) (some system.sessions)
    exact pending ▸ recording.start

theorem Sound.emit (sound : Sound system) (id : UInt8) (data : Text) :
    Sound (system.emit id data) := by
  unfold System.emit
  rcases system.logger.emit_cases system.session id data with
    ⟨takes, active, room, small, emitted⟩ | ⟨refused, dropped, emitted⟩
  · rw [emitted, if_pos takes]
    have recording := sound.recording
    rw [System.current_of_active active] at recording
    refine { sound with
      room := ?_
      activeRoom := fun _ => ?_
      recording := ?_
      leaving := fun taken working => ?_
      gone := fun isGone => ?_ }
    · show system.logger.queue.count + 1 < queueSize
      exact lt_of_lt_of_le (Nat.succ_lt_succ room) (by decide)
    · show system.logger.queue.count + 2 < queueSize
      exact Nat.add_lt_of_lt_sub room
    · have pending := @System.pending_enqueue system { system.logger with
        queue := system.logger.queue.enqueue
          { kind := .record, data := Binlog.emitted id data, session := system.session } }
        _ sound.room rfl
      show Recording _ _ _ (System.pending _) (System.current _)
      rw [System.current_of_active (by exact active)]
      exact pending ▸ recording.record (sound.known active) (Nat.add_le_add_right small 3)
    · have inactive := (sound.quitting (sound.leaving taken working).2.2).1
      rw [active] at inactive
      cases inactive
    · have inactive := (sound.gone isGone).2.2.1
      rw [active] at inactive
      cases inactive
  · rw [emitted, refused, if_neg Bool.false_ne_true]
    exact { sound with }

theorem Phase.gone_cases {phase : Phase} (isGone : phase.gone = true) :
    phase = .absent ∨ phase = .finished := by
  cases phase with
  | absent => exact .inl rfl
  | finished => exact .inr rfl
  | _ => cases isGone

theorem Sound.of_gone (sound : Sound system) (isGone : system.writer.phase.gone = true) :
    system.writer.fd = none ∧ system.pending = [] ∧ system.writer.phase.failing = false := by
  obtain ⟨noFile, empty, -⟩ := sound.gone isGone
  have noEntries := contents_of_count empty
  unfold pending
  rw [noEntries]
  rcases Phase.gone_cases isGone with absent | finished
  · rw [absent]
    exact ⟨noFile, rfl, rfl⟩
  · rw [finished]
    exact ⟨noFile, rfl, rfl⟩

theorem Sound.launch (sound : Sound system) (absent : system.logger.initialized = false)
    (now : UInt64) : Sound (system.launch now) := by
  have isGone := sound.absent absent
  obtain ⟨noFile, nothing, calm⟩ := sound.of_gone isGone
  have recording := sound.recording
  rw [nothing] at recording
  have follows := recording.follows calm
  rw [noFile] at follows
  have closed : system.writer.files = system.writer.closed := by
    simp [Writer.files, noFile]
  have pending : (system.launch now).pending = [] := by
    show [] ++ contents _ = []
    rw [nil_append]
    exact contents_of_count (sound.gone isGone).2.1
  refine
    { room := sound.room
      activeRoom := sound.activeRoom
      known := sound.known
      recording := ?_
      closing := sound.closing
      quitting := fun quits => by cases quits
      leaving := fun _ works => by cases works
      failing := fun fails => by cases fails
      gone := fun gone => by cases gone
      absent := fun absent => absurd absent.symm Bool.false_ne_true }
  rw [pending]
  refine recording.later suffix_rfl ?_ (Nat.zero_le _) recording.closed
    (fun _ isOpen => by cases isOpen) (fun _ => rfl)
    (fun fails => by cases fails) fun _ => follows
  show ((system.writer.closed ++ []).map LogFile.session ++ _).Sublist _
  rw [closed, append_nil]

theorem Sound.init (sound : Sound system) (absent : system.logger.initialized = false)
    (memory thread : Bool) (now : UInt64) : Sound (system.init memory thread now) := by
  unfold System.init
  cases memory with
  | false => exact sound
  | true =>
    cases thread with
    | true => exact sound.launch absent now
    | false =>
      refine { sound with quitting := nofun, leaving := ?_, failing := ?_ }
      · intro taken working
        rcases Phase.gone_cases (sound.absent absent) with same | same <;>
          exact absurd (same.symm.trans working) nofun
      · intro failed
        rcases Phase.gone_cases (sound.absent absent) with same | same <;>
          exact absurd (same.symm.trans failed) nofun

theorem Sound.close (sound : Sound system) : Sound system.close := by
  unfold System.close
  cases control : system.control with
  | free =>
    by_cases initialized : system.logger.initialized = true
    · rw [if_pos initialized]
      have stopped := sound.stop
      have inactive : (system.logger.stop system.session).active = false := by
        cases active : system.logger.active with
        | false => rw [Logger.stop_of_inactive active, active]
        | true => rw [Logger.stop_of_active active]
      refine { stopped with
        closing := fun _ => inactive
        quitting := fun quit => ⟨inactive, .inr ?_⟩
        gone := fun isGone => ?_ }
      · rcases (stopped.quitting quit).2 with joining | uninitialized
        · exact absurd (control.symm.trans joining) nofun
        · exact uninitialized
      · obtain ⟨noFile, empty, -, ended⟩ := stopped.gone isGone
        exact ⟨noFile, empty, inactive, ended.imp_left fun _ => nofun⟩
    · rw [if_neg initialized]
      exact sound
  | stopped =>
    have inactive : system.logger.active = false :=
      sound.closing (fun free => absurd (control.symm.trans free) nofun)
    refine { sound with
      closing := fun _ => inactive
      quitting := fun _ => ⟨inactive, .inl rfl⟩
      leaving := fun taken working => ⟨(sound.leaving taken working).1,
        (sound.leaving taken working).2.1, rfl⟩
      failing := fun _ => rfl
      gone := fun isGone => ?_ }
    obtain ⟨noFile, empty, -, -⟩ := sound.gone isGone
    exact ⟨noFile, empty, inactive, .inl nofun⟩
  | joining =>
    by_cases finished : system.writer.phase = .finished
    · rw [if_pos finished]
      have isGone : system.writer.phase.gone = true := by rw [finished]; rfl
      have inactive : system.logger.active = false :=
        sound.closing (fun free => absurd (control.symm.trans free) nofun)
      obtain ⟨noFile, empty, -, -⟩ := sound.gone isGone
      exact { sound with
        closing := fun busy => absurd rfl busy
        quitting := fun _ => ⟨inactive, .inr rfl⟩
        gone := fun _ => ⟨noFile, empty, inactive, .inr rfl⟩
        absent := fun _ => isGone }
    · rw [if_neg finished]
      exact sound

/-! ### The writer -/

theorem System.pending_take (taking : system.writer.phase = .taking) :
    system.take.pending = system.pending := by
  show system.logger.queue.dequeue.1.toList ++ system.logger.queue.dequeue.2.contents =
    system.writer.phase.taken.toList ++ _
  rw [contents_dequeue, taking]
  rfl

theorem Sound.take (sound : Sound system)
    (taking : system.writer.phase = .taking) : Sound system.take := by
  have pending := pending_take taking
  have count : system.logger.queue.dequeue.2.count = system.logger.queue.count - 1 :=
    dequeue_count _
  have recording := sound.recording
  refine
    { room := ?_
      activeRoom := fun active => ?_
      known := sound.known
      recording := ?_
      closing := sound.closing
      quitting := sound.quitting
      leaving := ?_
      failing := nofun
      gone := nofun
      absent := fun uninitialized => ?_ }
  · exact lt_of_le_of_lt (count ▸ Nat.sub_le _ _) sound.room
  · exact lt_of_le_of_lt (Nat.succ_le_succ (count ▸ Nat.sub_le _ _)) (sound.activeRoom active)
  · rw [pending]
    exact { recording with
      failing := nofun
      follows := fun _ => recording.follows (by rw [taking]; rfl) }
  · intro taken working
    injection working with isTaken leaves
    obtain ⟨quit, nothing⟩ := Bool.and_eq_true_iff.mp leaves
    have none : system.logger.queue.dequeue.1 = none := isNone_iff_eq_none.mp nothing
    have empty := dequeue_eq_none none
    refine ⟨isTaken.symm.trans none, ?_, quit⟩
    show system.logger.queue.dequeue.2.count = 0
    rw [count, empty]
  · have isGone := sound.absent uninitialized
    rw [taking] at isGone
    cases isGone

theorem Writer.work_phase (writer : Writer) (taken : Option Entry) (quit : Bool) (pass : Pass) :
    (writer.work taken quit pass).phase = .failed quit ∨
      (writer.work taken quit pass).phase = nextPhase quit := by
  rw [Writer.work_of_turn rfl]
  split
  · exact .inl rfl
  · exact .inr rfl

theorem Sound.work (sound : Sound system) (pass : Pass) : Sound (system.work pass) := by
  unfold System.work
  split
  · rename_i taken quit working
    have calm : system.writer.phase.failing = false := by rw [working]; rfl
    have initialized : system.logger.initialized ≠ false := fun uninitialized => by
      have isGone := sound.absent uninitialized
      rw [working] at isGone
      cases isGone
    have recording := sound.recording
    have pending : system.pending = taken.toList ++ system.logger.queue.contents := by
      rw [System.pending, working]
      rfl
    rw [pending] at recording
    have leaving : quit = true → taken = none ∧ system.logger.queue.count = 0 ∧
        system.logger.quit = true := by
      intro leaves
      rw [leaves] at working
      exact sound.leaving taken working
    have worked := recording.work calm (fun leaves =>
      ⟨(leaving leaves).1, contents_of_count (leaving leaves).2.1,
        System.current_of_inactive (sound.quitting (leaving leaves).2.2).1⟩) pass
    have next := system.writer.work_phase taken quit pass
    have noneTaken : (system.writer.work taken quit pass).phase.taken = none := by
      rcases next with failed | went
      · rw [failed]
        rfl
      · rw [went]
        cases quit <;> rfl
    refine
      { room := sound.room
        activeRoom := sound.activeRoom
        known := sound.known
        recording := ?_
        closing := sound.closing
        quitting := sound.quitting
        leaving := ?_
        failing := ?_
        gone := ?_
        absent := fun uninitialized => absurd uninitialized initialized }
    · show Recording _ _ _ (toList (Phase.taken _) ++ _) _
      rw [noneTaken]
      exact worked
    · intro other isWorking
      rcases next with failed | went
      · exact absurd (failed.symm.trans isWorking) nofun
      · cases quit with
        | false => exact absurd (went.symm.trans isWorking) nofun
        | true => exact absurd (went.symm.trans isWorking) nofun
    · intro failed
      rcases next with failedQuit | went
      · have leaves : quit = true := by
          have same := failedQuit.symm.trans failed
          injection same
        exact (leaving leaves).2.2
      · cases quit with
        | false => exact absurd (went.symm.trans failed) nofun
        | true => exact absurd (went.symm.trans failed) nofun
    · intro isGone
      have leaves : quit = true := by
        rcases next with failed | went
        · have notGone := congrArg Phase.gone failed
          exact absurd (notGone.symm.trans isGone) nofun
        · cases quit with
          | true => rfl
          | false =>
            have notGone := congrArg Phase.gone went
            exact absurd (notGone.symm.trans isGone) nofun
      obtain ⟨nothing, empty, quitting⟩ := leaving leaves
      obtain ⟨inactive, ended⟩ := sound.quitting quitting
      have finished : (system.writer.work taken quit pass).phase.failing = false := by
        rcases Phase.gone_cases isGone with same | same <;> rw [same] <;> rfl
      have noFile := worked.follows finished
      rw [contents_of_count empty, System.current_of_inactive inactive] at noFile
      refine ⟨map_eq_none_iff.mp noFile, empty, inactive, ?_⟩
      exact ended.imp_left fun joining free => absurd (joining.symm.trans free) nofun
  · exact sound

theorem Sound.discard (sound : Sound system) : Sound system.discard := by
  unfold System.discard
  split
  · rename_i quit failed
    have noFile := sound.recording.failing (by rw [failed]; rfl)
    have initialized : system.logger.initialized ≠ false := fun uninitialized => by
      have isGone := sound.absent uninitialized
      rw [failed] at isGone
      cases isGone
    have noneTaken : (nextPhase quit).taken = none := by cases quit <;> rfl
    refine
      { room := Nat.succ_pos _
        activeRoom := nofun
        known := nofun
        recording := ?_
        closing := fun _ => rfl
        quitting := fun quitting => ⟨rfl, (sound.quitting quitting).2⟩
        leaving := ?_
        failing := ?_
        gone := ?_
        absent := fun uninitialized => absurd uninitialized initialized }
    · show Recording _ _ _ (toList (nextPhase quit).taken ++ contents _) _
      rw [noneTaken]
      show Recording _ _ _ ([] ++ (clear _).contents) _
      rw [contents_clear]
      refine sound.recording.later (nil_suffix) ?_ sound.recording.buffered
        sound.recording.closed ?_ sound.recording.idle (fun _ => noFile) ?_
      · exact (Sublist.refl _).append (nil_sublist _)
      · intro file isOpen
        exact absurd (noFile.symm.trans isOpen) nofun
      · intro _
        rw [noFile]
        rfl
    · intro taken working
      cases quit <;> cases working
    · intro isFailed
      cases quit <;> cases isFailed
    · intro isGone
      have leaves : quit = true := by
        cases quit with
        | true => rfl
        | false => cases isGone
      rw [leaves] at failed
      have ended := (sound.quitting (sound.failing failed)).2
      refine ⟨noFile, rfl, rfl, ?_⟩
      exact ended.imp_left fun joining free => absurd (joining.symm.trans free) nofun
  · exact sound

theorem Sound.guarded {next : System} (sound : Sound system) {ready : Prop} [Decidable ready]
    (steps : ready → Sound next) : Sound (if ready then next else system) := by
  by_cases isReady : ready
  · rw [if_pos isReady]
    exact steps isReady
  · rw [if_neg isReady]
    exact sound

theorem Sound.step (sound : Sound system) (event : Event) : Sound (step system event) := by
  cases event with
  | init memory thread now => exact sound.guarded fun ready => sound.init ready.2 memory thread now
  | start =>
    refine sound.guarded fun free => ?_
    cases starts : system.logger.starts with
    | true => exact sound.start free starts
    | false =>
      have refused : system.start = system := by
        simp [System.start, Logger.start, starts]
      rw [refused]
      exact sound
  | stop => exact sound.guarded fun _ => sound.stop
  | emit id data => exact sound.emit id data
  | close => exact sound.close
  | take => exact sound.guarded sound.take
  | work pass => exact sound.work pass
  | discard => exact sound.discard

theorem sound_run (events : List Event) : Sound (run events) :=
  foldlRecOn events Binlog.step Sound.initial fun _ sound event _ => sound.step event

/-! ### What is kept -/

/-- What the log recorder keeps in every state. -/
structure Keeps (system : System) : Prop where
  /-- The ring never overflows. -/
  room : system.logger.queue.count ≤ queueSize
  /-- A file is a prefix of the format table and the records of its session. -/
  files : ∀ file ∈ system.writer.files,
    file.content <+: formats ++ recordsOf system.accepted file.session
  /-- No session has two files. -/
  sessions : (system.writer.files.map LogFile.session).Nodup
  buffer : system.writer.buffer.length ≤ bufferSize
  /-- While logging is active, the file of the session is open, its start waits or is worked on,
  or the writer failed and has yet to discard the session. -/
  active : system.logger.active = true →
    (∃ file, system.writer.fd = some file ∧ file.session = system.session) ∨
      system.session ∈ startsOf system.pending ∨ system.writer.phase.failing = true

theorem Sound.keeps (sound : Sound system) : Keeps system where
  room := sound.room.le
  files := by
    intro file member
    rcases mem_append.mp member with closed | opened
    · exact sound.recording.closed file closed
    · have isOpen : system.writer.fd = some file := mem_toList.mp opened
      rw [← sound.recording.opened file isOpen, append_assoc]
      exact prefix_append _ _
  sessions := (pairwise_append.mp sound.recording.ordered).1.imp Nat.ne_of_lt
  buffer := sound.recording.buffered
  active := by
    intro active
    cases failing : system.writer.phase.failing with
    | true => exact .inr (.inr rfl)
    | false =>
      have follows := sound.recording.follows failing
      rw [current_of_active active] at follows
      rcases follows.current with opened | waits
      · obtain ⟨file, isOpen, session⟩ := map_eq_some_iff.mp opened
        exact .inl ⟨file, isOpen, session⟩
      · exact .inr (.inl waits)

/-- What one step does to the entries that wait. -/
structure Serves (before : System) (event : Event) (after : System) : Prop where
  /-- What is queued comes behind what waits and overwrites none of it. -/
  queued : event ≠ .take → event ≠ .discard → ∃ added : List Entry, added.length ≤ 1 ∧
    after.logger.queue.contents = before.logger.queue.contents ++ added
  /-- The writer takes the oldest. -/
  taken : event = .take → after.pending = before.pending
  /-- Only the writer that failed discards what waits. -/
  discarded : event = .discard → after.logger.queue.contents = before.logger.queue.contents ∨
    before.writer.phase.failing = true ∧ after.logger.queue.contents = []
  /-- A stop is never refused. -/
  stopped : event = .stop ∨ event = .close → before.control = .free →
    before.logger.active = true →
      after.logger.queue.contents = before.logger.queue.contents ++
        [{ kind := .stop, data := [], session := before.session }]
  /-- A start is refused only while the ring is half full. -/
  started : event = .start → before.control = .free → before.logger.initialized = true →
    before.logger.active = false →
      if before.logger.queue.count < queueSize / 2 then
        after.logger.active = true ∧ after.session = before.sessions ∧
          after.logger.queue.contents = before.logger.queue.contents ++
            [{ kind := .start, data := [], session := before.sessions }]
      else after = before

theorem Sound.contents_stop (sound : Sound system) (active : system.logger.active = true) :
    (system.logger.stop system.session).queue.contents = system.logger.queue.contents ++
      [{ kind := .stop, data := [], session := system.session }] := by
  rw [Logger.stop_of_active active]
  exact contents_enqueue _ _ sound.room

theorem Sound.added_stop (sound : Sound system) :
    ∃ added : List Entry, added.length ≤ 1 ∧
      (system.logger.stop system.session).queue.contents =
        system.logger.queue.contents ++ added := by
  cases active : system.logger.active with
  | true => exact ⟨_, le_rfl, sound.contents_stop active⟩
  | false =>
    rw [Logger.stop_of_inactive active]
    exact ⟨[], Nat.zero_le _, (append_nil _).symm⟩

theorem Sound.contents_start (sound : Sound system) (starts : system.logger.starts = true) :
    system.start.logger.queue.contents = system.logger.queue.contents ++
      [{ kind := .start, data := [], session := system.sessions }] := by
  show (system.logger.start system.sessions).queue.contents = _
  rw [Logger.start, if_pos starts]
  exact contents_enqueue _ _ sound.room

theorem Logger.start_refused (refused : system.logger.starts = false) : system.start = system := by
  simp [System.start, Logger.start, refused]

theorem step_start (free : system.control = .free) :
    step system .start = system.start := if_pos free

theorem step_stop (free : system.control = .free) : step system .stop = system.stop := if_pos free

theorem Sound.initialized_of_active (sound : Sound system) (active : system.logger.active = true) :
    system.logger.initialized = true := by
  cases initialized : system.logger.initialized with
  | true => rfl
  | false =>
    have inactive := (sound.gone (sound.absent initialized)).2.2.1
    exact absurd (active.symm.trans inactive) nofun

theorem added_guarded {system next : System} {ready : Prop} [Decidable ready]
    (added : ready → ∃ added : List Entry, added.length ≤ 1 ∧
      next.logger.queue.contents = system.logger.queue.contents ++ added) :
    ∃ added : List Entry, added.length ≤ 1 ∧
      (if ready then next else system).logger.queue.contents =
        system.logger.queue.contents ++ added := by
  by_cases isReady : ready
  · rw [if_pos isReady]
    exact added isReady
  · rw [if_neg isReady]
    exact ⟨[], Nat.zero_le _, (append_nil _).symm⟩

theorem Sound.added_close (sound : Sound system) :
    ∃ added : List Entry, added.length ≤ 1 ∧
      system.close.logger.queue.contents = system.logger.queue.contents ++ added := by
  unfold System.close
  cases system.control with
  | free =>
    exact @added_guarded system { system with
      logger := system.logger.stop system.session, control := .stopped } _ _
      fun _ => sound.added_stop
  | stopped => exact ⟨[], Nat.zero_le _, (append_nil _).symm⟩
  | joining =>
    exact @added_guarded system { system with
      logger := { system.logger with initialized := false }, control := .free } _ _
      fun _ => ⟨[], Nat.zero_le _, (append_nil _).symm⟩

theorem Sound.queued (sound : Sound system) {event : Event} (notTake : event ≠ .take)
    (notDiscard : event ≠ .discard) :
    ∃ added : List Entry, added.length ≤ 1 ∧
      (Binlog.step system event).logger.queue.contents = system.logger.queue.contents ++ added := by
  have unchanged : ∃ added : List Entry, added.length ≤ 1 ∧
      system.logger.queue.contents = system.logger.queue.contents ++ added :=
    ⟨[], Nat.zero_le _, (append_nil _).symm⟩
  cases event with
  | init memory thread now =>
    refine added_guarded fun ready => ?_
    unfold System.init
    cases memory with
    | false => exact unchanged
    | true =>
      cases thread with
      | false => exact unchanged
      | true =>
        have empty := (sound.gone (sound.absent ready.2)).2.1
        refine ⟨[], Nat.zero_le _, ?_⟩
        rw [contents_of_count empty]
        exact contents_of_count empty
  | start =>
    refine added_guarded fun _ => ?_
    cases starts : system.logger.starts with
    | true => exact ⟨_, le_rfl, sound.contents_start starts⟩
    | false =>
      rw [Logger.start_refused starts]
      exact unchanged
  | stop => exact added_guarded fun _ => sound.added_stop
  | emit id data =>
    rcases system.logger.emit_cases system.session id data with
      ⟨-, -, -, -, emitted⟩ | ⟨-, dropped, emitted⟩
    · refine ⟨[{ kind := .record, data := Binlog.emitted id data, session := system.session }],
        le_rfl, ?_⟩
      show (system.logger.emit system.session id data).queue.contents = _
      rw [emitted]
      exact contents_enqueue _ _ sound.room
    · refine ⟨[], Nat.zero_le _, ?_⟩
      show (system.logger.emit system.session id data).queue.contents = _
      rw [emitted, append_nil]
  | close => exact sound.added_close
  | work pass =>
    show ∃ added : List Entry, added.length ≤ 1 ∧
      (system.work pass).logger.queue.contents = system.logger.queue.contents ++ added
    unfold System.work
    split
    · exact unchanged
    · exact unchanged
  | take => exact absurd rfl notTake
  | discard => exact absurd rfl notDiscard

theorem Sound.serves (sound : Sound system) (event : Event) :
    Serves system event (Binlog.step system event) where
  queued := sound.queued
  taken := by
    intro isTake
    rw [isTake]
    show System.pending (if system.writer.phase = .taking then system.take else system) = _
    by_cases taking : system.writer.phase = .taking
    · rw [if_pos taking]
      exact System.pending_take taking
    · rw [if_neg taking]
  discarded := by
    intro isDiscard
    rw [isDiscard]
    show system.discard.logger.queue.contents = _ ∨ _ ∧ system.discard.logger.queue.contents = []
    unfold System.discard
    split
    · rename_i quit failed
      exact .inr ⟨by rw [failed]; rfl, contents_clear _⟩
    · exact .inl rfl
  stopped := by
    intro isStop free active
    rcases isStop with isStop | isClose
    · rw [isStop]
      rw [step_stop free]
      exact sound.contents_stop active
    · rw [isClose]
      show system.close.logger.queue.contents = _
      unfold System.close
      rw [free, if_pos (sound.initialized_of_active active)]
      exact sound.contents_stop active
  started := by
    intro isStart free initialized inactive
    rw [isStart, step_start free]
    by_cases room : system.logger.queue.count < queueSize / 2
    · have starts := system.logger.starts_iff.mpr ⟨initialized, inactive, room⟩
      rw [if_pos room]
      refine ⟨?_, ?_, sound.contents_start starts⟩
      · show (system.logger.start system.sessions).active = true
        rw [Logger.start, if_pos starts]
      · show (if system.logger.starts then _ else _) - 1 = _
        rw [if_pos starts, Nat.add_sub_cancel]
    · rw [if_neg room]
      apply Logger.start_refused
      rw [← Bool.not_eq_true, Logger.starts_iff]
      exact fun both => room both.2.2

/-- In every interleaving, with every pattern of failures, the recorder keeps what it holds. -/
theorem run_keeps (events : List Event) :
    Keeps (run events) ∧ ∀ event, Serves (run events) event (step (run events) event) :=
  ⟨(sound_run events).keeps, (sound_run events).serves⟩

/-! ### What is not kept -/

/-- Records fill the ring as long as there is room. -/
theorem emits (active : system.logger.active = true) {count : Nat}
    (room : system.logger.queue.count + count ≤ queueSize - 2) :
    ((replicate count (.emit 0 [])).foldl step system).logger.active = true ∧
      ((replicate count (.emit 0 [])).foldl step system).logger.queue.count =
        system.logger.queue.count + count ∧
      ((replicate count (.emit 0 [])).foldl step system).logger.initialized =
        system.logger.initialized ∧
      ((replicate count (.emit 0 [])).foldl step system).control = system.control := by
  induction count generalizing system with
  | zero => exact ⟨active, rfl, rfl, rfl⟩
  | succ count hypothesis =>
    have below : system.logger.queue.count < queueSize - 2 := by omega
    have emitted : (step system (.emit 0 [])).logger =
        { system.logger with
          queue := system.logger.queue.enqueue
            { kind := .record, data := emitted 0 [], session := system.session } } := by
      show system.logger.emit system.session 0 [] = _
      rw [Logger.emit, if_neg (by decide), if_pos active, if_pos below]
    rw [replicate_succ, foldl_cons]
    have next := @hypothesis (step system (.emit 0 []))
      (by rw [emitted]; exact active)
      (by rw [emitted]; show system.logger.queue.count + 1 + count ≤ _; omega)
    rw [emitted] at next
    obtain ⟨stays, grows, initialized, control⟩ := next
    refine ⟨stays, grows.trans ?_, initialized, control⟩
    show system.logger.queue.count + 1 + count = _
    omega

/-- A session that ends before the writer takes any of its records. -/
def waiting (records : Nat) : List Event :=
  [.init true true 0, .start] ++ List.replicate records (.emit 0 []) ++ [.stop]

/-- A session whose file is created but takes no byte of the format table. -/
def torn : List Event :=
  [.init true true 0, .start, .take,
    .work { now := 0, flush := .all, synced := true, opening := .created (.failed 0) }]

theorem run_waiting {records : Nat} (room : 1 + records ≤ queueSize - 2) :
    (run (waiting records)).control = .free ∧
      (run (waiting records)).logger.initialized = true ∧
      (run (waiting records)).logger.active = false ∧
      (run (waiting records)).logger.queue.count = 1 + records + 1 := by
  obtain ⟨active, count, initialized, control⟩ :=
    @emits (run [.init true true 0, .start]) rfl _ room
  have stopped : run (waiting records) = step ((replicate records (.emit 0 [])).foldl step
      (run [.init true true 0, .start])) .stop := by
    simp only [run, waiting, foldl_append, foldl_cons, foldl_nil]
  generalize (replicate records (Event.emit 0 [])).foldl step
    (run [.init true true 0, .start]) = system at active count initialized control stopped
  have free : system.control = .free := control
  rw [stopped, step_stop free, stop, Logger.stop_of_active active]
  exact ⟨free, initialized, rfl, congrArg (· + 1) count⟩

/-- A start is refused while half of the ring waits; a file keeps a part of the format table when
its writing fails; and logging is then active with neither a file nor a start. -/
theorem not_kept :
    ((run (waiting 2047)).control = .free ∧ (run (waiting 2047)).logger.initialized = true ∧
      (run (waiting 2047)).logger.active = false ∧
      step (run (waiting 2047)) .start = run (waiting 2047)) ∧
    (∃ file ∈ (run torn).writer.files, ¬ formats <+: file.content) ∧
    (run torn).logger.active = true ∧ (run torn).writer.fd = none ∧ (run torn).pending = [] := by
  obtain ⟨free, initialized, inactive, count⟩ := @run_waiting 2047 (by decide)
  refine ⟨⟨free, initialized, inactive, ?_⟩, ?_, rfl, rfl, rfl⟩
  · rw [step_start free]
    apply Logger.start_refused
    rw [← Bool.not_eq_true, Logger.starts_iff]
    intro both
    exact absurd both.2.2 (by rw [count]; decide)
  · refine ⟨{ session := 0, content := [] }, List.mem_singleton.mpr rfl, fun begins => ?_⟩
    exact absurd (List.prefix_nil.mp begins) (by decide)

end Binlog
