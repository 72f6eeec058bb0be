/-
This file proves what a DataFlash log keeps, over every interleaving of the threads and every
failure of the file system: the ring never overflows, and every file is a prefix of the format
table and the records that were accepted in its session.

The invariant reads the entries that wait, together with the one the writer has taken, as a
sequence that leads from the session whose file is open to the session that goes on.
-/

import CameraGimbal.Binlog

namespace Binlog

open CText List Option Writer

/-! ### What waits -/

/-- The records accepted in a session, one behind the other. -/
def recordsOf (accepted : List (Nat × Text)) (session : Nat) : Text :=
  accepted.flatMap fun record => if record.1 = session then record.2 else []

/-- The records of a session among the entries that wait. -/
def queuedOf (entries : List Entry) (session : Nat) : Text :=
  entries.flatMap fun entry =>
    if entry.kind = .record ∧ entry.session = session then entry.data else []

/-- The sessions whose start waits. -/
def startsOf (entries : List Entry) : List Nat :=
  (entries.filter fun entry => entry.kind = .start).map Entry.session

/-- The entries lead from the session of the open file, if one is open, to the session that goes
on, if one does: records are of the session before them, a stop ends it, and a start begins one
whose records all come behind it. -/
def Follows (accepted : List (Nat × Text)) : Option Nat → List Entry → Option Nat → Prop
  | before, [], current => before = current
  | before, entry :: rest, current =>
    match entry.kind with
    | .record => before = some entry.session ∧ Follows accepted before rest current
    | .stop => before = some entry.session ∧ Follows accepted none rest current
    | .start =>
      before = none ∧ queuedOf rest entry.session = recordsOf accepted entry.session ∧
        Follows accepted (some entry.session) rest current

theorem recordsOf_append (accepted : List (Nat × Text)) (record : Nat × Text) (session : Nat) :
    recordsOf (accepted ++ [record]) session =
      recordsOf accepted session ++ if record.1 = session then record.2 else [] := by
  simp [recordsOf]

theorem recordsOf_eq_nil {accepted : List (Nat × Text)} {session : Nat}
    (older : ∀ record ∈ accepted, record.1 < session) : recordsOf accepted session = [] := by
  rw [recordsOf, flatMap_eq_nil_iff]
  intro record member
  exact if_neg (older record member).ne

theorem queuedOf_cons (entry : Entry) (rest : List Entry) (session : Nat) :
    queuedOf (entry :: rest) session =
      (if entry.kind = .record ∧ entry.session = session then entry.data else []) ++
        queuedOf rest session := rfl

theorem queuedOf_append (entries : List Entry) (entry : Entry) (session : Nat) :
    queuedOf (entries ++ [entry]) session =
      queuedOf entries session ++
        if entry.kind = .record ∧ entry.session = session then entry.data else [] := by
  simp [queuedOf]

variable {entry : Entry}

theorem queuedOf_append_lifecycle (entries : List Entry) (lifecycle : entry.kind ≠ .record)
    (session : Nat) : queuedOf (entries ++ [entry]) session = queuedOf entries session := by
  rw [queuedOf_append, if_neg fun both => lifecycle both.1, append_nil]

theorem startsOf_append_other (entries : List Entry) (other : entry.kind ≠ .start) :
    startsOf (entries ++ [entry]) = startsOf entries := by
  simp [startsOf, other]

theorem startsOf_append_start (entries : List Entry) (start : entry.kind = .start) :
    startsOf (entries ++ [entry]) = startsOf entries ++ [entry.session] := by
  simp [startsOf, start]

theorem startsOf_cons_other (other : entry.kind ≠ .start) (rest : List Entry) :
    startsOf (entry :: rest) = startsOf rest := by
  simp [startsOf, other]

theorem startsOf_cons_start (start : entry.kind = .start) (rest : List Entry) :
    startsOf (entry :: rest) = entry.session :: startsOf rest := by
  simp [startsOf, start]

theorem startsOf_cons_sublist (entry : Entry) (rest : List Entry) :
    (startsOf rest).Sublist (startsOf (entry :: rest)) :=
  ((sublist_cons_self entry rest).filter _).map _

/-! ### One more entry -/

theorem Follows.append {accepted more : List (Nat × Text)} {before current after : Option Nat}
    {entries : List Entry} (follows : Follows accepted before entries current)
    (next : Follows more current [entry] after) (grown : ∀ session,
      recordsOf more session = recordsOf accepted session ++ queuedOf [entry] session) :
    Follows more before (entries ++ [entry]) after := by
  induction entries generalizing before with
  | nil =>
    have same : before = current := follows
    rw [same]
    exact next
  | cons first rest hypothesis =>
    rw [cons_append]
    cases kind : first.kind with
    | record =>
      simp only [Follows, kind] at follows ⊢
      exact ⟨follows.1, hypothesis follows.2⟩
    | stop =>
      simp only [Follows, kind] at follows ⊢
      exact ⟨follows.1, hypothesis follows.2⟩
    | start =>
      simp only [Follows, kind] at follows ⊢
      refine ⟨follows.1, ?_, hypothesis follows.2.2⟩
      rw [grown, ← follows.2.1]
      exact flatMap_append

theorem Follows.current {accepted : List (Nat × Text)} {before : Option Nat}
    {entries : List Entry} {session : Nat}
    (follows : Follows accepted before entries (some session)) :
    before = some session ∨ session ∈ startsOf entries := by
  induction entries generalizing before with
  | nil => exact .inl follows
  | cons entry rest hypothesis =>
    cases kind : entry.kind with
    | record =>
      simp only [Follows, kind] at follows
      rw [startsOf_cons_other (by simp [kind])]
      exact hypothesis follows.2
    | stop =>
      simp only [Follows, kind] at follows
      rw [startsOf_cons_other (by simp [kind])]
      exact .inr ((hypothesis follows.2).resolve_left nofun)
    | start =>
      simp only [Follows, kind] at follows
      rw [startsOf_cons_start kind]
      rcases hypothesis follows.2.2 with opened | waits
      · exact .inr (mem_cons.mpr (.inl (some.inj opened).symm))
      · exact .inr (mem_cons_of_mem _ waits)

/-! ### What the files and the ring hold -/

/-- Whether the writer failed and has not yet discarded the session. -/
def Phase.failing (phase : Phase) : Bool :=
  match phase with
  | .failed _ => true
  | _ => false

/-- Every file is a prefix of what belongs into it, and the open one together with the buffer and
what waits is all of that. -/
structure Recording (accepted : List (Nat × Text)) (sessions : Nat) (writer : Writer)
    (pending : List Entry) (current : Option Nat) : Prop where
  short : ∀ entry ∈ pending, entry.data.length ≤ emitMax + 3
  numbered : ∀ record ∈ accepted, record.1 < sessions
  ordered : (writer.files.map LogFile.session ++ startsOf pending).Pairwise (· < ·)
  bounded : ∀ session ∈ writer.files.map LogFile.session ++ startsOf pending, session < sessions
  buffered : writer.buffer.length ≤ bufferSize
  closed : ∀ file ∈ writer.closed, file.content <+: formats ++ recordsOf accepted file.session
  opened : ∀ file, writer.fd = some file →
    file.content ++ writer.buffer ++ queuedOf pending file.session =
      formats ++ recordsOf accepted file.session
  idle : writer.fd = none → writer.buffer = []
  failing : writer.phase.failing = true → writer.fd = none
  follows : writer.phase.failing = false →
    Follows accepted (writer.fd.map LogFile.session) pending current

section Enqueued

variable {accepted : List (Nat × Text)} {sessions : Nat} {writer : Writer} {pending : List Entry}

theorem Recording.record {session : Nat}
    (recording : Recording accepted sessions writer pending (some session))
    (known : session < sessions) {data : Text} (small : data.length ≤ emitMax + 3) :
    Recording (accepted ++ [(session, data)]) sessions writer
      (pending ++ [{ kind := .record, data, session }]) (some session) := by
  have starts : startsOf (pending ++ [{ kind := .record, data, session }]) = startsOf pending :=
    startsOf_append_other pending (fun same => by cases same)
  refine { recording with
    short := ?_, numbered := ?_, ordered := ?_, bounded := ?_, closed := ?_, opened := ?_,
    follows := ?_ }
  · exact forall_mem_append.mpr ⟨recording.short, forall_mem_singleton.mpr small⟩
  · exact forall_mem_append.mpr ⟨recording.numbered, forall_mem_singleton.mpr known⟩
  · rw [starts]
    exact recording.ordered
  · rw [starts]
    exact recording.bounded
  · intro file member
    rw [recordsOf_append, ← append_assoc]
    exact (recording.closed file member).trans (prefix_append _ _)
  · intro file isOpen
    rw [recordsOf_append, queuedOf_append, ← append_assoc, recording.opened file isOpen]
    simp
  · intro calm
    refine (recording.follows calm).append ⟨rfl, rfl⟩ fun other => ?_
    rw [recordsOf_append]
    simp [queuedOf]

theorem Recording.stop {session : Nat}
    (recording : Recording accepted sessions writer pending (some session)) :
    Recording accepted sessions writer
      (pending ++ [{ kind := .stop, data := [], session }]) none := by
  have starts : startsOf (pending ++ [{ kind := .stop, data := [], session }]) =
      startsOf pending := startsOf_append_other pending (fun same => by cases same)
  refine { recording with
    short := ?_, ordered := ?_, bounded := ?_, opened := ?_, follows := ?_ }
  · exact forall_mem_append.mpr ⟨recording.short, forall_mem_singleton.mpr (Nat.zero_le _)⟩
  · rw [starts]
    exact recording.ordered
  · rw [starts]
    exact recording.bounded
  · intro file isOpen
    rw [queuedOf_append_lifecycle _ (fun same => by cases same)]
    exact recording.opened file isOpen
  · intro calm
    exact (recording.follows calm).append ⟨rfl, rfl⟩ fun other => (append_nil _).symm

theorem Recording.start (recording : Recording accepted sessions writer pending none) :
    Recording accepted (sessions + 1) writer
      (pending ++ [{ kind := .start, data := [], session := sessions }]) (some sessions) := by
  have starts : startsOf (pending ++ [{ kind := .start, data := [], session := sessions }]) =
      startsOf pending ++ [sessions] := startsOf_append_start pending rfl
  refine { recording with
    short := ?_, numbered := ?_, ordered := ?_, bounded := ?_, opened := ?_, follows := ?_ }
  · exact forall_mem_append.mpr ⟨recording.short, forall_mem_singleton.mpr (Nat.zero_le _)⟩
  · exact fun record member => (recording.numbered record member).trans (Nat.lt_succ_self _)
  · rw [starts, ← append_assoc, pairwise_append]
    refine ⟨recording.ordered, pairwise_singleton _ _, ?_⟩
    intro older member newest isNewest
    rw [mem_singleton.mp isNewest]
    exact recording.bounded older member
  · intro other member
    rw [starts, ← append_assoc, mem_append] at member
    rcases member with older | newest
    · exact (recording.bounded other older).trans (Nat.lt_succ_self _)
    · rw [mem_singleton.mp newest]
      exact Nat.lt_succ_self _
  · intro file isOpen
    rw [queuedOf_append_lifecycle _ (fun same => by cases same)]
    exact recording.opened file isOpen
  · intro calm
    refine (recording.follows calm).append ⟨rfl, ?_, rfl⟩ fun other => (append_nil _).symm
    exact (recordsOf_eq_nil recording.numbered).symm

end Enqueued

/-! ### One pass of the writer -/

/-- The writer behind its buffer and the sync of its file. -/
def Writer.wrote (writer : Writer) (taken : Option Entry) (quit : Bool) (pass : Pass) : Writer :=
  (Writer.flush { writer with failure := false } taken quit pass).sync taken quit pass

theorem Writer.work_of_turn {writer done : Writer} {taken : Option Entry} {quit : Bool}
    {pass : Pass} (turned : (writer.wrote taken quit pass).turn taken quit pass = done) :
    writer.work taken quit pass =
      if done.failure then { done.shut with buffer := [], phase := .failed quit }
      else { done.append taken with phase := nextPhase quit } := by
  rw [← turned]
  rfl

theorem Writer.wrote_of_closed {writer : Writer} (noFile : writer.fd = none)
    (taken : Option Entry) (quit : Bool) (pass : Pass) :
    writer.wrote taken quit pass = { writer with failure := false } := by
  simp [wrote, flush, sync, noFile]

theorem Writer.sync_fd (writer : Writer) (taken : Option Entry) (quit : Bool) (pass : Pass) :
    (writer.sync taken quit pass).fd = writer.fd ∧
      (writer.sync taken quit pass).buffer = writer.buffer ∧
      (writer.sync taken quit pass).closed = writer.closed ∧
      ((writer.sync taken quit pass).failure = false → writer.failure = false) := by
  unfold sync
  split
  · exact ⟨rfl, rfl, rfl, fun calm => (Bool.or_eq_false_iff.mp calm).1⟩
  · exact ⟨rfl, rfl, rfl, id⟩

theorem Written.reached_prefix (written : Written) (text : Text) :
    written.reached text <+: text := by
  cases written with
  | all => exact prefix_rfl
  | failed count => exact take_prefix _ _

section

variable {writer : Writer} {file : LogFile} (isOpen : writer.fd = some file) {taken : Option Entry}
  (small : takenLength taken ≤ bufferSize) (quit : Bool) (pass : Pass)

include isOpen small

/-- What an open file holds after the buffer was written: a prefix of what it held and the buffer,
and with the buffer that is left all of it if nothing failed. -/
theorem Writer.flush_of_open :
    ∃ content, (writer.flush taken quit pass).fd = some { file with content } ∧
      (writer.flush taken quit pass).closed = writer.closed ∧
      content <+: file.content ++ writer.buffer ∧
      (writer.flush taken quit pass).buffer.length + takenLength taken ≤ bufferSize ∧
      (lifecycle taken = true → (writer.flush taken quit pass).buffer = []) ∧
      ((writer.flush taken quit pass).failure = false →
        content ++ (writer.flush taken quit pass).buffer = file.content ++ writer.buffer) := by
  by_cases flushes : writer.flushes taken quit pass.now = true
  · have flushed : writer.flush taken quit pass =
        { writer with
          fd := some { file with content := file.content ++ pass.flush.reached writer.buffer }
          buffer := []
          flushed := pass.now
          failure := decide (pass.flush ≠ .all) } := by
      unfold flush
      rw [isOpen]
      exact if_pos flushes
    rw [flushed]
    refine ⟨_, rfl, rfl, ?_, ?_, fun _ => rfl, fun whole => ?_⟩
    · exact (prefix_append_right_inj _).mpr (pass.flush.reached_prefix _)
    · rw [length_nil, zero_add]
      exact small
    · have whole : pass.flush = .all := by simpa using whole
      rw [append_nil, whole]
      rfl
  · have kept : writer.flush taken quit pass = writer := by
      unfold flush
      rw [isOpen]
      exact if_neg flushes
    rw [kept]
    refine ⟨file.content, isOpen, rfl, prefix_append _ _, ?_, fun cycle => ?_, fun _ => rfl⟩
    · by_contra above
      apply flushes
      have filled : writer.buffer ≠ [] := by
        intro empty
        rw [empty, length_nil, Nat.zero_add] at above
        exact above small
      simp [Writer.flushes, filled, Nat.lt_of_not_le above]
    · by_contra filled
      exact flushes (by simp [Writer.flushes, filled, cycle])

theorem Writer.wrote_of_open :
    ∃ content, (writer.wrote taken quit pass).fd = some { file with content } ∧
      (writer.wrote taken quit pass).closed = writer.closed ∧
      content <+: file.content ++ writer.buffer ∧
      (writer.wrote taken quit pass).buffer.length + takenLength taken ≤ bufferSize ∧
      (lifecycle taken = true → (writer.wrote taken quit pass).buffer = []) ∧
      ((writer.wrote taken quit pass).failure = false →
        content ++ (writer.wrote taken quit pass).buffer = file.content ++ writer.buffer) := by
  obtain ⟨sameFd, sameBuffer, sameClosed, calmBefore⟩ :=
    sync_fd (flush { writer with failure := false } taken quit pass) taken quit pass
  obtain ⟨content, fd, closed, kept, bounded, emptied, whole⟩ :=
    flush_of_open (show fd { writer with failure := false } = some file from isOpen) small quit pass
  rw [wrote, sameFd, sameBuffer, sameClosed]
  exact ⟨content, fd, closed, kept, bounded, emptied, fun calm => whole (calmBefore calm)⟩

end

variable {accepted : List (Nat × Text)} {sessions : Nat} {writer next : Writer}
  {pending rest : List Entry} {current after : Option Nat}

/-- What is left to show when the writer or the entries that wait become fewer. -/
theorem Recording.later (recording : Recording accepted sessions writer pending current)
    (suffix : rest <:+ pending)
    (sessionsOf : (next.files.map LogFile.session ++ startsOf rest).Sublist
      (writer.files.map LogFile.session ++ startsOf pending))
    (buffered : next.buffer.length ≤ bufferSize)
    (closed : ∀ file ∈ next.closed, file.content <+: formats ++ recordsOf accepted file.session)
    (opened : ∀ file, next.fd = some file →
      file.content ++ next.buffer ++ queuedOf rest file.session =
        formats ++ recordsOf accepted file.session) (idle :
    next.fd = none → next.buffer = [])
    (failing : next.phase.failing = true → next.fd = none) (follows : next.phase.failing = false →
      Follows accepted (next.fd.map LogFile.session) rest after) :
    Recording accepted sessions next rest after where
  short := fun entry member => recording.short entry (suffix.subset member)
  numbered := recording.numbered
  ordered := recording.ordered.sublist sessionsOf
  bounded := fun session member => recording.bounded session (sessionsOf.subset member)
  buffered := buffered
  closed := closed
  opened := opened
  idle := idle
  failing := failing
  follows := follows

section

variable {file : LogFile} {content : Text}
  (recording : Recording accepted sessions writer pending current) (isOpen : writer.fd = some file)

include recording isOpen

/-- A file that is closed with a prefix of what belongs into it. -/
theorem Recording.shut (kept : content <+: file.content ++ writer.buffer)
    (suffix : rest <:+ pending)
    (closed : next.closed = writer.closed ++ [{ file with content }]) (fd : next.fd = none)
    (buffer : next.buffer = [])
    (follows : next.phase.failing = false → Follows accepted none rest after) :
    Recording accepted sessions next rest after := by
  have sessionsOf : next.files.map LogFile.session = writer.files.map LogFile.session := by
    simp [files, closed, fd, isOpen]
  have content' : content <+: formats ++ recordsOf accepted file.session := by
    rw [← recording.opened file isOpen]
    exact kept.trans (prefix_append _ _)
  refine recording.later suffix ?_ ?_ ?_ ?_ ?_ ?_ ?_
  · rw [sessionsOf]
    exact (Sublist.refl _).append ((suffix.sublist.filter _).map _)
  · rw [buffer]
    exact Nat.zero_le _
  · intro other member
    rw [closed, mem_append] at member
    rcases member with old | new
    · exact recording.closed other old
    · rw [mem_singleton.mp new]
      exact content'
  · intro other isOther
    rw [fd] at isOther
    cases isOther
  · exact fun _ => buffer
  · exact fun _ => fd
  · rw [fd]
    exact follows

/-- A file that stays open, when what moved into it and the buffer is what no longer waits. -/
theorem Recording.hold (suffix : rest <:+ pending)
    (closed : next.closed = writer.closed) (fd : next.fd = some { file with content })
    (buffered : next.buffer.length ≤ bufferSize)
    (whole : content ++ next.buffer ++ queuedOf rest file.session =
      file.content ++ writer.buffer ++ queuedOf pending file.session)
    (calm : next.phase.failing = false)
    (follows : Follows accepted (some file.session) rest after) :
    Recording accepted sessions next rest after := by
  have sessionsOf : next.files.map LogFile.session = writer.files.map LogFile.session := by
    simp [files, closed, fd, isOpen]
  refine recording.later suffix ?_ buffered ?_ ?_ ?_ ?_ ?_
  · rw [sessionsOf]
    exact (Sublist.refl _).append ((suffix.sublist.filter _).map _)
  · rw [closed]
    exact recording.closed
  · intro other isOther
    rw [fd] at isOther
    cases isOther
    exact whole.trans (recording.opened file isOpen)
  · intro noFile
    rw [fd] at noFile
    cases noFile
  · intro failing
    rw [calm] at failing
    cases failing
  · rw [fd]
    exact fun _ => follows

end

theorem nextPhase_failing (quit : Bool) : (nextPhase quit).failing = false := by
  cases quit <;> rfl

theorem Recording.length_taken {accepted : List (Nat × Text)} {sessions : Nat} {writer : Writer}
    {taken : Option Entry} {rest : List Entry} {current : Option Nat}
    (recording : Recording accepted sessions writer (taken.toList ++ rest) current) :
    takenLength taken ≤ bufferSize := by
  cases taken with
  | none => exact Nat.zero_le _
  | some entry =>
    have small : entry.data.length ≤ 255 := recording.short entry mem_cons_self
    exact small.trans (by decide)

section Worked

variable {accepted : List (Nat × Text)} {sessions : Nat} {writer : Writer} {rest : List Entry}
  {current : Option Nat} {file : LogFile}

theorem Recording.work_idle (recording : Recording accepted sessions writer rest current)
    (calm : writer.phase.failing = false) (isOpen : writer.fd = some file) (pass : Pass) :
    Recording accepted sessions (writer.work none false pass) rest current := by
  have small : takenLength none ≤ bufferSize := Nat.zero_le _
  obtain ⟨content, fd, closed, kept, bounded, -, whole⟩ := wrote_of_open isOpen small false pass
  have turn : (writer.wrote none false pass).turn none false pass =
      writer.wrote none false pass := rfl
  rw [work_of_turn turn]
  have follows := recording.follows calm
  rw [isOpen] at follows
  cases failure : (writer.wrote none false pass).failure with
  | true =>
    rw [if_pos rfl]
    refine recording.shut isOpen kept suffix_rfl ?_ rfl rfl nofun
    show (writer.wrote none false pass).closed ++ (writer.wrote none false pass).fd.toList = _
    rw [closed, fd]
    rfl
  | false =>
    rw [if_neg Bool.false_ne_true]
    refine recording.hold isOpen suffix_rfl closed fd bounded ?_ rfl follows
    show content ++ (writer.wrote none false pass).buffer ++ _ = _
    rw [whole failure]

section

variable {entry : Entry} (recording : Recording accepted sessions writer (entry :: rest) current)
  (calm : writer.phase.failing = false)

include recording calm

theorem Recording.work_record (kind : entry.kind = .record)
    (isOpen : writer.fd = some file) (pass : Pass) :
    Recording accepted sessions (writer.work (some entry) false pass) rest current := by
  have small : takenLength (some entry) ≤ bufferSize :=
    @Recording.length_taken _ _ _ (some entry) _ _ recording
  obtain ⟨content, fd, closed, kept, bounded, -, whole⟩ := wrote_of_open isOpen small false pass
  have turn : (writer.wrote (some entry) false pass).turn (some entry) false pass =
      writer.wrote (some entry) false pass := by
    simp [turn, lifecycle, kind]
  have append : (writer.wrote (some entry) false pass).append (some entry) =
      { writer.wrote (some entry) false pass with
        buffer := (writer.wrote (some entry) false pass).buffer ++ entry.data } := by
    simp [append, kind, fd]
  have suffix : rest <:+ entry :: rest := suffix_cons entry rest
  have follows := recording.follows calm
  rw [isOpen] at follows
  simp only [Follows, kind] at follows
  obtain ⟨same, follows⟩ := follows
  have session : entry.session = file.session := (some.inj same).symm
  rw [work_of_turn turn]
  cases failure : (writer.wrote (some entry) false pass).failure with
  | true =>
    rw [if_pos rfl]
    refine recording.shut isOpen kept suffix ?_ rfl rfl nofun
    show (writer.wrote (some entry) false pass).closed ++
      (writer.wrote (some entry) false pass).fd.toList = _
    rw [closed, fd]
    rfl
  | false =>
    rw [if_neg Bool.false_ne_true, append]
    refine recording.hold isOpen suffix closed fd ?_ ?_ rfl follows
    · show ((writer.wrote (some entry) false pass).buffer ++ entry.data).length ≤ _
      rw [length_append]
      exact bounded
    · show content ++ ((writer.wrote (some entry) false pass).buffer ++ entry.data) ++ _ = _
      rw [← append_assoc, whole failure, queuedOf_cons, if_pos ⟨kind, session⟩]
      simp

theorem Recording.work_stop (kind : entry.kind = .stop)
    (isOpen : writer.fd = some file) (pass : Pass) :
    Recording accepted sessions (writer.work (some entry) false pass) rest current := by
  have small : takenLength (some entry) ≤ bufferSize :=
    @Recording.length_taken _ _ _ (some entry) _ _ recording
  obtain ⟨content, fd, closed, kept, -, emptied, -⟩ := wrote_of_open isOpen small false pass
  have cycle : lifecycle (some entry) = true := by simp [lifecycle, kind]
  have turn : (writer.wrote (some entry) false pass).turn (some entry) false pass =
      (writer.wrote (some entry) false pass).shut := by
    simp [turn, cycle, kind]
  have append : (writer.wrote (some entry) false pass).shut.append (some entry) =
      (writer.wrote (some entry) false pass).shut := by
    simp [append, kind]
  have shut : (writer.wrote (some entry) false pass).shut.closed =
      writer.closed ++ [{ file with content }] := by
    show (writer.wrote (some entry) false pass).closed ++
      (writer.wrote (some entry) false pass).fd.toList = _
    rw [closed, fd]
    rfl
  have suffix : rest <:+ entry :: rest := suffix_cons entry rest
  have follows := recording.follows calm
  simp only [Follows, kind] at follows
  rw [work_of_turn turn]
  cases failure : (writer.wrote (some entry) false pass).shut.failure with
  | true =>
    rw [if_pos rfl]
    refine recording.shut isOpen kept suffix ?_ rfl rfl nofun
    show (writer.wrote (some entry) false pass).shut.closed ++ [] = _
    rw [shut, append_nil]
  | false =>
    rw [if_neg Bool.false_ne_true, append]
    exact recording.shut isOpen kept suffix shut rfl (emptied cycle) fun _ => follows.2

theorem Recording.work_start (kind : entry.kind = .start)
    (noFile : writer.fd = none) (pass : Pass) :
    Recording accepted sessions (writer.work (some entry) false pass) rest current := by
  have turn : (writer.wrote (some entry) false pass).turn (some entry) false pass =
      (Writer.shut { writer with failure := false }).openLog entry.session pass.opening := by
    rw [Writer.wrote_of_closed noFile]
    simp [Writer.turn, lifecycle, kind]
  have closed : (Writer.shut { writer with failure := false }).closed = writer.closed := by
    show writer.closed ++ writer.fd.toList = _
    rw [noFile]
    exact append_nil _
  have files : writer.files = writer.closed := by
    simp [Writer.files, noFile]
  have buffer : writer.buffer = [] := recording.idle noFile
  have suffix : rest <:+ entry :: rest := suffix_cons entry rest
  have follows := recording.follows calm
  simp only [Follows, kind] at follows
  obtain ⟨-, behind, follows⟩ := follows
  rw [Writer.work_of_turn turn]
  cases opening : pass.opening with
  | refused =>
    refine recording.later suffix ?_ (Nat.zero_le _) ?_ nofun (fun _ => rfl) (fun _ => rfl) nofun
    · show ((((Writer.shut { writer with failure := false }).closed ++ []) ++ []).map
        LogFile.session ++ startsOf rest).Sublist _
      rw [closed, files, append_nil, append_nil]
      exact (Sublist.refl _).append (startsOf_cons_sublist entry rest)
    · show ∀ file ∈ (Writer.shut { writer with failure := false }).closed ++ [], _
      rw [closed, append_nil]
      exact recording.closed
  | created written =>
    cases written with
    | all =>
      have append : Writer.append
          ((Writer.shut { writer with failure := false }).openLog entry.session (.created .all))
          (some entry) =
          (Writer.shut { writer with failure := false }).openLog entry.session (.created .all) := by
        simp [Writer.append, kind]
      show Recording accepted sessions { Writer.append
        ((Writer.shut { writer with failure := false }).openLog entry.session (.created .all))
        (some entry) with phase := .taking } rest current
      rw [append]
      refine recording.later suffix ?_ recording.buffered ?_ ?_ nofun nofun fun _ => follows
      · show (((Writer.shut { writer with failure := false }).closed ++
          [LogFile.mk entry.session formats]).map LogFile.session ++ startsOf rest).Sublist _
        rw [closed, files, startsOf_cons_start kind, map_append, append_assoc]
        exact Sublist.refl _
      · show ∀ file ∈ (Writer.shut { writer with failure := false }).closed, _
        rw [closed]
        exact recording.closed
      · intro file isFile
        cases isFile
        show formats ++ writer.buffer ++ queuedOf rest entry.session = _
        rw [buffer, append_nil, behind]
    | failed count =>
      refine recording.later suffix ?_ (Nat.zero_le _) ?_ nofun (fun _ => rfl) (fun _ => rfl) nofun
      · show (((((Writer.shut { writer with failure := false }).closed ++
          [LogFile.mk entry.session (formats.take count)]) ++ []) ++ []).map
          LogFile.session ++ startsOf rest).Sublist _
        rw [closed, files, startsOf_cons_start kind, append_nil, append_nil,
          map_append, append_assoc]
        exact Sublist.refl _
      · show ∀ file ∈ ((Writer.shut { writer with failure := false }).closed ++
          [LogFile.mk entry.session (formats.take count)]) ++ [], _
        rw [closed, append_nil]
        exact forall_mem_append.mpr ⟨recording.closed,
          forall_mem_singleton.mpr ((List.take_prefix _ _).trans (prefix_append _ _))⟩

end

theorem Recording.work {taken : Option Entry} {quit : Bool}
    (recording : Recording accepted sessions writer (taken.toList ++ rest) current)
    (calm : writer.phase.failing = false)
    (leaving : quit = true → taken = none ∧ rest = [] ∧ current = none) (pass : Pass) :
    Recording accepted sessions (writer.work taken quit pass) rest current := by
  have follows := recording.follows calm
  cases isOpen : writer.fd with
  | none =>
    rw [isOpen] at follows
    cases taken with
    | none =>
      have turn : (writer.wrote none quit pass).turn none quit pass =
          { writer with failure := false } := by
        rw [Writer.wrote_of_closed isOpen]
        cases quit with
        | false => rfl
        | true => simp [Writer.turn, lifecycle, Writer.shut, isOpen]
      rw [Writer.work_of_turn turn]
      refine { recording with failing := ?_, follows := ?_ }
      · show (nextPhase quit).failing = true → _
        rw [nextPhase_failing]
        exact nofun
      · exact fun _ => recording.follows calm
    | some entry =>
      have stays : quit = false := by
        by_contra leaves
        exact absurd (leaving (by simpa using leaves)).1 nofun
      rw [stays]
      cases kind : entry.kind with
      | record =>
        simp only [toList_some, singleton_append, Follows, kind] at follows
        exact absurd follows.1 nofun
      | stop =>
        simp only [toList_some, singleton_append, Follows, kind] at follows
        exact absurd follows.1 nofun
      | start => exact Recording.work_start recording calm kind isOpen pass
  | some file =>
    rw [isOpen] at follows
    have stays : quit = false := by
      by_contra leaves
      obtain ⟨nothing, noRest, ended⟩ := leaving (by simpa using leaves)
      rw [nothing, noRest, ended] at follows
      cases follows
    rw [stays]
    cases taken with
    | none => exact Recording.work_idle recording calm isOpen pass
    | some entry =>
      cases kind : entry.kind with
      | record => exact Recording.work_record recording calm kind isOpen pass
      | stop => exact Recording.work_stop recording calm kind isOpen pass
      | start =>
        simp only [toList_some, singleton_append, Follows, kind] at follows
        exact absurd follows.1 nofun

end Worked

end Binlog
