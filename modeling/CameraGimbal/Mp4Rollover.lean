/-
This file proves that a recording on FAT loses nothing and holds nothing twice when it goes on in
the next file: the samples of all files, one file after the other, are the access units with a
picture that were taken from the first IDR on.

The invariant ties the gates of the current file to what has been taken: it waits for a parameter
set exactly while none was seen, and for an IDR exactly while no sample was written. A next file
starts at an access unit with an IDR and is given every parameter set first, so its gates let that
access unit through.
-/

import CameraGimbal.Mp4Headers

namespace Mp4

open AnnexB CText SupportVideo VideoMetadata List
open Siyi (byteAt)

/-! ### What a recording holds -/

/-- The access units that were taken. -/
def taken (log : List Entry) : List Bytes :=
  (log.filter fun entry => entry.outcome = .taken).map Entry.unit

/-- The access units from the first on that has an IDR and can be decoded: both kinds of parameter
sets were in it or in front of it. -/
def fromFirstIdr (sps pps : Bool) : List Bytes → List Bytes
  | [] => []
  | unit :: rest =>
    if (sps || hasType 7 unit) && (pps || hasType 8 unit) && hasIdr unit then unit :: rest
    else fromFirstIdr (sps || hasType 7 unit) (pps || hasType 8 unit) rest

/-- The files in front of the current one. -/
def Writer.earlier (writer : Writer) : List File :=
  writer.finished ++ writer.retired.toList.map Retired.file

def Writer.files (writer : Writer) : List File := writer.earlier ++ [writer.file]

/-- A sample holds the slices of its access unit, with the telemetry. -/
def Sample.Holds (sample : Sample) : Prop :=
  ∃ sei, sample.data = sampleData sei false (nals sample.unit) ∧ sample.key = hasIdr sample.unit

def File.Within (file : File) : Prop := file.bytes ≤ file.hardLimit ∧ file.extent ≤ file.hardLimit

/-! ### Types of NAL units -/

variable {nal : Bytes}

theorem isVcl_of_idr (idr : nalType nal = 5) : isVcl nal = true := by
  have same : unitType .h264 (byteAt nal 0) = 5 := idr
  unfold isVcl videoNalIsVcl
  rw [same]
  decide

theorem isVcl_of_isParameterSet (set : isParameterSet nal = true) :
    isVcl nal = false := by
  unfold isParameterSet at set
  rw [Bool.or_eq_true, decide_eq_true_eq, decide_eq_true_eq] at set
  unfold isVcl videoNalIsVcl
  rcases set with seven | eight
  · rw [show unitType .h264 (byteAt nal 0) = 7 from seven]
    decide
  · rw [show unitType .h264 (byteAt nal 0) = 8 from eight]
    decide

theorem nals_nil : nals [] = [] := by
  unfold nals
  rw [nalUnits_of_none rfl, filter_nil]

variable {unit : Bytes}

theorem hasPicture_of_hasIdr (idr : hasIdr unit = true) : hasPicture unit = true := by
  unfold hasIdr hasType at idr
  obtain ⟨nal, member, five⟩ := any_eq_true.mp idr
  exact any_eq_true.mpr ⟨nal, member, isVcl_of_idr (of_decide_eq_true five)⟩

theorem hasType_iff_of_isParameterSet {type : UInt8} (isSet : type = 7 ∨ type = 8)
    (unit : Bytes) :
    hasType type unit = true ↔ ∃ nal ∈ (nals unit).filter isParameterSet, nalType nal = type := by
  unfold hasType
  rw [any_eq_true]
  constructor
  · rintro ⟨nal, member, same⟩
    have same := of_decide_eq_true same
    refine ⟨nal, mem_filter.mpr ⟨member, ?_⟩, same⟩
    unfold isParameterSet
    rw [same]
    rcases isSet with rfl | rfl <;> rfl
  · rintro ⟨nal, member, same⟩
    exact ⟨nal, (mem_filter.mp member).1, decide_eq_true same⟩

theorem any_hasType_iff {type : UInt8} (isSet : type = 7 ∨ type = 8) (units : List Bytes) :
    units.any (hasType type) = true ↔ ∃ nal ∈ parameterSetsOf units, nalType nal = type := by
  unfold parameterSetsOf
  simp only [any_eq_true, hasType_iff_of_isParameterSet isSet, mem_flatMap]
  constructor
  · rintro ⟨unit, member, nal, isIn, same⟩
    exact ⟨nal, ⟨unit, member, isIn⟩, same⟩
  · rintro ⟨nal, ⟨unit, member, isIn⟩, same⟩
    exact ⟨unit, member, nal, isIn, same⟩

/-! ### The first IDR -/

variable {units : List (Bytes)} {sps pps : Bool}

theorem fromFirstIdr_of_started (started : fromFirstIdr sps pps units ≠ [])
    (unit : Bytes) :
    fromFirstIdr sps pps (units ++ [unit]) = fromFirstIdr sps pps units ++ [unit] := by
  induction units generalizing sps pps with
  | nil => exact absurd rfl started
  | cons first rest hypothesis =>
    rw [cons_append]
    unfold fromFirstIdr at started ⊢
    split
    · rfl
    next later =>
      rw [if_neg later] at started
      exact hypothesis started

theorem fromFirstIdr_of_waiting (waiting : fromFirstIdr sps pps units = [])
    (unit : Bytes) :
    fromFirstIdr sps pps (units ++ [unit]) =
      if (sps || units.any (hasType 7) || hasType 7 unit) &&
          (pps || units.any (hasType 8) || hasType 8 unit) && hasIdr unit then [unit]
      else [] := by
  induction units generalizing sps pps with
  | nil =>
    rw [nil_append, any_nil, any_nil, Bool.or_false, Bool.or_false]
    rfl
  | cons first rest hypothesis =>
    rw [cons_append]
    unfold fromFirstIdr at waiting ⊢
    split at waiting
    · cases waiting
    next later =>
      rw [if_neg later, hypothesis waiting, any_cons, any_cons]
      simp only [Bool.or_assoc]

theorem seen_of_started (started : fromFirstIdr sps pps units ≠ []) :
    (sps || units.any (hasType 7)) = true ∧ (pps || units.any (hasType 8)) = true := by
  induction units generalizing sps pps with
  | nil => exact absurd rfl started
  | cons first rest hypothesis =>
    unfold fromFirstIdr at started
    rw [any_cons, any_cons, ← Bool.or_assoc, ← Bool.or_assoc]
    split at started
    next here =>
      rw [Bool.and_eq_true, Bool.and_eq_true] at here
      rw [here.1.1, here.1.2]
      exact ⟨rfl, rfl⟩
    · exact hypothesis started

/-! ### The writes of the multiplexer -/

/-- A file in which only bytes were written: the multiplexer took nothing. -/
structure Grown (before after : File) : Prop where
  part : after.part = before.part
  hardLimit : after.hardLimit = before.hardLimit
  track : after.track = before.track
  within : before.Within → after.Within

theorem Grown.refl (file : File) : Grown file file := ⟨rfl, rfl, rfl, id⟩

theorem Grown.trans {first second third : File} (former : Grown first second)
    (latter : Grown second third) : Grown first third :=
  ⟨latter.part.trans former.part, latter.hardLimit.trans former.hardLimit,
    latter.track.trans former.track, fun within => latter.within (former.within within)⟩

theorem enlarged_le {limit extent offset size : Nat} (fits : extent ≤ limit)
    (inside : offset + size ≤ limit) : enlarged extent offset size ≤ limit := by
  unfold enlarged
  split
  · exact fits
  · exact max_le fits inside

theorem writeAt_grown (file : File) (piece : Piece) : Grown file (file.writeAt piece).1 := by
  unfold File.writeAt
  simp only
  split
  · exact Grown.refl file
  next inside =>
    have inside : piece.offset.toNat + piece.size ≤ file.hardLimit := by omega
    cases piece.failure with
    | none =>
      exact ⟨rfl, rfl, rfl, fun within => ⟨max_le within.1 inside, enlarged_le within.2 inside⟩⟩
    | some done =>
      refine ⟨rfl, rfl, rfl, fun within => ⟨within.1, enlarged_le within.2 ?_⟩⟩
      exact (Nat.add_le_add_left (Nat.min_le_right done piece.size) _).trans inside

theorem writePieces_grown (file : File) (pieces : List Piece) :
    Grown file (file.writePieces pieces).1 := by
  induction pieces generalizing file with
  | nil => exact Grown.refl file
  | cons piece rest hypothesis =>
    unfold File.writePieces
    simp only
    split
    · exact (writeAt_grown file piece).trans (hypothesis _)
    · exact writeAt_grown file piece

theorem close_grown (file : File) (calls : CloseCalls) : Grown file (file.close calls).1 :=
  writePieces_grown file calls.pieces

/-! ### Writing an access unit to a file -/

/-- Whether `write_h264` makes a sample of an access unit. -/
def Track.gate (track : Track) (unit : Bytes) : Bool :=
  hasPicture unit && !(track.needSps && !hasType 7 unit) &&
    !(track.needPps && !hasType 8 unit) && !(track.needIdr && !hasIdr unit)

theorem scan_track (takes : List Bytes → Bool) (track : Track) (units : List Bytes) :
    let scanned := track.scan takes units
    scanned.1.needIdr = track.needIdr ∧ scanned.1.samples = track.samples ∧
      track.parameterSets <+: scanned.1.parameterSets ∧
      (scanned.2 = true →
        scanned.1.needSps = (track.needSps && !units.any fun nal => nalType nal = 7) ∧
        scanned.1.needPps = (track.needPps && !units.any fun nal => nalType nal = 8) ∧
        scanned.1.parameterSets = track.parameterSets ++ units.filter isParameterSet) := by
  induction units generalizing track with
  | nil =>
    refine ⟨rfl, rfl, prefix_refl _, fun _ => ⟨?_, ?_, (append_nil _).symm⟩⟩
    · show track.needSps = (track.needSps && !false)
      rw [Bool.not_false, Bool.and_true]
    · show track.needPps = (track.needPps && !false)
      rw [Bool.not_false, Bool.and_true]
  | cons nal rest hypothesis =>
    unfold Track.scan
    simp only
    split
    next isSet =>
      split
      · obtain ⟨needIdr, samples, longer, complete⟩ := hypothesis
          { track with
            needSps := track.needSps && nalType nal ≠ 7
            needPps := track.needPps && nalType nal ≠ 8
            parameterSets := track.parameterSets ++ [nal] }
        refine ⟨needIdr, samples, (prefix_append _ _).trans longer, fun succeeds => ?_⟩
        obtain ⟨sps, pps, sets⟩ := complete succeeds
        refine ⟨?_, ?_, ?_⟩
        · rw [sps, any_cons, Bool.not_or, ← Bool.and_assoc, ← decide_not]
        · rw [pps, any_cons, Bool.not_or, ← Bool.and_assoc, ← decide_not]
        · rw [sets, filter_cons_of_pos isSet, append_assoc, singleton_append]
      · exact ⟨rfl, rfl, prefix_refl _, nofun⟩
    next other =>
      obtain ⟨needIdr, samples, longer, complete⟩ := hypothesis track
      refine ⟨needIdr, samples, longer, fun succeeds => ?_⟩
      obtain ⟨sps, pps, sets⟩ := complete succeeds
      have kinds : decide (nalType nal = 7) = false ∧ decide (nalType nal = 8) = false := by
        unfold isParameterSet at other
        rw [Bool.or_eq_true, not_or, Bool.not_eq_true, Bool.not_eq_true] at other
        exact other
      refine ⟨?_, ?_, ?_⟩
      · rw [sps, any_cons, kinds.1, Bool.false_or]
      · rw [pps, any_cons, kinds.2, Bool.false_or]
      · rw [sets, filter_cons_of_neg other]

/-- What writing an access unit leaves of a file. A sample was added only through the gate, and on
success exactly when the gate was open. -/
structure Written (unit : Bytes) (before after : File) (succeeds : Prop) : Prop where
  part : after.part = before.part
  hardLimit : after.hardLimit = before.hardLimit
  within : before.Within → after.Within
  bytes : before.track.gate unit = false → after.bytes = before.bytes
  parameterSets : before.track.parameterSets <+: after.track.parameterSets
  samples : ∃ added, after.track.samples = before.track.samples ++ added ∧
    (∀ sample ∈ added, sample.Holds) ∧
    (added = [] ∧ (succeeds → before.track.gate unit = false) ∨
      added.map Sample.unit = [unit] ∧ before.track.gate unit = true)
  taken : succeeds →
    after.track.needSps = (before.track.needSps && !hasType 7 unit) ∧
    after.track.needPps = (before.track.needPps && !hasType 8 unit) ∧
    after.track.needIdr = (before.track.needIdr && !before.track.gate unit) ∧
    after.track.parameterSets =
      before.track.parameterSets ++ (nals unit).filter isParameterSet

variable {after : File} {succeeds : Prop}

theorem Written.mono {before : File} {succeedsToo : Prop}
    (written : Written unit before after succeeds) (less : succeedsToo → succeeds) :
    Written unit before after succeedsToo := by
  refine { written with samples := ?_, taken := fun done => written.taken (less done) }
  obtain ⟨added, same, holds, none | one⟩ := written.samples
  · exact ⟨added, same, holds, .inl ⟨none.1, fun done => none.2 (less done)⟩⟩
  · exact ⟨added, same, holds, .inr one⟩

theorem Written.clocked {before between : File} (written : Written unit before between succeeds)
    (grown : Grown between after) (bytes : after.bytes = between.bytes) :
    Written unit before after succeeds := by
  obtain ⟨part, hardLimit, track, within⟩ := grown
  refine ⟨part.trans written.part, hardLimit.trans written.hardLimit,
    fun inside => within (written.within inside), fun shut => bytes.trans (written.bytes shut),
    ?_, ?_, ?_⟩
  · rw [track]
    exact written.parameterSets
  · rw [track]
    exact written.samples
  · rw [track]
    exact written.taken

theorem Written.failed {before : File} (fails : ¬ succeeds) (part : after.part = before.part)
    (hardLimit : after.hardLimit = before.hardLimit) (within : before.Within → after.Within)
    (bytes : before.track.gate unit = false → after.bytes = before.bytes)
    (parameterSets : before.track.parameterSets <+: after.track.parameterSets)
    (samples : after.track.samples = before.track.samples) : Written unit before after succeeds :=
  ⟨part, hardLimit, within, bytes, parameterSets,
    ⟨[], samples.trans (append_nil _).symm, nofun, .inl ⟨rfl, fun done => absurd done fails⟩⟩,
    fun done => absurd done fails⟩

theorem Written.refl {file : File} (unit : Bytes) (fails : ¬ succeeds) :
    Written unit file file succeeds :=
  Written.failed fails rfl rfl id (fun _ => rfl) (prefix_refl _) rfl

section

variable (file : File) (calls : WriteCalls) (unit : Bytes)

theorem writeH264_written :
    Written unit file (file.writeH264 calls unit).1
      (∃ wrote, (file.writeH264 calls unit).2 = .ok wrote) := by
  obtain ⟨needIdr, samples, longer, complete⟩ := scan_track calls.takes file.track (nals unit)
  have fails {errno : Errno} :
      ¬ ∃ wrote : Bool, (Except.error errno : Except Errno Bool) = .ok wrote :=
    fun ⟨_, same⟩ => nomatch same
  unfold File.writeH264
  simp only
  split
  · exact Written.refl unit fails
  split
  · exact Written.failed fails rfl rfl id (fun _ => rfl) longer samples
  next scans =>
  rw [Bool.not_eq_true, Bool.not_eq_false'] at scans
  obtain ⟨sps, pps, sets⟩ := complete scans
  -- the gate reads the flags behind the loop
  have gate : file.track.gate unit =
      (hasPicture unit && !((file.track.scan calls.takes (nals unit)).1.needSps ||
        (file.track.scan calls.takes (nals unit)).1.needPps ||
        (file.track.scan calls.takes (nals unit)).1.needIdr && !hasIdr unit)) := by
    rw [sps, pps, needIdr, Bool.not_or, Bool.not_or, ← Bool.and_assoc, ← Bool.and_assoc]
    rfl
  -- nothing but the parameter sets is taken while the gate is closed
  have closed (shut : file.track.gate unit = false) {succeeds : Prop} :
      Written unit file
        { file with track := (file.track.scan calls.takes (nals unit)).1 } succeeds := by
    refine ⟨rfl, rfl, id, fun _ => rfl, longer, ⟨[], ?_, nofun, .inl ⟨rfl, fun _ => shut⟩⟩,
      fun _ => ⟨sps, pps, ?_, sets⟩⟩
    · exact samples.trans (append_nil _).symm
    · rw [shut, Bool.not_false, Bool.and_true]
      exact needIdr
  split
  next noPicture =>
    refine closed ?_
    rw [Bool.not_eq_true'] at noPicture
    rw [gate, noPicture, Bool.false_and]
  split
  next waits =>
    refine closed ?_
    rw [gate, waits, Bool.not_true, Bool.and_false]
  next picture waits =>
  have isOpen : file.track.gate unit = true := by
    rw [Bool.not_eq_true, Bool.not_eq_false'] at picture
    rw [Bool.not_eq_true] at waits
    rw [gate, picture, waits]
    rfl
  split
  · exact Written.failed fails rfl rfl id (fun _ => rfl) longer samples
  · exact Written.failed fails rfl rfl id (fun _ => rfl) longer samples
  next sei _ _ =>
  split
  · exact Written.failed fails rfl rfl id (fun _ => rfl) longer samples
  split
  · exact Written.failed fails rfl rfl id (fun _ => rfl) longer samples
  unfold File.putSample
  simp only
  obtain ⟨part, hardLimit, track, within⟩ := writePieces_grown
    { file with track := (file.track.scan calls.takes (nals unit)).1 } calls.pieces
  split
  next stored =>
    rw [if_pos rfl]
    let sample : Sample :=
      ⟨unit, sampleData (sei.drop 4) false (nals unit), file.frameDuration, hasIdr unit⟩
    refine ⟨part, hardLimit, within, fun shut => absurd (shut.symm.trans isOpen) nofun, ?_,
      ⟨[sample], ?_, ?_, .inr ⟨rfl, isOpen⟩⟩, fun _ => ⟨?_, ?_, ?_, ?_⟩⟩
    · show _ <+: ((File.writePieces _ _).1.track).parameterSets
      rw [track]
      exact longer
    · show ((File.writePieces _ _).1.track).samples ++ _ = _
      rw [track]
      exact congrArg (· ++ [sample]) samples
    · intro sample member
      rw [mem_singleton.mp member]
      exact ⟨_, rfl, rfl⟩
    · show ((File.writePieces _ _).1.track).needSps = _
      rw [track]
      exact sps
    · show ((File.writePieces _ _).1.track).needPps = _
      rw [track]
      exact pps
    · rw [isOpen, Bool.not_true, Bool.and_false]
    · show ((File.writePieces _ _).1.track).parameterSets = _
      rw [track]
      exact sets
  next =>
    rw [if_neg Bool.false_ne_true]
    refine Written.failed fails part hardLimit within
      (fun shut => absurd (shut.symm.trans isOpen) nofun) ?_ ?_
    · rw [track]
      exact longer
    · rw [track]
      exact samples

theorem writeRecordingFrame_written :
    Written unit file (file.writeRecordingFrame calls unit).1
      (∃ wrote, (file.writeRecordingFrame calls unit).2 = .ok wrote) := by
  have written := writeH264_written file calls unit
  unfold File.writeRecordingFrame
  simp only
  split
  next wrote =>
    have later (after : File) : Grown after
        { after with nextPts90k := after.nextPts90k + after.frameDuration } :=
      ⟨rfl, rfl, rfl, id⟩
    exact (written.clocked (later _) rfl).mono fun _ => ⟨true, wrote⟩
  · exact written

/-- What `file_write_h264` leaves. A sample can be left by a call that fails, when only the lock
could not be given back. -/
theorem write_written :
    Written unit file (file.write calls unit).1 ((file.write calls unit).2 = none) := by
  have written := writeRecordingFrame_written file calls unit
  unfold File.write
  split
  · exact Written.refl unit nofun
  split
  · exact Written.refl unit nofun
  simp only
  split
  · exact written.mono nofun
  next wrote result => exact written.mono fun _ => ⟨wrote, result⟩

end

/-! ### The parameter sets seen so far -/

theorem isParameterSet_of_mem (member : nal ∈ parameterSetsOf units) :
    isParameterSet nal = true := by
  obtain ⟨_, _, isIn⟩ := mem_flatMap.mp member
  exact (mem_filter.mp isIn).2

variable {headers : Bytes}

theorem Cached.nals (cached : Cached headers (parameterSetsOf units)) :
    Mp4.nals headers = (parameterSetsOf units).eraseDups := by
  unfold Mp4.nals
  rw [cached.nalUnits, filter_eq_self]
  intro nal member
  obtain ⟨_, _, isIn⟩ := mem_flatMap.mp (mem_eraseDups.mp member)
  exact (mem_filter.mp (mem_filter.mp isIn).1).2

theorem Cached.hasPicture (cached : Cached headers (parameterSetsOf units)) :
    hasPicture headers = false := by
  unfold Mp4.hasPicture
  rw [cached.nals, any_eq_false]
  intro nal member
  rw [isVcl_of_isParameterSet (isParameterSet_of_mem (mem_eraseDups.mp member))]
  exact nofun

theorem Cached.hasType (cached : Cached headers (parameterSetsOf units)) {type : UInt8}
    (isSet : type = 7 ∨ type = 8) : hasType type headers = units.any (Mp4.hasType type) := by
  rw [Bool.eq_iff_iff, any_hasType_iff isSet]
  unfold Mp4.hasType
  rw [cached.nals, any_eq_true]
  constructor
  · rintro ⟨nal, member, same⟩
    exact ⟨nal, mem_eraseDups.mp member, of_decide_eq_true same⟩
  · rintro ⟨nal, member, same⟩
    exact ⟨nal, mem_eraseDups.mpr member, decide_eq_true same⟩

/-! ### The next file -/

/-- A file that was opened and given the parameter sets seen so far. -/
structure Seeded (units : List Bytes) (part : Nat) (next : File) : Prop where
  part : next.part = part
  within : next.Within
  small : next.bytes ≤ 4096
  limit : fatMaxBytes ≤ next.hardLimit
  needSps : next.track.needSps = !units.any (hasType 7)
  needPps : next.track.needPps = !units.any (hasType 8)
  needIdr : next.track.needIdr = true
  parameterSets : next.track.parameterSets = (parameterSetsOf units).eraseDups
  samples : next.track.samples = []

theorem fileOpen_seeded {part : Nat} {format : Format} {opened : Except Errno Opened} {file : File}
    (succeeds : fileOpen part format opened = .ok file) : Seeded [] part file := by
  unfold fileOpen at succeeds
  split at succeeds
  · cases opened with
    | error errno => cases succeeds
    | ok opened =>
      cases succeeds
      have small := opened.small
      have limit : fatMaxBytes ≤ if opened.fat then fatMaxBytes else int64Max := by
        split
        · exact le_rfl
        · decide
      have within : opened.header ≤ if opened.fat then fatMaxBytes else int64Max :=
        small.trans ((by decide : 4096 ≤ fatMaxBytes).trans limit)
      exact ⟨rfl, ⟨within, within⟩, small, limit, rfl, rfl, rfl, rfl, rfl⟩
  · cases succeeds

theorem Seeded.write {part : Nat} {next : File} (seeded : Seeded [] part next)
    (cached : Cached headers (parameterSetsOf units)) {calls : WriteCalls}
    (succeeds : (next.write calls headers).2 = none) :
    Seeded units part (next.write calls headers).1 := by
  have written := write_written next calls headers
  have shut : next.track.gate headers = false := by
    unfold Track.gate
    rw [cached.hasPicture, Bool.false_and, Bool.false_and, Bool.false_and]
  obtain ⟨needSps, needPps, needIdr, parameterSets⟩ := written.taken succeeds
  refine ⟨written.part.trans seeded.part, written.within seeded.within, ?_, ?_, ?_, ?_, ?_, ?_, ?_⟩
  · rw [written.bytes shut]
    exact seeded.small
  · rw [written.hardLimit]
    exact seeded.limit
  · rw [needSps, seeded.needSps, cached.hasType (.inl rfl)]
    rfl
  · rw [needPps, seeded.needPps, cached.hasType (.inr rfl)]
    rfl
  · rw [needIdr, seeded.needIdr, shut]
    rfl
  · have sets : (parameterSetsOf units).eraseDups.filter isParameterSet =
        (parameterSetsOf units).eraseDups :=
      filter_eq_self.mpr fun nal member =>
        isParameterSet_of_mem (mem_eraseDups.mp member)
    rw [parameterSets, seeded.parameterSets, cached.nals, sets]
    rfl
  · obtain ⟨added, same, -, ⟨rfl, -⟩ | ⟨-, isOpen⟩⟩ := written.samples
    · rw [same, seeded.samples]
      rfl
    · rw [shut] at isOpen
      cases isOpen

open Writer

theorem rollFile_seeded {writer : Writer} {units : List (Bytes)}
    (cached : Cached writer.headers (parameterSetsOf units)) (calls : RollCalls) :
    (writer.rollFile calls).1 = writer ∧ (writer.rollFile calls).2 ≠ none ∨
      ∃ next, Seeded units (writer.part + 1) next ∧
        writer.rollFile calls =
          ({ writer with
              part := writer.part + 1
              file := next
              retired := some ⟨writer.file, none⟩ },
            none) := by
  unfold rollFile
  split
  · exact .inl ⟨rfl, nofun⟩
  split
  · exact .inl ⟨rfl, nofun⟩
  simp only
  split
  · exact .inl ⟨rfl, nofun⟩
  next next opened =>
  have seeded := fileOpen_seeded opened
  by_cases empty : writer.headers = []
  · rw [if_pos empty]
    split
    · exact .inl ⟨rfl, nofun⟩
    · refine .inr ⟨next, ?_, rfl⟩
      have none : (parameterSetsOf units).eraseDups = [] := by
        rw [← cached.nals, empty, nals_nil]
      have unseen {type : UInt8} (isSet : type = 7 ∨ type = 8) :
          units.any (hasType type) = false := by
        rw [← cached.hasType isSet, empty]
        unfold hasType
        rw [nals_nil, any_nil]
      refine ⟨seeded.part, seeded.within, seeded.small, seeded.limit, ?_, ?_, seeded.needIdr, ?_,
        seeded.samples⟩
      · rw [seeded.needSps, unseen (.inl rfl)]
        rfl
      · rw [seeded.needPps, unseen (.inr rfl)]
        rfl
      · rw [seeded.parameterSets, none]
        rfl
  · rw [if_neg empty]
    split
    · exact .inl ⟨rfl, nofun⟩
    next succeeds =>
      have succeeds := (Option.or_eq_none_iff.mp succeeds).1
      exact .inr ⟨_, seeded.write cached succeeds, rfl⟩

/-! ### The books of the writer -/

/-- The files whose worker has closed them, and the part after them when its worker has, too. -/
def Writer.closedFiles (writer : Writer) : List File :=
  writer.finished ++ (writer.retired.toList.filter fun retired => retired.result.isSome).map
    Retired.file

/-- The parts are numbered through, the workers of all files behind the writer were joined once,
and each file that a worker has finished was closed once. -/
structure Accounts (writer : Writer) : Prop where
  parts : writer.files.map File.part = List.range' 1 writer.part
  joins : writer.joins = writer.finished.map File.part
  closes : writer.closes = writer.closedFiles.map File.part

/-- A writer with the same files, whose books are kept. -/
structure Kept (before after : Writer) : Prop where
  files : after.files = before.files
  file : after.file = before.file
  part : after.part = before.part
  rollBytes : after.rollBytes = before.rollBytes
  error : after.error = before.error
  accounts : Accounts before → Accounts after

theorem Kept.refl (writer : Writer) : Kept writer writer := ⟨rfl, rfl, rfl, rfl, rfl, id⟩

theorem reapFile_kept (writer : Writer) :
    Kept writer writer.reapFile.1 ∧ writer.reapFile.1.headers = writer.headers ∧
      (writer.reapFile.2 = .ok false → writer.reapFile.1.retired = none) := by
  unfold reapFile
  split
  next none => exact ⟨Kept.refl writer, rfl, fun _ => none⟩
  · exact ⟨Kept.refl writer, rfl, nofun⟩
  next file error closed =>
    have files : writer.finished ++ [file] ++ [] = writer.earlier := by
      unfold earlier
      rw [closed, append_nil]
      rfl
    refine ⟨⟨congrArg (· ++ [writer.file]) files, rfl, rfl, rfl, rfl, fun accounts => ?_⟩, rfl,
      fun _ => rfl⟩
    refine ⟨?_, ?_, ?_⟩
    · rw [← accounts.parts]
      exact congrArg (fun files => (files ++ [writer.file]).map File.part) files
    · show writer.joins ++ [file.part] = (writer.finished ++ [file]).map File.part
      rw [accounts.joins, map_append]
      rfl
    · show writer.closes = (writer.finished ++ [file] ++ []).map File.part
      rw [accounts.closes, append_nil]
      unfold closedFiles
      rw [closed]
      rfl

theorem retireFile_cases (writer : Writer) (calls : CloseCalls) :
    writer.retireFile calls = writer ∨ ∃ file closed result,
      writer.retired = some ⟨file, none⟩ ∧ Grown file closed ∧
      writer.retireFile calls =
        { writer with
          retired := some ⟨closed, some result⟩
          closes := writer.closes ++ [file.part] } := by
  unfold retireFile
  split
  next file closing =>
    exact .inr ⟨file, (file.close calls).1, (file.close calls).2.elim 0 errnoOr, closing,
      close_grown file calls, rfl⟩
  · exact .inl rfl

variable {writer : Writer}

theorem retireFile_accounts (accounts : Accounts writer) (calls : CloseCalls) :
    Accounts (writer.retireFile calls) := by
  obtain same | ⟨file, closed, result, closing, grown, same⟩ := retireFile_cases writer calls
  · rw [same]
    exact accounts
  rw [same]
  refine ⟨?_, accounts.joins, ?_⟩
  · rw [← accounts.parts]
    unfold files earlier
    rw [closing]
    show ((writer.finished ++ [closed]) ++ [writer.file]).map File.part =
      ((writer.finished ++ [file]) ++ [writer.file]).map File.part
    rw [map_append, map_append, map_append, map_append, map_singleton,
      map_singleton, map_singleton, grown.part]
  · show writer.closes ++ [file.part] = (writer.finished ++ [closed]).map File.part
    rw [accounts.closes, map_append, map_singleton, grown.part]
    unfold closedFiles
    rw [closing]
    show (writer.finished ++ []).map File.part ++ [file.part] = _
    rw [append_nil]

/-! ### Going on in the next file -/

/-- A writer that went on in the next file, at an access unit with an IDR, when the current file
had reached the threshold. -/
structure Rolled (units : List Bytes) (unit : Bytes) (before after : Writer) :
    Prop where
  idr : hasIdr unit = true
  reached : before.rollBytes ≤ before.file.bytes
  files : after.files = before.files ++ [after.file]
  seeded : Seeded (units ++ [unit]) (before.part + 1) after.file
  rollBytes : after.rollBytes = before.rollBytes
  error : after.error = before.error
  accounts : Accounts before → Accounts after

theorem parameterSetsOf_concat (units : List Bytes) (unit : Bytes) :
    parameterSetsOf (units ++ [unit]) =
      parameterSetsOf units ++ (nals unit).filter isParameterSet := by
  unfold parameterSetsOf
  rw [flatMap_append, flatMap_singleton]

theorem rolled_accounts {next : File} (accounts : Accounts writer) (reaped : writer.retired = none)
    (seeded : Seeded units (writer.part + 1) next) :
    Accounts
      { writer with
        part := writer.part + 1
        file := next
        retired := some ⟨writer.file, none⟩ } := by
  have parts := accounts.parts
  have closes := accounts.closes
  unfold files earlier at parts
  unfold closedFiles at closes
  rw [reaped] at parts closes
  rw [show writer.finished ++ map Retired.file none.toList = writer.finished from
    append_nil _] at parts
  refine ⟨?_, accounts.joins, closes⟩
  show ((writer.finished ++ [writer.file]) ++ [next]).map File.part = range' 1 (writer.part + 1)
  rw [map_append, parts, map_singleton, seeded.part, range'_concat, one_mul, add_comm 1]

theorem prepare_cases (cached : Cached writer.headers (parameterSetsOf units))
    (threshold : writer.rollBytes ≠ 0) (calls : UnitCalls) (unit : Bytes) :
    let prepared := writer.prepare calls unit
    prepared.2 ≠ none ∧ Kept writer prepared.1 ∨
      prepared.2 = none ∧ Cached prepared.1.headers (parameterSetsOf (units ++ [unit])) ∧
        (Kept writer prepared.1 ∨ Rolled units unit writer prepared.1) := by
  obtain ⟨kept, headers, reaped⟩ := reapFile_kept writer
  unfold prepare
  simp only
  split
  · exact .inl ⟨nofun, kept⟩
  next awaits result =>
  rw [if_neg (kept.rollBytes ▸ threshold)]
  have keptToo (headers : Bytes) :
      Kept writer { writer.reapFile.1 with headers } :=
    ⟨kept.files, kept.file, kept.part, kept.rollBytes, kept.error,
      fun accounts => ⟨(kept.accounts accounts).parts, (kept.accounts accounts).joins,
        (kept.accounts accounts).closes⟩⟩
  split
  · exact .inl ⟨nofun, keptToo _⟩
  next cachedNow =>
  have cachedToo : Cached (cacheHeaders calls.realloc writer.reapFile.1.headers (nals unit)).1
      (parameterSetsOf (units ++ [unit])) := by
    rw [parameterSetsOf_concat]
    rw [headers] at cachedNow ⊢
    exact cacheHeaders_cached calls.realloc cached (fun _ member => nalUnit_of_nals member)
      cachedNow
  split
  next rolls =>
    rw [Bool.and_eq_true, Bool.and_eq_true, decide_eq_true_eq, Bool.not_eq_true'] at rolls
    obtain ⟨⟨idr, reached⟩, waitsNot⟩ := rolls
    rw [waitsNot] at result
    have empty := reaped result
    let ready : Writer :=
      { writer.reapFile.1 with
        headers := (cacheHeaders calls.realloc writer.reapFile.1.headers (nals unit)).1 }
    obtain ⟨same, fails⟩ | ⟨next, seeded, same⟩ := @rollFile_seeded ready _ cachedToo calls.roll
    · refine .inl ⟨fails, ?_⟩
      rw [same]
      exact keptToo _
    · refine .inr ?_
      rw [same]
      refine ⟨rfl, cachedToo, .inr ⟨idr, ?_, ?_, ?_, kept.rollBytes, kept.error, ?_⟩⟩
      · rw [← kept.rollBytes, ← kept.file]
        exact reached
      · rw [← kept.files]
        unfold files earlier
        rw [empty]
        show writer.reapFile.1.finished ++ [writer.reapFile.1.file] ++ [next] =
          writer.reapFile.1.finished ++ [] ++ [writer.reapFile.1.file] ++ [next]
        rw [append_nil]
      · rw [← kept.part]
        exact seeded
      · intro accounts
        exact rolled_accounts ((keptToo _).accounts accounts) empty seeded
  · exact .inr ⟨rfl, cachedToo, .inl (keptToo _)⟩

/-! ### Going on from the first IDR -/

/-- Nothing can be decoded yet. -/
def waits (units : List Bytes) : Bool := (fromFirstIdr false false units).isEmpty

/-- An access unit after those taken is at or behind the first IDR. -/
def counts (units : List Bytes) (unit : Bytes) : Bool :=
  !waits units ||
    (units ++ [unit]).any (hasType 7) && (units ++ [unit]).any (hasType 8) && hasIdr unit

theorem fromFirstIdr_concat (units : List Bytes) (unit : Bytes) :
    fromFirstIdr false false (units ++ [unit]) =
      fromFirstIdr false false units ++ if counts units unit then [unit] else [] := by
  by_cases waiting : fromFirstIdr false false units = []
  · have one (type : UInt8) : (units ++ [unit]).any (hasType type) =
        (false || units.any (hasType type) || hasType type unit) := by
      rw [any_append, any_cons, any_nil, Bool.or_false, Bool.false_or]
    unfold counts waits
    rw [fromFirstIdr_of_waiting waiting, waiting, one 7, one 8]
    rfl
  · have counted : counts units unit = true := by
      unfold counts waits
      rw [isEmpty_eq_false_iff.mpr waiting]
      rfl
    rw [fromFirstIdr_of_started waiting, if_pos counted]

theorem waits_concat (units : List Bytes) (unit : Bytes) :
    waits (units ++ [unit]) = (waits units && !counts units unit) := by
  unfold waits
  rw [fromFirstIdr_concat]
  cases fromFirstIdr false false units with
  | nil => cases counts units unit <;> rfl
  | cons first rest => rfl

/-- The flags of a track at which an access unit arrives: it waits for a parameter set exactly
when none was seen, and for an IDR exactly when nothing can be decoded or the file is new. -/
structure Flags (units : List Bytes) (unit : Bytes) (track : Track) : Prop where
  needSps : (track.needSps && !hasType 7 unit) = !(units ++ [unit]).any (hasType 7)
  needPps : (track.needPps && !hasType 8 unit) = !(units ++ [unit]).any (hasType 8)
  needIdr : track.needIdr = waits units ∨ track.needIdr = true ∧ hasIdr unit = true

theorem any_concat_of_not_waits (started : waits units = false) (unit : Bytes) :
    (units ++ [unit]).any (hasType 7) = true ∧ (units ++ [unit]).any (hasType 8) = true := by
  obtain ⟨sps, pps⟩ := seen_of_started (isEmpty_eq_false_iff.mp started)
  rw [Bool.false_or] at sps pps
  rw [any_append, any_append, sps, pps]
  exact ⟨rfl, rfl⟩

theorem Flags.gate {track : Track} (flags : Flags units unit track) :
    track.gate unit = (hasPicture unit && counts units unit) := by
  unfold Track.gate
  rw [flags.needSps, flags.needPps, Bool.not_not, Bool.not_not]
  unfold counts
  cases started : waits units with
  | false =>
    obtain ⟨sps, pps⟩ := any_concat_of_not_waits started unit
    have idr : (track.needIdr && !hasIdr unit) = false := by
      rcases flags.needIdr with same | ⟨-, idr⟩
      · rw [same, started, Bool.false_and]
      · rw [idr, Bool.not_true, Bool.and_false]
    rw [sps, pps, idr, Bool.and_true, Bool.and_true, Bool.not_false, Bool.true_or]
  | true =>
    have needIdr : track.needIdr = true := by
      rcases flags.needIdr with same | ⟨needIdr, -⟩
      · exact same.trans started
      · exact needIdr
    rw [needIdr, Bool.true_and, Bool.not_not, Bool.not_true, Bool.false_or, Bool.and_assoc,
      Bool.and_assoc, Bool.and_assoc]

theorem Flags.needIdr_after {track : Track} (flags : Flags units unit track) :
    (track.needIdr && !track.gate unit) = waits (units ++ [unit]) := by
  rw [waits_concat, flags.gate]
  have picture (idr : hasIdr unit = true) :
      (hasPicture unit && counts units unit) = counts units unit := by
    rw [hasPicture_of_hasIdr idr, Bool.true_and]
  cases started : waits units with
  | false =>
    rcases flags.needIdr with same | ⟨-, idr⟩
    · rw [same, started, Bool.false_and, Bool.false_and]
    · have counted : counts units unit = true := by
        unfold counts
        rw [started]
        rfl
      rw [picture idr, counted, Bool.not_true, Bool.and_false, Bool.and_false]
  | true =>
    have needIdr : track.needIdr = true := by
      rcases flags.needIdr with same | ⟨needIdr, -⟩
      · exact same.trans started
      · exact needIdr
    rw [needIdr]
    by_cases idr : hasIdr unit = true
    · rw [picture idr]
    · have shut : counts units unit = false := by
        unfold counts
        rw [started, Bool.eq_false_iff.mpr idr, Bool.and_false]
        rfl
      rw [shut, Bool.and_false]

/-! ### The invariant -/

/-- The access units in the files, one file after the other. -/
def Writer.recorded (writer : Writer) : List Bytes :=
  (writer.files.flatMap fun file => file.track.samples).map Sample.unit

/-- The pictures from the first IDR on. -/
def pictures (units : List Bytes) : List Bytes :=
  (fromFirstIdr false false units).filter hasPicture

/-- The file was begun in a call for an access unit with an IDR: it was given the parameter sets
seen so far, each once, and starts with that access unit. -/
def File.Continued (log : List Entry) (file : File) : Prop :=
  ∃ before call after, log = before ++ call :: after ∧ hasIdr call.unit = true ∧
    (parameterSetsOf (taken before ++ [call.unit])).eraseDups <+: file.track.parameterSets ∧
    ∀ sample ∈ file.track.samples.head?, sample.unit = call.unit

/-- What holds of every file. -/
structure File.Sound (log : List Entry) (file : File) : Prop where
  within : file.Within
  holds : ∀ sample ∈ file.track.samples, sample.Holds
  continued : file.part ≠ 1 → file.Continued log

/-- What holds of the writer while no call has failed. -/
structure Going (units : List Bytes) (writer : Writer) : Prop where
  needSps : writer.file.track.needSps = !units.any (hasType 7)
  needPps : writer.file.track.needPps = !units.any (hasType 8)
  needIdr : writer.file.track.needIdr = waits units
  idle : waits units = true → writer.file.bytes ≤ 4096
  begun : writer.file.part ≠ 1 → writer.file.track.samples ≠ []
  headers : Cached writer.headers (parameterSetsOf units)
  recorded : writer.recorded = pictures units

/-- What holds of it when an access unit is written to the file. -/
structure Ready (units : List Bytes) (unit : Bytes) (writer : Writer) : Prop where
  flags : Flags units unit writer.file.track
  idle : waits units = true → writer.file.bytes ≤ 4096
  begun : writer.file.part ≠ 1 → writer.file.track.samples = [] →
    waits units = false ∧ hasIdr unit = true ∧
      (parameterSetsOf (units ++ [unit])).eraseDups <+: writer.file.track.parameterSets
  headers : Cached writer.headers (parameterSetsOf (units ++ [unit]))
  recorded : writer.recorded = pictures units

theorem File.Continued.later {log : List Entry} {file : File} (continued : file.Continued log)
    (entry : Entry) : file.Continued (log ++ [entry]) := by
  obtain ⟨before, call, after, same, holds⟩ := continued
  exact ⟨before, call, after ++ [entry], by rw [same, append_assoc, cons_append], holds⟩

theorem File.Sound.later {log : List Entry} {file : File} (sound : file.Sound log) (entry : Entry) :
    file.Sound (log ++ [entry]) :=
  ⟨sound.within, sound.holds, fun behind => (sound.continued behind).later entry⟩

theorem waits_append (waiting : waits (units ++ [unit]) = true) : waits units = true := by
  rw [waits_concat, Bool.and_eq_true] at waiting
  exact waiting.1

variable {before : Writer}

theorem Going.ready {after : Writer} (going : Going units before) (kept : Kept before after)
    (headers : Cached after.headers (parameterSetsOf (units ++ [unit]))) :
    Ready units unit after := by
  refine ⟨⟨?_, ?_, .inl ?_⟩, ?_, ?_, headers, ?_⟩
  · rw [kept.file, going.needSps, ← Bool.not_or, any_append, any_cons, any_nil, Bool.or_false]
  · rw [kept.file, going.needPps, ← Bool.not_or, any_append, any_cons, any_nil, Bool.or_false]
  · rw [kept.file, going.needIdr]
  · rw [kept.file]
    exact going.idle
  · rw [kept.file]
    exact fun behind empty => absurd empty (going.begun behind)
  · unfold Writer.recorded
    rw [kept.files]
    exact going.recorded

theorem Going.rolled {after : Writer} (going : Going units before)
    (threshold : 65536 ≤ before.rollBytes) (rolled : Rolled units unit before after)
    (headers : Cached after.headers (parameterSetsOf (units ++ [unit]))) :
    Ready units unit after := by
  have started : waits units = false := by
    refine Bool.eq_false_iff.mpr fun waiting => ?_
    have small := going.idle waiting
    have reached := rolled.reached
    omega
  refine ⟨⟨?_, ?_, .inr ⟨rolled.seeded.needIdr, rolled.idr⟩⟩, ?_, ?_, headers, ?_⟩
  · rw [rolled.seeded.needSps, (any_concat_of_not_waits started unit).1]
    rfl
  · rw [rolled.seeded.needPps, (any_concat_of_not_waits started unit).2]
    rfl
  · rw [started]
    exact nofun
  · intro _ _
    refine ⟨started, rolled.idr, ?_⟩
    rw [rolled.seeded.parameterSets]
  · unfold Writer.recorded
    rw [rolled.files, flatMap_append, map_append, flatMap_singleton,
      rolled.seeded.samples, map_nil, append_nil]
    exact going.recorded

theorem recorded_write (writer : Writer) {added : List Sample}
    (same : after.track.samples = writer.file.track.samples ++ added) :
    recorded { writer with file := after } = writer.recorded ++ added.map Sample.unit := by
  unfold recorded files
  rw [flatMap_append, flatMap_append, flatMap_singleton, flatMap_singleton]
  show (writer.earlier.flatMap (fun file => file.track.samples) ++ after.track.samples).map
    Sample.unit = _
  rw [same, ← append_assoc, map_append]

theorem pictures_concat (units : List Bytes) (unit : Bytes) :
    pictures (units ++ [unit]) =
      pictures units ++ if hasPicture unit && counts units unit then [unit] else [] := by
  unfold pictures
  rw [fromFirstIdr_concat, filter_append]
  congr 1
  cases counts units unit with
  | false => rw [Bool.and_false]; rfl
  | true =>
    rw [Bool.and_true, if_pos rfl, filter_cons]
    rfl

theorem Ready.going (ready : Ready units unit writer)
    (written : Written unit writer.file after True) :
    Going (units ++ [unit]) { writer with file := after } := by
  obtain ⟨needSps, needPps, needIdr, -⟩ := written.taken trivial
  obtain ⟨added, same, -, result⟩ := written.samples
  have gate := ready.flags.gate
  refine ⟨?_, ?_, ?_, ?_, ?_, ready.headers, ?_⟩
  · rw [← ready.flags.needSps]
    exact needSps
  · rw [← ready.flags.needPps]
    exact needPps
  · rw [← ready.flags.needIdr_after]
    exact needIdr
  · intro waiting
    have shut : writer.file.track.gate unit = false := by
      have uncounted := waiting
      rw [waits_concat, Bool.and_eq_true, Bool.not_eq_true'] at uncounted
      rw [gate, uncounted.2, Bool.and_false]
    show after.bytes ≤ 4096
    rw [written.bytes shut]
    exact ready.idle (waits_append waiting)
  · intro behind
    show after.track.samples ≠ []
    rw [same]
    by_cases empty : writer.file.track.samples = []
    · have behind : writer.file.part ≠ 1 := written.part ▸ behind
      obtain ⟨started, idr, -⟩ := ready.begun behind empty
      have isOpen : writer.file.track.gate unit = true := by
        unfold counts at gate
        rw [gate, hasPicture_of_hasIdr idr, started]
        rfl
      rcases result with ⟨-, shut⟩ | ⟨one, -⟩
      · rw [shut trivial] at isOpen
        cases isOpen
      · rw [empty, nil_append]
        rintro rfl
        cases one
    · exact fun both => empty (append_eq_nil_iff.mp both).1
  · rw [recorded_write writer same, ready.recorded, pictures_concat, ← gate]
    rcases result with ⟨rfl, shut⟩ | ⟨one, isOpen⟩
    · rw [shut trivial]
      rfl
    · rw [one, isOpen]
      rfl

/-! ### One call -/

/-- What holds after a call has failed: nothing was taken since, and the files hold what they held
before it and at most its own access unit. -/
def Failed (log : List Entry) (writer : Writer) : Prop :=
  ∃ before call after torn, log = before ++ call :: after ∧ call.outcome = .failed ∧
    (∀ entry ∈ before, entry.outcome ≠ .failed) ∧ (∀ entry ∈ after, entry.outcome ≠ .taken) ∧
    writer.recorded = pictures (taken before) ++ torn ∧ (torn = [] ∨ torn = [call.unit])

structure Invariant (recording : Recording) : Prop where
  threshold : 65536 ≤ recording.writer.rollBytes
  accounts : Accounts recording.writer
  sound : ∀ file ∈ recording.writer.files, file.Sound recording.log
  state : recording.writer.error = 0 ∧ (∀ entry ∈ recording.log, entry.outcome ≠ .failed) ∧
      Going (taken recording.log) recording.writer ∨
    recording.writer.error ≠ 0 ∧ Failed recording.log recording.writer

theorem taken_concat (log : List Entry) (unit : Bytes) :
    taken (log ++ [⟨unit, .taken⟩]) = taken log ++ [unit] := by
  unfold taken
  rw [filter_append, map_append]
  rfl

theorem taken_argument (log : List Entry) (unit : Bytes) :
    taken (log ++ [⟨unit, .argument⟩]) = taken log := by
  unfold taken
  rw [filter_append, map_append]
  exact append_nil _

theorem errnoOr_ne_zero (errno : Errno) : errnoOr errno ≠ 0 := by
  unfold errnoOr
  split
  · decide
  next notZero => exact notZero

variable {log : List Entry}

theorem sound_prepared {after : Writer} (sound : ∀ file ∈ before.files, file.Sound log)
    (either : Kept before after ∨ Rolled (taken log) unit before after) (outcome : Outcome) :
    ∀ file ∈ after.files, file.Sound (log ++ [⟨unit, outcome⟩]) := by
  rcases either with kept | rolled
  · rw [kept.files]
    exact fun file member => (sound file member).later _
  · rw [rolled.files]
    intro file member
    rcases mem_append.mp member with old | new
    · exact (sound file old).later _
    · rw [mem_singleton.mp new]
      refine ⟨rolled.seeded.within, ?_, fun _ => ?_⟩
      · rw [rolled.seeded.samples]
        exact nofun
      · refine ⟨log, ⟨unit, outcome⟩, [], rfl, rolled.idr, ?_, ?_⟩
        · rw [rolled.seeded.parameterSets]
        · rw [rolled.seeded.samples]
          exact nofun

section

variable {outcome : Outcome} (written : Written unit writer.file after succeeds)
  (ready : Ready (taken log) unit writer)

include written ready

theorem continued_written (behind : after.part ≠ 1)
    (continued : writer.file.Continued (log ++ [⟨unit, outcome⟩])) :
    after.Continued (log ++ [⟨unit, outcome⟩]) := by
  obtain ⟨added, same, -, result⟩ := written.samples
  by_cases empty : writer.file.track.samples = []
  · obtain ⟨-, idr, seeds⟩ := ready.begun (written.part ▸ behind) empty
    refine ⟨log, ⟨unit, outcome⟩, [], rfl, idr, seeds.trans written.parameterSets, ?_⟩
    rw [same, empty, nil_append]
    intro sample first
    rcases result with ⟨rfl, -⟩ | ⟨one, -⟩
    · cases first
    · have member := mem_map_of_mem (mem_of_mem_head? first) (f := Sample.unit)
      rw [one] at member
      exact mem_singleton.mp member
  · obtain ⟨before, call, later, entries, idr, seeds, first⟩ := continued
    refine ⟨before, call, later, entries, idr, seeds.trans written.parameterSets, ?_⟩
    rw [same, head?_append_of_ne_nil _ empty]
    exact first

theorem sound_written (sound : ∀ file ∈ writer.files, file.Sound (log ++ [⟨unit, outcome⟩])) :
    ∀ file ∈ files { writer with file := after }, file.Sound (log ++ [⟨unit, outcome⟩]) := by
  intro file member
  rcases mem_append.mp member with old | new
  · exact sound file (mem_append_left _ old)
  · rw [mem_singleton.mp new]
    have current := sound writer.file (mem_append_right _ (mem_singleton.mpr rfl))
    refine ⟨written.within current.within, ?_, fun behind => ?_⟩
    · obtain ⟨added, same, holds, -⟩ := written.samples
      show ∀ sample ∈ after.track.samples, sample.Holds
      rw [same]
      exact forall_mem_append.mpr ⟨current.holds, holds⟩
    · exact continued_written written ready behind (current.continued (written.part ▸ behind))

end

theorem accounts_written (accounts : Accounts writer) (part : after.part = writer.file.part) :
    Accounts { writer with file := after } := by
  refine ⟨?_, accounts.joins, accounts.closes⟩
  rw [← accounts.parts]
  show (writer.earlier ++ [after]).map File.part = (writer.earlier ++ [writer.file]).map File.part
  rw [map_append, map_append, map_singleton, map_singleton, part]

theorem invariant_fail (errno : Errno) {torn : List (Bytes)}
    (threshold : 65536 ≤ writer.rollBytes) (accounts : Accounts writer)
    (sound : ∀ file ∈ writer.files, file.Sound (log ++ [⟨unit, .failed⟩]))
    (noneFailed : ∀ entry ∈ log, entry.outcome ≠ .failed)
    (recorded : writer.recorded = pictures (taken log) ++ torn) (one : torn = [] ∨ torn = [unit]) :
    Invariant ⟨(writer.fail errno).1, log ++ [⟨unit, (writer.fail errno).2⟩]⟩ :=
  ⟨threshold, ⟨accounts.parts, accounts.joins, accounts.closes⟩, sound,
    .inr ⟨errnoOr_ne_zero errno, log, ⟨unit, .failed⟩, [], torn, rfl, rfl, noneFailed, nofun,
      recorded, one⟩⟩

theorem ready_of_prepared {after : Writer} (going : Going (taken log) before)
    (threshold : 65536 ≤ before.rollBytes)
    (headers : Cached after.headers (parameterSetsOf (taken log ++ [unit])))
    (either : Kept before after ∨ Rolled (taken log) unit before after) :
    Ready (taken log) unit after := by
  rcases either with kept | rolled
  · exact going.ready kept headers
  · exact going.rolled threshold rolled headers

theorem invariant_written (calls : WriteCalls) (threshold : 65536 ≤ writer.rollBytes)
    (accounts : Accounts writer) (error : writer.error = 0)
    (noneFailed : ∀ entry ∈ log, entry.outcome ≠ .failed) (ready : Ready (taken log) unit writer)
    (sound : ∀ outcome, ∀ file ∈ writer.files, file.Sound (log ++ [⟨unit, outcome⟩])) :
    let written := writer.file.write calls unit
    let after := { writer with file := written.1 }
    (∀ errno, written.2 = some errno →
      Invariant ⟨(after.fail errno).1, log ++ [⟨unit, (after.fail errno).2⟩]⟩) ∧
    (written.2 = none → Invariant ⟨after, log ++ [⟨unit, .taken⟩]⟩) := by
  have written := write_written writer.file calls unit
  have accountsToo := accounts_written accounts written.part
  constructor
  · intro errno fails
    obtain ⟨added, same, -, result⟩ := written.samples
    have recorded := recorded_write writer same
    rw [ready.recorded] at recorded
    have one : added.map Sample.unit = [] ∨ added.map Sample.unit = [unit] := by
      rcases result with ⟨rfl, -⟩ | ⟨one, -⟩
      · exact .inl rfl
      · exact .inr one
    exact invariant_fail errno threshold accountsToo
      (sound_written written ready (sound .failed)) noneFailed recorded one
  · intro succeeds
    refine ⟨threshold, accountsToo, sound_written written ready (sound .taken),
      .inl ⟨error, ?_, ?_⟩⟩
    · exact forall_mem_append.mpr ⟨noneFailed, forall_mem_singleton.mpr nofun⟩
    · show Going (taken (log ++ [⟨unit, .taken⟩])) _
      rw [taken_concat]
      exact ready.going (written.mono fun _ => succeeds)

theorem Failed.later {log : List Entry} {writer : Writer} (failed : Failed log writer)
    (unit : Bytes) {outcome : Outcome} (notTaken : outcome ≠ .taken) :
    Failed (log ++ [⟨unit, outcome⟩]) writer := by
  obtain ⟨before, call, after, torn, same, isFailed, noneBefore, noneAfter, recorded, one⟩ := failed
  refine ⟨before, call, after ++ [⟨unit, outcome⟩], torn, ?_, isFailed, noneBefore, ?_, recorded,
    one⟩
  · rw [same, append_assoc, cons_append]
  · exact forall_mem_append.mpr ⟨noneAfter, forall_mem_singleton.mpr notTaken⟩

theorem noneFailed_concat (noneFailed : ∀ entry ∈ log, entry.outcome ≠ .failed) (unit : Bytes)
    {outcome : Outcome} (notFailed : outcome ≠ .failed) :
    ∀ entry ∈ log ++ [⟨unit, outcome⟩], entry.outcome ≠ .failed :=
  forall_mem_append.mpr ⟨noneFailed, forall_mem_singleton.mpr notFailed⟩

/-- Every call keeps the invariant. -/
theorem invariant_write (invariant : Invariant ⟨writer, log⟩) (unit : Bytes)
    (calls : UnitCalls) : Invariant (step ⟨writer, log⟩ (.write unit calls)) := by
  obtain ⟨threshold, accounts, sound, state⟩ := invariant
  have soundLater (outcome : Outcome) :
      ∀ file ∈ writer.files, file.Sound (log ++ [⟨unit, outcome⟩]) :=
    fun file member => (sound file member).later _
  show Invariant ⟨(writer.writeH264 calls unit).1, log ++ [⟨unit, (writer.writeH264 calls unit).2⟩]⟩
  unfold writeH264
  split
  · -- the argument is refused, and nothing is looked at
    refine ⟨threshold, accounts, soundLater .argument, ?_⟩
    rcases state with ⟨error, noneFailed, going⟩ | ⟨error, failed⟩
    · refine .inl ⟨error, noneFailed_concat noneFailed unit nofun, ?_⟩
      show Going (taken (log ++ [⟨unit, .argument⟩])) writer
      rw [taken_argument]
      exact going
    · exact .inr ⟨error, failed.later unit nofun⟩
  split
  next error =>
    -- a call has failed before
    obtain ⟨-, failed⟩ := state.resolve_left fun going => error going.1
    exact ⟨threshold, accounts, soundLater .failed, .inr ⟨error, failed.later unit nofun⟩⟩
  next noError =>
  obtain ⟨error, noneFailed, going⟩ := state.resolve_right fun failed => noError failed.1
  have positive : writer.rollBytes ≠ 0 := Nat.ne_of_gt ((by decide : 0 < 65536).trans_le threshold)
  simp only
  obtain ⟨fails, kept⟩ | ⟨succeeds, headers, either⟩ :=
    prepare_cases going.headers positive calls unit
  · obtain ⟨errno, fails⟩ := Option.ne_none_iff_exists'.mp fails
    rw [fails]
    refine invariant_fail errno (kept.rollBytes ▸ threshold) (kept.accounts accounts)
      (sound_prepared sound (.inl kept) .failed) noneFailed ?_ (.inl rfl)
    unfold recorded
    rw [kept.files, append_nil]
    exact going.recorded
  rw [succeeds]
  have ready := ready_of_prepared going threshold headers either
  have soundPrepared := sound_prepared sound either
  have rollBytes : (writer.prepare calls unit).1.rollBytes = writer.rollBytes := by
    rcases either with kept | rolled
    · exact kept.rollBytes
    · exact rolled.rollBytes
  have errorToo : (writer.prepare calls unit).1.error = 0 := by
    rcases either with kept | rolled
    · exact kept.error.trans error
    · exact rolled.error.trans error
  have accountsToo : Accounts (writer.prepare calls unit).1 := by
    rcases either with kept | rolled
    · exact kept.accounts accounts
    · exact rolled.accounts accounts
  simp only
  split
  · -- the bound refuses the access unit
    refine invariant_fail fileTooBig (rollBytes ▸ threshold) accountsToo (soundPrepared .failed)
      noneFailed ?_ (.inl rfl)
    rw [ready.recorded, append_nil]
  obtain ⟨fails, succeeds⟩ := invariant_written calls.write (rollBytes ▸ threshold) accountsToo
    errorToo noneFailed ready soundPrepared
  split
  next errno failed => exact fails errno failed
  next written => exact succeeds written

/-! ### Every run -/

theorem File.Sound.grown {before : File} (sound : before.Sound log) (grown : Grown before after) :
    after.Sound log := by
  refine ⟨grown.within sound.within, ?_, fun behind => ?_⟩
  · rw [grown.track]
    exact sound.holds
  · unfold File.Continued
    rw [grown.track]
    exact sound.continued (grown.part ▸ behind)

theorem retireFile_files (writer : Writer) (calls : CloseCalls) :
    ∀ file ∈ (writer.retireFile calls).files, ∃ former ∈ writer.files, Grown former file := by
  intro file member
  obtain same | ⟨former, closed, result, closing, grown, same⟩ := retireFile_cases writer calls
  · rw [same] at member
    exact ⟨file, member, Grown.refl file⟩
  have before : writer.files = writer.finished ++ [former] ++ [writer.file] := by
    unfold files earlier
    rw [closing]
    rfl
  rw [same] at member
  rw [before]
  have member : file ∈ writer.finished ++ [closed] ++ [writer.file] := member
  rcases mem_append.mp member with earlier | current
  · rcases mem_append.mp earlier with old | new
    · exact ⟨file, mem_append_left _ (mem_append_left _ old), Grown.refl file⟩
    · rw [mem_singleton.mp new]
      exact ⟨former, mem_append_left _ (mem_append_right _ (mem_singleton.mpr rfl)), grown⟩
  · exact ⟨file, mem_append_right _ current, Grown.refl file⟩

theorem retireFile_recorded (writer : Writer) (calls : CloseCalls) :
    (writer.retireFile calls).recorded = writer.recorded := by
  obtain same | ⟨file, closed, result, closing, grown, same⟩ := retireFile_cases writer calls
  · rw [same]
  rw [same]
  unfold recorded files earlier
  rw [closing]
  show ((writer.finished ++ [closed] ++ [writer.file]).flatMap _).map _ =
    ((writer.finished ++ [file] ++ [writer.file]).flatMap _).map _
  simp only [flatMap_append, flatMap_singleton, grown.track]

theorem retireFile_others (writer : Writer) (calls : CloseCalls) :
    let retired := writer.retireFile calls
    retired.file = writer.file ∧ retired.part = writer.part ∧
      retired.rollBytes = writer.rollBytes ∧ retired.headers = writer.headers ∧
      retired.error = writer.error ∧ retired.finished = writer.finished := by
  obtain same | ⟨file, closed, result, -, -, same⟩ := retireFile_cases writer calls
  · rw [same]
    exact ⟨rfl, rfl, rfl, rfl, rfl, rfl⟩
  · rw [same]
    exact ⟨rfl, rfl, rfl, rfl, rfl, rfl⟩

theorem invariant_retire (invariant : Invariant ⟨writer, log⟩) (calls : CloseCalls) :
    Invariant (step ⟨writer, log⟩ (.retire calls)) := by
  obtain ⟨threshold, accounts, sound, state⟩ := invariant
  obtain ⟨file, -, rollBytes, headers, error, -⟩ := retireFile_others writer calls
  have recorded := retireFile_recorded writer calls
  show Invariant ⟨writer.retireFile calls, log⟩
  refine ⟨rollBytes ▸ threshold, retireFile_accounts accounts calls, fun other member => ?_, ?_⟩
  · obtain ⟨former, isIn, grown⟩ := retireFile_files writer calls other member
    exact (sound former isIn).grown grown
  rcases state with ⟨noError, noneFailed, going⟩ | ⟨isError, failed⟩
  · refine .inl ⟨error.trans noError, noneFailed, ?_⟩
    refine ⟨?_, ?_, ?_, ?_, ?_, ?_, recorded.trans going.recorded⟩
    · rw [file]
      exact going.needSps
    · rw [file]
      exact going.needPps
    · rw [file]
      exact going.needIdr
    · rw [file]
      exact going.idle
    · rw [file]
      exact going.begun
    · rw [headers]
      exact going.headers
  · refine .inr ⟨fun none => isError (error.symm.trans none), ?_⟩
    unfold Failed
    rw [recorded]
    exact failed

theorem invariant_step {recording : Recording} (invariant : Invariant recording) (event : Event) :
    Invariant (step recording event) := by
  cases event with
  | write unit calls => exact invariant_write invariant unit calls
  | retire calls => exact invariant_retire invariant calls

theorem invariant_run {recording : Recording} (invariant : Invariant recording)
    (events : List Event) : Invariant (run recording events) := by
  induction events generalizing recording with
  | nil => exact invariant
  | cons event rest hypothesis =>
    exact hypothesis (invariant_step invariant event)

theorem segmentBytes_ge (setting : Text) : 65536 ≤ segmentBytes setting := by
  have roll : 65536 ≤ fatRollBytes := by decide
  unfold segmentBytes
  split
  · split
    · exact roll
    · split
      next lowered =>
        simp only [Bool.and_eq_true, decide_eq_true_eq] at lowered
        omega
      · exact roll
  · exact roll

theorem invariant_mp4Open {path : Text} {format : Format} {setting : Option Text}
    {opened : Except Errno Opened} (succeeds : mp4Open path format setting opened = .ok writer)
    (threshold : writer.rollBytes ≠ 0) : Invariant ⟨writer, []⟩ := by
  unfold mp4Open at succeeds
  split at succeeds
  · cases succeeds
  next file isOpen =>
  cases succeeds
  have seeded := fileOpen_seeded isOpen
  refine ⟨?_, ⟨?_, rfl, rfl⟩, ?_, .inl ⟨rfl, nofun, ?_⟩⟩
  · show 65536 ≤ if file.hardLimit = fatMaxBytes then setting.elim fatRollBytes segmentBytes else 0
    split
    · cases setting with
      | none => decide
      | some setting => exact segmentBytes_ge setting
    next other => exact absurd (if_neg other) threshold
  · show [file].map File.part = range' 1 1
    rw [map_singleton, seeded.part]
    rfl
  · intro other member
    rw [mem_singleton.mp member]
    refine ⟨seeded.within, ?_, fun behind => absurd seeded.part behind⟩
    rw [seeded.samples]
    exact nofun
  · refine ⟨seeded.needSps, seeded.needPps, seeded.needIdr, fun _ => seeded.small,
      fun behind => absurd seeded.part behind, cached_nil, ?_⟩
    · show ([file].flatMap fun file => file.track.samples).map Sample.unit = []
      rw [flatMap_singleton, seeded.samples]
      rfl

/-! ### Closing -/

theorem Accounts.earlier (accounts : Accounts writer) :
    writer.earlier.map File.part = range' 1 (writer.part - 1) ∧ writer.file.part = writer.part := by
  have parts := accounts.parts
  unfold files at parts
  rw [map_append, map_singleton] at parts
  obtain ⟨former, same⟩ : ∃ former, writer.part = former + 1 := by
    refine Nat.exists_eq_succ_of_ne_zero fun none => ?_
    rw [none, range'_zero] at parts
    cases (append_eq_nil_iff.mp parts).2
  rw [same, range'_concat, one_mul] at parts
  obtain ⟨earlier, last⟩ := append_inj' parts rfl
  refine ⟨?_, ?_⟩
  · rw [earlier, same, Nat.add_sub_cancel]
  · rw [(cons.inj last).1, same, add_comm]

theorem Accounts.range' (accounts : Accounts writer) :
    range' 1 writer.part = range' 1 (writer.part - 1) ++ [writer.part] := by
  obtain ⟨earlier, last⟩ := accounts.earlier
  rw [← accounts.parts, ← earlier, ← last]
  unfold files
  rw [map_append, map_singleton]

/-- What `ca_mp4_close` leaves: no file awaits its worker, which was joined once for every earlier
part, and every part was closed once. -/
structure Closed (before after : Writer) : Prop where
  retired : after.retired = none
  joins : after.joins = List.range' 1 (before.part - 1)
  closes : after.closes.Perm (List.range' 1 before.part)
  recorded : after.recorded = before.recorded
  within : (∀ file ∈ before.files, file.Within) → ∀ file ∈ after.files, file.Within

theorem reapFile_retireFile (writer : Writer) (calls : CloseCalls) :
    (writer.retireFile calls).reapFile.1.retired = none := by
  unfold retireFile reapFile
  rcases writer with ⟨_, _, _, _, _, _, _, _ | ⟨_, _ | _⟩, _, _, _⟩ <;> rfl

theorem closes_perm (writer : Writer) (part : Nat) (calls : CloseCalls) :
    let noted := { writer with closes := writer.closes ++ [part] }
    (noted.retireFile calls).reapFile.1.closes.Perm
        ((writer.retireFile calls).reapFile.1.closes ++ [part]) ∧
      (noted.retireFile calls).reapFile.1.joins = (writer.retireFile calls).reapFile.1.joins ∧
      (noted.retireFile calls).reapFile.1.files = (writer.retireFile calls).reapFile.1.files ∧
      (noted.retireFile calls).reapFile.1.retired =
        (writer.retireFile calls).reapFile.1.retired := by
  unfold retireFile reapFile
  rcases writer with ⟨_, _, _, _, _, _, _, _ | ⟨file, _ | _⟩, _, _, closes⟩
  · exact ⟨Perm.refl _, rfl, rfl, rfl⟩
  · refine ⟨?_, rfl, rfl, rfl⟩
    show ((closes ++ [part]) ++ [file.part]).Perm ((closes ++ [file.part]) ++ [part])
    rw [append_assoc, append_assoc]
    exact perm_append_comm.append_left closes
  · exact ⟨Perm.refl _, rfl, rfl, rfl⟩

theorem Accounts.closed (accounts : Accounts writer) (calls worker : CloseCalls) :
    Closed writer (writer.close calls worker).1 := by
  have grown := close_grown writer.file calls
  -- the books without the note of the last file
  let last : Writer := { writer with file := (writer.file.close calls).1 }
  have books : Accounts last := accounts_written accounts grown.part
  obtain ⟨kept, -, -⟩ := reapFile_kept (last.retireFile worker)
  have final := kept.accounts (retireFile_accounts books worker)
  have part : (last.retireFile worker).reapFile.1.part = writer.part :=
    kept.part.trans (retireFile_others last worker).2.1
  have alone : (last.retireFile worker).reapFile.1.retired = none := reapFile_retireFile last worker
  obtain ⟨earlier, -⟩ := final.earlier
  have joins := final.joins
  have closes := final.closes
  unfold Writer.earlier at earlier
  unfold Writer.closedFiles at closes
  rw [alone] at earlier closes
  rw [show ∀ files : List File, files ++ map Retired.file none.toList = files from
    fun files => append_nil files] at earlier
  rw [show ∀ files : List File, files ++ map Retired.file (filter
    (fun retired => retired.result.isSome) none.toList) = files from
      fun files => append_nil files] at closes
  rw [earlier, part] at joins closes
  obtain ⟨perm, sameJoins, sameFiles, sameRetired⟩ := closes_perm last writer.file.part worker
  have files : Writer.files (last.retireFile worker).reapFile.1 = (last.retireFile worker).files :=
    kept.files
  refine ⟨sameRetired.trans alone, sameJoins.trans joins, ?_, ?_, fun within => ?_⟩
  · refine perm.trans ?_
    rw [closes, accounts.earlier.2, accounts.range']
  · have same : (writer.file.close calls).1.track.samples = writer.file.track.samples ++ [] := by
      rw [grown.track, append_nil]
    have recorded : last.recorded = writer.recorded ++ [] := recorded_write writer same
    rw [append_nil] at recorded
    rw [← recorded, ← retireFile_recorded last worker]
    unfold Writer.recorded
    rw [← files, ← sameFiles]
    rfl
  · intro file member
    have member : file ∈ (last.retireFile worker).files := by
      rw [← files, ← sameFiles]
      exact member
    obtain ⟨former, isIn, grownToo⟩ := retireFile_files last worker file member
    refine grownToo.within ?_
    rcases mem_append.mp isIn with old | new
    · exact within former (mem_append_left _ old)
    · rw [mem_singleton.mp new]
      exact grown.within (within writer.file (mem_append_right _ (mem_singleton.mpr rfl)))

/-! ### The main result -/

/-- The bound refuses an access unit that the first half of the call has let through. -/
def Writer.Refuses (writer : Writer) (calls : UnitCalls) (unit : Bytes) : Prop :=
  unit ≠ [] ∧ unit.length ≤ intMax / 2 ∧ writer.error = 0 ∧
    (writer.prepare calls unit).2 = none ∧
    (writer.prepare calls unit).1.file.hardLimit - (writer.prepare calls unit).1.file.bytes <
      bound unit

/-- What holds of every recording on FAT.

The samples of the files, one file after the other, are the pictures taken from the first IDR on,
and at most the access unit of the call that failed. Every file after the first starts with an
access unit with an IDR, behind the parameter sets seen up to it, and no file is larger than its
limit. An access unit that the bound refuses leaves all files as they are. The worker of each
earlier file, of which at most one is not joined yet, is joined once and each file is closed once.
Nothing is taken after a call that failed. -/
structure Recorded (recording : Recording) : Prop where
  samples : ∃ torn, recording.writer.recorded = pictures (taken recording.log) ++ torn ∧
    (torn = [] ∨ ∃ call ∈ recording.log, call.outcome = .failed ∧ torn = [call.unit])
  files : ∀ file ∈ recording.writer.files, file.Sound recording.log
  refused : ∀ calls unit, recording.writer.Refuses calls unit →
    (recording.writer.writeH264 calls unit).2 = .failed ∧
      (recording.writer.writeH264 calls unit).1.files = recording.writer.files
  accounts : Accounts recording.writer
  closed : ∀ calls worker, Closed recording.writer (recording.writer.close calls worker).1
  failed : ∀ before call after, recording.log = before ++ call :: after → call.outcome = .failed →
    ∀ entry ∈ after, entry.outcome ≠ .taken

theorem refuses_files (invariant : Invariant ⟨writer, log⟩) {calls : UnitCalls}
    (refuses : writer.Refuses calls unit) :
    (writer.writeH264 calls unit).2 = .failed ∧
      (writer.writeH264 calls unit).1.files = writer.files := by
  obtain ⟨nonempty, short, error, prepared, exceeds⟩ := refuses
  have going := (invariant.state.resolve_right fun failed => failed.1 error).2.2
  have positive : writer.rollBytes ≠ 0 :=
    Nat.ne_of_gt ((by decide : 0 < 65536).trans_le invariant.threshold)
  have valid : ¬ (unit = [] ∨ intMax / 2 < unit.length) := not_or.mpr ⟨nonempty, not_lt.mpr short⟩
  unfold writeH264
  simp only
  rw [if_neg valid, if_neg (not_not.mpr error), prepared]
  simp only
  rw [if_pos exceeds]
  refine ⟨rfl, ?_⟩
  show (writer.prepare calls unit).1.files = writer.files
  obtain ⟨fails, -⟩ | ⟨-, -, kept | rolled⟩ := prepare_cases going.headers positive calls unit
  · exact absurd prepared fails
  · exact kept.files
  · -- a new file has room for every access unit
    have small : (writer.prepare calls unit).1.file.bytes ≤ 4096 := rolled.seeded.small
    have limit : fatMaxBytes ≤ (writer.prepare calls unit).1.file.hardLimit := rolled.seeded.limit
    unfold bound at exceeds
    have room : intMax + seiMax + headersMax + 4096 + 4096 ≤ fatMaxBytes := by decide
    have twice : unit.length * 2 ≤ intMax := by omega
    omega

theorem Failed.later_not_taken (failed : Failed log writer) {before after : List Entry}
    {call : Entry} (same : log = before ++ call :: after) (isFailed : call.outcome = .failed) :
    ∀ entry ∈ after, entry.outcome ≠ .taken := by
  obtain ⟨first, callFirst, rest, -, entries, -, noneBefore, noneAfter, -⟩ := failed
  rw [entries] at same
  rcases append_eq_append_iff.mp same with ⟨between, rfl, split⟩ | ⟨between, rfl, split⟩
  · intro entry member
    cases between with
    | nil =>
      obtain ⟨-, rfl⟩ := cons.inj split
      exact noneAfter entry member
    | cons head between =>
      obtain ⟨-, rfl⟩ := cons.inj split
      exact noneAfter entry (mem_append_right _ (mem_cons_of_mem _ member))
  · cases between with
    | nil =>
      obtain ⟨-, rfl⟩ := cons.inj split
      exact noneAfter
    | cons head between =>
      obtain ⟨rfl, -⟩ := cons.inj split
      exact absurd isFailed (noneBefore call (mem_append_right _ mem_cons_self))

theorem taken_failed {before after : List Entry} {call : Entry} (isFailed : call.outcome = .failed)
    (noneAfter : ∀ entry ∈ after, entry.outcome ≠ .taken) :
    taken (before ++ call :: after) = taken before := by
  have none : (call :: after).filter (fun entry => entry.outcome = .taken) = [] := by
    refine filter_eq_nil_iff.mpr fun entry member => ?_
    rw [decide_eq_true_eq]
    rcases mem_cons.mp member with rfl | later
    · rw [isFailed]
      exact nofun
    · exact noneAfter entry later
  unfold taken
  rw [filter_append, none, append_nil]

theorem recorded_of_invariant {recording : Recording} (invariant : Invariant recording) :
    Recorded recording := by
  refine ⟨?_, invariant.sound, fun _ _ refuses => refuses_files invariant refuses,
    invariant.accounts, fun calls worker => invariant.accounts.closed calls worker, ?_⟩
  · rcases invariant.state with ⟨-, -, going⟩ | ⟨-, failed⟩
    · exact ⟨[], going.recorded.trans (append_nil _).symm, .inl rfl⟩
    · obtain ⟨before, call, after, torn, same, isFailed, -, noneAfter, recorded, one⟩ := failed
      refine ⟨torn, ?_, ?_⟩
      · rw [same, taken_failed isFailed noneAfter]
        exact recorded
      · rcases one with none | one
        · exact .inl none
        · refine .inr ⟨call, ?_, isFailed, one⟩
          rw [same]
          exact mem_append_right _ mem_cons_self
  · intro before call after same isFailed
    rcases invariant.state with ⟨-, noneFailed, -⟩ | ⟨-, failed⟩
    · refine absurd isFailed (noneFailed call ?_)
      rw [same]
      exact mem_append_right _ mem_cons_self
    · exact failed.later_not_taken same isFailed

/-- However the calls and the worker turn out, a recording on FAT loses nothing and holds nothing
twice. -/
theorem rollover_lossless {path : Text} {format : Format} {setting : Option Text}
    {opened : Except Errno Opened} {writer : Writer}
    (succeeds : mp4Open path format setting opened = .ok writer)
    (threshold : writer.rollBytes ≠ 0) (events : List Event) :
    Recorded (run ⟨writer, []⟩ events) :=
  recorded_of_invariant (invariant_run (invariant_mp4Open succeeds threshold) events)

/-- Nothing fails, and the multiplexer makes one write. -/
def UnitCalls.smooth (offset : Int) (size : Nat) : UnitCalls :=
  let calls : WriteCalls :=
    ⟨0, none, fun _ => true, none, fun _ => [123, 125], true, [⟨offset, size, none⟩], true, none⟩
  ⟨fun _ => true, ⟨true, fun _ => .ok ⟨true, 32, by decide⟩, { calls with pieces := [] }, none⟩,
    calls⟩

/-- An IDR behind its parameter sets, an IDR alone in the next file, and its worker. -/
def twoParts : List Event :=
  [.write [0, 0, 0, 1, 0x67, 1, 0, 0, 1, 0x68, 2, 0, 0, 1, 0x65, 9] (.smooth 32 70000),
    .write [0, 0, 0, 1, 0x65, 7] (.smooth 32 100), .retire ⟨[], true, 0⟩]

/-- A writer that goes on in the next file after 70000 bytes. -/
def smoothOpen : Except Errno Writer :=
  mp4Open [47, 97, 46, 109] ⟨640, 480, 30⟩ (some [55, 48, 48, 48, 48]) (.ok ⟨true, 32, by decide⟩)

theorem rollover_lossless_twoParts :
    ∃ writer, smoothOpen = .ok writer ∧ Recorded (run ⟨writer, []⟩ twoParts) ∧
      (run ⟨writer, []⟩ twoParts).writer.part = 2 := by
  obtain ⟨writer, succeeds, threshold, rolls⟩ :
      ∃ writer, smoothOpen = .ok writer ∧ writer.rollBytes ≠ 0 ∧
        (run ⟨writer, []⟩ twoParts).writer.part = 2 :=
    ⟨_, rfl, by decide, by decide +kernel⟩
  exact ⟨writer, succeeds, rollover_lossless succeeds threshold twoParts, rolls⟩

end Mp4
