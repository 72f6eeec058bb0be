/-
This file is about the memory that a sample of an MP4 file is put together in. A NAL unit of the
access unit takes a start code of at least three bytes and at least one byte there, and a length of
four bytes in the sample, so twice the access unit and a SEI unit are always enough.

What is put together is read back as the NAL units in their order, with the telemetry in front of
the first slice.
-/

import CameraGimbal.Mp4Rollover
import CameraGimbal.VideoInsertion
import Mathlib.Algebra.Order.BigOperators.Group.List

namespace Mp4

open AnnexB VideoMetadata List Option

/-! ### Writing and reading -/

/-- `APPEND_NAL` behind what is in the memory; none when it would write behind its end. -/
def appendWithin (capacity : Nat) (sample nal : Bytes) : Option Bytes :=
  if sample.length + 4 + nal.length ≤ capacity then some (sample ++ appendNal nal) else none

/-- `APPEND_NAL` under a condition. -/
def appendIf (wanted : Bool) (capacity : Nat) (sample nal : Bytes) : Option Bytes :=
  if wanted then appendWithin capacity sample nal else some sample

/-- The second loop of `write_h264` on memory of a capacity. -/
def fillSample (capacity : Nat) (sei : Bytes) (inserted : Bool) (sample : Bytes) :
    List Bytes → Option Bytes
  | [] => some sample
  | nal :: rest => do
    let telemetry ← appendIf (isVcl nal && !inserted) capacity sample sei
    let grown ← appendIf (isVcl nal || nalType nal = 6) capacity telemetry nal
    fillSample capacity sei (inserted || isVcl nal) grown rest

/-- Read NAL units with a length of four bytes in front of each. -/
def readSample (sample : Bytes) : Option (List Bytes) :=
  match sample with
  | [] => some []
  | first :: second :: third :: fourth :: rest =>
    let size := first.toNat * 2 ^ 24 + second.toNat * 2 ^ 16 + third.toNat * 2 ^ 8 + fourth.toNat
    if size ≤ rest.length then (readSample (rest.drop size)).map (rest.take size :: ·) else none
  | _ => none
termination_by sample.length
decreasing_by
  simp only [List.length_drop, List.length_cons]
  omega

/-- The slices and the other SEI units. -/
def isStored (nal : Bytes) : Bool := isVcl nal || nalType nal = 6

def sampleUnits (sei : Bytes) (inserted : Bool) : List Bytes → List Bytes
  | [] => []
  | nal :: rest =>
    (if isVcl nal && !inserted then [sei] else []) ++ (if isStored nal then [nal] else []) ++
      sampleUnits sei (inserted || isVcl nal) rest

theorem readSample_appendNal {nal : Bytes} (small : nal.length < 2 ^ 32) (rest : Bytes) :
    readSample (appendNal nal ++ rest) = (readSample rest).map (nal :: ·) := by
  have size : (UInt8.ofNat (nal.length / 2 ^ 24)).toNat * 2 ^ 24 +
      (UInt8.ofNat (nal.length / 2 ^ 16)).toNat * 2 ^ 16 +
      (UInt8.ofNat (nal.length / 2 ^ 8)).toNat * 2 ^ 8 + (UInt8.ofNat nal.length).toNat =
        nal.length := by
    simp only [UInt8.toNat_ofNat']
    omega
  have fits : nal.length ≤ (nal ++ rest).length := by
    rw [length_append]
    exact Nat.le_add_right _ _
  unfold appendNal
  simp only [cons_append, nil_append]
  rw [readSample, size, if_pos fits, take_left, drop_left]

theorem readSample_flatMap {units : List (Bytes)}
    (small : ∀ nal ∈ units, nal.length < 2 ^ 32) :
    readSample (units.flatMap appendNal) = some units := by
  induction units with
  | nil => rw [flatMap_nil, readSample]
  | cons nal rest hypothesis =>
    obtain ⟨first, others⟩ := forall_mem_cons.mp small
    rw [flatMap_cons, readSample_appendNal first, hypothesis others]
    rfl

variable (sei : Bytes) (inserted : Bool) (units : List Bytes)

theorem sampleData_eq :
    sampleData sei inserted units = (sampleUnits sei inserted units).flatMap appendNal := by
  induction units generalizing inserted with
  | nil => rfl
  | cons nal rest hypothesis =>
    unfold sampleData sampleUnits isStored
    rw [flatMap_append, flatMap_append, hypothesis]
    congr 2
    · split
      · exact (flatMap_singleton _ _).symm
      · rfl
    · split
      · exact (flatMap_singleton _ _).symm
      · rfl

/-! ### The bound -/

theorem length_appendNal (nal : Bytes) : (appendNal nal).length = nal.length + 4 := by
  unfold appendNal
  rw [length_append]
  exact add_comm _ _

theorem appendIf_eq {wanted : Bool} {capacity : Nat} {sample nal : Bytes}
    (room : sample.length + (if wanted then appendNal nal else []).length ≤ capacity) :
    appendIf wanted capacity sample nal =
      some (sample ++ if wanted then appendNal nal else []) := by
  cases wanted with
  | false =>
    show some sample = some (sample ++ [])
    rw [append_nil]
  | true =>
    have room : sample.length + (appendNal nal).length ≤ capacity := room
    rw [length_appendNal] at room
    have fits : sample.length + 4 + nal.length ≤ capacity := by omega
    exact if_pos fits

theorem fillSample_eq {capacity : Nat} {sei : Bytes} {sample : Bytes}
    (room : sample.length + (sampleData sei inserted units).length ≤ capacity) :
    fillSample capacity sei inserted sample units =
      some (sample ++ sampleData sei inserted units) := by
  induction units generalizing inserted sample with
  | nil =>
    rw [sampleData, append_nil]
    rfl
  | cons nal rest hypothesis =>
    rw [sampleData] at room ⊢
    simp only [length_append] at room
    rw [fillSample, appendIf_eq (by omega), bind_eq_bind, bind_some,
      appendIf_eq (by rw [length_append]; omega), bind_some,
      hypothesis _ (by simp only [length_append]; omega)]
    simp only [append_assoc]

/-- A NAL unit and its start code are in the data. -/
theorem annexbNext_length {data nal rest : Bytes} (next : annexbNext data = some (nal, rest)) :
    nal.length + 3 + rest.length ≤ data.length := by
  have codeFound := startCode_found data
  unfold annexbNext at next
  dsimp only at next
  split at next
  · cases next
  next found =>
  have code : 3 ≤ startCode (data.drop (beforeStartCode data)) := by
    have some := codeFound found
    unfold startCode at some ⊢
    split
    · decide
    next noLong =>
    rw [if_neg noLong] at some
    split
    · decide
    next noShort => exact absurd (if_neg noShort) some
  have codeFits := @startCode_le (data.drop (beforeStartCode data))
  cases next
  have stripped := (List.rdropWhile_prefix (· == (0 : UInt8))
    (((data.drop (beforeStartCode data)).drop (startCode (data.drop (beforeStartCode data)))).take
      (beforeStartCode ((data.drop (beforeStartCode data)).drop
        (startCode (data.drop (beforeStartCode data))))))).length_le
  simp only [length_take, length_drop] at stripped codeFits ⊢
  omega

theorem nalUnits_length (data : Bytes) :
    ((nalUnits data).map fun nal => nal.length + 3).sum ≤ data.length := by
  induction data using nalUnits.induct with
  | case1 data next =>
    rw [nalUnits_of_none next]
    exact Nat.zero_le _
  | case2 data nal rest next others =>
    have first := annexbNext_length next
    rw [nalUnits_of_some next, map_cons, sum_cons]
    omega

theorem length_sampleData :
    (sampleData sei inserted units).length ≤
      (if inserted then 0 else sei.length + 4) + (units.map fun nal => nal.length + 4).sum := by
  induction units generalizing inserted with
  | nil => exact Nat.zero_le _
  | cons nal rest hypothesis =>
    have later := hypothesis (inserted || isVcl nal)
    have kept : (if isVcl nal || nalType nal = 6 then appendNal nal else []).length ≤
        nal.length + 4 := by
      split
      · exact (length_appendNal nal).le
      · exact Nat.zero_le _
    have telemetry : (if isVcl nal && !inserted then appendNal sei else []).length +
        (if inserted || isVcl nal then 0 else sei.length + 4) =
          if inserted then 0 else sei.length + 4 := by
      cases inserted
      · cases isVcl nal
        · exact zero_add _
        · exact length_appendNal sei
      · cases isVcl nal <;> rfl
    rw [sampleData, map_cons, sum_cons]
    simp only [length_append]
    omega

/-! ### The sample -/

theorem sampleUnits_inserted :
    sampleUnits sei true units = units.filter isStored := by
  induction units with
  | nil => rfl
  | cons nal rest hypothesis =>
    rw [sampleUnits, Bool.not_true, Bool.and_false, Bool.true_or, hypothesis, filter_cons]
    cases isStored nal <;> rfl

theorem sampleUnits_split {before later : List (Bytes)} {vcl : Bytes}
    (noSlice : ∀ nal ∈ before, isVcl nal = false) (slice : isVcl vcl = true) :
    sampleUnits sei false (before ++ vcl :: later) =
      before.filter isStored ++ sei :: vcl :: later.filter isStored := by
  induction before with
  | nil =>
    rw [nil_append, sampleUnits, slice, Bool.false_or, sampleUnits_inserted, isStored, slice]
    rfl
  | cons nal rest hypothesis =>
    obtain ⟨first, others⟩ := forall_mem_cons.mp noSlice
    rw [cons_append, sampleUnits, first, Bool.false_and, Bool.or_self,
      hypothesis others, filter_cons]
    cases isStored nal <;> rfl

/-- A sample is read back as the NAL units of an access unit that are stored, with the telemetry in
front of the first slice. -/
def Carries (unit sei sample : Bytes) : Prop :=
  ∃ before vcl later, nals unit = before ++ vcl :: later ∧ isVcl vcl = true ∧
    (∀ nal ∈ before, isVcl nal = false) ∧
    readSample sample =
      some (before.filter isStored ++ sei.drop 4 :: vcl :: later.filter isStored)

theorem length_sei_le {codec : SupportVideo.Codec} {json sei : Bytes} {capacity : Nat}
    (written : videoMetadataSei codec json capacity = some sei) :
    6 ≤ sei.length ∧ sei.length ≤ capacity := by
  have called : 0 < json.length ∧ json.length < jsonMax := by
    by_contra bad
    unfold videoMetadataSei at written
    rw [if_pos (by omega)] at written
    cases written
  rw [videoMetadataSei_eq codec called.1 called.2] at written
  split at written
  · next fits =>
    cases written
    exact ⟨six_le_encoding codec json, fits⟩
  · cases written

theorem length_le_of_mem {data nal : Bytes} (member : nal ∈ nalUnits data) :
    nal.length ≤ data.length := by
  have one := single_le_sum (fun _ _ => Nat.zero_le _) _
    (mem_map_of_mem (f := fun nal => nal.length + 3) member)
  have all := nalUnits_length data
  omega

theorem sample_fits {unit sei json : Bytes} (short : unit.length ≤ (intMax - seiMax) / 2)
    (written : videoMetadataSei .h264 json seiMax = some sei) (picture : hasPicture unit = true) :
    fillSample (unit.length * 2 + seiMax) (sei.drop 4) false [] (nals unit) =
        some (sampleData (sei.drop 4) false (nals unit)) ∧
      Carries unit sei (sampleData (sei.drop 4) false (nals unit)) := by
  obtain ⟨long, bounded⟩ := length_sei_le written
  have telemetry : (sei.drop 4).length + 4 = sei.length := by
    rw [length_drop]
    omega
  constructor
  · have size := length_sampleData (sei.drop 4) false (nals unit)
    have fewer : ((nals unit).map fun nal => nal.length + 4).sum ≤
        ((nalUnits unit).map fun nal => nal.length + 4).sum :=
      Sublist.sum_le_sum ((filter_sublist).map _) fun _ _ => Nat.zero_le _
    have twice : ((nalUnits unit).map fun nal => nal.length + 4).sum ≤
        ((nalUnits unit).map fun nal => 2 * (nal.length + 3)).sum :=
      sum_le_sum fun nal _ => by omega
    have all := nalUnits_length unit
    rw [sum_map_mul_left] at twice
    have room : ([] : Bytes).length +
        (sampleData (sei.drop 4) false (nals unit)).length ≤ unit.length * 2 + seiMax := by
      simp only [Bool.false_eq_true, if_false, length_nil] at size ⊢
      omega
    exact fillSample_eq false (nals unit) room
  · obtain ⟨vcl, found⟩ := isSome_iff_exists.mp (find?_isSome.mpr (any_eq_true.mp picture))
    obtain ⟨slice, before, later, split, noSlice⟩ := find?_eq_some_iff_append.mp found
    have noSlice : ∀ nal ∈ before, isVcl nal = false :=
      fun nal member => by simpa using noSlice nal member
    refine ⟨before, vcl, later, split, slice, noSlice, ?_⟩
    have small : ∀ nal ∈ nals unit, nal.length < 2 ^ 32 := fun nal member => by
      have within := length_le_of_mem (mem_of_mem_filter member)
      have most : (intMax - seiMax) / 2 < 2 ^ 32 := by decide
      omega
    rw [split] at small ⊢
    rw [sampleData_eq, sampleUnits_split _ noSlice slice]
    refine readSample_flatMap fun nal member => ?_
    simp only [mem_append, mem_cons, mem_filter] at member
    rcases member with former | rfl | rfl | latter
    · exact small nal (mem_append_left _ former.1)
    · have most : seiMax < 2 ^ 32 := by decide
      omega
    · exact small nal (mem_append_right _ mem_cons_self)
    · exact small nal (mem_append_right _ (mem_cons_of_mem _ latter.1))

/-- Every sample that is put together fits into its memory and carries the access unit; and when
`write_h264` reports a sample, this is the one that the file has got. -/
theorem sample_whole :
    (∀ unit sei json : Bytes, unit.length ≤ (intMax - seiMax) / 2 →
      videoMetadataSei .h264 json seiMax = some sei → hasPicture unit = true →
        ∃ sample,
          fillSample (unit.length * 2 + seiMax) (sei.drop 4) false [] (nals unit) = some sample ∧
            Carries unit sei sample) ∧
    ∀ (file : File) (calls : WriteCalls) (unit : Bytes),
      (file.writeH264 calls unit).2 = .ok true →
        ∃ sei sample,
          videoMetadataSei .h264 (calls.json file.nextPts90k) seiMax = some sei ∧
            fillSample (unit.length * 2 + seiMax) (sei.drop 4) false [] (nals unit) =
              some sample.data ∧
            Carries unit sei sample.data ∧ sample.unit = unit ∧
            (file.writeH264 calls unit).1.track.samples = file.track.samples ++ [sample] := by
  refine ⟨fun unit sei json short written picture => ⟨_, sample_fits short written picture⟩, ?_⟩
  intro file calls unit stored
  have samples := (scan_track calls.takes file.track (nals unit)).2.1
  have track := (writePieces_grown
    { file with track := (file.track.scan calls.takes (nals unit)).1 } calls.pieces).track
  unfold File.writeH264 at stored ⊢
  dsimp only at stored ⊢
  split at stored
  · cases stored
  next given =>
  rw [if_neg given]
  split at stored
  · cases stored
  next scanned =>
  rw [if_neg scanned]
  split at stored
  · cases stored
  next noPicture =>
  rw [if_neg noPicture]
  split at stored
  · cases stored
  next waits =>
  rw [if_neg waits]
  split at stored
  · cases stored
  · cases stored
  next sei _ written =>
  split at stored
  · cases stored
  next short =>
  rw [if_neg short]
  split at stored
  · cases stored
  next memory =>
  rw [if_neg memory]
  split at stored
  · next put =>
    have picture : hasPicture unit = true := by simpa using noPicture
    obtain ⟨fits, carries⟩ := sample_fits (Nat.le_of_not_lt short) written picture
    refine ⟨sei, ⟨unit, sampleData (sei.drop 4) false (nals unit), file.frameDuration,
      hasIdr unit⟩, written, fits, carries, ?_⟩
    rw [if_pos put]
    unfold File.putSample at put ⊢
    dsimp only at put ⊢
    split at put
    · next done =>
      rw [if_pos done, track, samples]
      exact ⟨rfl, rfl⟩
    · cases put
  · cases stored

/-- Parameter sets and a key picture. -/
def keyUnit : Bytes :=
  [0, 0, 0, 1, 0x67, 1, 0, 0, 0, 1, 0x68, 2, 0, 0, 0, 1, 0x65, 3]

/-- A file that has got nothing yet. -/
def freshFile : File :=
  { part := 1, hardLimit := 65536, bytes := 0, extent := 0, frameDuration := 3600, nextPts90k := 0
    track := ⟨true, true, true, [], []⟩ }

/-- Calls that all succeed, with an empty record of telemetry. -/
def kindCalls : WriteCalls :=
  { syncError := 0, lock := none, takes := fun _ => true, clock := none, json := fun _ => [123, 125]
    memory := true, pieces := [], stored := true, unlock := none }

theorem sample_whole_key :
    (∃ sei sample, videoMetadataSei .h264 [123, 125] seiMax = some sei ∧
      fillSample (keyUnit.length * 2 + seiMax) (sei.drop 4) false [] (nals keyUnit) = some sample ∧
      Carries keyUnit sei sample) ∧
    ∃ sei sample,
      Carries keyUnit sei sample.data ∧
        (freshFile.writeH264 kindCalls keyUnit).1.track.samples = [sample] := by
  obtain ⟨sei, written⟩ :=
    Option.isSome_iff_exists.mp (show (videoMetadataSei .h264 [123, 125] seiMax).isSome = true by
      decide)
  obtain ⟨sample, filled, carries⟩ :=
    sample_whole.1 keyUnit sei [123, 125] (by decide) written (by decide +kernel)
  obtain ⟨_, stored, _, _, carriesToo, _, samples⟩ :=
    sample_whole.2 freshFile kindCalls keyUnit (by decide +kernel)
  exact ⟨⟨sei, sample, written, filled, carries⟩, _, stored, carriesToo, samples⟩

end Mp4
