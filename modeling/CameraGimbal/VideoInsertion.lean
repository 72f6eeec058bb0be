/-
This file is about the telemetry of a live frame, which `ca_video_metadata_insert` puts in front of
the first picture. Where that is, it works out backwards from the NAL unit that the search returned.

On any data this is the start code that the search found, so what is put in changes nothing else.
-/

import CameraGimbal.AnnexBJoining
import CameraGimbal.VideoMetadataSei

namespace VideoMetadata

open AnnexB SupportVideo List Option
open EmulationPrevention (prevent protected_prevent getLast?_prevent)

/-! ### The function -/

/-- What the calls that `ca_video_metadata_insert` makes report: whether `clock_gettime` succeeds,
the telemetry text, `SIZE_MAX`, and whether `malloc` succeeds. -/
structure InsertCalls where
  clock : Bool
  json : Bytes
  sizeMax : Nat
  memory : Bool

/-- What it returns: 0, -1, or 1 and the annotated data. -/
inductive Inserted where
  | unchanged
  | failed
  | annotated (output : Bytes)
  deriving DecidableEq, Repr

/-- What is done at the first picture. -/
def insertAt (codec : Codec) (calls : InsertCalls) (data : Bytes) (nal : Nat) : Inserted :=
  if calls.clock = false then .failed
  else
    match videoMetadataSei codec calls.json seiMax with
    | none => .failed
    | some sei =>
      if calls.sizeMax - sei.length < data.length then .failed
      else if calls.memory = false then .failed
      else
        let code := if 4 ≤ nal ∧ data[nal - 4]? = some 0 then 4 else 3
        let insert := nal - code
        .annotated (data.take insert ++ sei ++ data.drop insert)

/-- The loop of `ca_video_metadata_insert`. The offset is never behind the end of the data. -/
def insertFrom (codec : Codec) (calls : InsertCalls) (data : Bytes) (offset : Nat) :
    Inserted :=
  if _inside : offset ≤ data.length then
    match _next : annexbNextAt data offset with
    | none => .unchanged
    | some found =>
      if found.length = 0 ∨ videoNalIsVcl codec (data.getD found.nal 0) = false then
        insertFrom codec calls data found.offset
      else insertAt codec calls data found.nal
  else .unchanged
termination_by data.length - offset
decreasing_by
  have advances := (annexbNextAt_spec _inside).2 found _next
  have := advances.start
  have := advances.inside
  have := advances.bounded
  omega

/-- `ca_video_metadata_insert`. -/
def insert (codec : Codec) (calls : InsertCalls) (data : Bytes) : Inserted :=
  insertFrom codec calls data 0

/-! ### The place -/

/-- The first slice is looked for among the NAL units that are not empty. -/
def isPicture (codec : Codec) (unit : Bytes) : Bool :=
  !unit.isEmpty && videoNalIsVcl codec (unit.headD 0)

variable {data : Bytes}

theorem getLast?_take_of_pos {place : Nat} (positive : 0 < place) (inside : place ≤ data.length) :
    (data.take place).getLast? = data[place - 1]? := by
  rw [getLast?_eq_getElem?, length_take, min_eq_left inside, getElem?_take_of_lt (by omega)]

/-- No start code begins one byte before a place that the search has come to. -/
def Edge (data : Bytes) (place : Nat) : Prop :=
  place = 0 ∨ startCode (data.drop (place - 1)) = 0

/-- Where the search stops, there is a start code or the end. -/
theorem skipTo_stops {offset : Nat} (inside : offset ≤ data.length) :
    offset ≤ skipTo data offset ∧ skipTo data offset ≤ data.length ∧
      (skipTo data offset ≠ data.length → startCode (data.drop (skipTo data offset)) ≠ 0) := by
  have before := beforeStartCode_le_length (data.drop offset)
  rw [length_drop] at before
  rw [skipTo_eq inside]
  refine ⟨Nat.le_add_right _ _, by omega, fun more => ?_⟩
  rw [← drop_drop]
  refine startCode_found _ ?_
  rw [drop_drop, Ne, drop_eq_nil_iff]
  omega

theorem skipTo_edge {offset : Nat} (edge : Edge data offset) : Edge data (skipTo data offset) := by
  induction offset using skipTo.induct data with
  | case1 offset more hypothesis =>
    rw [skipTo, if_pos more]
    exact hypothesis (.inr more.2)
  | case2 offset stops =>
    rw [skipTo, if_neg stops]
    exact edge

/-- A start code ends in a one, with which no start code begins. -/
theorem edge_behind {start : Nat} (code : startCode (data.drop start) ≠ 0) :
    Edge data (start + startCode (data.drop start)) := by
  right
  obtain ⟨zeros, isZeros, ⟨behind, whole⟩⟩ := startCode_prefix code
  have one (rest : Bytes) : startCode (1 :: rest) = 0 := by simp [startCode]
  have size : startCode (data.drop start) = zeros.length + 1 := by
    rw [← whole]
    rcases isZeros with rfl | rfl
    · exact startCode_start .short behind
    · exact startCode_start .long behind
  rw [size, ← Nat.add_assoc, Nat.add_sub_cancel, ← drop_drop, ← whole, append_assoc, drop_left]
  exact one behind

/-- At a start code that nothing belongs to, the data can be taken apart. -/
theorem joins_of_edge {place : Nat} (inside : place ≤ data.length)
    (code : startCode (data.drop place) ≠ 0) (edge : Edge data place) :
    Joins (data.take place) (data.drop place) := by
  refine ⟨code, fun last isLast => ?_⟩
  rcases edge with rfl | edge
  · cases isLast
  have positive : 0 < place := by
    by_contra zero
    obtain rfl : place = 0 := Nat.eq_zero_of_not_pos zero
    exact code edge
  rw [getLast?_take_of_pos positive inside] at isLast
  have before : place - 1 < data.length := by omega
  rw [getElem?_eq_getElem before] at isLast
  cases isLast
  rw [drop_eq_getElem_cons before, Nat.sub_add_cancel positive] at edge
  exact edge

/-- The start code that is worked out backwards is the one that was found. -/
theorem code_eq {place : Nat} (code : startCode (data.drop place) ≠ 0) (edge : Edge data place) :
    place + startCode (data.drop place) -
        (if 4 ≤ place + startCode (data.drop place) ∧
          data[place + startCode (data.drop place) - 4]? = some 0 then 4 else 3) = place := by
  obtain ⟨zeros, isZeros, ⟨behind, whole⟩⟩ := startCode_prefix code
  rcases isZeros with rfl | rfl
  · -- the byte in front of a short start code is not a zero
    have size : startCode (data.drop place) = 3 := by
      rw [← whole]
      exact startCode_start .short behind
    rw [size, if_neg]
    · rfl
    rintro ⟨far, zero⟩
    have positive : 0 < place := by omega
    have edge := edge.resolve_left positive.ne'
    rw [show place + 3 - 4 = place - 1 by omega] at zero
    obtain ⟨before, isZero⟩ := List.getElem?_eq_some_iff.mp zero
    rw [drop_eq_getElem_cons before, Nat.sub_add_cancel positive, isZero, ← whole] at edge
    have long : startCode (0 :: ([0, 0] ++ [1] ++ behind)) = 4 := startCode_start .long behind
    rw [long] at edge
    cases edge
  · have size : startCode (data.drop place) = 4 := by
      rw [← whole]
      exact startCode_start .long behind
    have first : data[place]? = some 0 := by
      have head := congrArg head? whole
      rw [head?_drop] at head
      exact head.symm
    rw [size, Nat.add_sub_cancel, if_pos ⟨Nat.le_add_left 4 place, first⟩, Nat.add_sub_cancel]

/-! ### The loop -/

/-- The first picture of the data behind an offset: where its start code is, and where it begins
itself. -/
structure FirstPicture (codec : Codec) (data : Bytes) (offset place nal : Nat)
    (before : List Bytes) (vcl : Bytes) (later : List Bytes) : Prop where
  inside : place ≤ data.length
  joins : Joins (data.take place) (data.drop place)
  code : nal - (if 4 ≤ nal ∧ data[nal - 4]? = some 0 then 4 else 3) = place
  whole : nalUnits (data.drop offset) = before ++ vcl :: later
  behind : nalUnits (data.drop place) = vcl :: later
  picture : isPicture codec vcl = true
  first : ∀ unit ∈ before, isPicture codec unit = false

theorem isPicture_found (codec : Codec) {found : Found}
    (inside : found.nal + found.length ≤ data.length) :
    isPicture codec (found.bytes data) = false ↔
      found.length = 0 ∨ videoNalIsVcl codec (data.getD found.nal 0) = false := by
  unfold Found.bytes
  by_cases empty : found.length = 0
  · rw [empty, take_zero]
    exact iff_of_true rfl (.inl rfl)
  · have before : found.nal < data.length := by omega
    obtain ⟨fewer, more⟩ := Nat.exists_eq_succ_of_ne_zero empty
    rw [drop_eq_getElem_cons before, more, take_succ_cons, getD_eq_getElem?_getD,
      getElem?_eq_getElem before]
    constructor
    · exact fun none => .inr none
    · exact fun either => either.resolve_left (Nat.succ_ne_zero fewer)

/-- A call that returns a NAL unit has stopped at the start code in front of it. -/
theorem annexbNextAt_found {offset : Nat} {found : Found}
    (next : annexbNextAt data offset = some found) :
    skipTo data offset ≠ data.length ∧
      found.nal = skipTo data offset + startCode (data.drop (skipTo data offset)) ∧
      found.offset = skipTo data found.nal := by
  unfold annexbNextAt at next
  dsimp only at next
  split at next
  · cases next
  next more =>
  cases next
  exact ⟨more, rfl, rfl⟩

theorem insertFrom_cases (codec : Codec) (calls : InsertCalls) {offset : Nat}
    (inside : offset ≤ data.length) (edge : Edge data offset) :
    insertFrom codec calls data offset = .unchanged ∧
        (∀ unit ∈ nalUnits (data.drop offset), isPicture codec unit = false) ∨
      ∃ place nal before vcl later, FirstPicture codec data offset place nal before vcl later ∧
        insertFrom codec calls data offset = insertAt codec calls data nal := by
  induction remaining : data.length - offset using Nat.strongRecOn generalizing offset with
  | _ remaining' hypothesis =>
  obtain ⟨same, advances⟩ := annexbNextAt_spec inside
  rw [insertFrom, dif_pos inside]
  split
  · next none =>
    rw [none, map_none] at same
    left
    refine ⟨rfl, fun unit member => ?_⟩
    rw [nalUnits_of_none same] at member
    exact absurd member not_mem_nil
  next found next =>
  rw [next, map_some] at same
  obtain ⟨start, within, bounded⟩ := advances found next
  have units := nalUnits_of_some same
  obtain ⟨from', upTo, stops⟩ := skipTo_stops inside
  have stopEdge := skipTo_edge edge
  obtain ⟨more, isNal, isOffset⟩ := annexbNextAt_found next
  have code := stops more
  have notPicture := isPicture_found codec (within.trans bounded)
  split
  · next skipped =>
    have edgeBehind : Edge data found.offset := by
      rw [isOffset, isNal]
      exact skipTo_edge (edge_behind code)
    rcases hypothesis _ (by omega) bounded edgeBehind rfl with ⟨none, noPicture⟩ |
      ⟨place, nal, before, vcl, later, first, done⟩
    · left
      refine ⟨none, ?_⟩
      rw [units]
      exact forall_mem_cons.mpr ⟨notPicture.mpr skipped, noPicture⟩
    · right
      refine ⟨place, nal, found.bytes data :: before, vcl, later, ⟨first.inside, first.joins,
        first.code, ?_, first.behind, first.picture, ?_⟩, done⟩
      · rw [units, first.whole, cons_append]
      · exact forall_mem_cons.mpr ⟨notPicture.mpr skipped, first.first⟩
  · next taken =>
    right
    refine ⟨skipTo data offset, found.nal, [], found.bytes data, _, ⟨upTo,
      joins_of_edge upTo code stopEdge, ?_, units, ?_, ?_,
      nofun⟩, rfl⟩
    · rw [isNal]
      exact code_eq code stopEdge
    · rw [← units, skipTo_eq inside, ← drop_drop]
      exact nalUnits_congr (annexbNext_drop_beforeStartCode _)
    · exact Bool.of_not_eq_false (mt notPicture.mp taken)

/-! ### What is put in -/

/-- The SEI unit behind its start code. -/
theorem sei_eq {codec : Codec} {json sei : Bytes} {capacity : Nat}
    (written : videoMetadataSei codec json capacity = some sei) :
    ∃ unit : NalUnit, sei = [0, 0, 0, 1] ++ unit.bytes ∧
      unit.bytes = prevent 0 (nalHeader codec ++ rbsp json) := by
  have called : 0 < json.length ∧ json.length < jsonMax := by
    by_contra bad
    unfold videoMetadataSei at written
    rw [if_pos (by omega)] at written
    cases written
  rw [videoMetadataSei_eq codec called.1 called.2] at written
  split at written
  · cases written
    have last : (prevent 0 (nalHeader codec ++ rbsp json)).getLast? = some 0x80 := by
      rw [getLast?_prevent, rbsp, ← cons_append, ← append_assoc]
      exact getLast?_concat
    have nonempty : prevent 0 (nalHeader codec ++ rbsp json) ≠ [] := fun empty => by
      rw [empty] at last
      cases last
    refine ⟨⟨_, nonempty, (protected_prevent _).noStartCode, ?_⟩, rfl, rfl⟩
    rw [getLast?_eq_some_getLast nonempty] at last
    rw [some.inj last]
    decide
  · cases written

/-- A unit behind a long start code, put between two pieces. -/
theorem nalUnits_spliced {front back : Bytes} (joins : Joins front back) (unit : NalUnit) :
    nalUnits (front ++ ([0, 0, 0, 1] ++ unit.bytes) ++ back) =
      nalUnits front ++ unit.bytes :: nalUnits back := by
  have alone : nalUnits ([0, 0, 0, 1] ++ unit.bytes) = [unit.bytes] := by
    have encoded := nalUnits_encode [(.long, unit)]
    rw [encode, flatMap_singleton] at encoded
    exact encoded
  have ending : Joins ([0, 0, 0, 1] ++ unit.bytes) back := by
    refine joins_of_getLast joins.1 fun last isLast => ?_
    rw [getLast?_append_of_ne_nil _ unit.nonempty, getLast?_eq_some_getLast unit.nonempty] at isLast
    rw [← some.inj isLast]
    exact unit.noTrailingZero
  rw [append_assoc, append_assoc, nalUnits_append (joins_long _ _), ← append_assoc,
    nalUnits_append ending, alone]
  rfl

/-- On any data, what is returned is the data with the SEI unit at one place; taken out again it
leaves the data; in the NAL units it stands in front of the first picture; and nothing is put in
just when there is no picture. -/
theorem insert_pure (codec : Codec) (calls : InsertCalls) (data : Bytes) :
    (∀ output, insert codec calls data = .annotated output →
      ∃ sei unit place before vcl later,
        videoMetadataSei codec calls.json seiMax = some sei ∧ sei = [0, 0, 0, 1] ++ unit ∧
        place ≤ data.length ∧ output = data.take place ++ sei ++ data.drop place ∧
        output.take place ++ output.drop (place + sei.length) = data ∧
        Lists data (before ++ vcl :: later) ∧ Lists output (before ++ unit :: vcl :: later) ∧
        isPicture codec vcl = true ∧ ∀ other ∈ before, isPicture codec other = false) ∧
    (insert codec calls data = .unchanged ↔
      ∀ units, Lists data units → ∀ unit ∈ units, isPicture codec unit = false) := by
  have cases := insertFrom_cases codec calls (Nat.zero_le data.length) (.inl rfl)
  rw [List.drop_zero] at cases
  rcases cases with ⟨unchanged, none⟩ | ⟨place, nal, before, vcl, later, first, done⟩
  · refine ⟨fun output annotated => ?_, fun _ units lists => ?_, fun _ => unchanged⟩
    · cases unchanged.symm.trans annotated
    · rw [← lists_iff.mp lists]
      exact none
  have whole := first.whole
  rw [List.drop_zero] at whole
  have pieces : nalUnits (data.take place) = before := by
    have split := nalUnits_append first.joins
    rw [List.take_append_drop, whole, first.behind] at split
    exact (List.append_cancel_right split).symm
  constructor
  · intro output annotated
    have atNal : insertAt codec calls data nal = .annotated output := done.symm.trans annotated
    unfold insertAt at atNal
    split at atNal
    · cases atNal
    split at atNal
    · cases atNal
    next sei written =>
    split at atNal
    · cases atNal
    split at atNal
    · cases atNal
    have output := (Inserted.annotated.inj atNal).symm
    rw [first.code] at output
    obtain ⟨unit, isSei, -⟩ := sei_eq written
    have front : (data.take place).length = place := List.length_take_of_le first.inside
    refine ⟨sei, unit.bytes, place, before, vcl, later, written, isSei, first.inside, output, ?_,
      lists_iff.mpr whole, lists_iff.mpr ?_, first.picture, first.first⟩
    · have start : (data.take place ++ sei ++ data.drop place).take place = data.take place := by
        rw [List.append_assoc]
        exact List.take_left' front
      have ending : (data.take place ++ sei ++ data.drop place).drop (place + sei.length) =
          data.drop place := List.drop_left' (by rw [List.length_append, front])
      rw [output, start, ending, List.take_append_drop]
    · rw [output, isSei, nalUnits_spliced first.joins unit, pieces, first.behind]
  · constructor
    · intro unchanged
      have atNal : insertAt codec calls data nal = .unchanged := done.symm.trans unchanged
      unfold insertAt at atNal
      split at atNal
      · cases atNal
      split at atNal
      · cases atNal
      split at atNal
      · cases atNal
      split at atNal <;> cases atNal
    · intro none
      have picture := none _ (lists_iff.mpr whole) vcl (List.mem_append_right _ List.mem_cons_self)
      cases first.picture.symm.trans picture

end VideoMetadata
