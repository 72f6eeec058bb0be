/-
This file is about `ca_annexb_next` as its callers use it: with an offset into a buffer, called
again and again until it gives false.

The calls come to an end on any data, each of them moves the offset forward, and what it returns
lies inside the buffer. On NAL units that were put behind start codes, with any number of zero bytes
between them, the calls return exactly these NAL units.
-/

import CameraGimbal.AnnexB

namespace AnnexB

open List

/-! ### The calls -/

/-- The loops that look for a start code from a position on. -/
def skipTo (data : Bytes) (position : Nat) : Nat :=
  if position < data.length ∧ startCode (data.drop position) = 0 then skipTo data (position + 1)
  else position
termination_by data.length - position

/-- The loop that takes the zeros off the end of a NAL unit. -/
def stripZeros (data : Bytes) (nal : Nat) : Nat → Nat
  | 0 => 0
  | position + 1 =>
    if nal < position + 1 ∧ data[position]? = some 0 then stripZeros data nal position
    else position + 1

/-- What a call returns: where the NAL unit is, and the new offset. -/
structure Found where
  nal : Nat
  length : Nat
  offset : Nat
  deriving DecidableEq, Repr

/-- `ca_annexb_next`. -/
def annexbNextAt (data : Bytes) (offset : Nat) : Option Found :=
  let start := skipTo data offset
  if start = data.length then none
  else
    let nal := start + startCode (data.drop start)
    let behind := skipTo data nal
    some { nal, length := stripZeros data nal behind - nal, offset := behind }

/-- The NAL unit a call returns. -/
def Found.bytes (data : Bytes) (found : Found) : Bytes :=
  (data.drop found.nal).take found.length

/-- The calls from an offset on return these NAL units, and then false. -/
inductive Calls (data : Bytes) : Nat → List Found → Prop where
  | last {offset : Nat} : annexbNextAt data offset = none → Calls data offset []
  | next {offset : Nat} {found : Found} {later : List Found} :
    annexbNextAt data offset = some found → Calls data found.offset later →
      Calls data offset (found :: later)

/-! ### The calls and the search -/

theorem skipTo_eq {data : Bytes} {position : Nat} (inside : position ≤ data.length) :
    skipTo data position = position + beforeStartCode (data.drop position) := by
  induction remaining : data.length - position generalizing position with
  | zero =>
    have isEnd : position = data.length := by omega
    rw [skipTo, if_neg (by omega), isEnd, drop_length]
    rfl
  | succ fewer hypothesis =>
    have before : position < data.length := by omega
    rw [skipTo, drop_eq_getElem_cons before, beforeStartCode]
    by_cases none : startCode (data[position] :: data.drop (position + 1)) = 0
    · rw [if_pos ⟨before, none⟩, if_pos none,
        hypothesis (show position + 1 ≤ data.length from before) (by omega)]
      omega
    · rw [if_neg fun both => none both.2, if_neg none]
      rfl

theorem stripZeros_eq {data : Bytes} {nal position : Nat} (start : nal ≤ position)
    (inside : position ≤ data.length) :
    nal ≤ stripZeros data nal position ∧ stripZeros data nal position ≤ position ∧
      (data.drop nal).take (stripZeros data nal position - nal) =
        ((data.drop nal).take (position - nal)).rdropWhile (· == 0) := by
  induction position with
  | zero =>
    obtain rfl : nal = 0 := Nat.le_zero.mp start
    exact ⟨le_rfl, le_rfl, rfl⟩
  | succ before hypothesis =>
    rw [stripZeros]
    by_cases whole : nal = before + 1
    · rw [if_neg fun both => absurd both.1 (by omega), whole, Nat.sub_self]
      exact ⟨le_rfl, le_rfl, rfl⟩
    have isLast : before < data.length := inside
    have cut : (data.drop nal).take (before + 1 - nal) =
        (data.drop nal).take (before - nal) ++ [data[before]] := by
      have size : before - nal < (data.drop nal).length := by
        rw [length_drop]
        omega
      rw [show before + 1 - nal = before - nal + 1 by omega, take_succ_eq_append_getElem size,
        getElem_drop]
      simp only [show nal + (before - nal) = before by omega]
    rw [cut]
    by_cases zero : data[before] = 0
    · obtain ⟨lower, upper, same⟩ := hypothesis (by omega) (by omega)
      rw [if_pos ⟨by omega, by rw [getElem?_eq_getElem isLast, zero]⟩,
        rdropWhile_concat_pos (· == 0) _ _ (beq_iff_eq.mpr zero)]
      exact ⟨lower, by omega, same⟩
    · rw [if_neg fun both => zero ?_, rdropWhile_concat_neg (· == 0) _ _ (by simpa using zero), cut]
      · exact ⟨start, le_rfl, rfl⟩
      · simpa [getElem?_eq_getElem isLast] using both.2

/-- The start code at a position that the search stopped at lies inside the data. -/
theorem startCode_le {data : Bytes} : startCode data ≤ data.length := by
  unfold startCode
  split
  · next long =>
    have size := congrArg length long
    rw [length_take] at size
    change min 4 data.length = 4 at size
    omega
  split
  · next short =>
    have size := congrArg length short
    rw [length_take] at size
    change min 3 data.length = 3 at size
    omega
  · exact Nat.zero_le _

theorem beforeStartCode_le_length (data : Bytes) : beforeStartCode data ≤ data.length := by
  induction data with
  | nil => exact le_rfl
  | cons first rest hypothesis =>
    rw [beforeStartCode]
    split
    · exact Nat.succ_le_succ hypothesis
    · exact Nat.zero_le _

/-- What a call does: it moves the offset forward, and what it returns lies between the old offset
and the new one. -/
structure Advances (data : Bytes) (offset : Nat) (found : Found) : Prop where
  start : offset < found.nal
  inside : found.nal + found.length ≤ found.offset
  bounded : found.offset ≤ data.length

theorem annexbNextAt_spec {data : Bytes} {offset : Nat} (inside : offset ≤ data.length) :
    annexbNext (data.drop offset) =
        (annexbNextAt data offset).map (fun found => (found.bytes data, data.drop found.offset)) ∧
      ∀ found, annexbNextAt data offset = some found → Advances data offset found := by
  have before := beforeStartCode_le_length (data.drop offset)
  rw [length_drop] at before
  unfold annexbNextAt annexbNext
  simp only [skipTo_eq inside, drop_drop]
  by_cases ends : offset + beforeStartCode (data.drop offset) = data.length
  · rw [if_pos ends, ends, drop_length, if_pos rfl]
    exact ⟨rfl, nofun⟩
  have some : data.drop (offset + beforeStartCode (data.drop offset)) ≠ [] := by
    rw [Ne, drop_eq_nil_iff]
    omega
  have code := startCode_found (data.drop offset) (by rwa [drop_drop])
  have codeInside := @startCode_le (data.drop (offset + beforeStartCode (data.drop offset)))
  rw [drop_drop] at code
  rw [length_drop] at codeInside
  rw [if_neg ends, if_neg some]
  generalize startCode (data.drop (offset + beforeStartCode (data.drop offset))) = size at *
  generalize beforeStartCode (data.drop offset) = skipped at *
  obtain ⟨nal, isNal⟩ : ∃ nal, nal = offset + skipped + size := ⟨_, rfl⟩
  have nalInside : nal ≤ data.length := by omega
  have behind := beforeStartCode_le_length (data.drop nal)
  rw [length_drop] at behind
  simp only [← isNal, skipTo_eq nalInside]
  obtain ⟨lower, upper, stripped⟩ :=
    stripZeros_eq (show nal ≤ nal + beforeStartCode (data.drop nal) by omega)
      (show nal + beforeStartCode (data.drop nal) ≤ data.length by omega)
  constructor
  · rw [Option.map_some, Found.bytes]
    rw [stripped, Nat.add_sub_cancel_left]
  · rintro found same
    cases same
    exact ⟨by simp only; omega, by simp only; omega, by simp only; omega⟩

theorem calls_nalUnits {data : Bytes} {offset : Nat} (inside : offset ≤ data.length) :
    ∃ founds, Calls data offset founds ∧
      founds.map (Found.bytes data) = nalUnits (data.drop offset) ∧
      List.IsChain (· < ·) (offset :: founds.map Found.offset) ∧
      ∀ found ∈ founds, found.nal + found.length ≤ data.length ∧ found.offset ≤ data.length := by
  induction remaining : data.length - offset using Nat.strongRecOn generalizing offset with
  | _ remaining' hypothesis =>
  obtain ⟨same, advances⟩ := annexbNextAt_spec inside
  cases call : annexbNextAt data offset with
  | none =>
    rw [call, Option.map_none] at same
    refine ⟨[], .last call, ?_, .singleton _, nofun⟩
    rw [nalUnits_of_none same]
    rfl
  | some found =>
    rw [call, Option.map_some] at same
    obtain ⟨start, within, bounded⟩ := advances found call
    obtain ⟨later, calls, bytes, chain, ranges⟩ :=
      hypothesis (data.length - found.offset) (by omega) bounded rfl
    refine ⟨found :: later, .next call calls, ?_, ?_, ?_⟩
    · rw [nalUnits_of_some same, map_cons, bytes]
    · exact .cons_cons (by omega) chain
    · exact forall_mem_cons.mpr ⟨⟨by omega, bounded⟩, ranges⟩

/-! ### Streams with zeros in between -/

/-- A NAL unit behind its start code, with zero bytes in front of that. -/
structure Placed where
  zeros : Nat
  code : StartCode
  unit : NalUnit

/-- The byte stream of NAL units, with zero bytes at its end. -/
def stream (units : List Placed) (ending : Nat) : Bytes :=
  (units.flatMap fun placed =>
    List.replicate placed.zeros 0 ++ placed.code.bytes ++ placed.unit.bytes) ++
    List.replicate ending 0

/-- How many zeros stand in front of the short start code. -/
def Placed.lead (placed : Placed) : Nat :=
  match placed.code with
  | .short => placed.zeros
  | .long => placed.zeros + 1

theorem stream_cons (placed : Placed) (later : List Placed) (ending : Nat) :
    stream (placed :: later) ending =
      replicate (placed.lead + 2) 0 ++ 1 :: (placed.unit.bytes ++ stream later ending) := by
  have code : replicate placed.zeros 0 ++ placed.code.bytes =
      replicate (placed.lead + 2) 0 ++ [1] := by
    unfold Placed.lead
    cases placed.code with
    | short => rw [replicate_add, append_assoc]; rfl
    | long => rw [Nat.add_assoc, replicate_add, append_assoc]; rfl
  unfold stream
  rw [flatMap_cons, code]
  simp only [append_assoc, cons_append, nil_append]

/-- Of the zeros in front of a start code the search keeps three at most. -/
theorem beforeStartCode_zeros (lead : Nat) (rest : Bytes) :
    beforeStartCode (replicate (lead + 2) 0 ++ 1 :: rest) = lead - 1 := by
  induction lead with
  | zero => exact beforeStartCode_start .short rest
  | succ fewer hypothesis =>
    cases fewer with
    | zero => exact beforeStartCode_start .long rest
    | succ fewer =>
      have none : startCode (0 :: (replicate (fewer + 1 + 2) 0 ++ 1 :: rest)) = 0 := rfl
      rw [replicate_succ, cons_append, beforeStartCode, if_pos none, hypothesis]
      rfl

theorem beforeStartCode_ending (ending : Nat) : beforeStartCode (replicate ending 0) = ending := by
  induction ending with
  | zero => rfl
  | succ fewer hypothesis =>
    have none : startCode (0 :: replicate fewer 0) = 0 := by
      by_contra found
      obtain ⟨zeros, -, start⟩ := startCode_prefix found
      have one : (1 : UInt8) ∈ replicate (fewer + 1) 0 := by
        rw [replicate_succ]
        exact start.subset (mem_append_right zeros (mem_singleton_self 1))
      exact absurd (eq_of_mem_replicate one) (by decide)
    rw [replicate_succ, beforeStartCode, if_pos none, hypothesis]

theorem stream_skipped (units : List Placed) (ending : Nat) :
    (∀ byte ∈ (stream units ending).take (beforeStartCode (stream units ending)), byte = 0) ∧
      ∃ (same : List Placed) (rest : Nat),
        (stream units ending).drop (beforeStartCode (stream units ending)) = stream same rest ∧
          same.map Placed.unit = units.map Placed.unit := by
  cases units with
  | nil =>
    have only : stream [] ending = replicate ending 0 := rfl
    rw [only, beforeStartCode_ending]
    refine ⟨fun byte member => eq_of_mem_replicate (mem_of_mem_take member), [], 0, ?_, rfl⟩
    rw [drop_replicate, Nat.sub_self]
    rfl
  | cons placed later =>
    have bound : placed.lead - 1 ≤ placed.lead + 2 := by omega
    rw [stream_cons, beforeStartCode_zeros,
      take_append_of_le_length (by rw [length_replicate]; exact bound),
      drop_append_of_le_length (by rw [length_replicate]; exact bound)]
    refine ⟨fun byte member => eq_of_mem_replicate (mem_of_mem_take member), ?_⟩
    refine
      ⟨{ placed with zeros := placed.lead + 2 - (placed.lead - 1) - 2, code := .short } :: later,
        ending, ?_, rfl⟩
    rw [stream_cons, drop_replicate]
    have size : placed.lead + 2 - (placed.lead - 1) =
        placed.lead + 2 - (placed.lead - 1) - 2 + 2 := by omega
    rw [size]
    rfl

theorem strip_zeros (unit : NalUnit) {zeros : Bytes} (only : ∀ byte ∈ zeros, byte = 0) :
    (unit.bytes ++ zeros).rdropWhile (· == 0) = unit.bytes := by
  rw [rdropWhile_append_zeros _ only]
  exact rdropWhile_eq_self_iff.mpr fun nonempty => by simpa using unit.noTrailingZero

theorem annexbNext_stream (placed : Placed) (later : List Placed) (ending : Nat) :
    ∃ (same : List Placed) (rest : Nat),
      annexbNext (stream (placed :: later) ending) =
        some (placed.unit.bytes, stream same rest) ∧
          same.map Placed.unit = later.map Placed.unit := by
  obtain ⟨zeros, same, rest, left, units⟩ := stream_skipped later ending
  refine ⟨same, rest, ?_, units⟩
  have size := beforeStartCode_bytes placed.unit.bytes placed.unit.nonempty
    placed.unit.noStartCode placed.unit.noTrailingZero (stream later ending)
  obtain ⟨code, isCode⟩ : ∃ code : StartCode,
      (stream (placed :: later) ending).drop (beforeStartCode (stream (placed :: later) ending)) =
        code.bytes ++ (placed.unit.bytes ++ stream later ending) := by
    rw [stream_cons, beforeStartCode_zeros, drop_append_of_le_length (by
      rw [length_replicate]; omega), drop_replicate]
    cases placed.lead with
    | zero => exact ⟨.short, rfl⟩
    | succ fewer =>
      rw [show fewer + 1 + 2 - (fewer + 1 - 1) = 3 by omega]
      exact ⟨.long, rfl⟩
  have found : code.bytes ++ (placed.unit.bytes ++ stream later ending) ≠ [] := by
    cases code <;> exact cons_ne_nil _ _
  unfold annexbNext
  simp only
  rw [isCode, if_neg found, startCode_start, drop_left, size, take_length_add_append,
    drop_length_add_append, strip_zeros placed.unit zeros, left]

theorem nalUnits_stream (units : List Placed) (ending : Nat) :
    nalUnits (stream units ending) = units.map fun placed => placed.unit.bytes := by
  induction count : units.length generalizing units ending with
  | zero =>
    obtain rfl := length_eq_zero_iff.mp count
    refine nalUnits_of_none ?_
    have nothing : (stream [] ending).drop (beforeStartCode (stream [] ending)) = [] := by
      rw [show stream [] ending = replicate ending 0 from rfl, beforeStartCode_ending,
        drop_replicate, Nat.sub_self]
      rfl
    unfold annexbNext
    exact if_pos nothing
  | succ fewer hypothesis =>
    obtain ⟨placed, later, rfl⟩ := exists_cons_of_length_eq_add_one count
    obtain ⟨same, rest, next, units⟩ := annexbNext_stream placed later ending
    have size := congrArg length units
    rw [length_map, length_map] at size
    rw [nalUnits_of_some next, hypothesis same rest (by simpa [size] using count), map_cons]
    have bytes := congrArg (map NalUnit.bytes) units
    rw [map_map, map_map] at bytes
    exact congrArg (placed.unit.bytes :: ·) bytes

/-- On any data the calls end, each moves the offset forward and returns a range of the data; and on
a stream of NAL units, whatever start codes and zeros are between them, the calls return these NAL
units. -/
theorem iterator_inverts :
    (∀ (units : List Placed) (ending : Nat),
      ∃ founds, Calls (stream units ending) 0 founds ∧
        founds.map (Found.bytes (stream units ending)) =
          units.map fun placed => placed.unit.bytes) ∧
    ∀ data : Bytes,
      ∃ founds, Calls data 0 founds ∧
        List.IsChain (· < ·) (0 :: founds.map Found.offset) ∧
        ∀ found ∈ founds, found.nal + found.length ≤ data.length ∧ found.offset ≤ data.length := by
  refine ⟨fun units ending => ?_, fun data => ?_⟩
  · obtain ⟨founds, calls, bytes, -, -⟩ := @calls_nalUnits (stream units ending) 0 (Nat.zero_le _)
    refine ⟨founds, calls, ?_⟩
    rw [bytes, List.drop_zero, nalUnits_stream]
  · obtain ⟨founds, calls, -, chain, ranges⟩ := @calls_nalUnits data 0 (Nat.zero_le _)
    exact ⟨founds, calls, chain, ranges⟩

end AnnexB
