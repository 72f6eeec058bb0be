/-
This file is about the byte stream of a video access unit: NAL units behind start
codes of three or four bytes, and the search for the next of them.

The search over an access unit finds exactly the NAL units it was put together from,
since none of them holds a start code or ends in a zero byte.
-/

import CameraGimbal.Bytes
import Mathlib.Data.List.DropRight
import Mathlib.Data.List.Infix

namespace AnnexB

open List

/-! ### The search -/

/-- The length of the start code at the head of the data; zero when there is none. -/
def startCode (data : Bytes) : Nat :=
  if data.take 4 = [0, 0, 0, 1] then 4 else if data.take 3 = [0, 0, 1] then 3 else 0

/-- The number of bytes in front of the first start code. -/
def beforeStartCode : Bytes → Nat
  | [] => 0
  | first :: rest => if startCode (first :: rest) = 0 then beforeStartCode rest + 1 else 0

/-- `ca_annexb_next` on the data from the offset on: the next NAL unit without the zeros behind
it, and the data from the new offset on. -/
def annexbNext (data : Bytes) : Option (Bytes × Bytes) :=
  let found := data.drop (beforeStartCode data)
  if found = [] then none
  else
    let behind := found.drop (startCode found)
    some ((behind.take (beforeStartCode behind)).rdropWhile (· == 0),
      behind.drop (beforeStartCode behind))

/-- The search stops at a start code. -/
theorem startCode_found (data : Bytes) (found : data.drop (beforeStartCode data) ≠ []) :
    startCode (data.drop (beforeStartCode data)) ≠ 0 := by
  induction data with
  | nil => exact absurd rfl found
  | cons first rest hypothesis =>
    unfold beforeStartCode at found ⊢
    by_cases none : startCode (first :: rest) = 0
    · rw [if_pos none] at found ⊢
      exact hypothesis found
    · rw [if_neg none]
      exact none

variable {data : Bytes}

theorem annexbNext_shrinks {nal rest : Bytes} (next : annexbNext data = some (nal, rest)) :
    rest.length < data.length := by
  unfold annexbNext at next
  simp only at next
  split at next
  · cases next
  next found =>
  obtain ⟨-, rfl⟩ := Prod.mk.inj (Option.some.inj next)
  have positive := startCode_found data found
  have := length_pos_iff.mpr found
  simp only [length_drop] at this ⊢
  omega

def nalUnits (data : Bytes) : List Bytes :=
  match _next : annexbNext data with
  | none => []
  | some (nal, rest) => nal :: nalUnits rest
termination_by data.length
decreasing_by exact annexbNext_shrinks _next

theorem nalUnits_of_none (next : annexbNext data = none) : nalUnits data = [] := by
  rw [nalUnits]
  split <;> simp_all

theorem nalUnits_of_some {data nal rest : Bytes}
    (next : annexbNext data = some (nal, rest)) : nalUnits data = nal :: nalUnits rest := by
  rw [nalUnits]
  split <;> simp_all

/-! ### Access units -/

/-- A NAL unit: bytes that hold no start code and do not end in a zero. -/
structure NalUnit where
  bytes : Bytes
  nonempty : bytes ≠ []
  noStartCode : ¬ [0, 0, 1] <:+: bytes
  noTrailingZero : bytes.getLast nonempty ≠ 0

/-- The two start codes. -/
inductive StartCode where
  | short
  | long
  deriving DecidableEq, Repr

def StartCode.bytes : StartCode → Bytes
  | .short => [0, 0, 1]
  | .long => [0, 0, 0, 1]

/-- The byte stream of NAL units, each behind a start code. -/
def encode (units : List (StartCode × NalUnit)) : Bytes :=
  units.flatMap fun unit => unit.1.bytes ++ unit.2.bytes

/-! ### The search finds what was put together -/

theorem startCode_start (code : StartCode) (rest : Bytes) :
    startCode (code.bytes ++ rest) = code.bytes.length := by
  cases code with
  | long => rfl
  | short => cases rest <;> rfl

/-- A start code is two or three zeros and a one. -/
theorem startCode_prefix (found : startCode data ≠ 0) :
    ∃ zeros, (zeros = [0, 0] ∨ zeros = [0, 0, 0]) ∧ zeros ++ [1] <+: data := by
  unfold startCode at found
  split at found
  · next long =>
    refine ⟨[0, 0, 0], .inr rfl, ?_⟩
    have start := take_prefix 4 data
    rwa [long] at start
  split at found
  · next short =>
    refine ⟨[0, 0], .inl rfl, ?_⟩
    have start := take_prefix 3 data
    rwa [short] at start
  · exact absurd rfl found

/-- No start code begins inside bytes that hold none and do not end in a zero. -/
theorem startCode_inside {bytes : Bytes} (rest : Bytes) (nonempty : bytes ≠ [])
    (noStartCode : ¬ [0, 0, 1] <:+: bytes) (noTrailingZero : bytes.getLast nonempty ≠ 0) :
    startCode (bytes ++ rest) = 0 := by
  by_contra found
  obtain ⟨zeros, isZeros, start⟩ := startCode_prefix found
  have bytesPrefix : bytes <+: bytes ++ rest := prefix_append bytes rest
  by_cases short : bytes.length ≤ zeros.length
  · -- the bytes are among the zeros
    have inside : bytes <+: zeros :=
      prefix_of_prefix_length_le bytesPrefix ((prefix_append zeros [1]).trans start) short
    have member := inside.subset (getLast_mem nonempty)
    refine noTrailingZero ?_
    rcases isZeros with rfl | rfl <;> simpa using member
  · -- the whole start code is among the bytes
    have inside : zeros ++ [1] <+: bytes := by
      refine prefix_of_prefix_length_le start bytesPrefix ?_
      rw [length_append, length_singleton]
      omega
    refine noStartCode (IsInfix.trans ?_ inside.isInfix)
    rcases isZeros with rfl | rfl
    · exact infix_rfl
    · exact ⟨[0], [], rfl⟩

theorem beforeStartCode_start (code : StartCode) (rest : Bytes) :
    beforeStartCode (code.bytes ++ rest) = 0 := by
  have found : startCode (code.bytes ++ rest) ≠ 0 := by
    rw [startCode_start]
    cases code <;> decide
  cases code with
  | short => exact if_neg found
  | long => exact if_neg found

/-- In front of the next start code is the whole NAL unit. -/
theorem beforeStartCode_bytes (bytes : Bytes) (nonempty : bytes ≠ [])
    (noStartCode : ¬ [0, 0, 1] <:+: bytes) (noTrailingZero : bytes.getLast nonempty ≠ 0)
    (rest : Bytes) :
    beforeStartCode (bytes ++ rest) = bytes.length + beforeStartCode rest := by
  induction bytes with
  | nil => exact absurd rfl nonempty
  | cons first tail hypothesis =>
    have inside := startCode_inside rest nonempty noStartCode noTrailingZero
    rw [cons_append] at inside ⊢
    rw [beforeStartCode, if_pos inside, length_cons, Nat.succ_add]
    cases tail with
    | nil => exact congrArg (· + 1) (Nat.zero_add _).symm
    | cons second tail =>
      rw [getLast_cons (cons_ne_nil second tail)] at noTrailingZero
      exact congrArg (· + 1) (hypothesis (cons_ne_nil second tail)
        (fun found => noStartCode (infix_cons found)) noTrailingZero)

variable (units : List (StartCode × NalUnit))

theorem beforeStartCode_encode :
    beforeStartCode (encode units) = 0 := by
  cases units with
  | nil => rfl
  | cons unit rest =>
    unfold encode
    rw [flatMap_cons, append_assoc]
    exact beforeStartCode_start unit.1 _

theorem annexbNext_encode (unit : StartCode × NalUnit) (rest : List (StartCode × NalUnit)) :
    annexbNext (encode (unit :: rest)) = some (unit.2.bytes, encode rest) := by
  obtain ⟨code, nal⟩ := unit
  have whole : encode ((code, nal) :: rest) = code.bytes ++ (nal.bytes ++ encode rest) := by
    unfold encode
    rw [flatMap_cons, append_assoc]
  have size : beforeStartCode (nal.bytes ++ encode rest) = nal.bytes.length := by
    rw [beforeStartCode_bytes nal.bytes nal.nonempty nal.noStartCode nal.noTrailingZero,
      beforeStartCode_encode, Nat.add_zero]
  have found : code.bytes ++ (nal.bytes ++ encode rest) ≠ [] := by
    cases code <;> exact cons_ne_nil _ _
  have kept : nal.bytes.rdropWhile (· == 0) = nal.bytes := by
    refine rdropWhile_eq_self_iff.mpr fun nonempty => ?_
    simpa using nal.noTrailingZero
  unfold annexbNext
  simp only
  rw [whole, beforeStartCode_start, drop_zero, if_neg found, startCode_start,
    drop_left, size, take_left, drop_left, kept]

theorem nalUnits_encode :
    nalUnits (encode units) = units.map fun unit => unit.2.bytes := by
  induction units with
  | nil => exact nalUnits_of_none rfl
  | cons unit rest hypothesis =>
    rw [nalUnits_of_some (annexbNext_encode unit rest), hypothesis, map_cons]

/-! ### What the search finds -/

theorem beforeStartCode_le {data before behind : Bytes}
    (holds : data = before ++ ([0, 0, 1] ++ behind)) : beforeStartCode data ≤ before.length := by
  induction before generalizing data with
  | nil =>
    have found : startCode data ≠ 0 := by
      rw [holds, nil_append, show ([0, 0, 1] : Bytes) = StartCode.short.bytes from rfl,
        startCode_start]
      decide
    rw [holds] at found ⊢
    exact (if_neg found).le
  | cons first rest hypothesis =>
    rw [holds, cons_append, beforeStartCode]
    split
    · exact Nat.succ_le_succ (hypothesis rfl)
    · exact Nat.zero_le _

/-- In front of the first start code there is none. -/
theorem noStartCode_before (data : Bytes) :
    ¬ [0, 0, 1] <:+: data.take (beforeStartCode data) := by
  rintro ⟨before, behind, inside⟩
  have holds : data = before ++ ([0, 0, 1] ++ (behind ++ data.drop (beforeStartCode data))) := by
    rw [← append_assoc [0, 0, 1], ← append_assoc before, ← append_assoc before,
      inside, take_append_drop]
  have first := beforeStartCode_le holds
  have size := congrArg length inside
  rw [length_append, length_append, length_take] at size
  have code : ([0, 0, 1] : Bytes).length = 3 := rfl
  omega

theorem nalUnit_of_mem {nal : Bytes} (member : nal ∈ nalUnits data) (nonempty : nal ≠ []) :
    ∃ unit : NalUnit, unit.bytes = nal := by
  induction data using nalUnits.induct with
  | case1 data next =>
    rw [nalUnits_of_none next] at member
    cases member
  | case2 data first rest next hypothesis =>
    rw [nalUnits_of_some next] at member
    rcases mem_cons.mp member with rfl | later
    · unfold annexbNext at next
      simp only at next
      split at next
      · cases next
      obtain ⟨rfl, -⟩ := Prod.mk.inj (Option.some.inj next)
      refine ⟨⟨_, nonempty, fun inside => ?_, ?_⟩, rfl⟩
      · exact noStartCode_before _ (inside.trans (List.rdropWhile_prefix _ _).isInfix)
      · have last := rdropWhile_last_not (· == (0 : UInt8)) _ nonempty
        simpa using last
    · exact hypothesis later

/-! ### The end of the data -/

/-- Nothing but zeros stands behind the last start code. -/
def EndsInStartCode (data : Bytes) : Prop := [0, 0, 1] <:+ data.rdropWhile (· == 0)

instance (data : Bytes) : Decidable (EndsInStartCode data) :=
  inferInstanceAs (Decidable ([0, 0, 1] <:+ _))

/-- The search finds something wherever there is a start code. -/
theorem found_of_code (holds : [0, 0, 1] <:+: data) : annexbNext data ≠ none := by
  obtain ⟨before, behind, rfl⟩ := holds
  have first := @beforeStartCode_le (before ++ [0, 0, 1] ++ behind) before behind
    (append_assoc _ _ _)
  have found : (before ++ [0, 0, 1] ++ behind).drop
      (beforeStartCode (before ++ [0, 0, 1] ++ behind)) ≠ [] := by
    rw [Ne, drop_eq_nil_iff, length_append, length_append]
    have code : ([0, 0, 1] : Bytes).length = 3 := rfl
    omega
  unfold annexbNext
  rw [if_neg found]
  exact nofun

/-- What a search that succeeds does: the data is cut behind a start code and in front of the next
one, and the NAL unit is what is between them without the zeros at its end. -/
theorem annexbNext_cut {nal rest : Bytes} (next : annexbNext data = some (nal, rest)) :
    ∃ before body, data = before ++ [0, 0, 1] ++ body ++ rest ∧
      nal = body.rdropWhile (· == 0) ∧ ¬ [0, 0, 1] <:+: body ∧
      (rest = [] ∨ ∃ zeros tail, (zeros = [0, 0] ∨ zeros = [0, 0, 0]) ∧
        rest = zeros ++ 1 :: tail) := by
  unfold annexbNext at next
  simp only at next
  split at next
  · cases next
  next some =>
  cases next
  obtain ⟨found, isFound⟩ : ∃ found, found = data.drop (beforeStartCode data) := ⟨_, rfl⟩
  have cut : data.take (beforeStartCode data) ++ found = data := by
    rw [isFound, take_append_drop]
  have code : startCode found ≠ 0 := by
    rw [isFound]
    exact startCode_found data some
  rw [← isFound]
  obtain ⟨behind, isBehind⟩ : ∃ behind, behind = found.drop (startCode found) := ⟨_, rfl⟩
  have codeCut : ∃ zero, found = zero ++ [0, 0, 1] ++ behind := by
    have whole := take_append_drop (startCode found) found
    rw [← isBehind] at whole
    rw [← whole]
    unfold startCode at code ⊢
    split
    · next long => exact ⟨[0], by rw [long]; rfl⟩
    split
    · next short => exact ⟨[], by rw [short]; rfl⟩
    · next long short => rw [if_neg long, if_neg short] at code; exact absurd rfl code
  obtain ⟨zero, codeCut⟩ := codeCut
  rw [← isBehind]
  refine ⟨data.take (beforeStartCode data) ++ zero, behind.take (beforeStartCode behind), ?_, rfl,
    noStartCode_before behind, ?_⟩
  · rw [append_assoc _ _ (behind.drop _), take_append_drop, append_assoc,
      append_assoc, ← append_assoc zero, ← codeCut, cut]
  · by_cases ends : behind.drop (beforeStartCode behind) = []
    · exact .inl ends
    · obtain ⟨zeros, isZeros, start⟩ := startCode_prefix (startCode_found behind ends)
      obtain ⟨tail, whole⟩ := start
      exact .inr ⟨zeros, tail, isZeros, by rw [← whole, append_assoc]; rfl⟩

theorem rdropWhile_append_kept (before : Bytes) (kept : data.rdropWhile (· == 0) ≠ []) :
    (before ++ data).rdropWhile (· == 0) = before ++ data.rdropWhile (· == 0) := by
  induction data using reverseRecOn with
  | nil => exact absurd rfl kept
  | append_singleton earlier last hypothesis =>
    rw [← append_assoc]
    by_cases zero : last = 0
    · rw [rdropWhile_concat_pos (· == 0) _ _ (beq_iff_eq.mpr zero)] at kept ⊢
      rw [rdropWhile_concat_pos (· == 0) _ _ (beq_iff_eq.mpr zero)]
      exact hypothesis kept
    · rw [rdropWhile_concat_neg (· == 0) _ _ (by simpa using zero),
        rdropWhile_concat_neg (· == 0) _ _ (by simpa using zero), append_assoc]

theorem rdropWhile_append_zeros (before : Bytes) {zeros : Bytes}
    (only : ∀ byte ∈ zeros, byte = 0) :
    (before ++ zeros).rdropWhile (· == 0) = before.rdropWhile (· == 0) := by
  induction zeros using reverseRecOn with
  | nil => rw [append_nil]
  | append_singleton earlier last hypothesis =>
    have isZero := only last (mem_append_right earlier (mem_singleton_self last))
    rw [← append_assoc, rdropWhile_concat_pos (· == 0) _ _ (beq_iff_eq.mpr isZero)]
    exact hypothesis fun byte member => only byte (mem_append_left _ member)

/-- Behind a start code that is not the last thing, none ends in less than three bytes. -/
theorem not_code_behind {before core : Bytes} (some : core ≠ [])
    (none : ¬ [0, 0, 1] <:+: core) : ¬ [0, 0, 1] <:+ before ++ [0, 0, 1] ++ core := by
  intro ends
  have whole : [0, 0, 1] ++ core <:+ before ++ [0, 0, 1] ++ core :=
    ⟨before, (append_assoc _ _ _).symm⟩
  have inside : [0, 0, 1] <:+ [0, 0, 1] ++ core :=
    suffix_of_suffix_length_le ends whole (by
      rw [length_append]
      exact Nat.le_add_right _ _)
  match core, some with
  | [first], _ =>
    obtain ⟨before, same⟩ := inside
    have one := congrArg (fun bytes : Bytes => bytes.reverse[1]?) same
    simp at one
  | [first, second], _ =>
    obtain ⟨before, same⟩ := inside
    have one := congrArg (fun bytes : Bytes => bytes.reverse[2]?) same
    simp at one
  | first :: second :: third :: rest, _ =>
    have inCore : [0, 0, 1] <:+ first :: second :: third :: rest :=
      suffix_of_suffix_length_le inside (suffix_append _ _) (by
        simp only [length_cons, length_nil]
        omega)
    exact none inCore.isInfix

/-- The last NAL unit that the search finds is empty exactly when the data ends in a start code. -/
theorem last_empty_iff (data : Bytes) :
    (nalUnits data).getLast? = some [] ↔ EndsInStartCode data := by
  induction data using nalUnits.induct with
  | case1 data next =>
    rw [nalUnits_of_none next]
    refine ⟨nofun, fun ends => absurd next (found_of_code ?_)⟩
    exact ends.isInfix.trans (List.rdropWhile_prefix _ _).isInfix
  | case2 data nal rest next later =>
    rw [nalUnits_of_some next]
    obtain ⟨before, body, rfl, rfl, noCode, ends⟩ := annexbNext_cut next
    rcases ends with rfl | ⟨zeros, tail, isZeros, rfl⟩
    · -- the NAL unit is the last one
      rw [nalUnits_of_none rfl, getLast?_singleton, append_nil]
      unfold EndsInStartCode
      by_cases empty : body.rdropWhile (· == 0) = []
      · have zeros : (before ++ [0, 0, 1] ++ body).rdropWhile (· == 0) = before ++ [0, 0, 1] := by
          rw [rdropWhile_append_zeros _ fun byte member =>
            eq_of_beq (rdropWhile_eq_nil_iff.mp empty byte member)]
          exact rdropWhile_append_kept before (by decide)
        rw [zeros, empty]
        exact ⟨fun _ => suffix_append _ _, fun _ => rfl⟩
      · rw [rdropWhile_append_kept _ empty]
        refine ⟨fun same => absurd (Option.some.inj same) empty, fun code => absurd code ?_⟩
        exact not_code_behind empty fun inside =>
          noCode (inside.trans (List.rdropWhile_prefix _ _).isInfix)
    · -- a start code follows, and there is another NAL unit
      have another : nalUnits (zeros ++ 1 :: tail) ≠ [] := by
        have code : [0, 0, 1] <:+: zeros ++ 1 :: tail := by
          rcases isZeros with rfl | rfl
          · exact ⟨[], tail, rfl⟩
          · exact ⟨[0], tail, rfl⟩
        cases found : annexbNext (zeros ++ 1 :: tail) with
        | none => exact absurd found (found_of_code code)
        | some pair =>
          rw [@nalUnits_of_some _ pair.1 pair.2 found]
          exact cons_ne_nil _ _
      obtain ⟨first, others, isCons⟩ := exists_cons_of_ne_nil another
      rw [isCons, getLast?_cons_cons, ← isCons, later]
      have one : (1 :: tail).rdropWhile (· == 0) ≠ [] := fun nothing =>
        absurd (rdropWhile_eq_nil_iff.mp nothing 1 mem_cons_self) (by decide)
      have start : (zeros ++ 1 :: tail).rdropWhile (· == 0) =
          zeros ++ (1 :: tail).rdropWhile (· == 0) := rdropWhile_append_kept zeros one
      have long : 3 ≤ (zeros ++ (1 :: tail).rdropWhile (· == 0)).length := by
        have positive := length_pos_iff.mpr one
        rw [length_append]
        rcases isZeros with rfl | rfl
        · exact Nat.add_le_add_left positive 2
        · exact (Nat.le_add_right 3 _)
      have whole := rdropWhile_append_kept (before ++ [0, 0, 1] ++ body)
        (show (zeros ++ 1 :: tail).rdropWhile (· == 0) ≠ [] by
          rw [start]
          exact append_ne_nil_of_right_ne_nil _ one)
      unfold EndsInStartCode
      rw [whole, start]
      constructor
      · exact fun ends => ends.trans (suffix_append _ _)
      · exact fun ends => suffix_of_suffix_length_le ends (suffix_append _ _) long

end AnnexB
