/-
This file is about two pieces of an Annex-B stream joined together, where the second one begins with
a start code. The search finds what it finds in the first piece and then what it finds in the
second, as long as the last byte of the first is not another zero of that start code.
-/

import CameraGimbal.AnnexBIterator

namespace AnnexB

open List

/-- In front of the second piece there is no start code one byte earlier. -/
def Joins (front back : Bytes) : Prop :=
  startCode back ≠ 0 ∧ ∀ last ∈ front.getLast?, startCode (last :: back) = 0

/-- A long start code may follow anything. -/
theorem joins_long (front rest : Bytes) : Joins front ([0, 0, 0, 1] ++ rest) := by
  refine ⟨?_, fun last _ => ?_⟩
  · rw [show ([0, 0, 0, 1] : Bytes) = StartCode.long.bytes from rfl, startCode_start]
    decide
  · unfold startCode
    rw [if_neg, if_neg]
    · exact fun same =>
        absurd (cons.inj (cons.inj (cons.inj same).2).2).1 (by decide)
    · exact fun same => absurd (cons.inj (cons.inj (cons.inj (cons.inj same).2).2).2).1 (by decide)

variable {front back : Bytes}

/-- A start code may follow what does not end in a zero. -/
theorem joins_of_getLast (starts : startCode back ≠ 0)
    (nonzero : ∀ last ∈ front.getLast?, last ≠ 0) : Joins front back := by
  refine ⟨starts, fun last isLast => ?_⟩
  unfold startCode
  rw [if_neg, if_neg]
  · exact fun same => nonzero last isLast (cons.inj same).1
  · exact fun same => nonzero last isLast (cons.inj same).1

theorem Joins.startCode_append (joins : Joins front back) {ending : Bytes}
    (nonempty : ending ≠ []) (isSuffix : ending <:+ front) :
    startCode (ending ++ back) = startCode ending := by
  obtain ⟨zeros, isZeros, start⟩ := startCode_prefix joins.1
  obtain ⟨third, behind, rfl⟩ : ∃ third behind, back = 0 :: 0 :: third :: behind := by
    obtain ⟨behind, rfl⟩ := start
    rcases isZeros with rfl | rfl
    · exact ⟨1, behind, rfl⟩
    · exact ⟨0, 1 :: behind, rfl⟩
  match ending, nonempty with
  | [first], _ =>
    have isLast : first ∈ front.getLast? := by
      obtain ⟨before, rfl⟩ := isSuffix
      rw [getLast?_concat]
      rfl
    rw [singleton_append, joins.2 first isLast]
    simp [startCode]
  | [first, second], _ => simp [startCode]
  | [first, second, last], _ => simp [startCode]
  | first :: second :: last :: fourth :: more, _ => rfl

theorem Joins.beforeStartCode_append {ending : Bytes} (joins : Joins front back)
    (isSuffix : ending <:+ front) : beforeStartCode (ending ++ back) = beforeStartCode ending := by
  induction ending with
  | nil =>
    rw [nil_append]
    cases back with
    | nil => exact absurd rfl joins.1
    | cons first rest => exact if_neg joins.1
  | cons first rest hypothesis =>
    have same := joins.startCode_append (cons_ne_nil first rest) isSuffix
    rw [cons_append] at same ⊢
    rw [beforeStartCode, beforeStartCode, same,
      hypothesis ((suffix_cons first rest).trans isSuffix)]

/-- What stands in front of the first start code does not matter. -/
theorem annexbNext_drop_beforeStartCode (data : Bytes) :
    annexbNext (data.drop (beforeStartCode data)) = annexbNext data := by
  have settled : beforeStartCode (data.drop (beforeStartCode data)) = 0 := by
    induction data with
    | nil => rfl
    | cons first rest hypothesis =>
      by_cases code : startCode (first :: rest) = 0
      · rw [beforeStartCode, if_pos code]
        exact hypothesis
      · rw [beforeStartCode, if_neg code, drop_zero, beforeStartCode, if_neg code]
  unfold annexbNext
  rw [settled, drop_zero]

theorem nalUnits_congr {first second : Bytes} (same : annexbNext first = annexbNext second) :
    nalUnits first = nalUnits second := by
  cases next : annexbNext second with
  | none => rw [nalUnits_of_none next, nalUnits_of_none (same.trans next)]
  | some found => rw [nalUnits_of_some next, nalUnits_of_some (same.trans next)]

theorem Joins.annexbNext_append {front back ending : Bytes} (joins : Joins front back)
    (isSuffix : ending <:+ front) :
    match annexbNext ending with
    | none => annexbNext (ending ++ back) = annexbNext back | some (nal, rest) =>
      annexbNext (ending ++ back) = some (nal, rest ++ back) ∧ rest <:+ front := by
  have before := beforeStartCode_le_length ending
  have first := joins.beforeStartCode_append isSuffix
  unfold annexbNext
  by_cases found : ending.drop (beforeStartCode ending) = []
  · rw [if_pos found]
    have whole : beforeStartCode ending = ending.length :=
      le_antisymm before (drop_eq_nil_iff.mp found)
    have moved := annexbNext_drop_beforeStartCode (ending ++ back)
    rw [first, whole, drop_left] at moved
    exact moved.symm
  rw [if_neg found]
  have cut : (ending ++ back).drop (beforeStartCode (ending ++ back)) =
      ending.drop (beforeStartCode ending) ++ back := by
    rw [first, drop_append_of_le_length before]
  have cutSuffix : ending.drop (beforeStartCode ending) <:+ front :=
    (drop_suffix _ _).trans isSuffix
  have code := joins.startCode_append found cutSuffix
  have codeFits := @startCode_le (ending.drop (beforeStartCode ending))
  have behindSuffix := (drop_suffix (startCode (ending.drop (beforeStartCode ending)))
    (ending.drop (beforeStartCode ending))).trans cutSuffix
  have second := joins.beforeStartCode_append behindSuffix
  have behindFits := beforeStartCode_le_length
    ((ending.drop (beforeStartCode ending)).drop (startCode (ending.drop (beforeStartCode ending))))
  have grown : ending.drop (beforeStartCode ending) ++ back ≠ [] := fun nothing =>
    found (append_eq_nil_iff.mp nothing).1
  dsimp only
  rw [cut, if_neg grown, code, drop_append_of_le_length codeFits, second,
    take_append_of_le_length behindFits, drop_append_of_le_length behindFits]
  exact ⟨rfl, (drop_suffix _ _).trans behindSuffix⟩

theorem nalUnits_append (joins : Joins front back) :
    nalUnits (front ++ back) = nalUnits front ++ nalUnits back := by
  suffices pieces : ∀ ending, ending <:+ front →
      nalUnits (ending ++ back) = nalUnits ending ++ nalUnits back from
    pieces front suffix_rfl
  intro ending
  induction size : ending.length using Nat.strong_induction_on generalizing ending with
  | _ length hypothesis =>
  intro isSuffix
  have step := joins.annexbNext_append isSuffix
  cases next : annexbNext ending with
  | none =>
    rw [next] at step
    rw [nalUnits_of_none next, nil_append]
    exact nalUnits_congr step
  | some found =>
    obtain ⟨nal, rest⟩ := found
    rw [next] at step
    rw [nalUnits_of_some next, nalUnits_of_some step.1, cons_append,
      hypothesis rest.length (size ▸ annexbNext_shrinks next) rest rfl step.2]

/-! ### The calls -/

/-- The calls of `ca_annexb_next` return these NAL units. -/
def Lists (data : Bytes) (units : List Bytes) : Prop :=
  ∃ founds, Calls data 0 founds ∧ founds.map (Found.bytes data) = units

theorem Calls.unique {data : Bytes} {offset : Nat} {first second : List Found}
    (calls : Calls data offset first) (others : Calls data offset second) : first = second := by
  induction calls generalizing second with
  | last stops =>
    cases others with
    | last => rfl
    | next found => cases stops.symm.trans found
  | next found later hypothesis =>
    cases others with
    | last stops => cases found.symm.trans stops
    | next found' later' =>
      obtain rfl := Option.some.inj (found.symm.trans found')
      rw [hypothesis later']

theorem lists_iff {data : Bytes} {units : List (Bytes)} :
    Lists data units ↔ nalUnits data = units := by
  obtain ⟨founds, calls, bytes, -, -⟩ := @calls_nalUnits data 0 (Nat.zero_le _)
  rw [drop_zero] at bytes
  constructor
  · rintro ⟨others, otherCalls, rfl⟩
    rw [otherCalls.unique calls, bytes]
  · rintro rfl
    exact ⟨founds, calls, bytes⟩

end AnnexB
