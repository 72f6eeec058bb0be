/-
This file is about the messages that the web server clips to a buffer: the length of a text without
the character that its end cuts through. The scan goes back over at most four bytes. Reading a byte
outside the text is a fault of the model.
-/

import CameraGimbal.Utf8

namespace Utf8Clipping

open Utf8 List

/-- A byte outside the text is read. -/
inductive Fault where
  | overread
  deriving DecidableEq, Repr

/-- `text[index]`, where the text has so many bytes. -/
def fetch (text : Bytes) (length index : Nat) : Except Fault UInt8 :=
  match (text.take length)[index]? with
  | some byte => .ok byte
  | none => .error .overread

/-- The loop, back over the bytes that continue a character. -/
def scanBack (text : Bytes) (length : Nat) : Nat → Except Fault Nat
  | 0 => .ok 0
  | start + 1 =>
    if length - (start + 1) < 4 then do
      let byte ← fetch text length start
      if byte &&& 0xc0 = 0x80 then scanBack text length start else .ok (start + 1)
    else .ok (start + 1)

/-- The bytes of a character with this first byte, as `expected`. -/
def expected (lead : UInt8) : Nat :=
  if 0xf0 ≤ lead then 4 else if 0xe0 ≤ lead then 3 else if 0xc0 ≤ lead then 2 else 1

def utf8CompleteLength (text : Bytes) (length : Nat) : Except Fault Nat := do
  let start ← scanBack text length length
  if start = 0 then .ok length
  else do
    let lead ← fetch text length (start - 1)
    if lead < 0x80 then .ok length
    else .ok (if expected lead ≤ length - start + 1 then length else start - 1)

/-! ### Every text -/

section Reading

variable {text : Bytes} {length index : Nat} {byte : UInt8}

theorem fetch_eq (stands : (text.take length)[index]? = some byte) :
    fetch text length index = .ok byte := by
  rw [fetch, stands]

theorem exists_fetch (cut : length ≤ text.length) (inside : index < length) :
    ∃ byte, fetch text length index = .ok byte := by
  have short : index < (text.take length).length := by
    rw [length_take]
    exact Nat.lt_min.mpr ⟨inside, Nat.lt_of_lt_of_le inside cut⟩
  exact ⟨_, fetch_eq (getElem?_eq_getElem short)⟩

variable {start : Nat} (near : length - (start + 1) < 4)
  (fetched : fetch text length start = .ok byte)
include near fetched

theorem scanBack_tail (tail : isTail byte = true) :
    scanBack text length (start + 1) = scanBack text length start := by
  rw [scanBack, if_pos near, fetched]
  exact if_pos (eq_of_beq tail)

theorem scanBack_lead (lead : isTail byte = false) :
    scanBack text length (start + 1) = .ok (start + 1) := by
  rw [scanBack, if_pos near, fetched]
  exact if_neg (ne_of_beq_false lead)

end Reading

theorem scanBack_ends {text : Bytes} {length : Nat} (cut : length ≤ text.length)
    {start : Nat} (inside : start ≤ length) :
    ∃ stop, scanBack text length start = .ok stop ∧ stop ≤ start := by
  induction start with
  | zero => exact ⟨0, rfl, Nat.le_refl _⟩
  | succ start hypothesis =>
    by_cases near : length - (start + 1) < 4
    · obtain ⟨byte, fetched⟩ := exists_fetch cut inside
      cases tail : isTail byte with
      | true =>
        obtain ⟨stop, scans, bound⟩ := hypothesis (Nat.le_of_succ_le inside)
        exact ⟨stop, (scanBack_tail near fetched tail).trans scans, Nat.le_succ_of_le bound⟩
      | false => exact ⟨start + 1, scanBack_lead near fetched tail, Nat.le_refl _⟩
    · refine ⟨start + 1, ?_, Nat.le_refl _⟩
      rw [scanBack, if_neg near]

theorem utf8CompleteLength_le {text : Bytes} {length : Nat} (cut : length ≤ text.length) :
    ∃ complete, utf8CompleteLength text length = .ok complete ∧ complete ≤ length := by
  obtain ⟨start, scans, bound⟩ := scanBack_ends cut (Nat.le_refl length)
  unfold utf8CompleteLength
  rw [scans]
  show ∃ complete, (if start = 0 then _ else _) = _ ∧ _
  by_cases first : start = 0
  · exact ⟨length, if_pos first, Nat.le_refl _⟩
  · obtain ⟨lead, fetched⟩ := exists_fetch cut (show start - 1 < length by omega)
    rw [if_neg first, fetched]
    show ∃ complete, (if lead < 0x80 then _ else _) = _ ∧ _
    by_cases ascii : lead < 0x80
    · exact ⟨length, if_pos ascii, Nat.le_refl _⟩
    · refine ⟨_, if_neg ascii, ?_⟩
      split
      · exact Nat.le_refl _
      · omega

/-! ### Valid texts -/

theorem span_of_ascii {lead : UInt8} (ascii : lead < 0x80) : span lead = 1 := by
  have small : lead.toNat < 128 := UInt8.lt_iff_toNat_lt.mp ascii
  have isSpan := (lead_one small).2
  rwa [UInt8.ofNat_toNat] at isSpan

section Character

variable {text before part : Bytes} {length : Nat} {lead : UInt8}
  (isCut : text.take length = before ++ lead :: part) (cut : length ≤ text.length)
include isCut

theorem fetch_lead : fetch text length before.length = .ok lead := by
  refine fetch_eq ?_
  rw [isCut, getElem?_append_right (Nat.le_refl _), Nat.sub_self]
  rfl

include cut

theorem length_cut : length = before.length + (part.length + 1) := by
  have lengths := congrArg List.length isCut
  rwa [List.length_take, Nat.min_eq_left cut, List.length_append, List.length_cons] at lengths

variable (first : isTail lead = false) (further : ∀ byte ∈ part, isTail byte = true)
  (few : part.length < 4)
include first further few

theorem scanBack_eq {count : Nat} (inside : count ≤ part.length) :
    scanBack text length (before.length + 1 + count) = .ok (before.length + 1) := by
  have isLength := length_cut isCut cut
  induction count with
  | zero => exact scanBack_lead (by omega) (fetch_lead isCut) first
  | succ count hypothesis =>
    have fetched : fetch text length (before.length + 1 + count) = .ok part[count] := by
      refine fetch_eq ?_
      rw [isCut, getElem?_append_right (by omega),
        show before.length + 1 + count - before.length = count + 1 by omega,
        getElem?_cons_succ, getElem?_eq_getElem inside]
    have tail : isTail part[count] = true := further _ (getElem_mem inside)
    exact (scanBack_tail (by omega) fetched tail).trans (hypothesis (Nat.le_of_succ_le inside))

theorem utf8CompleteLength_eq :
    utf8CompleteLength text length =
      .ok (if span lead ≤ part.length + 1 then length else before.length) := by
  have isLength := length_cut isCut cut
  have scans : scanBack text length length = .ok (before.length + 1) := by
    have all := scanBack_eq isCut cut first further few (Nat.le_refl part.length)
    rwa [show before.length + 1 + part.length = length by omega] at all
  unfold utf8CompleteLength
  rw [scans]
  show (fetch text length before.length >>= fun lead => _) = _
  rw [fetch_lead isCut]
  show (if lead < 0x80 then _ else _) = _
  have present : length - (before.length + 1) + 1 = part.length + 1 := by omega
  by_cases ascii : lead < 0x80
  · rw [if_pos ascii, span_of_ascii ascii, if_pos (Nat.le_add_left 1 _)]
  · rw [if_neg ascii, present]
    rfl

end Character

/-- The greatest length within a cut at which a text is valid. -/
structure Greatest (text : Bytes) (cut complete : Nat) : Prop where
  within : complete ≤ cut
  valid : Valid (text.take complete)
  greatest : ∀ other ≤ cut, Valid (text.take other) → other ≤ complete

theorem complete_of_between {text : Bytes} {cut : Nat} (within : cut ≤ text.length)
    {kept : List Char} (whole : text.take cut = encode kept) :
    utf8CompleteLength text cut = .ok cut ∧ Greatest text cut cut := by
  refine ⟨?_, Nat.le_refl cut, ⟨kept, whole.symm⟩, fun other inside _ => inside⟩
  rcases eq_nil_or_concat kept with rfl | ⟨before, last, rfl⟩
  · have nothing : cut = 0 := by
      have lengths := congrArg length whole
      rw [length_take, Nat.min_eq_left within] at lengths
      exact lengths
    rw [nothing]
    rfl
  · obtain ⟨lead, tail, isChar, spelled⟩ := encodeChar_spelled last
    rw [concat_eq_append, encode_concat, isChar] at whole
    rw [utf8CompleteLength_eq whole within spelled.first spelled.further spelled.few,
      if_pos (Nat.le_of_eq spelled.span)]

theorem complete_of_inside {text before tail part : Bytes} {lead : UInt8} {cut : Nat}
    (within : cut ≤ text.length) (valid : Valid before) (spelled : Spelled lead tail)
    (isPart : part <+: tail) (short : part.length < tail.length)
    (whole : text.take cut = before ++ lead :: part) :
    utf8CompleteLength text cut = .ok before.length ∧ Greatest text cut before.length := by
  have isCut := length_cut whole within
  have starts : ∀ other ≤ cut, text.take other = (before ++ lead :: part).take other := by
    intro other inside
    rw [← whole, take_take, Nat.min_eq_left inside]
  refine ⟨?_, by omega, ?_, fun other inside isValid => ?_⟩
  · have further : ∀ byte ∈ part, isTail byte = true :=
      fun byte isByte => spelled.further byte (isPart.subset isByte)
    have missing : ¬ span lead ≤ part.length + 1 := by
      rw [spelled.span]
      omega
    rw [utf8CompleteLength_eq whole within spelled.first further (Nat.lt_trans short spelled.few),
      if_neg missing]
  · rwa [starts before.length (by omega), take_left]
  · by_contra beyond
    obtain ⟨more, rfl⟩ : ∃ more, other = before.length + (more + 1) :=
      ⟨other - before.length - 1, by omega⟩
    rw [starts _ inside, take_length_add_append, take_succ_cons] at isValid
    refine not_valid_of_part valid spelled ((List.take_prefix more part).trans isPart) ?_ isValid
    rw [length_take]
    omega

/-- Clipping never leaves half a character: of a valid text that is cut anywhere, the length is the
greatest one within the cut at which the text is valid. On any bytes only those before the cut are
read, and the length is within the cut. -/
theorem utf8CompleteLength_greatest :
    (∀ text cut, Valid text → cut ≤ text.length →
      ∃ complete, utf8CompleteLength text cut = .ok complete ∧ Greatest text cut complete) ∧
    (∀ text cut, cut ≤ text.length →
      ∃ complete, utf8CompleteLength text cut = .ok complete ∧ complete ≤ cut) := by
  refine ⟨fun text cut valid within => ?_, fun text cut within => utf8CompleteLength_le within⟩
  obtain ⟨chars, rfl⟩ := valid
  cases cut_take chars cut with
  | between kept whole => exact ⟨cut, complete_of_between within whole⟩
  | inside before lead tail part valid spelled isPart short whole =>
    exact ⟨before.length, complete_of_inside within valid spelled isPart short whole⟩

end Utf8Clipping
