/-
This file is about the base64 decoder of the web server. It skips white space, stops at the first
padding, refuses any other byte that is not a letter, and stops when the room for the bytes and
the end of the text is used up. A byte that is stored outside its buffer is a fault of the model.
-/

import CameraGimbal.Base64
import CameraGimbal.CText
import CameraGimbal.RtpVideo

namespace WebBase64

open Base64 (Accumulator)
open CText List
open RtpVideo (forall_uint8)

def b64Value (c : UInt8) : Option Nat :=
  if 65 ≤ c && c ≤ 90 then some (c.toNat - 65)
  else if 97 ≤ c && c ≤ 122 then some (c.toNat - 97 + 26)
  else if 48 ≤ c && c ≤ 57 then some (c.toNat - 48 + 52)
  else if c = 43 then some 62
  else if c = 47 then some 63
  else none

/-- A byte is stored outside its buffer. -/
inductive Fault where
  | overwrite
  deriving DecidableEq, Repr

/-- `output[used] = byte`. The output is the part of the buffer in use. -/
def put (outputSize : Nat) (output : Bytes) (byte : UInt8) : Except Fault Bytes :=
  if output.length < outputSize then .ok (output ++ [byte]) else .error .overwrite

/-- The loop of `decode_base64` over the rest of the text; nothing when it is refused. -/
def decodeFrom (outputSize : Nat) :
    Text → Accumulator → Bytes → Except Fault (Option Bytes)
  | [], _, output => .ok (some output)
  | p :: rest, accumulator, output =>
    if p = 61 then .ok (some output)
    else if isSpace p then decodeFrom outputSize rest accumulator output
    else
      match b64Value p with
      | none => .ok none
      | some value =>
        match accumulator.push value with
        | (accumulator, none) => decodeFrom outputSize rest accumulator output
        | (accumulator, some byte) =>
          if outputSize ≤ output.length + 1 then .ok none
          else do
            let output ← put outputSize output byte
            decodeFrom outputSize rest accumulator output

/-- `decode_base64`: the output up to its end, and its length. -/
def decodeBase64 (input : Text) (outputSize : Nat) : Except Fault (Option (Bytes × Nat)) := do
  match ← decodeFrom outputSize (cString input) .empty [] with
  | none => .ok none
  | some output => do
    let ended ← put outputSize output 0
    .ok (some (ended, output.length))

/-! ### What a text says -/

/-- What is decoded: the text before the first padding, without its white space. -/
def letters (text : Text) : Text := (text.takeWhile (· ≠ 61)).filter fun byte => !isSpace byte

/-- The letters stand for groups of bits. -/
def Legible (text : Text) : Prop := ∀ byte ∈ letters text, byte ∈ Base64.alphabet

/-- The bytes that come out of a text. -/
def decoded (accumulator : Accumulator) (text : Text) : Bytes :=
  Base64.decode accumulator ((letters text).filterMap Base64.valueOf)

theorem b64Value_eq (c : UInt8) : b64Value c = Base64.valueOf c := by
  revert c
  exact forall_uint8 (by decide +kernel)

section Letters

variable {p : UInt8} {rest : Text}

theorem letters_space (notPad : p ≠ 61) (space : isSpace p = true) :
    letters (p :: rest) = letters rest := by
  rw [letters, takeWhile_cons_of_pos (by simpa using notPad), filter_cons_of_neg (by simp [space])]
  rfl

theorem letters_cons (notPad : p ≠ 61) (visible : isSpace p = false) :
    letters (p :: rest) = p :: letters rest := by
  rw [letters, takeWhile_cons_of_pos (by simpa using notPad),
    filter_cons_of_pos (by simp [visible])]
  rfl

end Letters

variable {output : Bytes} {outputSize : Nat}

theorem put_eq (room : output.length < outputSize)
    (byte : UInt8) : put outputSize output byte = .ok (output ++ [byte]) :=
  if_pos room

/-- The loop stores the bytes of a legible text if they fit, and refuses any other text. -/
structure Decodes (outputSize : Nat) (text : Text) (accumulator : Accumulator)
    (output : Bytes) : Prop where
  stores : Legible text → output.length + (decoded accumulator text).length < outputSize →
    decodeFrom outputSize text accumulator output = .ok (some (output ++ decoded accumulator text))
  tooLong : outputSize ≤ output.length + (decoded accumulator text).length →
    decodeFrom outputSize text accumulator output = .ok none
  illegible : ¬ Legible text → decodeFrom outputSize text accumulator output = .ok none

theorem decodes_nil (room : output.length < outputSize)
    {text : Text} (noLetters : letters text = []) {accumulator : Accumulator}
    (stops : decodeFrom outputSize text accumulator output = .ok (some output)) :
    Decodes outputSize text accumulator output := by
  have nothing : decoded accumulator text = [] := by
    rw [decoded, noLetters]
    rfl
  refine ⟨fun _ _ => ?_, fun tooLong => ?_, fun illegible => absurd ?_ illegible⟩
  · rw [stops, nothing, append_nil]
  · rw [nothing] at tooLong
    exact absurd room (not_lt.mpr tooLong)
  · intro byte isLetter
    rw [noLetters] at isLetter
    exact absurd isLetter not_mem_nil

section Steps

variable {outputSize : Nat} {text other : Text} {accumulator next : Accumulator}
  {output later : Bytes}

theorem Decodes.of_same (decodes : Decodes outputSize other next later)
    (legible : Legible text ↔ Legible other)
    (bytes : output ++ decoded accumulator text = later ++ decoded next other)
    (same : decodeFrom outputSize text accumulator output =
      decodeFrom outputSize other next later) : Decodes outputSize text accumulator output := by
  have lengths : output.length + (decoded accumulator text).length =
      later.length + (decoded next other).length := by
    rw [← length_append, bytes, length_append]
  constructor
  · rw [legible, lengths, same, bytes]
    exact decodes.stores
  · rw [lengths, same]
    exact decodes.tooLong
  · rw [legible, same]
    exact decodes.illegible

theorem Decodes.of_refused (refused : decodeFrom outputSize text accumulator output = .ok none)
    (bad : Legible text → outputSize ≤ output.length + (decoded accumulator text).length) :
    Decodes outputSize text accumulator output :=
  ⟨fun legible fits => absurd fits (not_lt.mpr (bad legible)), fun _ => refused, fun _ => refused⟩

variable {p : UInt8} {rest : Text}

theorem legible_cons (first : letters (p :: rest) = p :: letters rest) :
    Legible (p :: rest) ↔ p ∈ Base64.alphabet ∧ Legible rest := by
  rw [Legible, first, forall_mem_cons]
  rfl

section Letter

variable (notPad : p ≠ 61) (visible : isSpace p = false) {value : Nat}
  (isValue : Base64.valueOf p = some value)
include notPad visible

theorem decodeFrom_other (other : Base64.valueOf p = none) :
    decodeFrom outputSize (p :: rest) accumulator output = .ok none := by
  rw [decodeFrom, if_neg notPad, if_neg (Bool.not_eq_true _ ▸ visible), b64Value_eq, other]

include isValue

theorem decodeFrom_few (pushed : accumulator.push value = (next, none)) :
    decodeFrom outputSize (p :: rest) accumulator output = decodeFrom outputSize rest next output ∧
      decoded accumulator (p :: rest) = decoded next rest := by
  constructor
  · rw [decodeFrom, if_neg notPad, if_neg (Bool.not_eq_true _ ▸ visible), b64Value_eq, isValue]
    simp only [pushed]
  · rw [decoded, letters_cons notPad visible, filterMap_cons_some isValue, Base64.decode, pushed]
    rfl

theorem decodeFrom_many {byte : UInt8} (pushed : accumulator.push value = (next, some byte))
    (room : output.length < outputSize) :
    decodeFrom outputSize (p :: rest) accumulator output =
        (if outputSize ≤ output.length + 1 then .ok none
        else decodeFrom outputSize rest next (output ++ [byte])) ∧
      decoded accumulator (p :: rest) = byte :: decoded next rest := by
  constructor
  · rw [decodeFrom, if_neg notPad, if_neg (Bool.not_eq_true _ ▸ visible), b64Value_eq, isValue]
    simp only [pushed, put_eq room]
    rfl
  · rw [decoded, letters_cons notPad visible, filterMap_cons_some isValue, Base64.decode, pushed]
    rfl

end Letter

end Steps

theorem decodeFrom_decodes (text : Text) (accumulator : Accumulator)
    (room : output.length < outputSize) :
    Decodes outputSize text accumulator output := by
  induction text generalizing accumulator output with
  | nil => exact decodes_nil room rfl rfl
  | cons p rest hypothesis =>
    by_cases isPad : p = 61
    · subst isPad
      exact decodes_nil room rfl (if_pos rfl)
    by_cases space : isSpace p = true
    · have skipped : letters (p :: rest) = letters rest := letters_space isPad space
      refine (hypothesis accumulator room).of_same ?_ ?_ ?_
      · rw [Legible, skipped]
        rfl
      · rw [decoded, skipped]
        rfl
      · rw [decodeFrom, if_neg isPad, if_pos space]
    have visible := eq_false_of_ne_true space
    have legible : Legible (p :: rest) ↔ p ∈ Base64.alphabet ∧ Legible rest :=
      legible_cons (letters_cons isPad visible)
    cases isValue : Base64.valueOf p with
    | none =>
      refine .of_refused (decodeFrom_other isPad visible isValue) fun isLegible => ?_
      exact absurd (legible.mp isLegible).1 (idxOf?_eq_none_iff.mp isValue)
    | some value =>
      have isLetter : p ∈ Base64.alphabet := by
        by_contra other
        rw [Base64.valueOf_eq_none other] at isValue
        exact absurd isValue (Option.some_ne_none value).symm
      have restLegible := legible.trans (and_iff_right isLetter)
      rcases pushed : accumulator.push value with ⟨next, _ | byte⟩
      · obtain ⟨loop, bytes⟩ := decodeFrom_few isPad visible isValue pushed
        exact (hypothesis next room).of_same restLegible (congrArg (output ++ ·) bytes) loop
      · obtain ⟨loop, bytes⟩ := decodeFrom_many isPad visible isValue pushed room
        by_cases full : outputSize ≤ output.length + 1
        · refine .of_refused (loop.trans (if_pos full)) fun _ => full.trans ?_
          rw [bytes, length_cons]
          omega
        · have more : (output ++ [byte]).length < outputSize := by
            rw [length_append]
            exact not_le.mp full
          refine (hypothesis next more).of_same restLegible ?_ (loop.trans (if_neg full))
          rw [bytes, append_assoc]
          rfl

/-! ### The whole text -/

section Text

variable {input : Text} {outputSize : Nat}

theorem decodeBase64_stores (room : 0 < outputSize) (legible : Legible (cString input))
    (fits : (decoded .empty (cString input)).length < outputSize) :
    decodeBase64 input outputSize = .ok (some (decoded .empty (cString input) ++ [0],
      (decoded .empty (cString input)).length)) := by
  have decodes : Decodes outputSize (cString input) .empty [] :=
    decodeFrom_decodes (cString input) .empty room
  have stored := decodes.stores legible (by rwa [length_nil, zero_add])
  unfold decodeBase64
  rw [stored, nil_append]
  show (put outputSize (decoded .empty (cString input)) 0 >>= fun ended => _) = _
  rw [put_eq fits]
  rfl

theorem decodeBase64_refused
    (refused : decodeFrom outputSize (cString input) .empty [] = .ok none) :
    decodeBase64 input outputSize = .ok none := by
  unfold decodeBase64
  rw [refused]
  rfl

theorem decodeBase64_tooLong (room : 0 < outputSize)
    (long : outputSize ≤ (decoded .empty (cString input)).length) :
    decodeBase64 input outputSize = .ok none :=
  decodeBase64_refused ((decodeFrom_decodes (cString input) .empty room).tooLong
    (by rwa [length_nil, zero_add]))

theorem decodeBase64_illegible (room : 0 < outputSize) (illegible : ¬ Legible (cString input)) :
    decodeBase64 input outputSize = .ok none :=
  decodeBase64_refused ((decodeFrom_decodes (cString input) .empty room).illegible illegible)

/-- The text without its white space. -/
def visible (text : Text) : Text := text.filter fun byte => !isSpace byte

theorem letters_eq (text : Text) : letters text = (visible text).takeWhile (· ≠ 61) := by
  induction text with
  | nil => rfl
  | cons p rest hypothesis =>
    by_cases isPad : p = 61
    · subst isPad
      rfl
    by_cases space : isSpace p = true
    · rw [letters_space isPad space, hypothesis, visible, visible,
        filter_cons_of_neg (by simp [space])]
    · rw [letters_cons isPad (eq_false_of_ne_true space), hypothesis, visible, visible,
        filter_cons_of_pos (by simp [space]),
        takeWhile_cons_of_pos (by simpa using isPad)]

variable {x text : Text}

section

variable (encoded : visible text = Base64.padded x ∨ visible text = Base64.unpadded x)

include encoded

theorem letters_encoded :
    letters text = Base64.unpadded x := by
  rw [letters_eq]
  exact Base64.takeWhile_encoded x encoded

theorem cString_encoded :
    cString text = text := by
  refine cString_eq_self fun isNul => ?_
  have isVisible : (0 : UInt8) ∈ visible text := mem_filter.mpr ⟨isNul, rfl⟩
  rcases Base64.encoded_subset x encoded 0 isVisible with isLetter | isPad
  · exact absurd isLetter (by decide)
  · exact absurd isPad (by decide)

end

end Text

/-- The decoder inverts the encoding, whether or not it is padded and whatever white space is
inserted; it stores nothing outside its buffer; and it refuses a text that does not fit or that has
another byte before its padding. -/
theorem decodeBase64_inverts :
    (∀ x text outputSize,
      visible text = Base64.padded x ∨ visible text = Base64.unpadded x →
      x.length < outputSize →
      decodeBase64 text outputSize = .ok (some (x ++ [0], x.length))) ∧
    (∀ input outputSize, 0 < outputSize → ∃ result, decodeBase64 input outputSize = .ok result) ∧
    (∀ input outputSize, 0 < outputSize →
      outputSize ≤ (decoded .empty (cString input)).length →
      decodeBase64 input outputSize = .ok none) ∧
    (∀ input outputSize byte, 0 < outputSize →
      byte ∈ (cString input).takeWhile (· ≠ 61) → isSpace byte = false →
      byte ∉ Base64.alphabet → decodeBase64 input outputSize = .ok none) := by
  refine ⟨fun x text outputSize encoded fits => ?_, fun input outputSize room => ?_,
    fun input outputSize => decodeBase64_tooLong,
    fun input outputSize byte room isIn shown other => ?_⟩
  · have isText := cString_encoded encoded
    have unpadded := letters_encoded encoded
    have isDecoded : decoded .empty (cString text) = x := by
      rw [decoded, isText, unpadded, Base64.filterMap_unpadded,
        Base64.decode_groups Base64.waits_empty]
    have legible : Legible (cString text) := by
      rw [isText, Legible, unpadded]
      exact Base64.unpadded_subset x
    rw [decodeBase64_stores (Nat.zero_lt_of_lt fits) legible (isDecoded.symm ▸ fits), isDecoded]
  · by_cases legible : Legible (cString input)
    · rcases lt_or_ge (decoded .empty (cString input)).length outputSize with fits | long
      · exact ⟨_, decodeBase64_stores room legible fits⟩
      · exact ⟨_, decodeBase64_tooLong room long⟩
    · exact ⟨_, decodeBase64_illegible room legible⟩
  · refine decodeBase64_illegible room fun legible => other (legible byte ?_)
    exact List.mem_filter.mpr ⟨isIn, by rw [shown]; rfl⟩

end WebBase64
