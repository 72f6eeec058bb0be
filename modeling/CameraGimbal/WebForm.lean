/-
This file models what the web server reads from a form: the pairs of the body, the decoding of a
value, and newlines in the form the server uses.
-/

import CameraGimbal.CText

namespace WebForm

open CText

/-- `hex_value`; none for a byte that is not a hexadecimal digit. -/
def hexValue (byte : UInt8) : Option UInt8 :=
  if 48 ≤ byte ∧ byte ≤ 57 then some (byte - 48)
  else if 97 ≤ byte ∧ byte ≤ 102 then some (byte - 97 + 10)
  else if 65 ≤ byte ∧ byte ≤ 70 then some (byte - 65 + 10)
  else none

/-- One byte of a decoded value, which may not be a NUL. -/
def decoded (value : UInt8) (rest : Option Text) : Option Text :=
  if value = 0 then none else rest.map (value :: ·)

/-- `url_decode`. A percent sign without two bytes after it stands for itself. -/
def urlDecode : Text → Option Text
  | [] => some []
  | 37 :: high :: low :: rest =>
    match hexValue high, hexValue low with
    | some high, some low => decoded (high <<< 4 ||| low) (urlDecode rest)
    | _, _ => none
  | byte :: rest => decoded (if byte = 43 then 32 else byte) (urlDecode rest)

/-- `encoded_value`: the value of the first pair with the key. -/
def encodedValue (source key : Text) : Option Text :=
  (source.splitOn 38).findSome? (fun pair =>
    match splitAt 61 pair with
    | some (name, value) => if name = key then some value else none
    | none => none) |>.bind urlDecode

def formValue (body : Text) (key : String) : Option Text := encodedValue body (bytes key)

def normalizeNewlines : Text → Text
  | [] => []
  | 13 :: 10 :: rest => newline :: normalizeNewlines rest
  | 13 :: rest => newline :: normalizeNewlines rest
  | byte :: rest => byte :: normalizeNewlines rest

example : urlDecode (bytes "a%20b+c%") = some (bytes "a b c%") := by decide

/-- Bytes that stand for themselves in a form. -/
def IsPlain (byte : UInt8) : Prop := byte ≠ 0 ∧ byte ≠ 37 ∧ byte ≠ 38 ∧ byte ≠ 43

instance (byte : UInt8) : Decidable (IsPlain byte) :=
  inferInstanceAs (Decidable (_ ∧ _ ∧ _ ∧ _))

theorem urlDecode_cons {byte : UInt8} (plain : IsPlain byte) (rest : Text) :
    urlDecode (byte :: rest) = (urlDecode rest).map (byte :: ·) := by
  obtain ⟨noNul, noPercent, -, noPlus⟩ := plain
  have whole : urlDecode (byte :: rest) = decoded (if byte = 43 then 32 else byte)
      (urlDecode rest) := by
    rw [urlDecode]
    intro high low later isByte
    exact absurd isByte noPercent
  rw [whole, if_neg noPlus, decoded, if_neg noNul]

theorem urlDecode_plain {value : Text} (plain : ∀ byte ∈ value, IsPlain byte) :
    urlDecode value = some value := by
  induction value with
  | nil => rfl
  | cons byte rest hypothesis =>
    obtain ⟨first, others⟩ := List.forall_mem_cons.mp plain
    rw [urlDecode_cons first, hypothesis others]
    rfl

theorem encodedValue_pair {key value : Text} (noMark : 61 ∉ key)
    (plainKey : ∀ byte ∈ key, IsPlain byte) (plain : ∀ byte ∈ value, IsPlain byte) :
    encodedValue (key ++ 61 :: value) key = some value := by
  have one : (key ++ 61 :: value).splitOn 38 = [key ++ 61 :: value] := by
    refine List.splitOnP_eq_singleton fun byte member => beq_eq_false_iff_ne.mpr ?_
    rcases List.mem_append.mp member with inKey | rest
    · exact (plainKey byte inKey).2.2.1
    rcases List.mem_cons.mp rest with rfl | inValue
    · decide
    · exact (plain byte inValue).2.2.1
  unfold encodedValue
  rw [one, List.findSome?_singleton, splitAt_append value noMark]
  simp only [if_true]
  exact urlDecode_plain plain

theorem normalizeNewlines_plain {text : Text} (plain : 13 ∉ text) :
    normalizeNewlines text = text := by
  induction text with
  | nil => rfl
  | cons byte rest hypothesis =>
    obtain ⟨different, others⟩ := not_or.mp (mt List.mem_cons.mpr plain)
    have whole : normalizeNewlines (byte :: rest) = byte :: normalizeNewlines rest := by
      rw [normalizeNewlines]
      · exact fun _ isByte => absurd isByte.symm different
      · exact fun isByte => absurd isByte.symm different
    rw [whole, hypothesis others]

end WebForm
