/-
This file models how the web server writes a text into a page and into a script. A reader of the
page finds all of the text that can be shown, and a reader of the script all of it; each stops where
the text ends, at what the server wrote behind it.
-/

import CameraGimbal.RtpVideo
import CameraGimbal.WebSessions

namespace WebEscaping

open CText WebForm List

/-! ### A page -/

/-- The character references that bytes are written as. -/
def references : List (Text × UInt8) :=
  [(bytes "&amp;", 38), (bytes "&lt;", 60), (bytes "&gt;", 62), (bytes "&quot;", 34),
    (bytes "&#39;", 39)]

def isShown (byte : UInt8) : Bool := 32 ≤ byte || byte == 10 || byte == 13 || byte == 9

def escapeHtml (byte : UInt8) : Text :=
  match references.find? (·.2 == byte) with
  | some (name, _) => name
  | none => if isShown byte then [byte] else []

/-- `sb_append_html`: what it writes for a string. -/
def appendHtml (text : Text) : Text := (cString text).flatMap escapeHtml

/-- What ends a text or the value of an attribute: a quote, or a bracket of a tag. -/
def delimiters : Bytes := [34, 39, 60, 62]

/-- The text that markup begins with, and what follows it. -/
def readHtml : Text → Text × Text
  | [] => ([], [])
  | first :: rest =>
    if first ∈ delimiters then ([], first :: rest)
    else
      match references.find? fun reference => reference.1.isPrefixOf (first :: rest) with
      | some (name, byte) => (readHtml (rest.drop (name.length - 1))).map (byte :: ·) id
      | none => (readHtml rest).map (first :: ·) id
termination_by markup => markup.length
decreasing_by all_goals simp only [List.length_drop, List.length_cons]; omega

theorem references_eq : references = [([38, 97, 109, 112, 59], 38), ([38, 108, 116, 59], 60),
    ([38, 103, 116, 59], 62), ([38, 113, 117, 111, 116, 59], 34), ([38, 35, 51, 57, 59], 39)] := by
  decide

theorem readHtml_escapeHtml (byte : UInt8) (markup : Text) :
    readHtml (escapeHtml byte ++ markup) =
      if isShown byte then (readHtml markup).map (byte :: ·) id else readHtml markup := by
  unfold escapeHtml
  split
  next name other found =>
    obtain rfl : other = byte := by simpa using find?_some found
    have member := mem_of_find?_eq_some found
    simp only [references_eq, mem_cons, Prod.mk.injEq, not_mem_nil, or_false] at member
    rcases member with ⟨rfl, rfl⟩ | ⟨rfl, rfl⟩ | ⟨rfl, rfl⟩ | ⟨rfl, rfl⟩ | ⟨rfl, rfl⟩ <;>
      simp [readHtml, references_eq, delimiters, isShown]
  next missing =>
    simp only [references_eq, find?_eq_none, forall_mem_cons, beq_iff_eq] at missing
    obtain ⟨noAmp, noLt, noGt, noQuot, noApos, -⟩ := missing
    split
    · have plain : byte ∉ delimiters := by simp [delimiters, *, Ne.symm]
      rw [singleton_append, readHtml, if_neg plain]
      simp [references_eq, noAmp]
    · rfl

/-- A text that is written into a page is read back, without its control characters, and it ends
where the page goes on: no text can close an attribute or open a tag. -/
theorem html_read_back (text : Text) {rest : Text} (ends : ∀ byte ∈ rest.head?, byte ∈ delimiters) :
    readHtml (appendHtml text ++ rest) = ((cString text).filter isShown, rest) := by
  unfold appendHtml
  induction cString text with
  | nil =>
    rw [List.flatMap_nil, List.nil_append]
    cases rest with
    | nil => rw [readHtml]; rfl
    | cons first rest => rw [readHtml, if_pos (ends first rfl)]; rfl
  | cons byte others hypothesis =>
    rw [List.flatMap_cons, List.append_assoc, readHtml_escapeHtml, hypothesis, List.filter_cons]
    split <;> rfl

theorem html_read_back_quote :
    readHtml (appendHtml (bytes "'>&lt;") ++ bytes "'>") = (bytes "'>&lt;", bytes "'>") :=
  html_read_back (bytes "'>&lt;") (by rintro _ ⟨⟩; decide)

/-! ### A script -/

def escapeJs (byte : UInt8) : Text :=
  if byte = 92 ∨ byte = 39 then [92, byte]
  else if byte < 32 ∨ byte = 60 ∨ byte = 62 ∨ byte = 38 then
    [92, 120, WebSessions.hexDigit (byte >>> 4), WebSessions.hexDigit (byte &&& 15)]
  else [byte]

/-- `sb_append_js`: what it writes for a string. -/
def appendJs (text : Text) : Text := (cString text).flatMap escapeJs

/-- The string that a script goes on with, up to its closing quote, and what follows it. Of the
escapes there are those of a quote, of a backslash and of two digits. -/
def readJs : Text → Option (Text × Text)
  | [] => none
  | 92 :: 120 :: high :: low :: rest => do
    let byte := (← hexValue high) <<< 4 ||| (← hexValue low)
    (readJs rest).map (Prod.map (byte :: ·) id)
  | 92 :: escaped :: rest =>
    if escaped = 92 ∨ escaped = 39 then (readJs rest).map (Prod.map (escaped :: ·) id) else none
  | first :: rest =>
    if first = 39 then some ([], rest)
    else if first = 10 ∨ first = 13 ∨ first = 92 then none
    else (readJs rest).map (Prod.map (first :: ·) id)

theorem escapeJs_digits : ∀ byte : UInt8,
    hexValue (WebSessions.hexDigit (byte >>> 4)) = some (byte >>> 4) ∧
      hexValue (WebSessions.hexDigit (byte &&& 15)) = some (byte &&& 15) ∧
      (byte >>> 4) <<< 4 ||| (byte &&& 15) = byte ∧
      (escapeJs byte).all (fun written => 32 ≤ written ∧ written ∉ [(38 : UInt8), 60, 62]) := by
  exact RtpVideo.forall_uint8 (by decide +kernel)

theorem readJs_escapeJs (byte : UInt8) (script : Text) :
    readJs (escapeJs byte ++ script) = (readJs script).map (Prod.map (byte :: ·) id) := by
  unfold escapeJs
  split
  next quoted => rcases quoted with rfl | rfl <;> simp [readJs]
  split
  next escaped =>
    obtain ⟨isHigh, isLow, same, -⟩ := escapeJs_digits byte
    simp [readJs, isHigh, isLow, same]
  next plain special =>
    have noBreak : ¬ (byte = 10 ∨ byte = 13) := by
      rintro (rfl | rfl) <;> exact special (.inl (by decide))
    simp_all [readJs]

/-- A text that is written between single quotes is the value of the string, which ends at the
closing quote. No byte that is written can end the script that the string is in. -/
theorem script_read_back (text rest : Text) :
    readJs (appendJs text ++ 39 :: rest) = some (cString text, rest) ∧
      ∀ byte ∈ appendJs text, 32 ≤ byte ∧ byte ∉ [(38 : UInt8), 60, 62] := by
  unfold appendJs
  constructor
  · induction cString text with
    | nil => simp [readJs]
    | cons byte others hypothesis =>
      rw [List.flatMap_cons, List.append_assoc, readJs_escapeJs, hypothesis]
      rfl
  · intro written isWritten
    obtain ⟨byte, -, member⟩ := List.mem_flatMap.mp isWritten
    exact of_decide_eq_true (List.all_eq_true.mp (escapeJs_digits byte).2.2.2 written member)

end WebEscaping
