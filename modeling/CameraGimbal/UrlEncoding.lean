/-
This file proves that the URL encoding of the web server and its decoding fit together. What
`sb_append_url` writes for a text is decoded to that text again, and a form of such pairs is looked
up exactly: the value of a key is the one of the first pair with that key. The decoding is also
described by index, as the code does it, so that every read is seen to be inside the input.
-/

import CameraGimbal.WebForm

namespace WebForm

open CText List Option

/-! ### The encoding -/

/-- The bytes that stand for themselves in a URL. -/
def isUnreserved (byte : UInt8) : Bool :=
  isAlphanumeric byte || byte == 45 || byte == 95 || byte == 46 || byte == 126

/-- `hex[digit]`. -/
def hexDigit (digit : UInt8) : UInt8 := (bytes "0123456789ABCDEF").getD digit.toNat 0

def encodeByte (byte : UInt8) : Text :=
  if isUnreserved byte then [byte] else [37, hexDigit (byte >>> 4), hexDigit (byte &&& 15)]

/-- `sb_append_url`: what it writes for a string. -/
def appendUrl (text : Text) : Text := (cString text).flatMap encodeByte

/-- The pairs of a form, joined. -/
def joinPairs (pairs : List (Text × Text)) : Text :=
  [38].intercalate (pairs.map fun pair => appendUrl pair.1 ++ 61 :: appendUrl pair.2)

/-! ### The decoding, by index -/

/-- The loop of `url_decode` from an index on, with what has been written: none when it reads
outside the input, and no text when it fails. A round goes on by one byte at least. -/
def decodeFrom (input : Text) : Nat → Nat → Text → Option (Option Text)
  | 0, _, _ => none
  | rounds + 1, index, output =>
    let store (value : UInt8) (next : Nat) : Option (Option Text) :=
      if value = 0 then some none else decodeFrom input rounds next (output ++ [value])
    if index < input.length then
      match input[index]? with
      | none => none
      | some byte =>
        if byte = 43 then store 32 (index + 1)
        else if byte = 37 ∧ index + 2 < input.length then
          match input[index + 1]?, input[index + 2]? with
          | some high, some low =>
            match hexValue high, hexValue low with
            | some high, some low => store (high <<< 4 ||| low) (index + 3)
            | _, _ => some none
          | _, _ => none
        else store byte (index + 1)
    else some (some output)

/-! ### What is malformed -/

/-- From left to right: a percent sign in front of two bytes that are not both hexadecimal digits,
or a NUL, plain or encoded. -/
inductive Malformed : Text → Prop
  | escape {high low : UInt8} (rest : Text) (odd : hexValue high = none ∨ hexValue low = none) :
      Malformed (37 :: high :: low :: rest)
  | encodedNul {high low : UInt8} (rest : Text) (first : hexValue high = some 0)
      (second : hexValue low = some 0) : Malformed (37 :: high :: low :: rest)
  | nul (rest : Text) : Malformed (0 :: rest)
  | afterEscape {high low : UInt8} {rest : Text} (later : Malformed rest) :
      Malformed (37 :: high :: low :: rest)
  | after {byte : UInt8} {rest : Text} (single : byte ≠ 37 ∨ rest.length < 2)
      (later : Malformed rest) : Malformed (byte :: rest)

/-! ### One step of the decoding -/

theorem decoded_eq_none {value : UInt8} {rest : Option Text} :
    decoded value rest = none ↔ value = 0 ∨ rest = none := by
  unfold decoded
  split
  · next isNul => exact iff_of_true rfl (.inl isNul)
  · next notNul => rw [map_eq_none_iff, or_iff_right notNul]

variable {text : Text}

theorem decoded_eq_some {value : UInt8} {rest : Option Text}
    (isText : decoded value rest = some text) :
    value ≠ 0 ∧ ∃ later, rest = some later ∧ text = value :: later := by
  unfold decoded at isText
  split at isText
  · cases isText
  · next notNul =>
    obtain ⟨later, isLater, rfl⟩ := map_eq_some_iff.mp isText
    exact ⟨notNul, later, isLater, rfl⟩

variable {byte : UInt8}

theorem urlDecode_single {rest : Text} (single : byte ≠ 37 ∨ rest.length < 2) :
    urlDecode (byte :: rest) = decoded (if byte = 43 then 32 else byte) (urlDecode rest) := by
  rw [urlDecode]
  intro high low later isPercent isRest
  rcases single with other | short
  · exact other isPercent
  · rw [isRest, length_cons, length_cons] at short
    omega

theorem urlDecode_escape {high low first second : UInt8} (rest : Text)
    (isHigh : hexValue high = some first) (isLow : hexValue low = some second) :
    urlDecode (37 :: high :: low :: rest) = decoded (first <<< 4 ||| second) (urlDecode rest) := by
  rw [urlDecode, isHigh, isLow]

theorem urlDecode_odd {high low : UInt8} (rest : Text)
    (odd : hexValue high = none ∨ hexValue low = none) :
    urlDecode (37 :: high :: low :: rest) = none := by
  rw [urlDecode]
  rcases odd with isNone | isNone
  · rw [isNone]
  · rw [isNone]
    cases hexValue high <;> rfl

theorem hexValue_lt {value : UInt8} (isValue : hexValue byte = some value) : value < 16 := by
  unfold hexValue at isValue
  split at isValue
  · next digit =>
    cases isValue
    grind
  split at isValue
  · next lower =>
    cases isValue
    grind
  split at isValue
  · next upper =>
    cases isValue
    grind
  · cases isValue

theorem digits_eq_zero {first second : UInt8} (small : first < 16) :
    first <<< 4 ||| second = 0 ↔ first = 0 ∧ second = 0 := by
  rw [UInt8.or_eq_zero_iff]
  refine and_congr_left fun _ => ?_
  have few : first.toNat < 16 := small
  rw [← UInt8.toNat_inj, ← UInt8.toNat_inj, UInt8.toNat_shiftLeft]
  show first.toNat <<< 4 % 2 ^ 8 = 0 ↔ first.toNat = 0
  rw [Nat.shiftLeft_eq]
  omega

/-! ### When the decoding fails -/

theorem urlDecode_malformed (malformed : Malformed text) : urlDecode text = none := by
  induction malformed with
  | escape rest odd => exact urlDecode_odd rest odd
  | encodedNul rest first second =>
    rw [urlDecode_escape rest first second]
    exact decoded_eq_none.mpr (.inl rfl)
  | nul rest =>
    rw [urlDecode_single (.inl (by decide))]
    exact decoded_eq_none.mpr (.inl rfl)
  | @afterEscape high low rest _ hypothesis =>
    cases isHigh : hexValue high with
    | none => exact urlDecode_odd rest (.inl isHigh)
    | some first =>
      cases isLow : hexValue low with
      | none => exact urlDecode_odd rest (.inr isLow)
      | some second =>
        rw [urlDecode_escape rest isHigh isLow]
        exact decoded_eq_none.mpr (.inr hypothesis)
  | after single _ hypothesis =>
    rw [urlDecode_single single]
    exact decoded_eq_none.mpr (.inr hypothesis)

theorem malformed_of_urlDecode (fails : urlDecode text = none) : Malformed text := by
  induction text using urlDecode.induct with
  | case1 => cases fails
  | case2 high low rest first second isLow isHigh hypothesis =>
    rw [urlDecode_escape rest isHigh isLow] at fails
    rcases decoded_eq_none.mp fails with isNul | later
    · obtain ⟨rfl, rfl⟩ := (digits_eq_zero (hexValue_lt isHigh)).mp isNul
      exact .encodedNul rest isHigh isLow
    · exact .afterEscape (hypothesis later)
  | case3 high low rest odd =>
    refine .escape rest ?_
    cases isHigh : hexValue high with
    | none => exact .inl rfl
    | some first =>
      cases isLow : hexValue low with
      | none => exact .inr rfl
      | some second => exact (odd first second isHigh isLow).elim
  | case4 byte rest notEscape hypothesis =>
    have single : byte ≠ 37 ∨ rest.length < 2 := by
      by_contra both
      simp only [not_or, not_not, not_lt] at both
      obtain ⟨rfl, long⟩ := both
      match rest, long with
      | high :: low :: later, _ => exact notEscape high low later rfl rfl
    rw [urlDecode_single single] at fails
    rcases decoded_eq_none.mp fails with isNul | later
    · split at isNul
      · exact absurd isNul (by decide)
      · rw [isNul]
        exact .nul rest
    · exact .after single (hypothesis later)

theorem urlDecode_noNul {output : Text} (isOutput : urlDecode text = some output) : 0 ∉ output := by
  induction text using urlDecode.induct generalizing output with
  | case1 =>
    cases isOutput
    exact not_mem_nil
  | case2 high low rest first second isLow isHigh hypothesis =>
    rw [urlDecode_escape rest isHigh isLow] at isOutput
    obtain ⟨notNul, later, isLater, rfl⟩ := decoded_eq_some isOutput
    exact fun member => (mem_cons.mp member).elim (notNul ∘ Eq.symm) (hypothesis isLater)
  | case3 high low rest odd =>
    rw [urlDecode] at isOutput
    split at isOutput
    · next first second isHigh isLow => exact (odd first second isHigh isLow).elim
    · cases isOutput
  | case4 byte rest notEscape hypothesis =>
    rw [urlDecode] at isOutput
    · obtain ⟨notNul, later, isLater, rfl⟩ := decoded_eq_some isOutput
      exact fun member => (mem_cons.mp member).elim (notNul ∘ Eq.symm) (hypothesis isLater)
    · exact notEscape

/-! ### The decoding by index -/

theorem store_spec {value : UInt8} {rest : Option Text} {output : Text}
    {goesOn : Option (Option Text)} (isRest : goesOn = some (rest.map ((output ++ [value]) ++ ·))) :
    (if value = 0 then some none else goesOn) = some ((decoded value rest).map (output ++ ·)) := by
  unfold decoded
  split
  · rfl
  · rw [isRest, Option.map_map]
    congr 2
    funext later
    exact append_assoc _ _ _

theorem decodeFrom_spec {input : Text} (rounds index : Nat) (output : Text)
    (enough : input.length - index < rounds) :
    decodeFrom input rounds index output =
      some ((urlDecode (input.drop index)).map (output ++ ·)) := by
  induction rounds generalizing index output with
  | zero => omega
  | succ rounds hypothesis =>
    unfold decodeFrom
    by_cases inside : index < input.length
    · have isByte : input[index]? = some input[index] := getElem?_eq_getElem inside
      rw [if_pos inside, isByte, drop_eq_getElem_cons inside]
      generalize input[index] = byte
      dsimp only
      by_cases plus : byte = 43
      · rw [if_pos plus, urlDecode_single (.inl (by rw [plus]; decide)), if_pos plus]
        exact store_spec (hypothesis _ _ (by omega))
      · rw [if_neg plus]
        by_cases escape : byte = 37 ∧ index + 2 < input.length
        · obtain ⟨rfl, room⟩ := escape
          have isHigh : input[index + 1]? = some input[index + 1] := getElem?_eq_getElem (by omega)
          have isLow : input[index + 2]? = some input[index + 2] := getElem?_eq_getElem (by omega)
          rw [if_pos ⟨rfl, room⟩, isHigh, isLow,
            drop_eq_getElem_cons (i := index + 1) (by omega),
            drop_eq_getElem_cons (i := index + 1 + 1) (by omega)]
          generalize input[index + 1] = high
          generalize input[index + 2] = low
          dsimp only
          cases highValue : hexValue high with
          | none =>
            rw [urlDecode_odd _ (.inl highValue)]
            rfl
          | some first =>
            cases lowValue : hexValue low with
            | none =>
              rw [urlDecode_odd _ (.inr lowValue)]
              rfl
            | some second =>
              rw [urlDecode_escape _ highValue lowValue]
              exact store_spec (hypothesis _ _ (by omega))
        · have single : byte ≠ 37 ∨ (input.drop (index + 1)).length < 2 := by
            rw [length_drop]
            by_cases percent : byte = 37
            · exact .inr (by have := not_and.mp escape percent; omega)
            · exact .inl percent
          rw [if_neg escape, urlDecode_single single, if_neg plus]
          exact store_spec (hypothesis _ _ (by omega))
    · rw [if_neg inside, drop_eq_nil_of_le (not_lt.mp inside)]
      exact congrArg (fun text => some (some text)) (append_nil output).symm

/-! ### What is written is read back -/

theorem escape_spec (byte : UInt8) :
    hexValue (hexDigit (byte >>> 4)) = some (byte >>> 4) ∧
      hexValue (hexDigit (byte &&& 15)) = some (byte &&& 15) ∧
      (byte >>> 4) <<< 4 ||| (byte &&& 15) = byte ∧
      isUnreserved (hexDigit (byte >>> 4)) = true ∧
      isUnreserved (hexDigit (byte &&& 15)) = true := by
  obtain ⟨code, inside, rfl⟩ : ∃ code < 256, UInt8.ofNat code = byte :=
    ⟨byte.toNat, byte.toNat_lt, UInt8.ofNat_toNat⟩
  revert code
  decide +kernel

theorem unreserved_plain (unreserved : isUnreserved byte = true) : IsPlain byte ∧ byte ≠ 61 := by
  refine ⟨⟨?_, ?_, ?_, ?_⟩, ?_⟩
  all_goals
    rintro rfl
    exact absurd unreserved (by decide)

theorem mem_appendUrl (member : byte ∈ appendUrl text) : isUnreserved byte = true ∨ byte = 37 := by
  obtain ⟨source, -, inSource⟩ := mem_flatMap.mp member
  unfold encodeByte at inSource
  split at inSource
  · next unreserved =>
    rw [mem_singleton.mp inSource]
    exact .inl unreserved
  · have ⟨_, _, _, high, low⟩ := escape_spec source
    simp only [mem_cons, not_mem_nil, or_false] at inSource
    rcases inSource with rfl | rfl | rfl
    · exact .inr rfl
    · exact .inl high
    · exact .inl low

theorem separator_notMem_appendUrl (text : Text) : 38 ∉ appendUrl text ∧ 61 ∉ appendUrl text := by
  refine ⟨fun member => ?_, fun member => ?_⟩
  · rcases mem_appendUrl member with unreserved | percent
    · exact (unreserved_plain unreserved).1.2.2.1 rfl
    · exact absurd percent (by decide)
  · rcases mem_appendUrl member with unreserved | percent
    · exact (unreserved_plain unreserved).2 rfl
    · exact absurd percent (by decide)

theorem urlDecode_encodeByte (notNul : byte ≠ 0) (rest : Text) :
    urlDecode (encodeByte byte ++ rest) = (urlDecode rest).map (byte :: ·) := by
  unfold encodeByte
  split
  · next unreserved => exact urlDecode_cons (unreserved_plain unreserved).1 rest
  · have ⟨high, low, whole, _, _⟩ := escape_spec byte
    rw [cons_append, cons_append, singleton_append, urlDecode_escape rest high low,
      whole, decoded, if_neg notNul]

theorem urlDecode_appendUrl (noNul : 0 ∉ text) : urlDecode (appendUrl text) = some text := by
  unfold appendUrl
  rw [cString_eq_self noNul]
  induction text with
  | nil => rfl
  | cons byte rest hypothesis =>
    have ⟨notNul, noNulRest⟩ := not_or.mp (mt mem_cons.mpr noNul)
    rw [flatMap_cons, urlDecode_encodeByte (Ne.symm notNul), hypothesis noNulRest]
    rfl

theorem appendUrl_unreserved {key : Text} (unreserved : ∀ byte ∈ key, isUnreserved byte = true) :
    appendUrl key = key := by
  have noNul : 0 ∉ key := fun member => absurd (unreserved 0 member) (by decide)
  unfold appendUrl
  rw [cString_eq_self noNul]
  clear noNul
  induction key with
  | nil => rfl
  | cons byte rest hypothesis =>
    have ⟨first, others⟩ := forall_mem_cons.mp unreserved
    rw [flatMap_cons, hypothesis others, encodeByte, if_pos first]
    rfl

theorem appendUrl_eq_key {name key : Text} (noNul : 0 ∉ name)
    (unreserved : ∀ byte ∈ key, isUnreserved byte = true) : appendUrl name = key ↔ name = key := by
  constructor
  · intro same
    have plain : urlDecode key = some key :=
      urlDecode_plain fun byte member => (unreserved_plain (unreserved byte member)).1
    rw [← same, urlDecode_appendUrl noNul] at plain
    exact (some.inj plain).trans same
  · rintro rfl
    exact appendUrl_unreserved unreserved

theorem splitOn_joinPairs {pairs : List (Text × Text)} (some : pairs ≠ []) :
    (joinPairs pairs).splitOn 38 =
      pairs.map fun pair => appendUrl pair.1 ++ 61 :: appendUrl pair.2 := by
  refine splitOn_intercalate 38 (fun text member inText => ?_) fun none =>
    some (map_eq_nil_iff.mp none)
  obtain ⟨pair, -, rfl⟩ := mem_map.mp member
  rcases mem_append.mp inText with inName | inRest
  · exact (separator_notMem_appendUrl pair.1).1 inName
  · rcases mem_cons.mp inRest with isMark | inValue
    · exact absurd isMark (by decide)
    · exact (separator_notMem_appendUrl pair.2).1 inValue

theorem encodedValue_joinPairs {pairs : List (Text × Text)}
    (noNul : ∀ pair ∈ pairs, 0 ∉ pair.1 ∧ 0 ∉ pair.2) {key : Text}
    (unreserved : ∀ byte ∈ key, isUnreserved byte = true) :
    encodedValue (joinPairs pairs) key = (pairs.find? fun pair => pair.1 = key).map Prod.snd := by
  by_cases none : pairs = []
  · rw [none]
    rfl
  unfold encodedValue
  rw [splitOn_joinPairs none]
  clear none
  induction pairs with
  | nil => rfl
  | cons pair rest hypothesis =>
    have ⟨⟨plainName, plainValue⟩, noNulRest⟩ := forall_mem_cons.mp noNul
    rw [map_cons, findSome?_cons,
      splitAt_append (appendUrl pair.2) (separator_notMem_appendUrl pair.1).2]
    dsimp only
    by_cases found : pair.1 = key
    · rw [if_pos ((appendUrl_eq_key plainName unreserved).mpr found),
        find?_cons_of_pos (by exact decide_eq_true found)]
      exact urlDecode_appendUrl plainValue
    · rw [if_neg (mt (appendUrl_eq_key plainName unreserved).mp found),
        find?_cons_of_neg (by simpa using found)]
      exact hypothesis noNulRest

/-- The encoding and the decoding of the web server: what is written is read back, a form is looked
up exactly, the decoding by index never reads outside the input and never gives a NUL, and it fails
exactly for what is malformed. -/
theorem urlEncoding_exact :
    (∀ text : Text, 0 ∉ text → urlDecode (appendUrl text) = some text) ∧
      (∀ (pairs : List (Text × Text)) (key : Text), (∀ pair ∈ pairs, 0 ∉ pair.1 ∧ 0 ∉ pair.2) →
        (∀ byte ∈ key, isUnreserved byte = true) →
        encodedValue (joinPairs pairs) key = (pairs.find? fun pair => pair.1 = key).map Prod.snd) ∧
      (∀ input : Text, decodeFrom input (input.length + 1) 0 [] = some (urlDecode input)) ∧
      (∀ input output : Text, urlDecode input = some output → 0 ∉ output) ∧
      ∀ input : Text, urlDecode input = none ↔ Malformed input := by
  refine ⟨fun text => urlDecode_appendUrl,
    fun pairs key noNul unreserved => encodedValue_joinPairs noNul unreserved, fun input => ?_,
    fun input output => urlDecode_noNul,
    fun input => ⟨malformed_of_urlDecode, urlDecode_malformed⟩⟩
  have whole := @decodeFrom_spec input (input.length + 1) 0 [] (Nat.lt_succ_self _)
  exact whole.trans (congrArg some Option.map_id')

end WebForm
