/-
This file proves that what the parameter form accepts is what the camera accepts. Every parameter of
the form is a field of the camera's table with the same bounds, its values keep their meaning in a
quoted line, and the check of the SupportProxy settings is the camera's own.
-/

import CameraGimbal.WebIniAdding
import CameraGimbal.WebParameters

namespace WebParameters

open CText Config WebIni List

/-! ### The table -/

/-- A parameter is a field, and its options and bounds are within those of the field. -/
def Parameter.isSound (target : Target) (parameter : Parameter) : Bool :=
  match findField target parameter.sectionName parameter.key with
  | none => false
  | some field =>
    match parameter.kind with
    | .enumeration =>
      parameter.options.all fun option =>
        isPlain option && (parseValue target field field.member.kind option).isSome
    | .integer =>
      (field.member.kind == .integer ||
          (field.member.kind == .unsigned && decide (0 ≤ parameter.minimum))) &&
        decide (field.minimum ≤ parameter.minimum) && decide (parameter.maximum ≤ field.maximum) &&
        decide (-65535 ≤ parameter.minimum) && decide (parameter.maximum ≤ 65535)
    | .text | .password =>
      if parameter.sectionName = bytes "support_proxy" then
        field.member.kind == .string && decide (field.minimum ≤ parameter.minimum) &&
          decide (parameter.maximum < field.member.size)
      else
        field.member.kind == .timezone && decide (1 ≤ parameter.minimum) &&
          decide (parameter.maximum < 128) && decide (field.member.size = 128)

theorem isSound_of_shown {target : Target} :
    ∀ parameter ∈ replacementParameters target, parameterShown target parameter = true →
      parameter.isSound target = true := by
  cases target <;> decide

/-- The key of a parameter, with its section. -/
def Parameter.name (parameter : Parameter) : Text × Text := (parameter.sectionName, parameter.key)

theorem names_nodup (target : Target) :
    ((replacementParameters target).map Parameter.name).Nodup := by
  cases target <;> decide

/-! ### One value -/

variable {longBits : Nat} {number : Int}

theorem strtol_small (wide : 32 ≤ longBits) (small : number.natAbs ≤ 65535) :
    strtol longBits (printInt number) = some ⟨number, true, []⟩ := by
  have size : (2 : Int) ^ 31 ≤ 2 ^ (longBits - 1) := by
    exact_mod_cast Nat.pow_le_pow_right (by decide) (by omega)
  unfold strtol
  rw [scanDecimal_printInt, Option.map_some]
  simp only [decide_eq_true_eq, signed_natAbs, Option.some.injEq, Converted.mk.injEq, and_true]
  exact ⟨by omega, by omega, by omega⟩

theorem strtoul_small (wide : 32 ≤ longBits) (nonnegative : 0 ≤ number) (small : number ≤ 65535) :
    strtoul longBits (printInt number) = some ⟨number, true, []⟩ := by
  have size : (2 : Int) ^ 32 ≤ 2 ^ longBits := by
    exact_mod_cast Nat.pow_le_pow_right (by decide) wide
  have sizeNat : 2 ^ 32 ≤ 2 ^ longBits := Nat.pow_le_pow_right (by decide) wide
  unfold strtoul
  rw [scanDecimal_printInt, Option.map_some]
  dsimp only
  rw [if_pos (by omega)]
  simp only [decide_eq_true_eq, signed_natAbs]
  rw [Int.emod_eq_of_lt nonnegative (by omega)]

theorem wide_longBits (target : Target) : 32 ≤ target.longBits := by
  cases target <;> decide

theorem boundedNumber_some {minimum maximum : Int} (lower : minimum ≤ number)
    (upper : number ≤ maximum) :
    boundedNumber minimum maximum (some ⟨number, true, []⟩) = some number :=
  if_pos ⟨rfl, rfl, lower, upper⟩

variable {text : Text}

theorem parseLongStrict_bounds {minimum maximum : Int}
    (parsed : parseLongStrict longBits text minimum maximum = some number) :
    minimum ≤ number ∧ number ≤ maximum := by
  unfold parseLongStrict at parsed
  split at parsed
  · cases parsed
  split at parsed
  · cases parsed
  next checks =>
    cases parsed
    simp only [not_or, not_lt] at checks
    exact ⟨checks.2.2.2.1, checks.2.2.2.2⟩

/-- A value that the camera takes for a field, and that a quoted line keeps. -/
structure Accepted (target : Target) (sectionName : Text) (field : Field) (text : Text) : Prop where
  parses : (parseValue target field field.member.kind text).isSome = true
  noNewline : newline ∉ text
  noNul : 0 ∉ text
  trimmed : sectionName ≠ bytes "support_proxy" → trim text = text

variable {field : Field}

theorem accepted_plain {target : Target}
    (parses : (parseValue target field field.member.kind text).isSome = true)
    (plain : isPlain text = true) (sectionName : Text) : Accepted target sectionName field text :=
  ⟨parses, not_mem_plain plain (by decide), not_mem_plain plain (by decide),
    fun _ => trim_plain plain⟩

theorem parseValue_number {target : Target}
    (isNumber : field.member.kind = .integer ∨ field.member.kind = .unsigned ∧ 0 ≤ number)
    (lower : field.minimum ≤ number) (upper : number ≤ field.maximum)
    (small : -65535 ≤ number ∧ number ≤ 65535) :
    (parseValue target field field.member.kind (printInt number)).isSome = true := by
  rcases isNumber with isInteger | ⟨isUnsigned, nonnegative⟩
  · rw [isInteger, parseValue, strtol_small (wide_longBits target) (by omega),
      boundedNumber_some lower upper]
    rfl
  · rw [isUnsigned, parseValue, strtoul_small (wide_longBits target) nonnegative small.2,
      boundedNumber_some lower upper]
    rfl

theorem validNetworkAddress_of_valid (valid : validAddressText longBits text = true) :
    validNetworkAddress longBits text = true := by
  unfold validAddressText at valid
  split at valid
  · cases valid
  split at valid
  · cases valid
  next copy slash cut =>
    rw [Bool.and_eq_true] at valid
    obtain ⟨isLength, address⟩ := valid
    obtain ⟨length, parsed⟩ := Option.isSome_iff_exists.mp isLength
    unfold parseLongStrict at parsed
    split at parsed
    · cases parsed
    next number converted =>
      split at parsed
      · cases parsed
      next checks =>
        simp only [not_or, not_lt, ne_eq, not_not] at checks
        simp [validNetworkAddress, cut, converted, address, checks]

variable {parameter : Parameter}

theorem parseString_of_valid (isKey : field.key = parameter.key)
    (inProxy : parameter.sectionName = bytes "support_proxy")
    (lower : field.minimum ≤ parameter.minimum) (upper : parameter.maximum < field.member.size)
    (valid : validTextParameter longBits parameter text = true) :
    parseString longBits field text = some text ∧ ∀ byte ∈ text, 32 ≤ byte ∧ byte ≤ 126 := by
  unfold validTextParameter at valid
  by_cases outside : (text.length : Int) < parameter.minimum ∨ parameter.maximum < text.length
  · rw [if_pos outside] at valid
    cases valid
  rw [if_neg outside, if_pos inProxy] at valid
  split at valid
  · cases valid
  next noBad =>
    have fits : ¬ (field.member.size ≤ text.length ∨ (text.length : Int) < field.minimum) := by
      omega
    have printable : ¬ (text.any fun byte =>
        decide (byte < 32) || decide (126 < byte) || byte == 34) = true := by
      intro bad
      obtain ⟨byte, member, isBad⟩ := any_eq_true.mp bad
      exact noBad (any_eq_true.mpr ⟨byte, member, by rw [isBad, Bool.true_or]⟩)
    have isName : ¬ ((field.key == bytes "host" || field.key == bytes "network_interface") &&
        text.any fun byte =>
          !(isAlphanumeric byte || byte == 46 || byte == 45 || byte == 95)) = true := by
      intro both
      obtain ⟨named, bad⟩ := Bool.and_eq_true_iff.mp both
      obtain ⟨byte, member, isBad⟩ := any_eq_true.mp bad
      refine noBad (any_eq_true.mpr ⟨byte, member, ?_⟩)
      rw [isKey] at named
      rw [named]
      simp only [Bool.not_or] at isBad
      simp only [Bool.true_and, bne, isBad, Bool.or_true]
    have gateway : ¬ (text != [] && field.key == bytes "network_gateway" &&
        !inetPton text) = true := by
      intro bad
      simp only [Bool.and_eq_true, bne_iff_ne, beq_iff_eq, isKey, Bool.not_eq_true'] at bad
      rw [if_pos bad.1, bad.2] at valid
      cases valid
    have address : ¬ (text != [] && field.key == bytes "network_address" &&
        !validNetworkAddress longBits text) = true := by
      intro bad
      simp only [Bool.and_eq_true, bne_iff_ne, beq_iff_eq, isKey, Bool.not_eq_true'] at bad
      have noGateway : ¬ (text ≠ [] ∧ parameter.key = bytes "network_gateway") := by
        rw [bad.1.2]
        rintro ⟨-, same⟩
        exact absurd same (by decide)
      rw [if_neg noGateway, if_pos bad.1] at valid
      rw [validNetworkAddress_of_valid valid] at bad
      exact absurd bad.2 (by decide)
    refine ⟨?_, fun byte member => ?_⟩
    · rw [parseString, if_neg fits, if_neg printable, if_neg isName, if_neg gateway, if_neg address]
    · have notBad := mt (fun bad => any_eq_true.mpr ⟨byte, member, bad⟩) printable
      simp only [Bool.or_eq_true, decide_eq_true_eq, not_or, UInt8.not_lt] at notBad
      exact notBad.1

/-- A text that the form takes is accepted by the camera. -/
theorem accepted_text {target : Target} (isKey : field.key = parameter.key)
    (sound : (if parameter.sectionName = bytes "support_proxy" then
        field.member.kind == .string && decide (field.minimum ≤ parameter.minimum) &&
          decide (parameter.maximum < field.member.size)
      else
        field.member.kind == .timezone && decide (1 ≤ parameter.minimum) &&
          decide (parameter.maximum < 128) && decide (field.member.size = 128)) = true)
    (valid : validTextParameter target.longBits parameter text = true) :
    Accepted target parameter.sectionName field text := by
  by_cases inProxy : parameter.sectionName = bytes "support_proxy"
  · simp only [if_pos inProxy, Bool.and_eq_true, beq_iff_eq, decide_eq_true_eq] at sound
    obtain ⟨⟨isString, lower⟩, upper⟩ := sound
    obtain ⟨parses, printable⟩ := parseString_of_valid isKey inProxy lower upper valid
    refine ⟨?_, fun member => absurd (printable _ member) (by decide),
      fun member => absurd (printable _ member) (by decide),
      fun notProxy => absurd inProxy notProxy⟩
    rw [isString, parseValue, parses]
    rfl
  · simp only [if_neg inProxy, Bool.and_eq_true, beq_iff_eq, decide_eq_true_eq] at sound
    obtain ⟨⟨⟨isTimezone, lower⟩, upper⟩, size⟩ := sound
    unfold validTextParameter at valid
    by_cases outside : (text.length : Int) < parameter.minimum ∨ parameter.maximum < text.length
    · rw [if_pos outside] at valid
      cases valid
    rw [if_neg outside, if_neg inProxy, all_eq_true] at valid
    have solid : ∀ byte ∈ text, isControl byte = false ∧ isSpace byte = false :=
      fun byte member => by simpa using valid byte member
    have nonempty : text ≠ [] := by
      rintro rfl
      simp only [length_nil] at outside
      omega
    have isValid : validTimezone text = true := by
      simp only [validTimezone, Bool.and_eq_true, bne_iff_ne, decide_eq_true_eq, all_eq_true]
      refine ⟨⟨nonempty, by omega⟩, fun byte member => ?_⟩
      rw [(solid byte member).1, (solid byte member).2]
      exact ⟨rfl, rfl⟩
    refine ⟨?_, fun member => absurd (solid _ member).2 (by decide),
      fun member => absurd (solid _ member).1 (by decide), fun _ => ?_⟩
    · rw [isTimezone, parseValue, if_pos ⟨isValid, by omega⟩]
      rfl
    · exact trim_eq_self (fun byte isHead => (solid byte (mem_of_head? isHead)).2)
        fun byte isLast => (solid byte (mem_of_getLast? isLast)).2

theorem accepted_of_normalized {target : Target} (sound : parameter.isSound target = true)
    {raw : Text} (isText : normalized target.longBits parameter raw = some text) :
    ∃ field, findField target parameter.sectionName parameter.key = some field ∧
      Accepted target parameter.sectionName field text := by
  unfold Parameter.isSound at sound
  split at sound
  · cases sound
  next field found =>
    refine ⟨field, found, ?_⟩
    obtain ⟨-, -, isKey⟩ := of_findField found
    unfold normalized at isText
    cases isKind : parameter.kind with
    | enumeration =>
      simp only [isKind, all_eq_true, Bool.and_eq_true] at sound isText
      split at isText
      next member =>
        obtain rfl := Option.some.inj isText
        exact accepted_plain (sound raw member).2 (sound raw member).1 _
      · cases isText
    | integer =>
      simp only [isKind, Bool.and_eq_true, Bool.or_eq_true, beq_iff_eq, decide_eq_true_eq]
        at sound isText
      obtain ⟨⟨⟨⟨isNumber, lower⟩, upper⟩, smallest⟩, largest⟩ := sound
      obtain ⟨number, parsed, rfl⟩ := Option.map_eq_some_iff.mp isText
      obtain ⟨above, below⟩ := parseLongStrict_bounds parsed
      have stored : field.member.kind = .integer ∨ field.member.kind = .unsigned ∧ 0 ≤ number :=
        isNumber.imp id fun both => ⟨both.1, by omega⟩
      exact accepted_plain
        (parseValue_number stored (by omega) (by omega) ⟨by omega, by omega⟩)
        (isPlain_printInt (by omega)) _
    | text | password =>
      simp only [isKind] at sound isText
      split at isText
      next valid =>
        cases isText
        exact accepted_text isKey.symm sound valid
      · cases isText

/-! ### The updates of a form -/

/-- An update that was made for a parameter of a form. -/
structure Collected (target : Target) (form : Text) (parameter : Parameter) (update : Update) :
    Prop where
  name : update.name = parameter.name
  found : update.found = false
  short : update.value.length < valueSize
  value : submittedValue target form parameter = some update.value

theorem submittedValue_spec {target : Target} {form value : Text}
    (isSubmitted : submittedValue target form parameter = some value) :
    ∃ raw, WebForm.formValue form parameter.formName = some raw ∧
      normalized target.longBits parameter raw = some value := by
  unfold submittedValue at isSubmitted
  split at isSubmitted
  · cases isSubmitted
  next raw isRaw =>
    split at isSubmitted
    · cases isSubmitted
    · exact ⟨raw, isRaw, isSubmitted⟩

variable {form : Text}

theorem collectDescribed_spec {target : Target} {updates result : List Update}
    {parameters : List Parameter}
    (collected : collectDescribedParameters target form updates parameters = .ok result) :
    ∃ more, result = updates ++ more ∧
      Forall₂ (Collected target form) (parameters.filter (parameterShown target)) more := by
  induction parameters generalizing updates with
  | nil => exact ⟨[], by rw [← Except.ok.inj collected, append_nil], .nil⟩
  | cons parameter rest hypothesis =>
    unfold collectDescribedParameters at collected
    by_cases shown : parameterShown target parameter = false
    · rw [if_pos shown] at collected
      rw [filter_cons_of_neg (by simp [shown])]
      exact hypothesis collected
    rw [if_neg shown] at collected
    rw [filter_cons_of_pos (by simpa using shown)]
    split at collected
    · cases collected
    next value submitted =>
      split at collected
      · cases collected
      next next appended =>
        unfold appendUpdate at appended
        split at appended
        · cases appended
        next room =>
          cases appended
          obtain ⟨more, isResult, others⟩ := hypothesis collected
          refine ⟨⟨parameter.sectionName, parameter.key, value, false⟩ :: more, ?_,
            .cons ⟨rfl, rfl, not_le.mp (not_or.mp room).2, submitted⟩ others⟩
          rw [isResult, append_assoc, singleton_append]

variable {updates : List Update}

theorem collect_spec {target : Target}
    (collected : collectReplacementParameterUpdates target form = .ok updates) :
    Forall₂ (Collected target form)
        ((replacementParameters target).filter (parameterShown target)) updates ∧
      invalidSupport updates = none := by
  unfold collectReplacementParameterUpdates at collected
  split at collected
  · cases collected
  next described isDescribed =>
    split at collected
    · cases collected
    next valid =>
      cases collected
      obtain ⟨more, isResult, others⟩ := collectDescribed_spec isDescribed
      rw [isResult, nil_append] at valid ⊢
      exact ⟨others, valid⟩

theorem exists_of_forall₂ {First Second : Type} {Related : First → Second → Prop}
    {firsts : List First} {seconds : List Second} (related : Forall₂ Related firsts seconds)
    {first : First} (member : first ∈ firsts) : ∃ second ∈ seconds, Related first second := by
  induction related with
  | nil => cases member
  | cons here others hypothesis =>
    rcases mem_cons.mp member with rfl | later
    · exact ⟨_, mem_cons_self, here⟩
    · obtain ⟨second, isSecond, isRelated⟩ := hypothesis later
      exact ⟨second, mem_cons_of_mem _ isSecond, isRelated⟩

section Updates

variable {target : Target} {form : Text} {updates : List Update}
  (collected : List.Forall₂ (Collected target form)
    ((replacementParameters target).filter (parameterShown target)) updates)
include collected

theorem names_collected :
    updates.map Update.name =
      ((replacementParameters target).filter (parameterShown target)).map Parameter.name := by
  refine ext_getElem ?_ fun index first second => ?_
  · rw [length_map, length_map, collected.length_eq]
  · rw [getElem_map, getElem_map]
    exact (collected.get (by simpa using second) (by simpa using first)).name

theorem distinct_collected : Distinct updates := by
  unfold Distinct
  rw [names_collected collected]
  exact (names_nodup target).sublist (filter_sublist.map _)

theorem parameter_of_update {update : Update} (member : update ∈ updates) :
    ∃ parameter ∈ replacementParameters target, parameterShown target parameter = true ∧
      Collected target form parameter update := by
  obtain ⟨parameter, isParameter, made⟩ := exists_of_forall₂ collected.flip member
  obtain ⟨inTable, shown⟩ := mem_filter.mp isParameter
  exact ⟨parameter, inTable, shown, made⟩

theorem update_of_parameter {parameter : Parameter}
    (member : parameter ∈ replacementParameters target)
    (shown : parameterShown target parameter = true) :
    ∃ update ∈ updates, Collected target form parameter update :=
  exists_of_forall₂ collected (mem_filter.mpr ⟨member, shown⟩)

theorem writable_collected :
    ∀ update ∈ updates, Writable target update ∧ ∃ field,
      findField target update.sectionName update.key = some field ∧
        (parseValue target field field.member.kind update.value).isSome = true := by
  intro update member
  obtain ⟨parameter, isParameter, shown, made⟩ := parameter_of_update collected member
  obtain ⟨raw, -, isValue⟩ := submittedValue_spec made.value
  obtain ⟨inSection, isKey⟩ := Prod.mk.inj made.name
  obtain ⟨field, found, accepted⟩ :=
    accepted_of_normalized (isSound_of_shown parameter isParameter shown) isValue
  rw [← inSection, ← isKey] at found
  rw [← inSection] at accepted
  exact ⟨⟨⟨field, found⟩, accepted.trimmed, accepted.noNewline, accepted.noNul, made.short⟩,
    field, found, accepted.parses⟩

end Updates

/-! ### The SupportProxy settings -/

theorem foldl_unnamed {sectionName key : Text}
    (absent : ∀ update ∈ updates, update.named sectionName key = false) (initial : Text) :
    updates.foldl (fun value update =>
      if update.named sectionName key then update.value else value) initial = initial := by
  induction updates with
  | nil => rfl
  | cons update rest hypothesis =>
    obtain ⟨first, others⟩ := forall_mem_cons.mp absent
    rw [foldl_cons, first]
    exact hypothesis others

theorem foldl_named (distinct : Distinct updates) {update : Update}
    (member : update ∈ updates) {sectionName key : Text}
    (isName : update.name = (sectionName, key)) (initial : Text) :
    updates.foldl (fun value update =>
      if update.named sectionName key then update.value else value) initial = update.value := by
  induction updates generalizing initial with
  | nil => cases member
  | cons first rest hypothesis =>
    obtain ⟨absent, distinctRest⟩ := nodup_cons.mp distinct
    rw [foldl_cons]
    rcases mem_cons.mp member with rfl | later
    · rw [if_pos (named_iff.mpr isName)]
      refine foldl_unnamed (fun other isOther => ?_) _
      rw [Bool.eq_false_iff]
      intro same
      refine absent (mem_map.mpr ⟨other, isOther, ?_⟩)
      rw [named_iff.mp same, isName]
    · exact hypothesis distinctRest later _

/-- The SupportProxy settings that are checked together, with their fields. -/
def supportRows : List (Parameter × Field) :=
  [(enumParameter "proxy_enabled" "support_proxy" "enabled" booleanOptions,
      row "support_proxy" "enabled" .supportEnabled [] 0 1 "PROXY_ENABLE"),
    (boundedParameter "proxy_host" "support_proxy" "host" .text 0 127,
      textRow "support_proxy" "host" .supportHost 0 127),
    (enumParameter "proxy_signing" "support_proxy" "signing" booleanOptions,
      row "support_proxy" "signing" .supportSigning [] 0 1 "PROXY_SIGN"),
    (boundedParameter "proxy_signing_passphrase" "support_proxy" "signing_passphrase" .password
        0 127,
      textRow "support_proxy" "signing_passphrase" .supportSigningPassphrase 0 127),
    (boundedParameter "proxy_video1_port" "support_proxy" "video1_port" .integer 0 65535,
      row "support_proxy" "video1_port" .supportVideo1Port [] 0 65535 "PROXY_VID1_PORT"),
    (boundedParameter "proxy_video1_name" "support_proxy" "video1_name" .text 0 63,
      textRow "support_proxy" "video1_name" .supportVideo1Name 0 63),
    (boundedParameter "proxy_video2_port" "support_proxy" "video2_port" .integer 0 65535,
      row "support_proxy" "video2_port" .supportVideo2Port [] 0 65535 "PROXY_VID2_PORT"),
    (boundedParameter "proxy_video2_name" "support_proxy" "video2_name" .text 0 63,
      textRow "support_proxy" "video2_name" .supportVideo2Name 0 63)]

theorem supportRows_spec (target : Target) :
    ∀ pair ∈ supportRows, pair.1 ∈ replacementParameters target ∧
      parameterShown target pair.1 = true ∧
      findField target pair.1.sectionName pair.1.key = some pair.2 := by
  cases target <;> decide

section

variable {target : Target}

/-- What the configuration holds for a SupportProxy setting is what the form had. -/
theorem supportValue_stored (collected : Forall₂ (Collected target form)
      ((replacementParameters target).filter (parameterShown target)) updates)
    {config : Configuration} (stored : ∀ update ∈ updates, ∀ field,
      findField target update.sectionName update.key = some field →
        parseValue target field field.member.kind update.value = some (config field.member))
    {parameter : Parameter} {field : Field} (isRow : (parameter, field) ∈ supportRows)
    {key : String} (isName : parameter.name = (bytes "support_proxy", bytes key))
    (initial : String) :
    (∃ raw, normalized target.longBits parameter raw = some (supportValue updates key initial)) ∧
      parseValue target field field.member.kind (supportValue updates key initial) =
        some (config field.member) := by
  obtain ⟨inTable, shown, found⟩ := supportRows_spec target _ isRow
  obtain ⟨update, member, made⟩ := update_of_parameter collected inTable shown
  have isValue : supportValue updates key initial = update.value :=
    foldl_named (distinct_collected collected) member (made.name.trans isName) _
  obtain ⟨inSection, isKey⟩ := Prod.mk.inj made.name
  obtain ⟨raw, -, isNormalized⟩ := submittedValue_spec made.value
  rw [isValue]
  refine ⟨⟨raw, isNormalized⟩, stored update member field ?_⟩
  rw [inSection, isKey]
  exact found

theorem invalidSupport_none (valid : invalidSupport updates = none)
    (enabled : supportValue updates "enabled" "false" = bytes "true") :
    supportValue updates "host" "" ≠ [] ∧
      (supportValue updates "signing" "false" = bytes "true" →
        supportValue updates "signing_passphrase" "" ≠ []) ∧
      (supportValue updates "video1_port" "0" ≠ bytes "0" →
        supportValue updates "video1_name" "" ≠ []) ∧
      (supportValue updates "video2_port" "0" ≠ bytes "0" →
        supportValue updates "video2_name" "" ≠ []) ∧
      (supportValue updates "video1_port" "0" ≠ bytes "0" →
        supportValue updates "video1_port" "0" ≠ supportValue updates "video2_port" "0") := by
  unfold invalidSupport at valid
  rw [if_pos enabled] at valid
  split at valid
  · cases valid
  next host =>
    split at valid
    · cases valid
    next signing =>
      split at valid
      · cases valid
      next video1 =>
        split at valid
        · cases valid
        next video2 =>
          split at valid
          · cases valid
          next ports =>
            exact ⟨host, not_and.mp signing, not_and.mp video1, not_and.mp video2, not_and.mp ports⟩

theorem parseValue_boolean {stored : Bool}
    (parses : parseValue target field .boolean text = some stored) :
    stored = true ↔ text = bytes "true" := by
  rw [parseValue] at parses
  split at parses
  next isTrue =>
    rw [← Option.some.inj parses]
    exact ⟨fun _ => isTrue, fun _ => rfl⟩
  next notTrue =>
    split at parses
    · rw [← Option.some.inj parses]
      exact ⟨fun same => (by cases same), fun isTrue => absurd isTrue notTrue⟩
    · cases parses

theorem parseValue_string {stored : Text}
    (parses : parseValue target field .string text = some stored) : stored = text := by
  rw [parseValue, parseString] at parses
  split at parses
  · cases parses
  split at parses
  · cases parses
  split at parses
  · cases parses
  split at parses
  · cases parses
  split at parses
  · cases parses
  exact (Option.some.inj parses).symm

theorem parseValue_port {raw : Text} {stored : Nat}
    (isInteger : parameter.kind = .integer) (lower : parameter.minimum = 0)
    (upper : parameter.maximum = 65535)
    (isText : normalized target.longBits parameter raw = some text)
    (parses : parseValue target field .unsigned text = some stored) : text = printInt stored := by
  unfold normalized at isText
  rw [isInteger] at isText
  obtain ⟨number, parsed, rfl⟩ := Option.map_eq_some_iff.mp isText
  obtain ⟨above, below⟩ := parseLongStrict_bounds parsed
  rw [parseValue, strtoul_small (wide_longBits target) (by omega) (by omega)] at parses
  obtain ⟨converted, bounded, same⟩ := Option.map_eq_some_iff.mp parses
  obtain ⟨found, isFound, -, -, -, rfl⟩ := boundedNumber_eq bounded
  rw [← Option.some.inj isFound] at same
  have isStored : (number.toNat : Int) = number := Int.toNat_of_nonneg (by omega)
  rw [← isStored]
  exact congrArg printInt (congrArg Nat.cast same)

theorem printNat_injective {first second : Nat}
    (same : printInt (first : Int) = printInt (second : Int)) : first = second := by
  have scanned := scanDecimal_printInt (first : Int)
  rw [same, scanDecimal_printInt] at scanned
  have magnitudes := congrArg (Option.map Scanned.magnitude) scanned
  exact (Option.some.inj magnitudes).symm

theorem support_checks {enabled signing : Bool} {host passphrase name1 name2 : Text}
    {port1 port2 : Nat} (checks : enabled = true → host ≠ [] ∧ (signing = true → passphrase ≠ []) ∧
      (port1 ≠ 0 → name1 ≠ []) ∧ (port2 ≠ 0 → name2 ≠ []) ∧ (port1 ≠ 0 → port1 ≠ port2)) :
    (!enabled || (host != [] && (!signing || passphrase != []) && (port1 == 0 || name1 != []) &&
      (port2 == 0 || name2 != []) && (port1 == 0 || port1 != port2))) = true := by
  cases enabled with
  | false => rfl
  | true =>
    obtain ⟨hasHost, hasPassphrase, hasName1, hasName2, differ⟩ := checks rfl
    simp only [Bool.not_true, Bool.false_or, Bool.and_eq_true, bne_iff_ne, ne_eq,
      Bool.or_eq_true, Bool.not_eq_true', beq_iff_eq]
    refine ⟨⟨⟨⟨hasHost, ?_⟩, or_iff_not_imp_left.mpr hasName1⟩,
      or_iff_not_imp_left.mpr hasName2⟩, or_iff_not_imp_left.mpr differ⟩
    exact or_iff_not_imp_left.mpr fun signed => hasPassphrase (by simpa using signed)

/-- A configuration with the settings of an accepted form passes the camera's own check. -/
theorem supportValid_collected (collected : Forall₂ (Collected target form)
      ((replacementParameters target).filter (parameterShown target)) updates)
    (valid : invalidSupport updates = none) {config : Configuration}
    (stored : ∀ update ∈ updates, ∀ field,
      findField target update.sectionName update.key = some field →
        parseValue target field field.member.kind update.value = some (config field.member)) :
    supportValid config = true := by
  have rowOf := fun (index : Nat) {parameter : Parameter} {field : Field}
      (isRow : supportRows[index]? = some (parameter, field)) {key : String} =>
    @supportValue_stored _ _ _ collected _ stored _ _ (mem_of_getElem? isRow) key
  have enabled := parseValue_boolean (rowOf 0 rfl rfl "false").2
  have host := parseValue_string (rowOf 1 rfl rfl "").2
  have signing := parseValue_boolean (rowOf 2 rfl rfl "false").2
  have passphrase := parseValue_string (rowOf 3 rfl rfl "").2
  obtain ⟨⟨raw1, isPort1⟩, parsed1⟩ := rowOf 4 rfl rfl "0"
  have port1 := parseValue_port rfl rfl rfl isPort1 parsed1
  have name1 := parseValue_string (rowOf 5 rfl rfl "").2
  obtain ⟨⟨raw2, isPort2⟩, parsed2⟩ := rowOf 6 rfl rfl "0"
  have port2 := parseValue_port rfl rfl rfl isPort2 parsed2
  have name2 := parseValue_string (rowOf 7 rfl rfl "").2
  have zero : bytes "0" = printInt (0 : Nat) := by decide
  refine @support_checks (config .supportEnabled) (config .supportSigning) (config .supportHost)
    (config .supportSigningPassphrase) (config .supportVideo1Name) (config .supportVideo2Name)
    (config .supportVideo1Port) (config .supportVideo2Port) fun isEnabled => ?_
  obtain ⟨hasHost, hasPassphrase, hasName1, hasName2, differ⟩ :=
    invalidSupport_none valid (enabled.mp isEnabled)
  refine ⟨fun empty => hasHost (host.symm.trans empty),
    fun signed empty => hasPassphrase (signing.mp signed) (passphrase.symm.trans empty),
    fun used empty => hasName1 (fun isZero => used ?_) (name1.symm.trans empty),
    fun used empty => hasName2 (fun isZero => used ?_) (name2.symm.trans empty),
    fun used same => differ (fun isZero => used ?_) ?_⟩
  · exact printNat_injective (port1.symm.trans (isZero.trans zero))
  · exact printNat_injective (port2.symm.trans (isZero.trans zero))
  · exact printNat_injective (port1.symm.trans (isZero.trans zero))
  · exact port1.trans ((congrArg (fun port : Nat => printInt port) same).trans port2.symm)

end

end WebParameters
