/-
This file proves what loading a file does line by line: a line of a field assigns that field once
and leaves the others alone, so that assignments to different fields commute, and the lines that
saving a parameter writes are read back as they were meant. It also collects the facts about the
table of fields that this rests on.
-/

import CameraGimbal.ConfigSave

namespace Config

open CText Function Option List

/-! ### The table of fields -/

/-- A printable byte that an INI file gives no meaning. -/
def isPlainByte (byte : UInt8) : Bool :=
  33 ≤ byte && byte ≤ 126 && byte != 34 && byte != 35 && byte != 59 && byte != 61 &&
    byte != 91 && byte != 93

/-- A text of such bytes, short enough for a line to hold two of them. -/
def isPlain (text : Text) : Bool :=
  text != [] && text.length ≤ 40 && text.all isPlainByte

/-- What every row of the table satisfies: plain names, options that differ in their names, and
for a parameter a kind that holds a number, with bounds that an `unsigned` holds. -/
def Field.isSound (field : Field) : Bool :=
  isPlain field.sectionName && isPlain field.key &&
    (field.options.all fun option => isPlain option.name &&
      field.options.find? (fun other => other.name == option.name) == some option) &&
    (field.paramName.isNone || (field.member.kind != .string && field.member.kind != .timezone)) &&
    (field.member.kind != .unsigned ||
      (decide (0 ≤ field.minimum) && decide (field.maximum ≤ 65535)))

theorem isSound_of_mem {target : Target} : ∀ field ∈ configFields target, field.isSound = true := by
  cases target <;> decide

theorem findField_of_mem {target : Target} :
    ∀ field ∈ configFields target, findField target field.sectionName field.key = some field := by
  cases target <;> decide

theorem members_nodup (target : Target) : ((configFields target).map Field.member).Nodup := by
  cases target <;> decide

theorem eq_of_member_eq {target : Target} {first second : Field}
    (firstRow : first ∈ configFields target) (secondRow : second ∈ configFields target)
    (same : first.member = second.member) : first = second :=
  inj_on_of_nodup_map (members_nodup target) firstRow secondRow same

variable {sectionName key : Text}

theorem of_findField {target : Target} {field : Field}
    (found : findField target sectionName key = some field) :
    field ∈ configFields target ∧ sectionName = field.sectionName ∧ key = field.key := by
  have matching := find?_some found
  simp only [Bool.and_eq_true, beq_iff_eq] at matching
  exact ⟨mem_of_find?_eq_some found, matching⟩

section Rows

variable {target : Target} {field : Field} (isRow : field ∈ configFields target)
include isRow

theorem plain_sectionName : isPlain field.sectionName = true := by
  have sound := isSound_of_mem field isRow
  simp only [Field.isSound, Bool.and_eq_true] at sound
  exact sound.1.1.1.1

theorem plain_key : isPlain field.key = true := by
  have sound := isSound_of_mem field isRow
  simp only [Field.isSound, Bool.and_eq_true] at sound
  exact sound.1.1.1.2

theorem sound_option {option : Choice} (member : option ∈ field.options) :
    isPlain option.name = true ∧
      field.options.find? (fun other => other.name == option.name) = some option := by
  have sound := isSound_of_mem field isRow
  simp only [Field.isSound, Bool.and_eq_true, List.all_eq_true, beq_iff_eq] at sound
  exact sound.1.1.2 option member

theorem number_of_param (isParam : field.paramName.isSome = true) :
    field.member.kind ≠ .string ∧ field.member.kind ≠ .timezone := by
  have sound := isSound_of_mem field isRow
  simp only [Field.isSound, Bool.and_eq_true] at sound
  have numeric := sound.1.2
  rw [isNone_eq_false_iff.mpr isParam, Bool.false_or] at numeric
  simpa using numeric

theorem bounds_of_unsigned (isUnsigned : field.member.kind = .unsigned) :
    0 ≤ field.minimum ∧ field.maximum ≤ 65535 := by
  have sound := isSound_of_mem field isRow
  simp only [Field.isSound, Bool.and_eq_true] at sound
  simpa [isUnsigned] using sound.2

end Rows

/-! ### Assigning a field -/

/-- The state after a line of the member's field. -/
def Loading.mark (state : Loading) (member : Member) (value : member.kind.Value) : Loading :=
  { state with
    seen := Function.update state.seen member true
    parsed := Function.update state.parsed member value }

section

variable (state : Loading) (member : Member) (value : member.kind.Value)

@[simp] theorem mark_sectionName :
    (state.mark member value).sectionName = state.sectionName := rfl

@[simp] theorem mark_seen_self :
    (state.mark member value).seen member = true := update_self _ _ _

end

variable {member : Member}

theorem mark_seen_of_ne (state : Loading) {other : Member} (value : member.kind.Value)
    (different : other ≠ member) : (state.mark member value).seen other = state.seen other :=
  update_of_ne different _ _

theorem mark_mark (state : Loading) (member : Member) (first second : member.kind.Value) :
    (state.mark member first).mark member second = state.mark member second := by
  unfold Loading.mark
  simp only [update_idem]

theorem mark_comm (state : Loading) {other : Member} (different : other ≠ member)
    (value : member.kind.Value) (otherValue : other.kind.Value) :
    (state.mark member value).mark other otherValue =
      (state.mark other otherValue).mark member value := by
  unfold Loading.mark
  simp only [update_comm different]

variable {state next : Loading} {value : Text}

theorem loadSetting_cases {target : Target}
    (accepted : loadSetting target state key value = .ok next) :
    (findField target state.sectionName key = none ∧ next = state) ∨
      ∃ field stored, findField target state.sectionName key = some field ∧
        state.seen field.member = false ∧
        parseValue target field field.member.kind value = some stored ∧
        next = state.mark field.member stored := by
  unfold loadSetting at accepted
  split at accepted
  next absent => exact .inl ⟨absent, (Except.ok.inj accepted).symm⟩
  next field found =>
    split at accepted
    · cases accepted
    next fresh =>
      cases parses : parseValue target field field.member.kind value with
      | none => simp [setField, parses] at accepted
      | some stored =>
        simp only [setField, parses, map_some] at accepted
        exact .inr ⟨field, stored, found, by simpa using fresh, parses,
          (Except.ok.inj accepted).symm⟩

theorem loadSetting_of_find {target : Target} {field : Field} {stored : field.member.kind.Value}
    (found : findField target state.sectionName key = some field)
    (fresh : state.seen field.member = false)
    (parses : parseValue target field field.member.kind value = some stored) :
    loadSetting target state key value = .ok (state.mark field.member stored) := by
  unfold loadSetting setField
  simp [found, fresh, parses, Loading.mark]

variable (replacement : member.kind.Value)

theorem loadSetting_mark {target : Target}
    (accepted : loadSetting target state key value = .ok next)
    (unmarked : next.seen member = state.seen member) :
    loadSetting target (state.mark member replacement) key value =
      .ok (next.mark member replacement) := by
  rcases loadSetting_cases accepted with ⟨absent, rfl⟩ | ⟨field, stored, found, fresh, parses, rfl⟩
  · unfold loadSetting
    simp [absent]
  · have different : field.member ≠ member := by
      rintro rfl
      rw [mark_seen_self, fresh] at unmarked
      cases unmarked
    have sameKey : findField target (state.mark member replacement).sectionName key = some field :=
      found
    have stillFresh : (state.mark member replacement).seen field.member = false := by
      rw [mark_seen_of_ne _ _ different]
      exact fresh
    rw [loadSetting_of_find sameKey stillFresh parses, mark_comm _ different]

/-! ### Accepted lines -/

/-- How the writer takes a line, by what the line says. -/
def Statement.scan : Statement → Scan
  | .blank => .other
  | .header name => .header (some name)
  | .setting key _ => .key key

variable {text : Text}

theorem scanText_of_parseText {statement : Statement}
    (parsed : parseText sectionName text = .ok statement) : scanText text = statement.scan := by
  cases text with
  | nil =>
    rw [← Except.ok.inj parsed]
    rfl
  | cons first rest =>
    rw [parseText] at parsed
    rw [scanText]
    split at parsed
    next comment =>
      have noHeader : first ≠ 91 := by rintro rfl; simp at comment
      rw [if_neg noHeader, if_pos comment, ← Except.ok.inj parsed]
      rfl
    next noComment =>
      split at parsed
      next isHeader =>
        rw [if_pos isHeader]
        split at parsed
        · cases parsed
        next inside after closed =>
          split at parsed
          · cases parsed
          split at parsed
          · cases parsed
          rw [closed, ← Except.ok.inj parsed]
          rfl
      next noHeader =>
        rw [if_neg noHeader, if_neg noComment]
        cases found : CText.splitAt 61 (first :: rest) with
        | none =>
          rw [found] at parsed
          cases parsed
        | some pair =>
          rw [found] at parsed
          rw [← Except.ok.inj parsed]
          rfl

section

variable {chunk : Chunk} {statement : Statement}
  (parsed : parseLine sectionName chunk = .ok statement)

include parsed

theorem parseLine_ok :
    (cString chunk.text = [] ∨ (cString chunk.text).getLast? = some newline ∨ chunk.atEnd = true) ∧
      parseText sectionName (trim (cString chunk.text)) = .ok statement := by
  unfold parseLine at parsed
  simp only at parsed
  split at parsed
  · cases parsed
  next fits => exact ⟨by simpa [or_iff_not_imp_left] using fits, parsed⟩

theorem scanLine_of_parseLine : scanLine chunk.text = statement.scan :=
  scanText_of_parseText (parseLine_ok parsed).2

end

/-- The lines of a file, read one after another. -/
inductive Loads (target : Target) : Loading → List Text → Loading → Prop
  | nil (state : Loading) : Loads target state [] state
  | cons {state next last : Loading} {line : Text} {rest : List Text}
      (accepted : loadLine target state { text := line, atEnd := false } = .ok next)
      (others : Loads target next rest last) : Loads target state (line :: rest) last

theorem loadLine_ok {target : Target} {chunk : Chunk}
    (accepted : loadLine target state chunk = .ok next) :
    ∃ statement, parseLine state.sectionName chunk = .ok statement ∧
      obey target state statement = .ok next := by
  unfold loadLine at accepted
  cases parsed : parseLine state.sectionName chunk with
  | error fault => rw [parsed] at accepted; cases accepted
  | ok statement => exact ⟨statement, rfl, by rw [parsed] at accepted; exact accepted⟩

/-- What an accepted line is to one field: a header, the line that sets the field, a line that
sets another or none, or a line that says nothing. -/
inductive Reading (field : Field) (state next : Loading) (line : Text) : Prop
  | header (name : Text) (scanned : scanLine line = .header (some name))
      (entered : next = { state with sectionName := name })
  | own (scanned : scanLine line = .key field.key) (inside : state.sectionName = field.sectionName)
      (fresh : state.seen field.member = false) (old : field.member.kind.Value)
      (assigned : next = state.mark field.member old)
  | foreign (name : Text) (scanned : scanLine line = .key name)
      (elsewhere : ¬ (state.sectionName = field.sectionName ∧ name = field.key))
      (sameSection : next.sectionName = state.sectionName)
      (sameMark : next.seen field.member = state.seen field.member)
  | other (scanned : scanLine line = .other) (same : next = state)

theorem reading_of_loadLine {target : Target} {field : Field} (isRow : field ∈ configFields target)
    {line : Text} {atEnd : Bool}
    (accepted : loadLine target state { text := line, atEnd } = .ok next) :
    Reading field state next line := by
  obtain ⟨statement, parsed, obeyed⟩ := loadLine_ok accepted
  have scanned : scanLine line = statement.scan := scanLine_of_parseLine parsed
  cases statement with
  | blank => exact .other scanned (Except.ok.inj obeyed).symm
  | header name => exact .header name scanned (Except.ok.inj obeyed).symm
  | setting key value =>
    by_cases own : state.sectionName = field.sectionName ∧ key = field.key
    · obtain ⟨inside, rfl⟩ := own
      have found : findField target state.sectionName field.key = some field := by
        rw [inside, findField_of_mem field isRow]
      rcases loadSetting_cases obeyed with ⟨absent, -⟩ | ⟨other, old, foundOther, fresh, -, moved⟩
      · rw [found] at absent
        cases absent
      · obtain rfl : field = other := some.inj (found.symm.trans foundOther)
        exact .own scanned inside fresh old moved
    · rcases loadSetting_cases obeyed with ⟨-, rfl⟩ | ⟨other, old, foundOther, -, -, rfl⟩
      · exact .foreign key scanned own rfl rfl
      · refine .foreign key scanned own rfl (mark_seen_of_ne _ _ fun same => own ?_)
        obtain ⟨otherRow, inside, named⟩ := of_findField foundOther
        rw [eq_of_member_eq isRow otherRow same]
        exact ⟨inside, named⟩

theorem seen_of_reading {field : Field} {line : Text} (reading : Reading field state next line)
    (marked : state.seen field.member = true) : next.seen field.member = true := by
  cases reading with
  | header name scanned entered => rw [entered]; exact marked
  | own scanned inside fresh old assigned => rw [assigned, mark_seen_self]
  | foreign name scanned elsewhere sameSection sameMark => rw [sameMark, marked]
  | other scanned same => rw [same, marked]

theorem loadLine_mark {target : Target} {chunk : Chunk}
    (accepted : loadLine target state chunk = .ok next)
    (unmarked : next.seen member = state.seen member) :
    loadLine target (state.mark member replacement) chunk = .ok (next.mark member replacement) := by
  obtain ⟨statement, parsed, obeyed⟩ := loadLine_ok accepted
  unfold loadLine
  rw [mark_sectionName, parsed]
  cases statement with
  | blank => rw [← Except.ok.inj obeyed]; rfl
  | header name => rw [← Except.ok.inj obeyed]; rfl
  | setting key value => exact loadSetting_mark replacement obeyed unmarked

section Runs

variable {target : Target} {field : Field} (isRow : field ∈ configFields target)

theorem Loads.append {first second : List Text} {state middle last : Loading}
    (start : Loads target state first middle) (rest : Loads target middle second last) :
    Loads target state (first ++ second) last := by
  induction start with
  | nil => exact rest
  | cons accepted others hypothesis => exact .cons accepted (hypothesis rest)

include isRow in
theorem Loads.seen {lines : List Text} {state last : Loading}
    (loads : Loads target state lines last) (marked : state.seen field.member = true) :
    last.seen field.member = true := by
  induction loads with
  | nil => exact marked
  | cons accepted others hypothesis =>
    exact hypothesis (seen_of_reading (reading_of_loadLine isRow accepted) marked)

include isRow in
theorem Loads.unmarked_between {lines : List Text} {state next last : Loading} {line : Text}
    (others : Loads target next lines last) (reading : Reading field state next line)
    (unmarked : last.seen field.member = state.seen field.member) :
    next.seen field.member = state.seen field.member := by
  cases marked : state.seen field.member with
  | true => exact seen_of_reading reading marked
  | false =>
    by_contra assigned
    have later := others.seen isRow (by simpa using assigned)
    rw [unmarked, marked] at later
    cases later

include isRow in
theorem Loads.mark {lines : List Text} {state last : Loading}
    (loads : Loads target state lines last)
    (unmarked : last.seen field.member = state.seen field.member)
    (replacement : field.member.kind.Value) :
    Loads target (state.mark field.member replacement) lines
      (last.mark field.member replacement) := by
  induction loads with
  | nil => exact .nil _
  | @cons state next last line rest accepted others hypothesis =>
    have between := others.unmarked_between isRow (reading_of_loadLine isRow accepted) unmarked
    exact .cons (loadLine_mark replacement accepted between)
      (hypothesis (unmarked.trans between.symm))

end Runs

/-! ### The lines that are written -/

section

variable (plain : isPlain text = true)

include plain

theorem plain_byte {byte : UInt8} (member : byte ∈ text) :
    isSpace byte = false ∧ byte ∉ [0, 10, 34, 35, 59, 61, 91, 93] := by
  simp only [isPlain, Bool.and_eq_true, List.all_eq_true] at plain
  have plainByte := plain.2 byte member
  unfold isPlainByte at plainByte
  unfold isSpace
  simp only [List.mem_cons, List.not_mem_nil, or_false]
  grind

theorem plain_ne_nil : text ≠ [] := by
  rintro rfl
  cases plain

theorem plain_length : text.length ≤ 40 := by
  simp only [isPlain, Bool.and_eq_true, decide_eq_true_eq] at plain
  exact plain.1.2

theorem not_mem_plain {byte : UInt8}
    (special : byte ∈ [(0 : UInt8), 10, 34, 35, 59, 61, 91, 93]) : byte ∉ text :=
  fun member => (plain_byte plain member).2 special

theorem plain_head : ∀ byte ∈ text.head?, isSpace byte = false :=
  fun _ isHead => (plain_byte plain (mem_of_head? isHead)).1

theorem plain_last : ∀ byte ∈ text.getLast?, isSpace byte = false :=
  fun _ isLast => (plain_byte plain (mem_of_getLast? isLast)).1

theorem trim_plain : trim text = text :=
  trim_eq_self (plain_head plain) (plain_last plain)

end

variable (sectionName : Text)

theorem parseLine_written {body : Text} (noNul : 0 ∉ body)
    (starts : ∀ byte ∈ body.head?, isSpace byte = false)
    (ends : ∀ byte ∈ body.getLast?, isSpace byte = false) :
    parseLine sectionName { text := body ++ [newline], atEnd := false } =
      parseText sectionName body := by
  unfold parseLine
  rw [cString_eq_self (by simp [noNul, newline]), if_neg (by simp),
    trim_concat_space _ (by decide), trim_eq_self starts ends]

theorem bytes_equals : bytes " = " = [32, 61, 32] := by decide

theorem bytes_brackets : bytes "[" = [91] ∧ bytes "]" = [93] := by decide

theorem parseText_entry (plainKey : isPlain key = true)
    (plainValue : isPlain value = true) :
    parseText sectionName (key ++ [32, 61, 32] ++ value) = .ok (.setting key value) := by
  obtain ⟨first, rest, keyIs⟩ := exists_cons_of_ne_nil (plain_ne_nil plainKey)
  have special : first ∉ [0, 10, 34, 35, 59, 61, 91, 93] :=
    (plain_byte plainKey (by rw [keyIs]; exact mem_cons_self)).2
  have noEquals : (61 : UInt8) ∉ key := not_mem_plain plainKey (by decide)
  have noQuote : (34 : UInt8) ∉ value := not_mem_plain plainValue (by decide)
  have cut : CText.splitAt 61 (key ++ [32, 61, 32] ++ value) = some (key ++ [32], 32 :: value) := by
    have parts := splitAt_append (32 :: value)
      (show (61 : UInt8) ∉ key ++ [32] by simpa using noEquals)
    simpa using parts
  have unquoted : unquote sectionName value = value :=
    if_neg fun quoted => noQuote (mem_of_head? quoted.2.1)
  have consed : key ++ [32, 61, 32] ++ value = first :: (rest ++ [32, 61, 32] ++ value) := by
    rw [keyIs]
    rfl
  rw [consed] at cut ⊢
  rw [parseText, if_neg, if_neg, cut]
  · simp only
    rw [trim_concat_space _ (by decide), trim_cons_space _ (by decide), trim_plain plainKey,
      trim_plain plainValue, unquoted]
  · rintro rfl
    exact special (by decide)
  · rintro (rfl | rfl)
    · exact special (by decide)
    · exact special (by decide)

theorem parseLine_entry {field : Field} (plainKey : isPlain field.key = true)
    (plainValue : isPlain value = true) :
    parseLine sectionName { text := entryLine field value, atEnd := false } =
      .ok (.setting field.key value) := by
  unfold entryLine
  rw [bytes_equals]
  refine (parseLine_written sectionName ?_ ?_ ?_).trans
    (parseText_entry sectionName plainKey plainValue)
  · have inKey : 0 ∉ field.key := not_mem_plain plainKey (by decide)
    have inValue : 0 ∉ value := not_mem_plain plainValue (by decide)
    simp [inKey, inValue]
  · rw [append_assoc, head?_append_of_ne_nil _ (plain_ne_nil plainKey)]
    exact plain_head plainKey
  · rw [getLast?_append_of_ne_nil _ (plain_ne_nil plainValue)]
    exact plain_last plainValue

theorem parseLine_header {field : Field} (plainSection : isPlain field.sectionName = true) :
    parseLine sectionName { text := headerLine field, atEnd := false } =
      .ok (.header field.sectionName) := by
  have noNul : 0 ∉ field.sectionName := not_mem_plain plainSection (by decide)
  have noClosing : (93 : UInt8) ∉ field.sectionName := not_mem_plain plainSection (by decide)
  have short := plain_length plainSection
  have cut : parseText sectionName ([91] ++ field.sectionName ++ [93]) =
      .ok (.header field.sectionName) := by
    rw [append_assoc, singleton_append, parseText, if_neg (by decide), if_pos rfl,
      splitAt_append [] noClosing]
    simp only [trim_plain plainSection]
    rw [if_neg (by decide), if_neg]
    simp only [plain_ne_nil plainSection, false_or]
    omega
  unfold headerLine
  rw [bytes_brackets.1, bytes_brackets.2]
  refine (parseLine_written sectionName ?_ ?_ ?_).trans cut
  · simpa using noNul
  · simp [isSpace]
  · rw [getLast?_concat]
    simp [isSpace]

theorem parseLine_newline :
    parseLine sectionName { text := [newline], atEnd := false } = .ok .blank := rfl

/-! ### The values that are written -/

theorem isPlainByte_of_isDigit (byte : UInt8) : isDigit byte = true → isPlainByte byte = true := by
  unfold isPlainByte isDigit
  simp only [Bool.and_eq_true, decide_eq_true_eq, bne_iff_ne, ne_eq]
  grind

theorem isPlain_printInt {number : Int} (small : number.natAbs ≤ 65535) :
    isPlain (printInt number) = true := by
  have short : (printInt number).length ≤ 6 := by
    have digits : (printNat number.natAbs).length ≤ 5 := length_printNat_le (by decide) (by omega)
    unfold printInt
    split
    · rw [List.length_cons]
      omega
    · omega
  simp only [isPlain, Bool.and_eq_true, bne_iff_ne, ne_eq, List.all_eq_true, decide_eq_true_eq]
  refine ⟨⟨printInt_ne_nil number, by omega⟩, fun byte member => ?_⟩
  rcases printInt_bytes number byte member with rfl | isDigitByte
  · decide
  · exact isPlainByte_of_isDigit byte isDigitByte

variable {selected : Int}

theorem valueText_enumeration {field : Field}
    (written : valueText field .enumeration selected = some text) :
    ∃ option ∈ field.options, option.value = selected ∧ option.name = text := by
  obtain ⟨option, isLast, named⟩ := map_eq_some_iff.mp written
  have member := mem_of_getLast? isLast
  rw [mem_filter, beq_iff_eq] at member
  exact ⟨option, member.1, member.2, named⟩

theorem valueText_boolean {field : Field}
    (written : valueText field .boolean selected = some text) :
    (selected = 0 ∧ text = bytes "false") ∨ (selected = 1 ∧ text = bytes "true") := by
  rw [valueText] at written
  split at written
  next isZero => exact .inl ⟨isZero, (some.inj written).symm⟩
  next =>
    split at written
    next isOne => exact .inr ⟨isOne, (some.inj written).symm⟩
    · cases written

theorem isPlain_valueText {target : Target} {field : Field} (isRow : field ∈ configFields target)
    {kind : Kind} (small : selected.natAbs ≤ 65535)
    (written : valueText field kind selected = some text) : isPlain text = true := by
  cases kind with
  | enumeration =>
    obtain ⟨option, member, -, rfl⟩ := valueText_enumeration written
    exact (sound_option isRow member).1
  | boolean =>
    rcases valueText_boolean written with ⟨-, rfl⟩ | ⟨-, rfl⟩ <;> decide
  | timezone | string | integer | unsigned =>
    rw [← some.inj written]
    exact isPlain_printInt small

theorem boundedNumber_eq {minimum maximum stored : Int} {converted : Option Converted}
    (bounded : boundedNumber minimum maximum converted = some stored) :
    ∃ number, converted = some number ∧ number.inRange = true ∧ minimum ≤ stored ∧
      stored ≤ maximum ∧ number.value = stored := by
  unfold boundedNumber at bounded
  split at bounded
  · cases bounded
  next number =>
    split at bounded
    next checks =>
      obtain ⟨inRange, -, lower, upper⟩ := checks
      cases bounded
      exact ⟨number, rfl, inRange, lower, upper, rfl⟩
    · cases bounded

/-- A number within range is read back by `strtol` as it was printed. -/
theorem strtol_printInt {longBits : Nat} {number : Int} {converted : Converted}
    (read : strtol longBits (printInt number) = some converted)
    (inRange : converted.inRange = true) : converted.value = number := by
  unfold strtol at read
  rw [scanDecimal_printInt, map_some] at read
  cases read
  simp only [decide_eq_true_eq] at inRange ⊢
  rw [signed_natAbs] at inRange ⊢
  omega

/-- A number that `strtoul` reads back as a small one was printed from it. -/
theorem strtoul_printInt {longBits : Nat} (wide : 32 ≤ longBits) {number : Int}
    (small : number.natAbs ≤ 65535) {converted : Converted}
    (read : strtoul longBits (printInt number) = some converted)
    (result : converted.value ≤ 65535) : converted.value = number := by
  have size : (2 : Int) ^ 32 ≤ 2 ^ longBits := by
    exact_mod_cast Nat.pow_le_pow_right (by decide) wide
  have sizeNat : 2 ^ 32 ≤ 2 ^ longBits := Nat.pow_le_pow_right (by decide) wide
  unfold strtoul at read
  rw [scanDecimal_printInt, map_some] at read
  cases read
  simp only at result ⊢
  rw [if_pos (by omega)] at result ⊢
  simp only [decide_eq_true_eq] at result ⊢
  rw [signed_natAbs] at result ⊢
  rcases lt_or_ge number 0 with negative | nonnegative
  · have wrapped : number % 2 ^ longBits = number + 2 ^ longBits := by
      rw [← Int.add_emod_right, Int.emod_eq_of_lt (by omega) (by omega)]
    omega
  · exact Int.emod_eq_of_lt nonnegative (by omega)

theorem toInt32_of_small {value : Nat} (small : value ≤ 65535) : toInt32 value = value := by
  unfold toInt32
  rw [Int.bmod_eq_of_le]
  · norm_num
  · norm_num
    omega

theorem number_of_valueText {target : Target} {field : Field} (isRow : field ∈ configFields target)
    {kind : Kind} (isKind : field.member.kind = kind) (small : selected.natAbs ≤ 65535)
    (written : valueText field kind selected = some text)
    (isNumber : kind ≠ .string ∧ kind ≠ .timezone) {stored : kind.Value}
    (parses : parseValue target field kind text = some stored) : kind.number stored = selected := by
  cases kind with
  | enumeration =>
    obtain ⟨option, member, valued, rfl⟩ := valueText_enumeration written
    rw [parseValue] at parses
    rw [(sound_option isRow member).2] at parses
    exact (some.inj parses).symm.trans valued
  | boolean =>
    rcases valueText_boolean written with ⟨rfl, rfl⟩ | ⟨rfl, rfl⟩
    · rw [parseValue, if_neg (by decide), if_pos rfl] at parses
      cases parses
      rfl
    · rw [parseValue, if_pos rfl] at parses
      cases parses
      rfl
  | integer =>
    have printed : printInt selected = text := some.inj written
    subst printed
    obtain ⟨number, read, inRange, -, -, valued⟩ := boundedNumber_eq parses
    exact valued.symm.trans (strtol_printInt read inRange)
  | unsigned =>
    have printed : printInt selected = text := some.inj written
    subst printed
    obtain ⟨nonnegative, bounded⟩ := bounds_of_unsigned isRow isKind
    rw [parseValue] at parses
    obtain ⟨number, read, toNat⟩ := map_eq_some_iff.mp parses
    obtain ⟨converted, converts, -, lower, upper, valued⟩ := boundedNumber_eq read
    have wide : 32 ≤ target.longBits := by cases target <;> decide
    have same := strtoul_printInt wide small converts (by omega)
    obtain rfl : number = selected := valued.symm.trans same
    subst toNat
    exact (toInt32_of_small (by omega)).trans (Int.toNat_of_nonneg (by omega))
  | timezone => exact absurd rfl isNumber.2
  | string => exact absurd rfl isNumber.1

end Config
