/-
This file is about what a caller of `ca_config_load` can rely on, whatever is in the file and
whichever of the calls on it fails: either the configuration is left alone, or every field that the
file names holds a value of its own, each is named once, and all others are as they were.

What a field may hold is described here without the code that reads it.
-/

import CameraGimbal.ConfigSettings
import CameraGimbal.ConfigValid

namespace Config

open CText List

/-! ### The calls on the file -/

/-- What the stream of an open file delivers until it ends, and the error that it ends with, if it
is not the end of the file. -/
structure OpenFile where
  delivered : Text
  failure : Option Nat

/-- What `fgets` gives until it returns `NULL`. A line that is cut off by an error is not one. -/
def OpenFile.chunks (file : OpenFile) : List Chunk :=
  let chunks := fgets lineMax file.delivered
  if file.failure.isSome then chunks.filter fun chunk => !chunk.atEnd else chunks

/-- Why `ca_config_load` fails. -/
inductive LoadFailure
  | argument
  | unopened (errno : Nat)
  | unread (errno : Nat)
  | refused (error : LoadError)

/-- The `errno` that is left behind: `EINVAL`, or that of the call that failed. -/
def LoadFailure.errno : LoadFailure → Nat
  | .argument | .refused _ => 22
  | .unopened errno | .unread errno => errno

/-- The text that goes into the caller's buffer. -/
def LoadFailure.text (strerror : Nat → Text) : LoadFailure → Option Text
  | .argument | .unopened _ => none
  | .unread errno => some (bytes "read failed: " ++ strerror errno)
  | .refused error => error.text

/-- `ca_config_load`: what `*config` holds afterwards, and the failure. Either pointer may be
`NULL`. -/
def configLoad (target : Target) (config : Option Configuration) (path : Option Text)
    (fopen : Text → Except Nat OpenFile) : Option Configuration × Option LoadFailure :=
  match config, path with
  | some given, some (first :: rest) =>
    match fopen (first :: rest) with
    | .error errno => (config, some (.unopened errno))
    | .ok file =>
      match loadLines target 0 (Loading.start given) file.chunks with
      | .error error => (config, some (.refused error))
      | .ok state =>
        match file.failure with
        | some errno => (config, some (.unread errno))
        | none =>
          if supportValid state.parsed then (some state.parsed, none)
          else (config, some (.refused .support))
  | _, _ => (config, some .argument)

/-! ### What a field may hold -/

/-- An address and the length of its prefix, with a slash between them. -/
def IsNetwork (longBits : Nat) (value : Text) : Prop :=
  ∃ address length number, value = address ++ 47 :: length ∧ inetPton address = true ∧
    strtol longBits length = some number ∧ number.rest = [] ∧ 1 ≤ number.value ∧ number.value ≤ 32

/-- The texts of a field: of a length within its bounds and of printable characters but quotes, and
what the key asks for beyond that. -/
structure TextGrammar (longBits : Nat) (field : Field) (value : Text) : Prop where
  lower : field.minimum ≤ value.length
  upper : (value.length : Int) ≤ field.maximum
  printable : ∀ byte ∈ value, 32 ≤ byte ∧ byte ≤ 126 ∧ byte ≠ 34
  plain : field.key = bytes "host" ∨ field.key = bytes "network_interface" →
    ∀ byte ∈ value, isAlphanumeric byte = true ∨ byte = 46 ∨ byte = 45 ∨ byte = 95
  gateway : field.key = bytes "network_gateway" → value = [] ∨ inetPton value = true
  address : field.key = bytes "network_address" → value = [] ∨ IsNetwork longBits value

/-- The names of time zones. -/
structure TimezoneGrammar (value : Text) : Prop where
  nonempty : value ≠ []
  short : value.length < 128
  visible : ∀ byte ∈ value, isControl byte = false ∧ isSpace byte = false

/-- What a field may hold. -/
def Field.Admits (target : Target) (field : Field) : (kind : Kind) → kind.Value → Prop
  | .enumeration, value => ∃ option ∈ field.options, option.value = value
  | .integer, (value : Int) => field.minimum ≤ value ∧ value ≤ field.maximum
  | .unsigned, (value : Nat) => field.minimum ≤ value ∧ value ≤ field.maximum
  | .boolean, _ => True
  | .timezone, value => TimezoneGrammar value
  | .string, value => TextGrammar target.longBits field value

variable {target : Target}

theorem size_of_string : ∀ field ∈ configFields target,
    field.member.kind = .string → (field.member.size : Int) = field.maximum + 1 := by
  cases target <;> decide

theorem isNetwork_of_valid {longBits : Nat} {value : Text}
    (valid : validNetworkAddress longBits value = true) : IsNetwork longBits value := by
  unfold validNetworkAddress at valid
  split at valid
  · cases valid
  next address slash cut =>
  split at valid
  · cases valid
  next number read =>
  simp only [Bool.and_eq_true, decide_eq_true_eq, beq_iff_eq] at valid
  obtain ⟨⟨⟨whole, lower⟩, upper⟩, isAddress⟩ := valid
  exact ⟨address, slash, number, (splitAt_spec cut).1, isAddress, read, whole, lower, upper⟩

theorem textGrammar_of_parseString {field : Field} (isRow : field ∈ configFields target)
    (isKind : field.member.kind = .string) {text value : Text}
    (parses : parseString target.longBits field text = some value) :
    TextGrammar target.longBits field value := by
  unfold parseString at parses
  split at parses
  · cases parses
  next room =>
  split at parses
  · cases parses
  next printable =>
  split at parses
  · cases parses
  next plain =>
  split at parses
  · cases parses
  next gateway =>
  split at parses
  · cases parses
  next address =>
  cases parses
  obtain ⟨fits, long⟩ := not_or.mp room
  have size := size_of_string field isRow isKind
  simp only [any_eq_true, Bool.or_eq_true, Bool.and_eq_true, beq_iff_eq, decide_eq_true_eq,
    bne_iff_ne, ne_eq, Bool.not_eq_true', not_exists, not_and, not_or, Bool.not_eq_false,
    or_assoc] at printable plain gateway address
  refine ⟨by omega, by omega, fun byte member => ?_, plain, fun asked => ?_, fun asked => ?_⟩
  · obtain ⟨lower, upper, unquoted⟩ := printable byte member
    exact ⟨UInt8.not_lt.mp lower, UInt8.not_lt.mp upper, unquoted⟩
  · exact or_iff_not_imp_left.mpr fun nonempty => gateway ⟨nonempty, asked⟩
  · exact or_iff_not_imp_left.mpr fun nonempty => isNetwork_of_valid (address ⟨nonempty, asked⟩)

theorem admits_of_parseValue {field : Field} (isRow : field ∈ configFields target) {kind : Kind}
    (isKind : field.member.kind = kind) {text : Text} {value : kind.Value}
    (parses : parseValue target field kind text = some value) : field.Admits target kind value := by
  have accepts := parseValue_accepts isRow isKind parses
  cases kind with
  | enumeration =>
    obtain ⟨option, member, same⟩ := any_eq_true.mp accepts
    exact ⟨option, member, eq_of_beq same⟩
  | integer => exact (field.bounds_iff _).mp accepts
  | unsigned => exact (field.bounds_iff _).mp accepts
  | boolean => trivial
  | timezone =>
    rw [parseValue] at parses
    split at parses
    · next valid =>
      cases parses
      simp only [validTimezone, Bool.and_eq_true, bne_iff_ne, ne_eq, decide_eq_true_eq,
        all_eq_true, Bool.not_eq_true'] at valid
      exact ⟨valid.1.1.1, valid.1.1.2, valid.1.2⟩
    · cases parses
  | string => exact textGrammar_of_parseString isRow isKind parses

/-! ### What the file names -/

/-- The known fields that the lines of a file name in their sections, with the values they are
given. -/
def named (target : Target) : Text → List Chunk → List (Field × Text)
  | _, [] => []
  | sectionName, chunk :: rest =>
    match parseLine sectionName chunk with
    | .ok (.header name) => named target name rest
    | .ok (.setting key value) =>
      ((findField target sectionName key).map fun field => (field, value)).toList ++
        named target sectionName rest
    | _ => named target sectionName rest

theorem named_row {target : Target} {chunks : List Chunk} {sectionName : Text} :
    ∀ setting ∈ named target sectionName chunks, setting.1 ∈ configFields target := by
  induction chunks generalizing sectionName with
  | nil => exact nofun
  | cons chunk rest hypothesis =>
    intro setting member
    rw [named] at member
    split at member
    · exact hypothesis setting member
    · cases mem_append.mp member with
      | inl first =>
        obtain ⟨field, found, rfl⟩ := Option.map_eq_some_iff.mp (Option.mem_toList.mp first)
        exact (of_findField found).1
      | inr later => exact hypothesis setting later
    · exact hypothesis setting member

theorem named_of_loadLines {number : Nat} {state last : Loading} {chunks : List Chunk}
    (loaded : loadLines target number state chunks = .ok last) :
    (∀ member ∈ members (named target state.sectionName chunks), state.seen member = false) ∧
      (members (named target state.sectionName chunks)).Nodup ∧
      assign target state.parsed (named target state.sectionName chunks) = some last.parsed := by
  induction chunks generalizing number state with
  | nil =>
    cases loaded
    exact ⟨nofun, nodup_nil, rfl⟩
  | cons chunk rest hypothesis =>
    obtain ⟨next, accepted, others⟩ := loadLines_cons loaded
    obtain ⟨statement, parsed, obeyed⟩ := loadLine_ok accepted
    have later := hypothesis others
    rw [named, parsed]
    cases statement with
    | blank =>
      cases obeyed
      exact later
    | header name =>
      cases obeyed
      exact later
    | setting key value =>
      dsimp only
      rcases loadSetting_cases obeyed with
        ⟨absent, rfl⟩ | ⟨field, stored, found, fresh, parses, rfl⟩
      · rw [absent]
        exact later
      · rw [found]
        obtain ⟨unseen, distinct, assigned⟩ := later
        rw [mark_sectionName] at unseen distinct assigned
        refine ⟨forall_mem_cons.mpr ⟨fresh, fun member isMember => ?_⟩,
          nodup_cons.mpr ⟨fun repeated => ?_, distinct⟩, ?_⟩
        · have apart := unseen member isMember
          by_cases same : member = field.member
          · rw [same]
            exact fresh
          · rwa [mark_seen_of_ne _ _ same] at apart
        · exact absurd (unseen field.member repeated) (by rw [mark_seen_self]; decide)
        · rw [Option.map_some, Option.toList_some, singleton_append, assign_cons, setField, parses]
          exact assigned

theorem keys_nodup {given : List (Field × Text)}
    (rows : ∀ setting ∈ given, setting.1 ∈ configFields target) (distinct : (members given).Nodup) :
    (given.map fun setting => (setting.1.sectionName, setting.1.key)).Nodup := by
  refine pairwise_map.mpr ((pairwise_map.mp distinct).imp_of_mem ?_)
  intro first second isFirst isSecond apart same
  obtain ⟨sameSection, sameKey⟩ := Prod.mk.inj same
  have found := findField_of_mem first.1 (rows first isFirst)
  rw [sameSection, sameKey, findField_of_mem second.1 (rows second isSecond)] at found
  exact apart (congrArg Field.member (Option.some.inj found)).symm

/-! ### All or nothing -/

/-- A configuration with what the file gives, on top of another one. -/
structure Loaded (target : Target) (config result : Configuration)
    (given : List (Field × Text)) : Prop where
  admitted : ∀ setting ∈ given,
    setting.1.Admits target setting.1.member.kind (result setting.1.member)
  stored : ∀ setting ∈ given,
    parseValue target setting.1 setting.1.member.kind setting.2 = some (result setting.1.member)
  once : (given.map fun setting => (setting.1.sectionName, setting.1.key)).Nodup
  kept : ∀ member, member ∉ members given → result member = config member
  support : supportValid result = true

theorem loaded_of_loadLines {config : Configuration} {last : Loading} {chunks : List Chunk}
    (loads : loadLines target 0 (Loading.start config) chunks = .ok last)
    (support : supportValid last.parsed = true) :
    Loaded target config last.parsed (named target [] chunks) := by
  have rows := @named_row target chunks []
  obtain ⟨-, distinct, assigned⟩ := named_of_loadLines loads
  obtain ⟨result, isResult, stored, kept⟩ :=
    assign_spec distinct (accepted_of_assign assigned) config
  obtain rfl := Option.some.inj (isResult.symm.trans assigned)
  exact ⟨fun setting member =>
    admits_of_parseValue (rows setting member) rfl (stored setting member), stored,
    keys_nodup rows distinct, kept, support⟩

/-- A load that fails leaves the configuration alone. One that succeeds has read the whole file; the
fields that are named in it hold what they may hold, each is named once, and the others are as they
were. -/
theorem load_all_or_nothing (target : Target) (config : Option Configuration)
    (path : Option Text) (fopen : Text → Except Nat OpenFile) :
    ((configLoad target config path fopen).2.isSome = true →
      (configLoad target config path fopen).1 = config) ∧
    ((configLoad target config path fopen).2 = none →
      ∃ given result name file, config = some given ∧
        (configLoad target config path fopen).1 = some result ∧ path = some name ∧
        fopen name = .ok file ∧ file.failure = none ∧
        Loaded target given result (named target [] (fgets lineMax file.delivered))) := by
  unfold configLoad
  split
  · next given first rest =>
    cases opened : fopen (first :: rest) with
    | error errno => exact ⟨fun _ => rfl, nofun⟩
    | ok file =>
      dsimp only
      cases lines : loadLines target 0 (Loading.start given) file.chunks with
      | error error => exact ⟨fun _ => rfl, nofun⟩
      | ok state =>
        dsimp only
        cases failure : file.failure with
        | some errno => exact ⟨fun _ => rfl, nofun⟩
        | none =>
          dsimp only
          split
          · next support =>
            have chunks : file.chunks = fgets lineMax file.delivered := by
              unfold OpenFile.chunks
              rw [failure]
              rfl
            rw [chunks] at lines
            exact ⟨nofun, fun _ => ⟨given, state.parsed, first :: rest, file, rfl, rfl, rfl, opened,
              failure, loaded_of_loadLines lines support⟩⟩
          · exact ⟨fun _ => rfl, nofun⟩
  · exact ⟨fun _ => rfl, nofun⟩

example :
    (configLoad .mt11 (some (defaults .mt11)) (some (bytes "camera.ini")) fun _ =>
      .ok { delivered := bytes "[image]\niso = 400\n[image]\niso = 100\n", failure := none }).2.map
        (fun failure => failure.text fun _ => []) =
      some (some (bytes "line 4 has an invalid or duplicate iso")) := by
  decide

end Config
