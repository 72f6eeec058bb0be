/-
This file is about the values that a configuration can hold: what each field of the table accepts,
and that the defaults and every file that loads hold accepted values only. It models
`ca_config_param_assign`, which changes one parameter of a configuration in memory, and shows
that it accepts what `ca_config_param_get` gives for a parameter of a valid configuration.
-/

import CameraGimbal.ConfigEdit

namespace Config

open CText List Function Option

/-! ### Accepted values -/

def Field.bounds (field : Field) (value : Int) : Bool :=
  decide (field.minimum ≤ value ∧ value ≤ field.maximum)

theorem Field.bounds_iff (field : Field) (value : Int) :
    field.bounds value = true ↔ field.minimum ≤ value ∧ value ≤ field.maximum :=
  decide_eq_true_iff

/-- A value that a field can be set to. The texts are checked where they are read. -/
def Field.accepts (field : Field) : (kind : Kind) → kind.Value → Bool
  | .enumeration, value => field.options.any fun option => option.value == value
  | .integer, value => field.bounds value
  | .unsigned, value => field.bounds (Int.ofNat value)
  | .boolean, _ | .timezone, _ | .string, _ => true

/-- A configuration that holds accepted values, and a usable description of the support
connection. -/
structure Valid (target : Target) (config : Configuration) : Prop where
  support : supportValid config = true
  accepted : ∀ field ∈ configFields target,
    field.accepts field.member.kind (config field.member) = true

theorem valid_defaults (target : Target) : Valid target (defaults target) where
  support := by cases target <;> rfl
  accepted := by cases target <;> decide +kernel

theorem parseValue_accepts {target : Target} {field : Field} (isRow : field ∈ configFields target)
    {kind : Kind} (isKind : field.member.kind = kind) {text : Text} {value : kind.Value}
    (parses : parseValue target field kind text = some value) :
    field.accepts kind value = true := by
  cases kind with
  | enumeration =>
    obtain ⟨option, found, rfl⟩ := map_eq_some_iff.mp parses
    exact any_eq_true.mpr ⟨option, mem_of_find?_eq_some found, beq_self_eq_true _⟩
  | integer =>
    obtain ⟨-, -, -, lower, upper, -⟩ := boundedNumber_eq parses
    exact (field.bounds_iff value).mpr ⟨lower, upper⟩
  | unsigned =>
    obtain ⟨number, read, rfl⟩ := map_eq_some_iff.mp parses
    obtain ⟨-, -, -, lower, upper, -⟩ := boundedNumber_eq read
    have nonnegative := (bounds_of_unsigned isRow isKind).1
    have same : ((number.toNat : Nat) : Int) = number := Int.toNat_of_nonneg (by omega)
    refine (field.bounds_iff _).mpr ?_
    rw [Int.ofNat_eq_natCast, same]
    exact ⟨lower, upper⟩
  | boolean | timezone | string => rfl

variable {config : Configuration}

variable {target : Target}

theorem accepted_update {field : Field} (isRow : field ∈ configFields target)
    {value : field.member.kind.Value} (accepts : field.accepts field.member.kind value = true)
    (accepted : ∀ other ∈ configFields target,
      other.accepts other.member.kind (config other.member) = true) :
    ∀ other ∈ configFields target, other.accepts other.member.kind
      (update config field.member value other.member) = true := by
  intro other otherRow
  by_cases same : other.member = field.member
  · obtain rfl := eq_of_member_eq otherRow isRow same
    rw [update_self]
    exact accepts
  · rw [update_of_ne same]
    exact accepted other otherRow

/-! ### Loading -/

theorem loadLine_accepted {state next : Loading} {chunk : Chunk}
    (loads : loadLine target state chunk = .ok next) (accepted : ∀ field ∈ configFields target,
      field.accepts field.member.kind (state.parsed field.member) = true) :
    ∀ field ∈ configFields target,
      field.accepts field.member.kind (next.parsed field.member) = true := by
  obtain ⟨statement, -, obeys⟩ := loadLine_ok loads
  cases statement with
  | blank =>
    cases obeys
    exact accepted
  | header name =>
    cases obeys
    exact accepted
  | setting key value =>
    obtain ⟨-, rfl⟩ | ⟨field, stored, found, -, parses, rfl⟩ := loadSetting_cases obeys
    · exact accepted
    · have isRow := (of_findField found).1
      exact accepted_update isRow (parseValue_accepts isRow rfl parses) accepted

theorem loadLines_accepted {number : Nat} {state last : Loading}
    {chunks : List Chunk} (loads : loadLines target number state chunks = .ok last)
    (accepted : ∀ field ∈ configFields target,
      field.accepts field.member.kind (state.parsed field.member) = true) :
    ∀ field ∈ configFields target,
      field.accepts field.member.kind (last.parsed field.member) = true := by
  induction chunks generalizing number state with
  | nil =>
    cases loads
    exact accepted
  | cons chunk rest hypothesis =>
    rw [loadLines] at loads
    split at loads
    · cases loads
    · next first => exact hypothesis loads (loadLine_accepted first accepted)

theorem Valid.load {target : Target} {loaded : Configuration} {file : Option Text}
    (valid : Valid target config) (loads : load target config file = .ok loaded) :
    Valid target loaded := by
  cases file with
  | none => cases loads
  | some file =>
    rw [Config.load] at loads
    split at loads
    · cases loads
    · next last lines =>
      split at loads
      · next support =>
        cases loads
        exact ⟨support, loadLines_accepted lines valid.accepted⟩
      · cases loads

theorem valid_of_loadOrDefaults {file : Option Text} {loaded : Configuration}
    (loads : loadOrDefaults target file = .ok loaded) : Valid target loaded := by
  unfold loadOrDefaults at loads
  split at loads
  · next config read =>
    cases loads
    exact (valid_defaults target).load read
  · cases loads
    exact valid_defaults target
  · cases loads

/-! ### Assigning a parameter -/

/-- `ca_config_param_assign`. -/
def paramAssign (target : Target) (config : Configuration) (index : Nat) (value : Number) :
    Option Configuration :=
  match paramField target index, wholeNumber value with
  | some field, some selected =>
    match valueText field field.member.kind selected with
    | none => none
    | some text =>
      match setField target config field text with
      | none => none
      | some updated => if supportValid updated then some updated else none
  | _, _ => none

theorem paramAssign_ok {updated : Configuration} {index : Nat} {value : Number}
    (assigns : paramAssign target config index value = some updated) :
    ∃ field stored, paramField target index = some field ∧
      field.accepts field.member.kind stored = true ∧
      updated = update config field.member stored ∧ supportValid updated = true := by
  unfold paramAssign at assigns
  split at assigns
  next field selected found whole =>
    split at assigns
    · cases assigns
    next text written =>
      split at assigns
      · cases assigns
      next assigned set =>
        split at assigns
        next valid =>
          cases assigns
          obtain ⟨stored, parses, rfl⟩ := map_eq_some_iff.mp set
          exact ⟨field, stored, found, parseValue_accepts (paramField_row found).1 rfl parses, rfl,
            valid⟩
        · cases assigns
  · cases assigns

theorem Valid.assign {updated : Configuration} {index : Nat} {value : Number}
    (valid : Valid target config) (assigns : paramAssign target config index value = some updated) :
    Valid target updated := by
  obtain ⟨field, stored, found, accepts, rfl, support⟩ := paramAssign_ok assigns
  exact ⟨support, accepted_update (paramField_row found).1 accepts valid.accepted⟩

/-! ### Assigning what was read -/

/-- A number that a `long` holds is read back whole. -/
theorem strtol_printInt_small {longBits : Nat} (wide : 32 ≤ longBits) {number : Int}
    (small : number.natAbs ≤ 65535) :
    strtol longBits (printInt number) = some { value := number, inRange := true, rest := [] } := by
  have size : (2 : Int) ^ 31 ≤ 2 ^ (longBits - 1) := by
    exact_mod_cast Nat.pow_le_pow_right (by decide) (by omega)
  unfold strtol
  rw [scanDecimal_printInt, map_some]
  simp only [decide_eq_true_eq, signed_natAbs, some.injEq, Converted.mk.injEq, and_true]
  omega

/-- A number that an `unsigned long` holds is read back whole. -/
theorem strtoul_printInt_small {longBits : Nat} (wide : 32 ≤ longBits) {number : Nat}
    (small : number ≤ 65535) :
    strtoul longBits (printInt number) = some { value := number, inRange := true, rest := [] } := by
  have size : 2 ^ 32 ≤ 2 ^ longBits := Nat.pow_le_pow_right (by decide) wide
  have nonnegative : ¬ (number : Int) < 0 := by omega
  unfold strtoul
  rw [scanDecimal_printInt, map_some]
  simp only [Int.natAbs_natCast, decide_eq_false nonnegative, Bool.false_eq_true, if_false]
  rw [if_pos (by omega), Int.emod_eq_of_lt (by omega) (by exact_mod_cast by omega)]

theorem bounds_of_integer : ∀ field ∈ configFields target,
    field.member.kind = .integer → -65535 ≤ field.minimum ∧ field.maximum ≤ 65535 := by
  cases target <;> decide

theorem small_option : ∀ field ∈ configFields target,
    ∀ option ∈ field.options, option.value.natAbs ≤ 65535 := by
  cases target <;> decide

theorem boundedNumber_whole {minimum maximum number : Int} {converted : Option Converted}
    (whole : converted = some { value := number, inRange := true, rest := [] })
    (lower : minimum ≤ number) (upper : number ≤ maximum) :
    boundedNumber minimum maximum converted = some number := by
  rw [whole]
  exact if_pos ⟨rfl, rfl, lower, upper⟩

theorem parseValue_boolean (target : Target) (field : Field) (value : Bool) :
    ∃ text, valueText field .boolean (Bool.toInt value) = some text ∧
      parseValue target field .boolean text = some value := by
  cases value with
  | false =>
    refine ⟨bytes "false", rfl, ?_⟩
    rw [parseValue, if_neg (by decide), if_pos rfl]
    rfl
  | true =>
    refine ⟨bytes "true", rfl, ?_⟩
    rw [parseValue, if_pos rfl]
    rfl

section Rows

variable {target : Target} {field : Field} (isRow : field ∈ configFields target)
include isRow

theorem parseValue_enumeration {value : Int} (accepts : field.accepts .enumeration value = true) :
    ∃ text, valueText field .enumeration value = some text ∧
      parseValue target field .enumeration text = some value := by
  obtain ⟨option, member, valued⟩ := any_eq_true.mp accepts
  have matching : field.options.filter (fun option => option.value == value) ≠ [] :=
    ne_nil_of_mem (mem_filter.mpr ⟨member, valued⟩)
  have isLast := getLast?_eq_some_getLast matching
  refine ⟨_, congrArg (Option.map Choice.name) isLast, ?_⟩
  obtain ⟨lastMember, lastValued⟩ := mem_filter.mp (getLast_mem matching)
  rw [parseValue, (sound_option isRow lastMember).2]
  exact congrArg some (eq_of_beq (α := Int) lastValued)

theorem parseValue_integer (isKind : field.member.kind = .integer) {value : Int}
    (accepts : field.accepts .integer value = true) :
    ∃ text, valueText field .integer value = some text ∧
      parseValue target field .integer text = some value := by
  obtain ⟨lower, upper⟩ := (field.bounds_iff value).mp accepts
  obtain ⟨lowest, highest⟩ := bounds_of_integer field isRow isKind
  have wide : 32 ≤ target.longBits := by cases target <;> decide
  exact ⟨printInt value, rfl,
    boundedNumber_whole (strtol_printInt_small wide (by omega)) lower upper⟩

theorem parseValue_unsigned (isKind : field.member.kind = .unsigned) {value : Nat}
    (accepts : field.accepts .unsigned value = true) :
    ∃ text, valueText field .unsigned (toInt32 value) = some text ∧
      parseValue target field .unsigned text = some value := by
  obtain ⟨lower, upper⟩ := (field.bounds_iff _).mp accepts
  have small : value ≤ 65535 := Int.ofNat_le.mp (upper.trans (bounds_of_unsigned isRow isKind).2)
  have wide : 32 ≤ target.longBits := by cases target <;> decide
  refine ⟨printInt value, congrArg (fun number => some (printInt number))
    (toInt32_of_small small), ?_⟩
  exact congrArg (Option.map Int.toNat)
    (boundedNumber_whole (strtoul_printInt_small wide small) lower upper)

section

variable {kind : Kind} (isKind : field.member.kind = kind)

include isKind

theorem parseValue_number (isNumber : kind ≠ .string ∧ kind ≠ .timezone) {value : kind.Value}
    (accepts : field.accepts kind value = true) :
    ∃ text, valueText field kind (kind.number value) = some text ∧
      parseValue target field kind text = some value := by
  cases kind with
  | enumeration => exact parseValue_enumeration isRow accepts
  | boolean => exact parseValue_boolean target field value
  | integer => exact parseValue_integer isRow isKind accepts
  | unsigned => exact parseValue_unsigned isRow isKind accepts
  | timezone => exact absurd rfl isNumber.2
  | string => exact absurd rfl isNumber.1

theorem small_number {value : kind.Value}
    (accepts : field.accepts kind value = true) : (kind.number value).natAbs ≤ 65535 := by
  cases kind with
  | enumeration =>
    obtain ⟨option, member, valued⟩ := any_eq_true.mp accepts
    have small := small_option field isRow option member
    rwa [eq_of_beq valued] at small
  | boolean =>
    show (Bool.toInt value).natAbs ≤ 65535
    cases (value : Bool) <;> decide
  | integer =>
    obtain ⟨lower, upper⟩ := (field.bounds_iff value).mp accepts
    obtain ⟨lowest, highest⟩ := bounds_of_integer field isRow isKind
    show Int.natAbs value ≤ 65535
    omega
  | unsigned =>
    obtain ⟨lower, upper⟩ := (field.bounds_iff _).mp accepts
    have highest := (bounds_of_unsigned isRow isKind).2
    have small : Nat.le value 65535 := Int.ofNat_le.mp (upper.trans highest)
    show (toInt32 value).natAbs ≤ 65535
    rw [toInt32_of_small small]
    exact small
  | timezone | string => exact Nat.zero_le _

theorem number_injective (isNumber : kind ≠ .string ∧ kind ≠ .timezone) {first second : kind.Value}
    (accepts : field.accepts kind first = true) (alsoAccepts : field.accepts kind second = true)
    (same : kind.number first = kind.number second) : first = second := by
  obtain ⟨text, written, parses⟩ := parseValue_number isRow isKind isNumber accepts
  obtain ⟨other, otherWritten, otherParses⟩ := parseValue_number isRow isKind isNumber alsoAccepts
  rw [same, otherWritten] at written
  cases written
  exact some.inj (parses.symm.trans otherParses)

end

end Rows

theorem wholeNumber_small {number : Int} (small : number.natAbs ≤ 65535) :
    wholeNumber (.finite number) = some number := by
  have lower : ¬ (number : Rat) < -65535 := by
    rw [not_lt]
    exact_mod_cast (show (-65535 : Int) ≤ number by omega)
  have upper : ¬ (65535 : Rat) < number := by
    rw [not_lt]
    exact_mod_cast (show number ≤ 65535 by omega)
  have cut : (number : Rat).num.tdiv (number : Rat).den = number := by
    rw [Rat.num_intCast, Rat.den_intCast, Nat.cast_one, Int.tdiv_one]
  rw [wholeNumber]
  simp only [cut]
  exact if_neg (not_or.mpr ⟨lower, not_or.mpr ⟨upper, not_not.mpr rfl⟩⟩)

/-- A parameter of a valid configuration is accepted by another, unless the description of the
support connection is not usable with it. -/
theorem paramAssign_get {target : Target} {desired : Configuration} {index : Nat} {field : Field}
    (found : paramField target index = some field) (valid : Valid target desired)
    (support : supportValid (update config field.member (desired field.member)) = true) :
    paramAssign target config index (.finite (paramGet target desired index)) =
      some (update config field.member (desired field.member)) := by
  obtain ⟨isRow, isParam⟩ := paramField_row found
  have accepts := valid.accepted field isRow
  obtain ⟨text, written, parses⟩ :=
    parseValue_number isRow rfl (number_of_param isRow isParam) accepts
  have number :
      paramGet target desired index = field.member.kind.number (desired field.member) := by
    unfold paramGet
    rw [found]
  have whole := wholeNumber_small (small_number isRow rfl accepts)
  unfold paramAssign setField
  rw [number, found, whole]
  simp only [written, parses, map_some, support, if_true]

end Config
