/-
This file compares the two ways to set a parameter: `ca_config_param_assign`, which changes a
configuration in memory, and `ca_config_param_save`, which changes the one in the file. Each has its
own check of the number that it is given; on the configuration of the file they accept the same
numbers, and leave the same configuration.
-/

import CameraGimbal.ConfigReading
import Mathlib.Algebra.Order.Ring.Abs

namespace Config

open CText Function

/-! ### The two checks of a number -/

/-- `(int)` of a `float`, whose fraction is cut off. -/
def intOfFloat (value : Rat) : Int := value.num.tdiv value.den

/-- `(float)` of an `int`: the nearest number with 24 bits, and of two the one whose last bit is
zero. -/
def floatOfInt (number : Int) : Rat :=
  let step := 2 ^ (number.natAbs.log2 - 23)
  let whole := number.natAbs / step
  let rest := 2 * (number.natAbs % step)
  let rounded := if step < rest ∨ (rest = step ∧ whole % 2 = 1) then whole + 1 else whole
  number.sign * (rounded * step : Nat)

def truncf (value : Rat) : Rat := value.num.tdiv value.den

/-- The check of `ca_config_param_save`, and the number that is selected. -/
def saveNumber : Number → Option Int
  | .finite value =>
    if value < -65535 ∨ 65535 < value ∨ value ≠ floatOfInt (intOfFloat value) then none
    else some (intOfFloat value)
  | .infinite | .notANumber => none

/-- The check of `ca_config_param_assign`, and the number that is selected. -/
def assignNumber : Number → Option Int
  | .finite value =>
    if value < -65535 ∨ 65535 < value ∨ value ≠ truncf value then none
    else some (intOfFloat value)
  | .infinite | .notANumber => none

/-- A number of at most 24 bits is a `float`. -/
theorem floatOfInt_small {number : Int} (small : number.natAbs < 2 ^ 24) :
    floatOfInt number = number := by
  have log : number.natAbs.log2 - 23 = 0 := by
    rcases Nat.eq_zero_or_pos number.natAbs with zero | positive
    · rw [zero]
      rfl
    · have few := (Nat.log2_lt positive.ne').mpr small
      omega
  have one : ¬ (1 < 2 * (number.natAbs % 1) ∨
      (2 * (number.natAbs % 1) = 1 ∧ number.natAbs / 1 % 2 = 1)) := by
    rw [Nat.mod_one]
    omega
  unfold floatOfInt
  rw [log, pow_zero]
  dsimp only
  rw [if_neg one, Nat.div_one, mul_one]
  rw [← Int.cast_natCast number.natAbs, ← Int.cast_mul, Int.sign_mul_natAbs]

theorem natAbs_intOfFloat {value : Rat} (lower : -65535 ≤ value) (upper : value ≤ 65535) :
    (intOfFloat value).natAbs ≤ 65535 := by
  have bounded : |value.num| ≤ 65535 * (value.den : Int) := by
    have scaled : |value * value.den| ≤ 65535 * (value.den : Rat) := by
      rw [abs_mul, Nat.abs_cast]
      exact mul_le_mul_of_nonneg_right (abs_le.mpr ⟨lower, upper⟩) (Nat.cast_nonneg _)
    rw [Rat.mul_den_eq_num] at scaled
    exact_mod_cast scaled
  rw [intOfFloat, Int.natAbs_tdiv, Int.natAbs_natCast]
  refine Nat.div_le_of_le_mul ?_
  rw [Int.abs_eq_natAbs] at bounded
  have same : value.num.natAbs ≤ 65535 * value.den := by exact_mod_cast bounded
  rwa [mul_comm]

theorem assignNumber_eq (value : Number) : assignNumber value = wholeNumber value := by
  cases value with
  | finite value => rfl
  | infinite | notANumber => rfl

theorem saveNumber_eq (value : Number) : saveNumber value = wholeNumber value := by
  cases value with
  | finite value =>
    unfold saveNumber wholeNumber
    dsimp only
    by_cases lower : value < -65535
    · rw [if_pos (.inl lower), if_pos (.inl lower)]
    by_cases upper : 65535 < value
    · rw [if_pos (.inr (.inl upper)), if_pos (.inr (.inl upper))]
    have small : (intOfFloat value).natAbs < 2 ^ 24 :=
      (natAbs_intOfFloat (not_lt.mp lower) (not_lt.mp upper)).trans_lt (by decide)
    rw [floatOfInt_small small]
    rfl
  | infinite | notANumber => rfl

/-! ### The two setters -/

/-- The configuration that `ca_config_param_save` changes: that of the file, or the defaults when
the failure says that there is no file. -/
def fileConfig (target : Target) (path : Text) (fopen : Text → Except Nat OpenFile) :
    Option Configuration :=
  let loading := configLoad target (some (defaults target)) (some path) fopen
  match loading.2 with
  | none => loading.1
  | some failure => if failure.errno = 2 then loading.1 else none

/-- The part of `ca_config_param_save` in front of `save_field`: the new configuration, the field
and the text that is going to be written. -/
def saveValidation (target : Target) (path : Text) (fopen : Text → Except Nat OpenFile)
    (index : Nat) (value : Number) : Option (Configuration × Field × Text) :=
  match paramField target index, saveNumber value with
  | some field, some selected =>
    match fileConfig target path fopen with
    | none => none
    | some loaded =>
      match valueText field field.member.kind selected with
      | none => none
      | some text =>
        match setField target loaded field text with
        | none => none
        | some updated => if supportValid updated then some (updated, field, text) else none
  | _, _ => none

/-- `ca_config_param_save`: what `*config` holds afterwards, and whether it succeeds. The file is
written by `save_field`. -/
def configParamSave (target : Target) (config : Configuration) (path : Text)
    (fopen : Text → Except Nat OpenFile) (saveField : Field → Text → Bool) (index : Nat)
    (value : Number) : Configuration × Bool :=
  match saveValidation target path fopen index value with
  | none => (config, false)
  | some (updated, field, text) =>
    if saveField field text then (updated, true) else (config, false)

/-- `ca_config_param_assign`: what `*config` holds afterwards, and whether it succeeds. -/
def configParamAssign (target : Target) (config : Configuration) (index : Nat) (value : Number) :
    Configuration × Bool :=
  match paramField target index, assignNumber value with
  | some field, some selected =>
    match valueText field field.member.kind selected with
    | none => (config, false)
    | some text =>
      match setField target config field text with
      | none => (config, false)
      | some updated => if supportValid updated then (updated, true) else (config, false)
  | _, _ => (config, false)

theorem configParamAssign_eq (target : Target) (config : Configuration) (index : Nat)
    (value : Number) :
    configParamAssign target config index value =
      match paramAssign target config index value with
      | some updated => (updated, true)
      | none => (config, false) := by
  unfold configParamAssign paramAssign
  rw [assignNumber_eq]
  cases paramField target index with
  | none => rfl
  | some field =>
    cases wholeNumber value with
    | none => rfl
    | some selected =>
      dsimp only
      cases valueText field field.member.kind selected with
      | none => rfl
      | some text =>
        dsimp only
        cases setField target config field text with
        | none => rfl
        | some updated =>
          dsimp only
          by_cases support : supportValid updated = true
          · rw [if_pos support, if_pos support]
          · rw [if_neg support, if_neg support]

variable {fopen : Text → Except Nat OpenFile}

theorem saveValidation_eq {target : Target} {config : Configuration} {path : Text}
    (loaded : fileConfig target path fopen = some config) (index : Nat) (value : Number) :
    (saveValidation target path fopen index value).map Prod.fst =
      paramAssign target config index value := by
  unfold saveValidation paramAssign
  rw [saveNumber_eq, loaded]
  cases paramField target index with
  | none => rfl
  | some field =>
    cases wholeNumber value with
    | none => rfl
    | some selected =>
      dsimp only
      cases valueText field field.member.kind selected with
      | none => rfl
      | some text =>
        dsimp only
        cases setField target config field text with
        | none => rfl
        | some updated =>
          dsimp only
          by_cases support : supportValid updated = true
          · rw [if_pos support, if_pos support]
            rfl
          · rw [if_neg support, if_neg support]
            rfl

/-! ### What an assignment does -/

theorem wholeNumber_eq {value : Number} {selected : Int}
    (whole : wholeNumber value = some selected) : value = .finite selected := by
  cases value with
  | finite value =>
    rw [wholeNumber] at whole
    split at whole
    · cases whole
    · next bounded =>
      cases whole
      exact congrArg Number.finite (not_not.mp (not_or.mp (not_or.mp bounded).2).2)
  | infinite | notANumber => cases whole

theorem paramField_injective {target : Target} {first second : Nat} {field other : Field}
    (found : paramField target first = some field)
    (otherFound : paramField target second = some other) (same : field.member = other.member) :
    first = second := by
  have rows : ((configFields target).filter fun field => field.paramName.isSome).Nodup :=
    (List.Nodup.of_map _ (members_nodup target)).filter _
  obtain rfl := eq_of_member_eq (paramField_row found).1 (paramField_row otherFound).1 same
  have inside := (List.getElem?_eq_some_iff.mp found).1
  exact (List.getElem?_inj inside rows).mp (found.trans otherFound.symm)

/-- What an accepted assignment leaves: the parameter is the number that was given, and all other
parameters and all texts are as they were. -/
structure Assigned (target : Target) (config after : Configuration) (index : Nat)
    (value : Number) : Prop where
  own : value = .finite (paramGet target after index)
  others : ∀ other, other ≠ index → paramGet target after other = paramGet target config other
  texts : ∀ member : Member, member.kind = .string ∨ member.kind = .timezone →
    after member = config member

theorem assigned_of_paramAssign {target : Target} {config after : Configuration} {index : Nat}
    {value : Number} (assigns : paramAssign target config index value = some after) :
    Assigned target config after index value := by
  unfold paramAssign at assigns
  split at assigns
  next field selected found whole =>
    split at assigns
    · cases assigns
    next text written =>
    split at assigns
    · cases assigns
    next updated set =>
    split at assigns
    next support =>
      cases assigns
      obtain ⟨stored, parses, rfl⟩ := Option.map_eq_some_iff.mp set
      obtain ⟨isRow, isParam⟩ := paramField_row found
      have isNumber := number_of_param isRow isParam
      refine ⟨?_, fun other different => ?_, fun member isText => ?_⟩
      · have number :=
          number_of_valueText isRow rfl (small_of_wholeNumber whole) written isNumber parses
        rw [wholeNumber_eq whole, paramGet, found]
        dsimp only
        rw [update_self, number]
      · unfold paramGet
        cases otherFound : paramField target other with
        | none => rfl
        | some row =>
          have apart : row.member ≠ field.member := fun same =>
            different (paramField_injective otherFound found same)
          dsimp only
          rw [update_of_ne apart]
      · have apart : member ≠ field.member := by
          rintro rfl
          exact isText.elim isNumber.1 isNumber.2
        rw [update_of_ne apart]
    · cases assigns
  · cases assigns

/-! ### Agreement -/

/-- On the configuration of the file, one setter succeeds when what the other checks is in order,
and both leave the same configuration, in which the parameter is the number that was given and
nothing else has changed. A setter that fails changes nothing. -/
theorem setters_agree (target : Target) {path : Text} {fopen : Text → Except Nat OpenFile}
    {config : Configuration} (loaded : fileConfig target path fopen = some config) (index : Nat)
    (value : Number) (saveField : Field → Text → Bool) :
    ((configParamAssign target config index value).2 = true ↔
      (saveValidation target path fopen index value).isSome = true) ∧
    ((configParamAssign target config index value).2 = true →
      (∀ validated ∈ saveValidation target path fopen index value,
        validated.1 = (configParamAssign target config index value).1) ∧
      Assigned target config (configParamAssign target config index value).1 index value) ∧
    ((configParamSave target config path fopen saveField index value).2 = true →
      configParamSave target config path fopen saveField index value =
        configParamAssign target config index value) ∧
    ((configParamAssign target config index value).2 = false →
      (configParamAssign target config index value).1 = config) ∧
    ((configParamSave target config path fopen saveField index value).2 = false →
      (configParamSave target config path fopen saveField index value).1 = config) := by
  have same := saveValidation_eq loaded index value
  rw [configParamAssign_eq]
  unfold configParamSave
  cases validation : saveValidation target path fopen index value with
  | none =>
    rw [validation] at same
    rw [← same]
    exact ⟨iff_of_false nofun nofun, nofun, nofun, fun _ => rfl, fun _ => rfl⟩
  | some validated =>
    rw [validation] at same
    have assigns : paramAssign target config index value = some validated.1 := same.symm
    rw [assigns]
    refine ⟨iff_of_true rfl rfl, fun _ => ⟨?_, assigned_of_paramAssign assigns⟩, ?_, nofun, ?_⟩
    · intro other here
      cases here
      rfl
    · dsimp only
      split
      · exact fun _ => rfl
      · exact nofun
    · dsimp only
      split
      · exact nofun
      · exact fun _ => rfl

theorem setters_agree_tcpPort :
    Assigned .mt11 (defaults .mt11)
      (configParamAssign .mt11 (defaults .mt11) 21 (.finite 5760)).1 21 (.finite 5760) :=
  ((@setters_agree .mt11 (bytes "camera.ini") (fun _ => .error 2) (defaults .mt11) rfl 21
    (.finite 5760) fun _ _ => true).2.1 (by decide)).2

end Config
