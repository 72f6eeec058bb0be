/-
This file models the two programs that save to the configuration file: a form of the web server and
a parameter of the camera program. Each reads the file, writes a new one beside it under a name that
no other save uses, and renames that over the file; neither keeps the other out in between. So a
rename takes back what was saved since its file was read, and a form also takes back what was saved
since it was shown.
-/

import CameraGimbal.Replacement
import CameraGimbal.WebParametersSave

namespace ConfigSaves

open CText Config WebIni WebParameters Replacement Option List

/-! ### The check of the web server -/

/-- What `validate_ini` takes a line for. -/
inductive IniLine
  | blank | header | assignment
  deriving DecidableEq

def iniLine (line : Text) : Option IniLine :=
  match trim line with
  | [] => some .blank
  | first :: rest =>
    if first = 35 ∨ first = 59 then some .blank
    else if first = 91 then
      (CText.splitAt 93 rest).bind fun (_, behind) =>
        if behind.all isSpace then some .header else none
    else
      (CText.splitAt 61 (first :: rest)).bind fun (before, _) =>
        if trim before = [] then none else some .assignment

def validateIni (config : Text) : Bool :=
  config ≠ [] && config.length ≤ maxConfig &&
    match (getline config).mapM iniLine with
    | none => false
    | some lines => lines.contains .header && lines.contains .assignment

/-! ### The two programs -/

/-- A save: the members that it changes, and their values. -/
structure Save where
  changed : List Member
  values : Configuration

/-- What a save holds between its file operations: the parameter of a configuration that was loaded,
or the file that is about to be renamed. Both come with the file that was read; none is a missing
one. -/
inductive Held
  | loaded (version : Option Text) (field : Field) (text : Text) (updated : Configuration)
  | made (version : Option Text) (output : Text) (save : Save)

/-- What a save does next. A form comes with the settings that it showed. -/
inductive Input
  | form (form : Text) (shown : Configuration)
  | parameter (index : Nat) (value : Number)
  | saveField
  | fail

/-- The settings of a form. One that it showed, and that comes back as it was, is not changed. -/
def formSave (target : Target) (shown : Configuration) (updates : List Update) : Save :=
  let given := submitted target updates
  let values := (assign target shown given).getD shown
  ⟨(members given).filter fun member => values member ≠ shown member, values⟩

/-- The handler of `/parameters`, with `save_config`, in front of the rename. -/
def postParameters (target : Target) (version : Option Text) (form : Text)
    (shown : Configuration) : Option Held :=
  version.bind fun config =>
    if maxConfig < config.length then none
    else
      match collectReplacementParameterUpdates target form with
      | .error _ => none
      | .ok updates =>
        match iniApplyUpdates config updates true with
        | .error _ => none
        | .ok output =>
          if validateIni output then some (.made version output (formSave target shown updates))
          else none

/-- `ca_config_param_save` in front of `save_field`. -/
def loadParameter (target : Target) (version : Option Text) (index : Nat) (value : Number) :
    Option Held :=
  match paramField target index, paramSave target version index value with
  | some field, .ok (updated, _) =>
    ((wholeNumber value).bind (valueText field field.member.kind)).map fun text =>
      .loaded version field text updated
  | _, _ => none

/-- One step of a save. `save_field` reads the file a second time. -/
def advance (target : Target) (version : Option Text) : Option Held → Input → Option Held
  | none, .form form shown => postParameters target version form shown
  | none, .parameter index value => loadParameter target version index value
  | some (.loaded _ field text updated), .saveField =>
    some (.made version (saveField version field text) ⟨[field.member], updated⟩)
  | some _, .fail => none
  | held, _ => held

def Held.ready : Held → Option (Option Text × Save)
  | .loaded .. => none
  | .made _ output save => some (some output, save)

def Held.basis : Held → Option Text
  | .loaded version .. | .made version .. => version

def saves (target : Target) : Program (Option Text) Held Input Save :=
  ⟨advance target, Held.ready, Held.basis⟩

/-! ### What a save does to the settings -/

/-- The settings of a file are those of another one, with a save in their place. -/
def Replaces (target : Target) (old : Option Text) (save : Save) (new : Text) : Prop :=
  ∃ before after, loadOrDefaults target old = .ok before ∧
    loadOrDefaults target (some new) = .ok after ∧
    (∀ member ∈ save.changed, after member = save.values member) ∧
    ∀ member ∉ save.changed, after member = before member

/-- A file has what a save gives a member. -/
def Shows (target : Target) (version : Option Text) (save : Save) (member : Member) : Prop :=
  ∃ config, loadOrDefaults target version = .ok config ∧ config member = save.values member

/-- A form fits a file: it showed the settings that the file has, as far as it does not change them,
and its values fit the lines that they go into. -/
structure Fits (target : Target) (config : Text) (updates : List Update) (shown : Configuration) :
    Prop where
  noNul : 0 ∉ config
  loads : ∃ result, load target (defaults target) (some config) = .ok result ∧
    ∀ member ∈ members (submitted target updates),
      member ∉ (formSave target shown updates).changed → result member = shown member
  fits : LinesFit updates [] (bodies config)

/-- A form fits the file, and the file that a parameter is saved to is the one that was loaded. -/
def Allowed (target : Target) (version : Option Text) (held : Option Held) : Input → Prop
  | .form form shown => ∀ config ∈ version, ∀ updates,
    collectReplacementParameterUpdates target form = .ok updates → Fits target config updates shown
  | .parameter _ _ => ∀ config ∈ version, 0 ∉ config
  | .saveField => ∀ one ∈ held, one.ready = none → one.basis = version
  | .fail => True

def Held.Good (target : Target) : Held → Prop
  | .loaded version field text updated =>
    Replaces target version ⟨[field.member], updated⟩ (saveField version field text)
  | .made version output save => Replaces target version save output

variable {target : Target} {version : Option Text}

theorem loadOrDefaults_ok {config : Configuration}
    (loads : load target (defaults target) version = .ok config) :
    loadOrDefaults target version = .ok config := by
  rw [loadOrDefaults, loads]

theorem formSave_values {form : Text} {updates : List Update} (shown : Configuration)
    (isForm : collectReplacementParameterUpdates target form = .ok updates)
    {result next : Configuration} (isNext : assign target result (submitted target updates) =
      some next) (member :
    Member) : if member ∈ members (submitted target updates) then
      next member = (formSave target shown updates).values member
    else next member = result member := by
  obtain ⟨collected, -⟩ := collect_spec isForm
  have writable := writable_collected collected
  have distinct := members_submitted_nodup (distinct_collected collected)
    fun update member => (writable update member).1
  have accepted := accepted_of_assign isNext
  obtain ⟨same, isSame, own, kept⟩ := assign_spec distinct accepted result
  obtain rfl := some.inj (isSame.symm.trans isNext)
  obtain ⟨values, isValues, ownValues, -⟩ := assign_spec distinct accepted shown
  have valuesEq : (formSave target shown updates).values = values := by
    unfold formSave
    dsimp only
    rw [isValues, getD_some]
  split
  · next isGiven =>
    obtain ⟨setting, isSetting, rfl⟩ := mem_map.mp isGiven
    rw [valuesEq]
    exact some.inj ((own setting isSetting).symm.trans (ownValues setting isSetting))
  · next outside => exact kept member outside

theorem postParameters_good {form : Text} {shown : Configuration}
    {held : Held} (allowed : Allowed target version none (.form form shown))
    (made : postParameters target version form shown = some held) : held.Good target := by
  obtain ⟨config, rfl, made⟩ := bind_eq_some_iff.mp made
  split at made
  · cases made
  split at made
  · cases made
  next updates isForm =>
  split at made
  · cases made
  next output applied =>
  split at made
  · cases made
    obtain ⟨noNul, ⟨result, loads, current⟩, fits⟩ := allowed config rfl updates isForm
    obtain ⟨next, -, -, isNext, -, -, -, loadsNext⟩ := applied_spec noNul loads isForm applied
    refine ⟨result, next, loadOrDefaults_ok loads, loadOrDefaults_ok (loadsNext fits),
      fun member isChanged => ?_, fun member unchanged => ?_⟩
    · have given := (mem_filter.mp isChanged).1
      have value := formSave_values shown isForm isNext member
      rwa [if_pos given] at value
    · have value := formSave_values shown isForm isNext member
      split at value
      · next given =>
        have same : (formSave target shown updates).values member = shown member := by
          by_contra differs
          exact unchanged (mem_filter.mpr ⟨given, decide_eq_true differs⟩)
        rw [value, same, current member given unchanged]
      · exact value
  · cases made

theorem loadParameter_good {index : Nat} {value : Number} {held : Held}
    (noNul : ∀ config ∈ version, 0 ∉ config)
    (loaded : loadParameter target version index value = some held) : held.Good target := by
  unfold loadParameter at loaded
  split at loaded
  next field updated output found saved =>
    obtain ⟨text, isText, rfl⟩ := map_eq_some_iff.mp loaded
    obtain ⟨selected, whole, written⟩ := bind_eq_some_iff.mp isText
    obtain ⟨other, number, before, otherText, saves⟩ := paramSave_ok saved
    obtain ⟨loadsNew, -⟩ := saves.reloads noNul
    obtain ⟨isOther, isNumber, loads, isWritten, ⟨stored, -, isUpdated⟩, -, rfl⟩ := saves
    obtain rfl := some.inj (found.symm.trans isOther)
    obtain rfl := some.inj (whole.symm.trans isNumber)
    obtain rfl := some.inj (written.symm.trans isWritten)
    refine ⟨before, updated, loads, loadOrDefaults_ok loadsNew, fun _ _ => rfl,
      fun member other => ?_⟩
    rw [isUpdated, Function.update_of_ne fun same => other (mem_singleton.mpr same)]
  · cases loaded

theorem saves_lawful (target : Target) :
    Lawful (saves target) (Allowed target) (Held.Good target) Save.changed (Shows target) where
  advances {version held input next} good allowed isNext := by
    have advanced : advance target version held input = some next := isNext
    unfold advance at advanced
    split at advanced
    · exact postParameters_good allowed advanced
    · exact loadParameter_good allowed advanced
    · next loaded field text updated =>
      cases advanced
      obtain rfl : loaded = version := allowed _ rfl rfl
      exact good (.loaded loaded field text updated) rfl
    · cases advanced
    · exact good next advanced
  own {held file save} good ready member isChanged := by
    cases held with
    | loaded => cases ready
    | made version output save =>
      obtain ⟨-, after, -, loads, own, -⟩ := good
      cases ready
      exact ⟨after, loads, own member isChanged⟩
  others {held file save} good ready member unchanged other shows := by
    cases held with
    | loaded => cases ready
    | made version output save =>
      obtain ⟨before, after, loadsOld, loads, -, kept⟩ := good
      cases ready
      obtain ⟨config, loadsConfig, same⟩ := shows
      obtain rfl := Except.ok.inj (loadsOld.symm.trans loadsConfig)
      exact ⟨after, loads, (kept member unchanged).trans same⟩

/-! ### Runs -/

/-- The file has what the saves that were reported as done have changed, as far as no other of them
has changed it too, and it is one of the versions that were renamed over it. -/
structure Kept (target : Target) (state : State (Option Text) Held Save) : Prop where
  changes : ∀ earlier save later, state.changes = earlier ++ save :: later →
    ∀ member ∈ save.changed, (∀ other ∈ earlier ++ later, member ∉ other.changed) →
      Shows target state.file save member
  whole : state.file ∈ state.versions

theorem saves_kept (target : Target) (file : Option Text) (events : List (Event Input))
    (along : Transition.Along (step (saves target)) (Current (saves target) (Allowed target))
      (start file) events) : Kept target (run (saves target) (start file) events) := by
  have invariant := invariant_run (saves_lawful target) file along
  refine ⟨fun earlier save later split member isChanged untouched => ?_, invariant.whole⟩
  exact invariant.shown earlier save later split member isChanged
    fun other isLater => untouched other (List.mem_append_right _ isLater)

def zoneFile : Text := bytes "[general]\ntimezone=UTC0\n"

/-- The form of Sydney, taken from the default settings, and behind it the brightness of the
camera. -/
def inTurn : List (Event Input) :=
  [.advance 0 (.form sydneyForm (defaults .z1mini)), .install 0 true,
    .advance 1 (.parameter 11 (.finite 60)), .advance 1 .saveField, .install 1 true]

theorem sydney_fits {updates : List Update}
    (isForm : collectReplacementParameterUpdates .z1mini sydneyForm = .ok updates) :
    Fits .z1mini zoneFile updates (defaults .z1mini) := by
  obtain ⟨result, others, output, loads, isOthers, applied, isLoaded⟩ :=
    loadsAfter_spec loadsAfter_sydney.1
  obtain rfl := Except.ok.inj (isForm.symm.trans isOthers)
  have noNul : 0 ∉ zoneFile := by decide
  obtain ⟨next, -, -, -, -, -, fits, -⟩ := applied_spec noNul loads isForm applied
  refine ⟨noNul, ⟨result, loads, ?_⟩, ?_⟩
  · have same : (load .z1mini (defaults .z1mini) (some zoneFile)).toOption.all (fun result =>
        (collectReplacementParameterUpdates .z1mini sydneyForm).toOption.all fun updates =>
          (members (submitted .z1mini updates)).all fun member =>
            result member = defaults .z1mini member) = true := by
      decide +kernel
    rw [isForm, show load _ _ (some zoneFile) = .ok result from loads] at same
    exact fun member given _ => of_decide_eq_true (all_eq_true.mp same member given)
  · cases isOutput : load .z1mini (defaults .z1mini) (some output) with
    | ok other => exact fits other isOutput
    | error error =>
      rw [isOutput] at isLoaded
      cases isLoaded

theorem saves_kept_inTurn : Kept .z1mini (run (saves .z1mini) (start (some zoneFile)) inTurn) := by
  refine saves_kept .z1mini (some zoneFile) inTurn
    ⟨fun _ isFile _ isForm => Option.some.inj isFile ▸ sydney_fits isForm, ?_⟩
  dsimp only [Transition.Along, Current, Allowed]
  decide +kernel

/-- The camera saves its brightness while the form of Sydney is being saved. -/
def overlapping : List (Event Input) :=
  [.advance 0 (.form sydneyForm (defaults .z1mini)), .advance 1 (.parameter 11 (.finite 60)),
    .advance 1 .saveField, .install 1 true, .install 0 true]

def brightness (config : Configuration) : Int := config .brightness

theorem overlapping_done :
    let final := run (saves .z1mini) (start (some zoneFile)) overlapping
    final.changes.map (fun save => (decide (.brightness ∈ save.changed), brightness save.values)) =
        [(true, 60), (false, 50)] ∧
      (loadOrDefaults .z1mini final.file).toOption.map brightness = some 50 := by
  decide +kernel

theorem brightness_lost :
    ¬ ∀ target file events, Kept target (run (saves target) (start file) events) := by
  intro kept
  obtain ⟨changed, stays⟩ := overlapping_done
  generalize isFinal : run (saves .z1mini) (start (some zoneFile)) overlapping = final
    at changed stays
  have kept : Kept .z1mini final := isFinal ▸ kept .z1mini (some zoneFile) overlapping
  obtain ⟨first, others, changes, isFirst, isOthers⟩ := List.map_eq_cons_iff.mp changed
  obtain ⟨second, none, rfl, isSecond, isNone⟩ := List.map_eq_cons_iff.mp isOthers
  obtain rfl := List.map_eq_nil_iff.mp isNone
  obtain ⟨firstChanges, firstValue⟩ := Prod.mk.inj isFirst
  obtain ⟨config, loads, same⟩ := kept.changes [] first [second] changes .brightness
    (of_decide_eq_true firstChanges) fun other isOther => by
      obtain rfl := List.mem_singleton.mp isOther
      exact of_decide_eq_false (Prod.mk.inj isSecond).1
  rw [loads] at stays
  have lost : (50 : Int) = 60 := (Option.some.inj stays).symm.trans (same.trans firstValue)
  exact absurd lost (by decide)

end ConfigSaves
