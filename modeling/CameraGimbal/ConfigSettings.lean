/-
This file describes loading a file without the state of the loader. The lines of a file make a list
of settings of known fields; the file is loaded when its lines fit the buffer, no field is set
twice, and every setting is accepted, and the configuration is then the old one with all of them
assigned.
-/

import CameraGimbal.ConfigEdit
import CameraGimbal.FileLines

namespace Config

open CText List Function Option

/-! ### Settings -/

/-- The settings of known fields in lines without their newlines, from a section on; none when a
line is refused. -/
def settings (target : Target) : Text → List Text → Option (List (Field × Text))
  | _, [] => some []
  | sectionName, body :: rest =>
    match parseText sectionName (trim body) with
    | .error _ => none
    | .ok .blank => settings target sectionName rest
    | .ok (.header name) => settings target name rest
    | .ok (.setting key value) =>
      match findField target sectionName key with
      | none => settings target sectionName rest
      | some field => (settings target sectionName rest).map ((field, value) :: ·)

/-- All settings, one after another. -/
def assign (target : Target) (config : Configuration) (given : List (Field × Text)) :
    Option Configuration :=
  given.foldlM (fun config setting => setField target config setting.1 setting.2) config

def members (given : List (Field × Text)) : List Member :=
  given.map fun setting => setting.1.member

/-- The call of `set_field` for a line. -/
def setFieldCall (target : Target) (state : Loading) (chunk : Chunk) : Option (Field × Text) :=
  match parseLine state.sectionName chunk with
  | .ok (.setting key value) =>
    match findField target state.sectionName key with
    | some field => if state.seen field.member then none else some (field, value)
    | none => none
  | _ => none

/-- The calls of `set_field` in the loop of `ca_config_load`. -/
def setFieldCalls (target : Target) : Loading → List Chunk → List (Field × Text)
  | _, [] => []
  | state, chunk :: rest =>
    (setFieldCall target state chunk).toList ++
      match loadLine target state chunk with
      | .error _ => []
      | .ok next => setFieldCalls target next rest

/-- The calls of `set_field` in `ca_config_load`. -/
def loadCalls (target : Target) (config : Configuration) (file : Text) : List (Field × Text) :=
  setFieldCalls target (Loading.start config) (fgets lineMax file)

/-- What `fgets` gives of a line that fits its buffer. -/
def chunkOf (line : Text) : Chunk := { text := line, atEnd := newline ∉ line }

/-! ### Assigning settings -/

theorem assign_cons (target : Target) (config : Configuration) (field : Field) (value : Text)
    (rest : List (Field × Text)) :
    assign target config ((field, value) :: rest) =
      (setField target config field value).bind fun next => assign target next rest := rfl

variable {target : Target} {given : List (Field × Text)}

theorem assign_spec (distinct : (members given).Nodup) (accepted : ∀ setting ∈ given,
      (parseValue target setting.1 setting.1.member.kind setting.2).isSome = true)
    (config : Configuration) :
    ∃ result, assign target config given = some result ∧
      (∀ setting ∈ given, parseValue target setting.1 setting.1.member.kind setting.2 =
        some (result setting.1.member)) ∧
      ∀ member, member ∉ members given → result member = config member := by
  induction given generalizing config with
  | nil => exact ⟨config, rfl, by simp, fun _ _ => rfl⟩
  | cons setting rest hypothesis =>
    obtain ⟨field, value⟩ := setting
    obtain ⟨first, others⟩ := forall_mem_cons.mp accepted
    obtain ⟨absent, distinctRest⟩ := nodup_cons.mp distinct
    obtain ⟨stored, parses⟩ := isSome_iff_exists.mp first
    obtain ⟨result, assigned, own, kept⟩ :=
      hypothesis distinctRest others (update config field.member stored)
    refine ⟨result, ?_, ?_, fun member outside => ?_⟩
    · rw [assign_cons, setField, parses]
      exact assigned
    · refine forall_mem_cons.mpr ⟨?_, own⟩
      rw [parses, kept field.member absent, update_self]
    · obtain ⟨different, outsideRest⟩ := not_or.mp (mt mem_cons.mpr outside)
      rw [kept member outsideRest, update_of_ne different]

variable {config result : Configuration}

theorem accepted_of_assign (assigned : assign target config given = some result) :
    ∀ setting ∈ given,
      (parseValue target setting.1 setting.1.member.kind setting.2).isSome = true := by
  induction given generalizing config with
  | nil => simp
  | cons setting rest hypothesis =>
    obtain ⟨field, value⟩ := setting
    rw [assign_cons] at assigned
    obtain ⟨next, first, others⟩ := bind_eq_some_iff.mp assigned
    refine forall_mem_cons.mpr ⟨?_, hypothesis others⟩
    obtain ⟨stored, parses, -⟩ := map_eq_some_iff.mp first
    rw [parses]
    rfl

/-- Settings that contain others, and of the old ones those of all other members, give what
assigning these others after the old ones gives. -/
theorem assign_override {replaced later : List (Field × Text)}
    (distinctGiven : (members given).Nodup) (assigned : assign target config given = some result)
    (distinctReplaced : (members replaced).Nodup) (accepted : ∀ setting ∈ replaced,
      (parseValue target setting.1 setting.1.member.kind setting.2).isSome = true)
    (distinctLater : (members later).Nodup) (includes : ∀ setting ∈ replaced, setting ∈ later)
    (only : ∀ setting ∈ later, setting ∈ replaced ∨
      setting ∈ given ∧ setting.1.member ∉ members replaced)
    (keeps : ∀ setting ∈ given, setting.1.member ∉ members replaced → setting ∈ later) :
    ∃ next, assign target result replaced = some next ∧ assign target config later = some next ∧
      ∀ setting ∈ replaced, parseValue target setting.1 setting.1.member.kind setting.2 =
        some (next setting.1.member) := by
  have acceptedGiven := accepted_of_assign assigned
  obtain ⟨first, isFirst, ownFirst, keptFirst⟩ := assign_spec distinctGiven acceptedGiven config
  obtain rfl := some.inj (isFirst.symm.trans assigned)
  obtain ⟨next, isNext, ownNext, keptNext⟩ := assign_spec distinctReplaced accepted first
  have acceptedLater : ∀ setting ∈ later,
      (parseValue target setting.1 setting.1.member.kind setting.2).isSome = true := by
    intro setting member
    rcases only setting member with isReplaced | ⟨isGiven, -⟩
    · exact accepted setting isReplaced
    · exact acceptedGiven setting isGiven
  obtain ⟨last, isLast, ownLast, keptLast⟩ := assign_spec distinctLater acceptedLater config
  refine ⟨next, isNext, ?_, ownNext⟩
  rw [isLast]
  refine congrArg some (funext fun member => ?_)
  by_cases isReplaced : member ∈ members replaced
  · obtain ⟨setting, here, rfl⟩ := mem_map.mp isReplaced
    exact some.inj ((ownLast setting (includes setting here)).symm.trans (ownNext setting here))
  · rw [keptNext member isReplaced]
    by_cases isGiven : member ∈ members given
    · obtain ⟨setting, here, rfl⟩ := mem_map.mp isGiven
      exact some.inj ((ownLast setting (keeps setting here isReplaced)).symm.trans
        (ownFirst setting here))
    · rw [keptFirst member isGiven]
      refine keptLast member fun inLater => ?_
      obtain ⟨setting, here, rfl⟩ := mem_map.mp inLater
      rcases only setting here with replacedHere | ⟨givenHere, -⟩
      · exact isReplaced (mem_map_of_mem replacedHere)
      · exact isGiven (mem_map_of_mem givenHere)

/-! ### Lines -/

theorem trim_lineBody {line : Text} (isLine : IsLine line) : trim (lineBody line) = trim line := by
  rcases isLine with ⟨body, fresh, rfl⟩ | ⟨-, fresh⟩
  · rw [lineBody_closed fresh, trim_concat_space _ (by decide)]
  · rw [lineBody_fresh fresh]

theorem isLine_of_mem {file line : Text} (member : line ∈ getline file) : IsLine line :=
  whole_of_mem_getlineFrom not_mem_nil member

theorem parseLine_chunkOf {line : Text} (isLine : IsLine line) (noNul : 0 ∉ line)
    (sectionName : Text) :
    parseLine sectionName (chunkOf line) = parseText sectionName (trim (lineBody line)) := by
  have ended : ¬ (line ≠ [] ∧ line.getLast? ≠ some newline ∧ decide (newline ∉ line) = false) := by
    rintro ⟨-, notLast, inside⟩
    rcases isLine with ⟨body, -, rfl⟩ | ⟨-, fresh⟩
    · exact notLast (by simp)
    · exact absurd (decide_eq_true fresh) (by rw [inside]; decide)
  unfold parseLine chunkOf
  rw [cString_eq_self noNul, if_neg ended, trim_lineBody isLine]

/-- Lines are loaded when their settings are accepted and set each field at most once. -/
theorem loadLines_iff {target : Target} {lines : List Text}
    (isLine : ∀ line ∈ lines, IsLine line) (noNul : ∀ line ∈ lines, 0 ∉ line) (number : Nat)
    (state : Loading) (result : Configuration) :
    (∃ last, loadLines target number state (lines.map chunkOf) = .ok last ∧ last.parsed = result) ↔
      ∃ given, settings target state.sectionName (lines.map lineBody) = some given ∧
        (∀ member ∈ members given, state.seen member = false) ∧ (members given).Nodup ∧
        assign target state.parsed given = some result := by
  induction lines generalizing number state with
  | nil =>
    constructor
    · rintro ⟨last, loaded, rfl⟩
      rw [← Except.ok.inj loaded]
      exact ⟨[], rfl, by simp [members], by simp [members], rfl⟩
    · rintro ⟨given, nothing, -, -, assigned⟩
      rw [← some.inj nothing] at assigned
      exact ⟨state, rfl, some.inj assigned⟩
  | cons line rest hypothesis =>
    obtain ⟨isFirst, isRest⟩ := forall_mem_cons.mp isLine
    obtain ⟨cleanFirst, cleanRest⟩ := forall_mem_cons.mp noNul
    have others := hypothesis isRest cleanRest (number + 1)
    rw [map_cons, map_cons, settings, loadLines, loadLine, parseLine_chunkOf isFirst cleanFirst]
    cases parsed : parseText state.sectionName (trim (lineBody line)) with
    | error fault => simp [Except.bind]
    | ok statement =>
      cases statement with
      | blank => exact others state
      | header name => exact others { state with sectionName := name }
      | setting key value =>
        dsimp only [Except.bind, obey]
        unfold loadSetting
        cases found : findField target state.sectionName key with
        | none => exact others state
        | some field =>
          dsimp only
          cases marked : state.seen field.member with
          | true =>
            rw [if_pos rfl]
            constructor
            · rintro ⟨last, loaded, -⟩
              cases loaded
            · rintro ⟨given, isGiven, unseen, -⟩
              obtain ⟨tail, -, rfl⟩ := map_eq_some_iff.mp isGiven
              have fresh := unseen field.member mem_cons_self
              rw [marked] at fresh
              cases fresh
          | false =>
            rw [if_neg (by decide)]
            cases set : setField target state.parsed field value with
            | none =>
              constructor
              · rintro ⟨last, loaded, -⟩
                cases loaded
              · rintro ⟨given, isGiven, -, -, assigned⟩
                obtain ⟨tail, -, rfl⟩ := map_eq_some_iff.mp isGiven
                rw [assign_cons, set] at assigned
                cases assigned
            | some parsed =>
              dsimp only
              rw [others { state with
                parsed, seen := update state.seen field.member true }]
              constructor
              · rintro ⟨tail, isTail, unseen, distinct, assigned⟩
                refine ⟨(field, value) :: tail, by rw [isTail]; rfl,
                  forall_mem_cons.mpr ⟨marked, fun member isMember => ?_⟩,
                  nodup_cons.mpr ⟨fun repeated => ?_, distinct⟩, ?_⟩
                · have fresh := unseen member isMember
                  by_cases same : member = field.member
                  · rw [same]
                    exact marked
                  · dsimp only at fresh
                    rwa [update_of_ne same] at fresh
                · have fresh := unseen field.member repeated
                  dsimp only at fresh
                  rw [update_self] at fresh
                  cases fresh
                · rw [assign_cons, set]
                  exact assigned
              · rintro ⟨given, isGiven, unseen, distinct, assigned⟩
                obtain ⟨tail, isTail, rfl⟩ := map_eq_some_iff.mp isGiven
                obtain ⟨absent, distinctTail⟩ := nodup_cons.mp distinct
                rw [assign_cons, set] at assigned
                refine ⟨tail, isTail, fun member isMember => ?_, distinctTail, assigned⟩
                have different : member ≠ field.member := by
                  rintro rfl
                  exact absent isMember
                show update state.seen field.member true member = false
                rw [update_of_ne different]
                exact unseen member (mem_cons_of_mem _ isMember)

/-! ### Files -/

theorem fgetsFrom_last {size : Nat} {gathered text : Text} (nonempty : gathered ++ text ≠ [])
    (fresh : newline ∉ text) (room : gathered.length + text.length + 1 < size) :
    fgetsFrom size gathered text = [{ text := gathered ++ text, atEnd := true }] := by
  induction text generalizing gathered with
  | nil =>
    rw [append_nil] at nonempty ⊢
    exact if_neg nonempty
  | cons byte rest hypothesis =>
    obtain ⟨different, freshRest⟩ := not_or.mp (mt mem_cons.mpr fresh)
    have split : gathered ++ byte :: rest = gathered ++ [byte] ++ rest := by simp
    rw [length_cons] at room
    have notFull : ¬ (byte = newline ∨ gathered.length + 2 = size) := by
      rintro (same | full)
      · exact different same.symm
      · omega
    rw [fgetsFrom, if_neg notFull, split]
    refine hypothesis (by simp) freshRest ?_
    rw [length_append, length_singleton]
    omega

theorem fgets_lines {size : Nat} {lines : List Text} (isLines : Lines lines)
    (short : ∀ body ∈ lines.map lineBody, body.length + 1 < size) :
    fgets size lines.flatten = lines.map chunkOf := by
  unfold fgets
  induction isLines with
  | nil => rfl
  | @last text nonempty fresh =>
    rw [map_singleton, lineBody_fresh fresh] at short
    have read := @fgetsFrom_last size [] text nonempty fresh
      (by simpa using short text mem_cons_self)
    rw [flatten_singleton, read]
    simp [chunkOf, fresh]
  | @cons body rest fresh _ hypothesis =>
    rw [map_cons, lineBody_closed fresh] at short
    obtain ⟨first, others⟩ := forall_mem_cons.mp short
    rw [flatten_cons, append_assoc, singleton_append,
      fgetsFrom_body _ fresh (by simpa using first), hypothesis others]
    simp [chunkOf]

theorem length_lineBody {line : Text} (noNul : 0 ∉ line) (isLine : IsLine line) :
    (lineBody line).length + 1 = (copyLine line).length := by
  rcases isLine with whole | ⟨nonempty, fresh⟩
  · rw [copyLine_of_whole noNul whole]
    obtain ⟨body, fresh, rfl⟩ := whole
    rw [lineBody_closed fresh, length_append, length_singleton]
  · rw [copyLine_of_unended noNul nonempty fresh, lineBody_fresh fresh, length_append,
      length_singleton]

/-- When `ca_config_load` accepts a file, and what it then gives. -/
theorem load_iff {file : Text} (noNul : 0 ∉ file) :
    load target config (some file) = .ok result ↔
      (∀ body ∈ bodies file, body.length + 1 < lineMax) ∧
        ∃ given, settings target [] (bodies file) = some given ∧ (members given).Nodup ∧
          assign target config given = some result ∧ supportValid result = true := by
  have isLine : ∀ line ∈ getline file, IsLine line := fun line member => isLine_of_mem member
  have clean : ∀ line ∈ getline file, 0 ∉ line := fun line member isNul =>
    noNul (mem_of_mem_getline member isNul)
  have lines := @loadLines_iff target (getline file) isLine clean 0 (Loading.start config) result
  constructor
  · intro loaded
    rw [load] at loaded
    cases taken : loadLines target 0 (Loading.start config) (fgets lineMax file) with
    | error error =>
      rw [taken] at loaded
      cases loaded
    | ok last =>
      obtain ⟨read, short⟩ := fgets_of_loadLines noNul taken
      rw [taken] at loaded
      dsimp only at loaded
      split at loaded
      next valid =>
        cases loaded
        rw [read] at taken
        obtain ⟨given, isGiven, -, distinct, assigned⟩ := lines.mp ⟨last, taken, rfl⟩
        refine ⟨fun body member => ?_, given, isGiven, distinct, assigned, valid⟩
        obtain ⟨line, isMember, rfl⟩ := mem_map.mp member
        rw [length_lineBody (clean line isMember) (isLine line isMember)]
        exact short line isMember
      · cases loaded
  · rintro ⟨short, given, isGiven, distinct, assigned, valid⟩
    have read := fgets_lines (lines_getline file) short
    rw [getline_flatten] at read
    obtain ⟨last, taken, rfl⟩ := lines.mpr ⟨given, isGiven, fun _ _ => rfl, distinct, assigned⟩
    rw [load, read, taken]
    exact if_pos valid

/-- The calls of `set_field` are the settings of the lines. -/
theorem setFieldCalls_eq {lines : List Text} (isLine : ∀ line ∈ lines, IsLine line)
    (noNul : ∀ line ∈ lines, 0 ∉ line) {number : Nat} {state last : Loading}
    (loaded : loadLines target number state (lines.map chunkOf) = .ok last) :
    settings target state.sectionName (lines.map lineBody) =
      some (setFieldCalls target state (lines.map chunkOf)) := by
  induction lines generalizing number state with
  | nil => rfl
  | cons line rest hypothesis =>
    obtain ⟨isFirst, isRest⟩ := forall_mem_cons.mp isLine
    obtain ⟨cleanFirst, cleanRest⟩ := forall_mem_cons.mp noNul
    obtain ⟨next, accepted, others⟩ := loadLines_cons loaded
    have later := hypothesis isRest cleanRest others
    rw [map_cons, map_cons, setFieldCalls, accepted, settings]
    obtain ⟨statement, parsed, obeyed⟩ := loadLine_ok accepted
    rw [setFieldCall, parsed]
    rw [parseLine_chunkOf isFirst cleanFirst] at parsed
    rw [parsed]
    cases statement with
    | blank =>
      rw [← Except.ok.inj obeyed] at later ⊢
      exact later
    | header name =>
      rw [← Except.ok.inj obeyed] at later ⊢
      exact later
    | setting key value =>
      dsimp only
      rcases loadSetting_cases obeyed with ⟨absent, rfl⟩ | ⟨field, stored, found, fresh, -, rfl⟩
      · rw [absent]
        exact later
      · rw [mark_sectionName] at later
        rw [found]
        dsimp only
        rw [fresh, later]
        rfl

/-- The calls of `set_field` for a file that is accepted, and what they leave. -/
theorem loadCalls_spec {file : Text} (noNul : 0 ∉ file)
    (loaded : load target config (some file) = .ok result) :
    settings target [] (bodies file) = some (loadCalls target config file) ∧
      (members (loadCalls target config file)).Nodup ∧
      ∀ setting ∈ loadCalls target config file,
        parseValue target setting.1 setting.1.member.kind setting.2 =
          some (result setting.1.member) := by
  obtain ⟨short, given, isGiven, distinct, assigned, -⟩ := (load_iff noNul).mp loaded
  have clean : ∀ line ∈ getline file, 0 ∉ line := fun line member isNul =>
    noNul (mem_of_mem_getline member isNul)
  have isLine : ∀ line ∈ getline file, IsLine line := fun line member => isLine_of_mem member
  have read := fgets_lines (lines_getline file) short
  rw [getline_flatten] at read
  obtain ⟨last, taken, -⟩ := (loadLines_iff isLine clean 0 (Loading.start config) result).mpr
    ⟨given, isGiven, fun _ _ => rfl, distinct, assigned⟩
  have calls : settings target [] (bodies file) = some (loadCalls target config file) := by
    rw [loadCalls, read]
    exact setFieldCalls_eq isLine clean taken
  obtain rfl := some.inj (isGiven.symm.trans calls)
  obtain ⟨assignment, same, own, -⟩ := assign_spec distinct (accepted_of_assign assigned) config
  rw [assigned] at same
  rw [some.inj same]
  exact ⟨calls, distinct, own⟩

end Config
