/-
This file proves what saving the parameter form does to the configuration that the camera loads. The
edited file has the old settings with the submitted ones in their place, and the loader accepts it
unless a line that got a new value no longer fits its buffer.
-/

import CameraGimbal.WebParametersSound

namespace WebParameters

open CText Config WebIni List

/-! ### The edited file -/

section Edited

variable {target : Target} {updates : List Update} (distinct : Distinct updates)
  (writable : ∀ update ∈ updates, Writable target update)

theorem mem_submitted {setting : Field × Text} :
    setting ∈ submitted target updates ↔ ∃ update ∈ updates,
      findField target update.sectionName update.key = some setting.1 ∧
        setting.2 = update.value := by
  unfold submitted settingHere
  rw [mem_flatMap]
  refine exists_congr fun update => and_congr_right fun _ => ?_
  rw [mem_map]
  constructor
  · rintro ⟨field, found, rfl⟩
    exact ⟨Option.mem_toList.mp found, rfl⟩
  · rintro ⟨found, isValue⟩
    exact ⟨setting.1, Option.mem_toList.mpr found, Prod.ext rfl isValue.symm⟩

variable {update : Update}

include distinct in
theorem newValue_of_mem (member : update ∈ updates) :
    newValue updates update.sectionName update.key = some update.value := by
  unfold newValue findUpdate
  cases found : updates.find? (Update.named update.sectionName update.key) with
  | none =>
    have missed := List.find?_eq_none.mp found update member
    exact absurd (named_iff.mpr rfl) missed
  | some other =>
    have same : other.name = update.name := named_iff.mp (List.find?_some found)
    rw [List.inj_on_of_nodup_map distinct (List.mem_of_find?_eq_some found) member same]
    rfl

theorem submitted_cons {rest : List Update} {field : Field}
    (found : findField target update.sectionName update.key = some field) :
    submitted target (update :: rest) = (field, update.value) :: submitted target rest := by
  simp [submitted, settingHere, found]

include distinct writable in
theorem members_submitted_nodup : (members (submitted target updates)).Nodup := by
  induction updates with
  | nil => exact List.nodup_nil
  | cons update rest hypothesis =>
    obtain ⟨first, others⟩ := List.forall_mem_cons.mp writable
    obtain ⟨absent, distinctRest⟩ := List.nodup_cons.mp distinct
    obtain ⟨field, found⟩ := first.known
    rw [submitted_cons found]
    refine List.nodup_cons.mpr ⟨fun repeated => ?_, hypothesis distinctRest others⟩
    obtain ⟨setting, here, same⟩ := List.mem_map.mp repeated
    obtain ⟨other, isOther, foundOther, -⟩ := mem_submitted.mp here
    obtain ⟨isRow, inSection, isKey⟩ := of_findField found
    obtain ⟨otherRow, otherSection, otherKey⟩ := of_findField foundOther
    have isField : setting.1 = field := eq_of_member_eq otherRow isRow same
    refine absent (List.mem_map.mpr ⟨other, isOther, Prod.ext ?_ ?_⟩)
    · exact otherSection.trans ((congrArg Field.sectionName isField).trans inSection.symm)
    · exact otherKey.trans ((congrArg Field.key isField).trans isKey.symm)

/-- The updates that no line sets. -/
def missing (keys : List (Text × Text)) (updates : List Update) : List Update :=
  (foundAll keys updates).filter fun update => !update.found

variable {keys : List (Text × Text)}

theorem of_mem_missing (member : update ∈ missing keys updates) :
    ∃ old ∈ updates, update.sectionName = old.sectionName ∧ update.key = old.key ∧
      update.value = old.value ∧ old.name ∉ keys := by
  obtain ⟨isMarked, notFound⟩ := mem_filter.mp member
  obtain ⟨old, isOld, rfl⟩ := mem_map.mp isMarked
  refine ⟨old, isOld, rfl, rfl, rfl, fun inKeys => ?_⟩
  have named : (keys.any fun name => old.named name.1 name.2) = true :=
    any_eq_true.mpr ⟨_, inKeys, named_iff.mpr rfl⟩
  simp [named] at notFound

theorem mem_missing (member : update ∈ updates) (fresh : update.found = false)
    (absent : update.name ∉ keys) : update ∈ missing keys updates := by
  have unnamed : (keys.any fun name => update.named name.1 name.2) = false := by
    rw [Bool.eq_false_iff]
    intro named
    obtain ⟨name, inKeys, isName⟩ := any_eq_true.mp named
    exact absent (named_iff.mp isName ▸ inKeys)
  refine mem_filter.mpr ⟨mem_map.mpr ⟨update, member, ?_⟩, by rw [fresh]; rfl⟩
  rw [fresh, unnamed, Bool.or_false, ← fresh]

include writable in
theorem writable_missing : ∀ update ∈ missing keys updates, Writable target update := by
  intro update member
  obtain ⟨isMarked, -⟩ := List.mem_filter.mp member
  obtain ⟨old, isOld, rfl⟩ := List.mem_map.mp isMarked
  obtain ⟨known, kept, noNewline, noNul, short⟩ := writable old isOld
  exact ⟨known, kept, noNewline, noNul, short⟩

include distinct in
theorem distinct_missing (keys : List (Text × Text)) : Distinct (missing keys updates) :=
  ((distinct_foundAll keys).mpr distinct).sublist (List.filter_sublist.map _)

theorem submitted_missing :
    ∀ setting ∈ submitted target (missing keys updates), setting ∈ submitted target updates := by
  intro setting member
  obtain ⟨update, isUpdate, found, isValue⟩ := mem_submitted.mp member
  obtain ⟨old, isOld, sameSection, sameKey, sameValue, -⟩ := of_mem_missing isUpdate
  rw [sameSection, sameKey] at found
  exact mem_submitted.mpr ⟨old, isOld, found, isValue.trans sameValue⟩

variable {sectionName : Text} {lines : List Text} {given : List (Field × Text)}

theorem row_of_settings (isGiven : settings target sectionName lines = some given) :
    ∀ setting ∈ given, setting.1 ∈ configFields target := by
  induction lines generalizing sectionName given with
  | nil =>
    rw [← Option.some.inj isGiven]
    simp
  | cons body rest hypothesis =>
    obtain ⟨others, isOthers, ⟨rfl, -⟩ | ⟨key, raw, value, -, -, -, rfl⟩⟩ := settings_cons isGiven
    · exact hypothesis isOthers
    · intro setting member
      rcases mem_append.mp member with isHere | later
      · obtain ⟨field, found, rfl⟩ := mem_map.mp isHere
        exact (of_findField (Option.mem_toList.mp found)).1
      · exact hypothesis isOthers setting later

section Settings

variable {setting : Field × Text} (isRow : setting.1 ∈ configFields target)
include isRow

include distinct in
theorem notMem_submitted (same : newValue updates setting.1.sectionName setting.1.key = none) :
    setting.1.member ∉ members (submitted target updates) := by
  intro member
  obtain ⟨other, isOther, sameMember⟩ := List.mem_map.mp member
  obtain ⟨update, isUpdate, found, -⟩ := mem_submitted.mp isOther
  obtain ⟨otherRow, inSection, isKey⟩ := of_findField found
  have isField : other.1 = setting.1 := eq_of_member_eq otherRow isRow sameMember
  have isNew := newValue_of_mem distinct isUpdate
  rw [inSection, isKey, isField, same] at isNew
  cases isNew

theorem updated_submitted {new : Text}
    (isNew : newValue updates setting.1.sectionName setting.1.key = some new) :
    updated updates setting ∈ submitted target updates := by
  obtain ⟨update, found, rfl⟩ := Option.map_eq_some_iff.mp isNew
  obtain ⟨inSection, isKey⟩ := Prod.mk.inj (named_iff.mp (find?_some found))
  refine mem_submitted.mpr ⟨update, mem_of_find?_eq_some found, ?_, ?_⟩
  · rw [inSection, isKey]
    exact findField_of_mem _ isRow
  · rw [updated, isNew]
    rfl

end Settings

theorem updated_same {setting : Field × Text}
    (same : newValue updates setting.1.sectionName setting.1.key = none) :
    updated updates setting = setting := by
  rw [updated, same]
  rfl

theorem members_updated (given : List (Field × Text)) :
    members (given.map (updated updates)) = members given := by
  unfold members
  rw [map_map]
  rfl

include distinct writable in
theorem edited_nodup (isGiven : settings target [] lines = some given)
    (distinctGiven : (members given).Nodup) :
    (members (given.map (updated updates) ++
      submitted target (missing (keysFrom [] lines) updates))).Nodup := by
  have split : members (given.map (updated updates) ++
        submitted target (missing (keysFrom [] lines) updates)) =
      members given ++ members (submitted target (missing (keysFrom [] lines) updates)) := by
    rw [members, List.map_append, ← members, ← members, members_updated]
  rw [split]
  refine List.nodup_append.mpr ⟨distinctGiven,
    members_submitted_nodup (distinct_missing distinct _) (writable_missing writable), ?_⟩
  rintro first isOld _ isNew rfl
  obtain ⟨old, isSetting, rfl⟩ := List.mem_map.mp isOld
  obtain ⟨new, isSubmitted, same⟩ := List.mem_map.mp isNew
  obtain ⟨update, isMissing, found, -⟩ := mem_submitted.mp isSubmitted
  obtain ⟨original, -, sameSection, sameKey, -, absent⟩ := of_mem_missing isMissing
  obtain ⟨newRow, inSection, isKey⟩ := of_findField found
  have oldRow := row_of_settings isGiven old isSetting
  have isField : new.1 = old.1 := eq_of_member_eq newRow oldRow same
  refine absent ?_
  have isSet := (mem_keysFrom oldRow isGiven).mpr ⟨old.2, isSetting⟩
  rwa [← isField, ← inSection, ← isKey, sameSection, sameKey] at isSet

include distinct in
theorem edited_settings (isGiven : settings target [] lines = some given)
    (fresh : ∀ update ∈ updates, update.found = false) :
    let later := given.map (updated updates) ++
      submitted target (missing (keysFrom [] lines) updates)
    (∀ setting ∈ submitted target updates, setting ∈ later) ∧
      (∀ setting ∈ later, setting ∈ submitted target updates ∨
        setting ∈ given ∧ setting.1.member ∉ members (submitted target updates)) ∧
      ∀ setting ∈ given, setting.1.member ∉ members (submitted target updates) →
        setting ∈ later := by
  have isRow := row_of_settings isGiven
  refine ⟨fun setting member => ?_, fun setting member => ?_, fun setting member other => ?_⟩
  · obtain ⟨update, isUpdate, found, isValue⟩ := mem_submitted.mp member
    obtain ⟨fieldRow, inSection, isKey⟩ := of_findField found
    by_cases isSet : update.name ∈ keysFrom [] lines
    · rw [Update.name, inSection, isKey, mem_keysFrom fieldRow isGiven] at isSet
      obtain ⟨old, isOld⟩ := isSet
      refine List.mem_append_left _ (List.mem_map.mpr ⟨_, isOld, ?_⟩)
      have isNew := newValue_of_mem distinct isUpdate
      rw [inSection, isKey] at isNew
      rw [updated, isNew]
      exact Prod.ext rfl isValue.symm
    · exact List.mem_append_right _ (mem_submitted.mpr
        ⟨update, mem_missing isUpdate (fresh update isUpdate) isSet, found, isValue⟩)
  · rcases List.mem_append.mp member with isOld | isNew
    · obtain ⟨old, isSetting, rfl⟩ := List.mem_map.mp isOld
      cases isNew : newValue updates old.1.sectionName old.1.key with
      | none =>
        rw [updated_same isNew]
        exact .inr ⟨isSetting, notMem_submitted distinct (isRow old isSetting) isNew⟩
      | some new => exact .inl (updated_submitted (isRow old isSetting) isNew)
    · exact .inl (submitted_missing setting isNew)
  · cases isNew : newValue updates setting.1.sectionName setting.1.key with
    | none =>
      refine List.mem_append_left _ (List.mem_map.mpr ⟨setting, member, updated_same isNew⟩)
    | some new =>
      exact absurd (List.mem_map_of_mem (updated_submitted (isRow setting member) isNew)) other

/-! ### The file that is written -/

theorem settings_append (isGiven : settings target sectionName lines = some given) :
    ∃ later, ∀ more, settings target sectionName (lines ++ more) =
      (settings target later more).map (given ++ ·) := by
  induction lines generalizing sectionName given with
  | nil =>
    rw [← Option.some.inj isGiven]
    exact ⟨sectionName, fun more => by simp⟩
  | cons body rest hypothesis =>
    obtain ⟨others, isOthers, result⟩ := settings_cons isGiven
    obtain ⟨later, appended⟩ := hypothesis isOthers
    refine ⟨later, fun more => ?_⟩
    rw [cons_append]
    rcases result with ⟨rfl, -, same⟩ | ⟨key, raw, value, scanned, -, parsed, rfl⟩
    · rw [same, appended]
    · have isSection : sectionPast sectionName body = sectionName := by
        rw [sectionPast, scanned]
      rw [isSection] at appended
      rw [settings_setting parsed, appended, Option.map_map]
      exact congrArg (Option.map · _) (funext fun given => (append_assoc _ _ _).symm)

include distinct writable in
/-- What `ini_apply_updates` writes: the lines with their new values, and the missing keys. -/
theorem iniApplyUpdates_spec {file output : Text} (noNul : 0 ∉ file)
    (fresh : ∀ update ∈ updates, update.found = false)
    (applied : iniApplyUpdates file updates true = .ok output) :
    ∃ added grouped, bodies output = rewriteFrom updates [] (bodies file) ++ added ∧
      grouped.Perm (missing (keysFrom [] (bodies file)) updates) ∧
      (∀ sectionName, settings target sectionName added = some (submitted target grouped) ∧
        assignments sectionName added = grouped.map Update.assignment) ∧
      ∀ line ∈ added, line.length + 1 < lineMax ∧ 0 ∉ line := by
  have cleared : (updates.map fun update => { update with found := false }) = updates := by
    refine (List.map_congr_left fun update member => ?_).trans (List.map_id updates)
    rw [← fresh update member]
    rfl
  unfold iniApplyUpdates at applied
  rw [cleared, cString_eq_self noNul] at applied
  split at applied
  · cases applied
  next after written isWritten =>
    split at applied
    · cases applied
    · dsimp only at applied
      rw [if_pos rfl] at applied
      split at applied
      · cases applied
      obtain rfl := Except.ok.inj applied
      obtain ⟨rfl, lines, isLines, rfl, areBodies⟩ := applyFrom_spec (lines_getline file) distinct
        (fun update member => (writable update member).noNewline) isWritten
      have writableAfter : ∀ update ∈ foundAll (keysFrom [] (bodies file)) updates,
          Writable target update := by
        intro update member
        obtain ⟨old, isOld, rfl⟩ := List.mem_map.mp member
        obtain ⟨known, kept, noNewline, noNul, short⟩ := writable old isOld
        exact ⟨known, kept, noNewline, noNul, short⟩
      obtain ⟨added, grouped, isAdded, perm, isSettings, short⟩ :=
        appendMissing_spec (Nat.le_refl _) writableAfter lines.flatten
      have before : bodies lines.flatten = rewriteFrom updates [] (bodies file) := by
        rw [bodies, isLines.getline]
        exact areBodies
      rw [before] at isAdded
      exact ⟨added, grouped, isAdded, perm, isSettings, short⟩

/-- The section after a line, as the loader reads it. -/
def nextSection (sectionName body : Text) : Text :=
  match parseText sectionName (trim body) with
  | .ok (.header name) => name
  | _ => sectionName

/-- Every line that sets a submitted key to another value still fits the loader's buffer with the
new value after its equals sign. -/
def LinesFit (updates : List Update) : Text → List Text → Prop
  | _, [] => True
  | sectionName, body :: rest =>
    (∀ key value new, parseText sectionName (trim body) = .ok (.setting key value) →
      newValue updates sectionName key = some new → value ≠ new →
      (body.takeWhile (· ≠ 61)).length + new.length + 5 < lineMax) ∧
      LinesFit updates (nextSection sectionName body) rest

/-- Lines of which only those that set a submitted key were replaced. -/
inductive KeepsOthers (updates : List Update) : Text → List Text → List Text → Prop
  | nil (sectionName : Text) : KeepsOthers updates sectionName [] []
  | same {sectionName body : Text} {rest newRest : List Text}
      (others : KeepsOthers updates (nextSection sectionName body) rest newRest) :
      KeepsOthers updates sectionName (body :: rest) (body :: newRest)
  | replaced {sectionName body newBody key value : Text} {rest newRest : List Text}
      (sets : parseText sectionName (trim body) = .ok (.setting key value))
      (isSubmitted : (newValue updates sectionName key).isSome = true)
      (others : KeepsOthers updates (nextSection sectionName body) rest newRest) :
      KeepsOthers updates sectionName (body :: rest) (newBody :: newRest)

theorem length_newLine (body new : Text) :
    (newLine body new).length = (body.takeWhile (· ≠ 61)).length + new.length + 4 := by
  rw [newLine, bytes_quote.1, bytes_quote.2]
  simp only [length_append, length_cons, length_nil]
  omega

/-- What becomes of an accepted line. -/
theorem rewritten_cases {sectionName body : Text} {rest : List Text} {given : List (Field × Text)}
    (isGiven : settings target sectionName (body :: rest) = some given) :
    nextSection sectionName body = sectionPast sectionName body ∧
      ((rewritten updates sectionName body = body ∧
          ∀ key value new, parseText sectionName (trim body) = .ok (.setting key value) →
            newValue updates sectionName key = some new → value = new) ∨
        ∃ key value new, parseText sectionName (trim body) = .ok (.setting key value) ∧
          newValue updates sectionName key = some new ∧ value ≠ new ∧
          rewritten updates sectionName body = newLine body new) := by
  cases parsed : parseText sectionName (trim body) with
  | error fault =>
    rw [settings, parsed] at isGiven
    cases isGiven
  | ok statement =>
    have agrees := scan_of_parseText parsed
    unfold nextSection sectionPast rewritten
    rw [parsed]
    cases statement with
    | blank =>
      rw [agrees]
      exact ⟨rfl, .inl ⟨rfl, by simp⟩⟩
    | header name =>
      rw [agrees]
      exact ⟨rfl, .inl ⟨rfl, by simp⟩⟩
    | setting key value =>
      obtain ⟨raw, scanned, isValue⟩ := agrees
      rw [scanned]
      refine ⟨rfl, ?_⟩
      dsimp only
      cases isNew : newValue updates sectionName key with
      | none =>
        refine .inl ⟨rfl, fun otherKey otherValue new same isOther => ?_⟩
        obtain ⟨rfl, -⟩ := Statement.setting.inj (Except.ok.inj same)
        rw [isNew] at isOther
        cases isOther
      | some new =>
        dsimp only
        rw [isValue]
        by_cases same : value = new
        · rw [if_pos same]
          refine .inl ⟨rfl, fun otherKey otherValue otherNew isSame isOther => ?_⟩
          obtain ⟨rfl, rfl⟩ := Statement.setting.inj (Except.ok.inj isSame)
          rw [isNew] at isOther
          exact same.trans (Option.some.inj isOther)
        · rw [if_neg same]
          exact .inr ⟨key, value, new, rfl, isNew, same, rfl⟩

theorem linesFit_iff (isGiven : settings target sectionName lines = some given)
    (short : ∀ body ∈ lines, body.length + 1 < lineMax) :
    (∀ body ∈ rewriteFrom updates sectionName lines, body.length + 1 < lineMax) ↔
      LinesFit updates sectionName lines := by
  induction lines generalizing sectionName given with
  | nil => simp [rewriteFrom, LinesFit]
  | cons body rest hypothesis =>
    obtain ⟨shortBody, shortRest⟩ := forall_mem_cons.mp short
    obtain ⟨others, isOthers, -⟩ := settings_cons isGiven
    obtain ⟨isNext, result⟩ := @rewritten_cases target updates _ _ _ _ isGiven
    rw [rewriteFrom, forall_mem_cons, LinesFit, isNext, hypothesis isOthers shortRest]
    refine and_congr_left fun _ => ?_
    rcases result with ⟨same, unchanged⟩ | ⟨key, value, new, parsed, isNew, different, changed⟩
    · rw [same]
      exact ⟨fun _ key value new parsed isNew different =>
        absurd (unchanged key value new parsed isNew) different, fun _ => shortBody⟩
    · rw [changed, length_newLine]
      constructor
      · intro fits otherKey otherValue otherNew isSame isOther _
        obtain ⟨rfl, rfl⟩ := Statement.setting.inj (Except.ok.inj (parsed.symm.trans isSame))
        rw [← Option.some.inj (isNew.symm.trans isOther)]
        omega
      · intro fits
        have room := fits key value new parsed isNew different
        omega

theorem keepsOthers_rewriteFrom (isGiven : settings target sectionName lines = some given) :
    KeepsOthers updates sectionName lines (rewriteFrom updates sectionName lines) := by
  induction lines generalizing sectionName given with
  | nil => exact .nil sectionName
  | cons body rest hypothesis =>
    obtain ⟨others, isOthers, -⟩ := settings_cons isGiven
    obtain ⟨isNext, result⟩ := @rewritten_cases target updates _ _ _ _ isGiven
    have later := hypothesis isOthers
    rw [← isNext] at later
    rw [rewriteFrom, ← isNext]
    rcases result with ⟨same, -⟩ | ⟨key, value, new, parsed, isNew, -, -⟩
    · rw [same]
      exact .same later
    · exact .replaced parsed (by rw [isNew]; rfl) later

theorem noNul_of_bodies {file : Text} (clean : ∀ body ∈ bodies file, 0 ∉ body) : 0 ∉ file := by
  intro member
  rw [← getline_flatten file] at member
  obtain ⟨line, isMember, inLine⟩ := mem_flatten.mp member
  have noNul := clean _ (mem_map_of_mem isMember)
  rcases isLine_of_mem isMember with ⟨body, fresh, rfl⟩ | ⟨-, fresh⟩
  · rw [lineBody_closed fresh] at noNul
    rcases mem_append.mp inLine with inBody | isNewline
    · exact noNul inBody
    · exact absurd isNewline (by decide)
  · rw [lineBody_fresh fresh] at noNul
    exact noNul inLine

theorem noNul_newLine {body new : Text} (cleanBody : 0 ∉ body) (cleanNew : 0 ∉ new) :
    0 ∉ newLine body new := by
  rw [newLine, bytes_quote.1, bytes_quote.2]
  intro member
  simp only [mem_append] at member
  rcases member with ((inBody | inEquals) | inNew) | inQuote
  · exact cleanBody ((takeWhile_sublist _).subset inBody)
  · exact absurd inEquals (by decide)
  · exact cleanNew inNew
  · exact absurd inQuote (by decide)

include writable in
theorem noNul_rewriteFrom (clean : ∀ body ∈ lines, 0 ∉ body) :
    ∀ body ∈ rewriteFrom updates sectionName lines, 0 ∉ body := by
  induction lines generalizing sectionName with
  | nil => simp [rewriteFrom]
  | cons body rest hypothesis =>
    obtain ⟨cleanBody, cleanRest⟩ := List.forall_mem_cons.mp clean
    refine List.forall_mem_cons.mpr ⟨?_, hypothesis cleanRest⟩
    unfold rewritten
    split
    · split
      · exact cleanBody
      next new isNew =>
        obtain ⟨update, found, rfl⟩ := Option.map_eq_some_iff.mp isNew
        split
        · exact cleanBody
        · exact noNul_newLine cleanBody (writable update (List.mem_of_find?_eq_some found)).noNul
    · exact cleanBody

end Edited

/-! ### Saving the form -/

/-- The file holds the old settings with the submitted ones in their place, and the camera loads
it; every line that does not set a submitted key is kept. -/
structure Edits (target : Target) (config result : Configuration) (file : Text)
    (updates : List Update) (output : Text) : Prop where
  known : ∀ update ∈ updates, (findField target update.sectionName update.key).isSome = true
  loads : ∃ next, assign target result (submitted target updates) = some next ∧
    load target config (some output) = .ok next
  keeps : ∃ written added, bodies output = written ++ added ∧
    KeepsOthers updates [] (bodies file) written

section

variable {target : Target} {config result : Configuration} {file form output : Text}
  {updates : List Update} (noNul : 0 ∉ file)
  (loaded : load target config (some file) = .ok result)
  (isForm : collectReplacementParameterUpdates target form = .ok updates)
  (applied : iniApplyUpdates file updates true = .ok output)

include noNul loaded isForm applied

/-- What the server makes of a file that the camera loads, after a form that it takes: when it is
loaded, it sets the old settings with the submitted ones in their place. -/
theorem applied_spec :
    ∃ next written added, assign target result (submitted target updates) = some next ∧
      bodies output = written ++ added ∧ KeepsOthers updates [] (bodies file) written ∧
      (∀ other, load target config (some output) = .ok other → LinesFit updates [] (bodies file)) ∧
      (LinesFit updates [] (bodies file) → load target config (some output) = .ok next) := by
  obtain ⟨collected, valid⟩ := collect_spec isForm
  have distinct := distinct_collected collected
  have sound := writable_collected collected
  have writable : ∀ update ∈ updates, Writable target update := fun update member =>
    (sound update member).1
  have fresh : ∀ update ∈ updates, update.found = false := fun update member =>
    (parameter_of_update collected member).choose_spec.2.2.found
  obtain ⟨short, given, isGiven, distinctGiven, assigned, -⟩ := (load_iff noNul).mp loaded
  obtain ⟨added, grouped, isOutput, perm, isAdded, shortAdded⟩ :=
    iniApplyUpdates_spec distinct writable noNul fresh applied
  have same : (given.map (updated updates) ++ submitted target grouped).Perm
      (given.map (updated updates) ++
        submitted target (missing (keysFrom [] (bodies file)) updates)) :=
    Perm.append_left _ (perm.flatMap_right _)
  obtain ⟨includes, only, keeps⟩ := edited_settings distinct isGiven fresh
  have accepted : ∀ setting ∈ submitted target updates,
      (parseValue target setting.1 setting.1.member.kind setting.2).isSome = true := by
    rintro ⟨field, value⟩ member
    obtain ⟨update, isUpdate, found, rfl⟩ := mem_submitted.mp member
    obtain ⟨-, other, isOther, parses⟩ := sound update isUpdate
    obtain rfl := Option.some.inj (found.symm.trans isOther)
    exact parses
  have sameMembers : (members (given.map (updated updates) ++ submitted target grouped)).Perm
      (members (given.map (updated updates) ++
        submitted target (missing (keysFrom [] (bodies file)) updates))) := same.map _
  have distinctLater := sameMembers.nodup_iff.mpr
    (edited_nodup distinct writable isGiven distinctGiven)
  obtain ⟨next, isNext, isLater, stored⟩ := assign_override distinctGiven assigned
    (members_submitted_nodup distinct writable) accepted distinctLater
    (fun setting member => same.mem_iff.mpr (includes setting member))
    (fun setting member => only setting (same.mem_iff.mp member))
    (fun setting member other => same.mem_iff.mpr (keeps setting member other))
  have supported : supportValid next = true :=
    supportValid_collected collected valid fun update member field found =>
      stored (field, update.value) (mem_submitted.mpr ⟨update, member, found, rfl⟩)
  have cleanOld : ∀ body ∈ bodies file, 0 ∉ body := by
    intro body member isNul
    obtain ⟨line, isMember, rfl⟩ := mem_map.mp member
    exact noNul (mem_of_mem_getline isMember ((takeWhile_sublist _).subset isNul))
  have cleanOutput : 0 ∉ output := by
    refine noNul_of_bodies fun body member => ?_
    rw [isOutput] at member
    rcases mem_append.mp member with isOld | isNew
    · exact noNul_rewriteFrom writable cleanOld body isOld
    · exact (shortAdded body isNew).2
  have isSettings : settings target [] (bodies output) =
      some (given.map (updated updates) ++ submitted target grouped) := by
    obtain ⟨later, appended⟩ := settings_append
      (settings_rewriteFrom (fun update member => (writable update member).kept) isGiven)
    rw [isOutput, appended, (isAdded _).1]
    rfl
  rw [← linesFit_iff isGiven short]
  refine ⟨next, _, added, isNext, isOutput, keepsOthers_rewriteFrom isGiven,
    fun other isLoaded body member => ?_, fun fits => (load_iff cleanOutput).mpr ⟨?_, _, isSettings,
      distinctLater, isLater, supported⟩⟩
  · refine ((load_iff cleanOutput).mp isLoaded).1 body ?_
    rw [isOutput]
    exact mem_append_left _ member
  · intro body member
    rw [isOutput] at member
    rcases mem_append.mp member with isOld | isNew
    · exact fits body isOld
    · exact (shortAdded body isNew).1

/-- A file that the camera loads, after a form that the server takes, sets the old settings with the
submitted ones in their place, exactly when every line that gets a new value leaves room for it. -/
theorem parameters_edit :
    Edits target config result file updates output ↔ LinesFit updates [] (bodies file) := by
  obtain ⟨next, written, added, isNext, isOutput, keeps, fits, loads⟩ :=
    applied_spec noNul loaded isForm applied
  constructor
  · rintro ⟨-, ⟨other, -, isLoaded⟩, -⟩
    exact fits other isLoaded
  · intro isFit
    refine ⟨fun update member => ?_, ⟨next, isNext, loads isFit⟩, written, added, isOutput, keeps⟩
    obtain ⟨field, found⟩ := (writable_collected (collect_spec isForm).1 update member).1.known
    rw [found]
    rfl

end

def sydneyForm : Text :=
  bytes ("timezone=AEST-10AEDT,M10.1.0,M4.1.0/3&orientation=auto&mavlink_system_id=0" ++
    "&mavlink_camera_component_id=100&mavlink_tcp_port=14550&mavlink_udp_port=14550" ++
    "&position_targeting=false&log_disarmed=false&tracking_method=angle&autorecord=false" ++
    "&recording_resolution=1920x1080&main_resolution=1920x1080&main_codec=h264" ++
    "&sub_resolution=1920x1080&sub_codec=h264&proxy_enabled=false&proxy_host=" ++
    "&proxy_mavlink_port=10001&proxy_signing=false&proxy_signing_passphrase=" ++
    "&proxy_signing_link_id=1&proxy_video1_port=0&proxy_video1_name=video1" ++
    "&proxy_video2_port=0&proxy_video2_name=video2&proxy_publish_password=" ++
    "&proxy_network_interface=eth0&proxy_network_address=&proxy_network_gateway=")

/-- Whether the camera loads a file after the form. -/
def loadsAfter (target : Target) (file form : Text) : Option Bool :=
  match load target (defaults target) (some file),
    collectReplacementParameterUpdates target form with
  | .ok _, .ok updates =>
    match iniApplyUpdates file updates true with
    | .ok output => some (load target (defaults target) (some output)).isOk
    | .error _ => none
  | _, _ => none

theorem loadsAfter_spec {target : Target} {file form : Text} {loads : Bool}
    (outcome : loadsAfter target file form = some loads) :
    ∃ result updates output, load target (defaults target) (some file) = .ok result ∧
      collectReplacementParameterUpdates target form = .ok updates ∧
      iniApplyUpdates file updates true = .ok output ∧
      (load target (defaults target) (some output)).isOk = loads := by
  unfold loadsAfter at outcome
  split at outcome
  next result updates isResult isUpdates =>
    split at outcome
    next output isOutput =>
      exact ⟨result, updates, output, isResult, isUpdates, isOutput, Option.some.inj outcome⟩
    · cases outcome
  · cases outcome

/-- A time zone whose equals sign stands far to the right. -/
def paddedFile : Text :=
  bytes "[general]\ntimezone" ++ List.replicate 490 32 ++ bytes "=UTC0\n"

theorem loadsAfter_sydney :
    loadsAfter .z1mini (bytes "[general]\ntimezone=UTC0\n") sydneyForm = some true ∧
      loadsAfter .z1mini paddedFile sydneyForm = some false := by
  decide +kernel

/-- The form on a file with the default time zone. -/
theorem parameters_edit_sydney :
    ∃ result updates output,
      load .z1mini (defaults .z1mini) (some (bytes "[general]\ntimezone=UTC0\n")) = .ok result ∧
      (Edits .z1mini (defaults .z1mini) result (bytes "[general]\ntimezone=UTC0\n") updates output ↔
        LinesFit updates [] (bodies (bytes "[general]\ntimezone=UTC0\n"))) := by
  obtain ⟨result, updates, output, loaded, isForm, applied, -⟩ :=
    loadsAfter_spec loadsAfter_sydney.1
  exact ⟨result, updates, output, loaded, parameters_edit (by decide) loaded isForm applied⟩

/-- The camera loads the padded file, but not what the form makes of it. -/
theorem not_edits :
    ∃ result updates output,
      load .z1mini (defaults .z1mini) (some paddedFile) = .ok result ∧
      collectReplacementParameterUpdates .z1mini sydneyForm = .ok updates ∧
      iniApplyUpdates paddedFile updates true = .ok output ∧
      ¬ Edits .z1mini (defaults .z1mini) result paddedFile updates output := by
  obtain ⟨result, updates, output, loaded, isForm, applied, refused⟩ :=
    loadsAfter_spec loadsAfter_sydney.2
  refine ⟨result, updates, output, loaded, isForm, applied, fun edits => ?_⟩
  obtain ⟨next, -, accepted⟩ := edits.loads
  rw [accepted] at refused
  cases refused

end WebParameters
