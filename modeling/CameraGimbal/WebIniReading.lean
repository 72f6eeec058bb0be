/-
This file proves that the web server and the camera see the same settings. The scanners of the web
server cut an accepted line as the loader does, so the value of a known key is the text that the
loader takes for its field.
-/

import CameraGimbal.ConfigSettings
import CameraGimbal.WebIni

namespace WebIni

open CText Config Option List

theorem unquoted_eq (sectionName value : Text) :
    unquoted sectionName value = unquote sectionName value := by
  have inner : value.tail.dropLast = value.dropLast.tail := tail_dropLast.symm
  unfold unquoted unquote
  rw [inner]
  by_cases inProxy : sectionName = bytes "support_proxy"
  · simp only [inProxy, ne_eq, not_true_eq_false, if_false, if_true]
    rfl
  · simp only [inProxy, ne_eq, not_false_eq_true, if_false, if_true]
    rfl

def Scan.Agrees (sectionName : Text) (scanned : Scan) : Statement → Prop
  | .blank => scanned = .other
  | .header name => scanned = .header name
  | .setting key value =>
    ∃ raw, scanned = .assignment key raw ∧ unquoted sectionName raw = value

theorem scan_of_parseText {sectionName body : Text} {statement : Statement}
    (parsed : parseText sectionName (trim body) = .ok statement) :
    (scan body).Agrees sectionName statement := by
  unfold scan
  cases text : trim body with
  | nil =>
    rw [text] at parsed
    rw [← Except.ok.inj parsed]
    rfl
  | cons first rest =>
    rw [text, parseText] at parsed
    dsimp only
    split at parsed
    next comment =>
      have noHeader : first ≠ 91 := by
        rintro rfl
        simp at comment
      rw [if_neg noHeader, if_pos comment, ← Except.ok.inj parsed]
      rfl
    next noComment =>
      split at parsed
      next isHeader =>
        rw [if_pos isHeader]
        cases cut : CText.splitAt 93 rest with
        | none =>
          rw [cut] at parsed
          cases parsed
        | some parts =>
          rw [cut] at parsed
          dsimp only at parsed ⊢
          split at parsed
          · cases parsed
          split at parsed
          · cases parsed
          next named =>
            rw [← Except.ok.inj parsed]
            show Scan.header _ = Scan.header _
            rw [take_of_length_le (by omega)]
      next noHeader =>
        rw [if_neg noHeader, if_neg noComment]
        cases cut : CText.splitAt 61 (first :: rest) with
        | none =>
          rw [cut] at parsed
          cases parsed
        | some parts =>
          rw [cut] at parsed
          rw [← Except.ok.inj parsed]
          exact ⟨trim parts.2, rfl, unquoted_eq sectionName _⟩

theorem getFrom_eq {target : Target} {field : Field} (isRow : field ∈ configFields target)
    (outputSize : Nat) {sectionName : Text} {lines : List Text} {given : List (Field × Text)}
    (isGiven : settings target sectionName (lines.map lineBody) = some given) :
    getFrom field.sectionName field.key outputSize sectionName lines =
      ((given.find? fun setting => decide (setting.1 = field)).map Prod.snd).filter
        fun value => decide (value.length < outputSize) := by
  induction lines generalizing sectionName given with
  | nil =>
    rw [← some.inj isGiven]
    rfl
  | cons line rest hypothesis =>
    rw [map_cons, settings] at isGiven
    rw [getFrom]
    cases parsed : parseText sectionName (trim (lineBody line)) with
    | error fault =>
      rw [parsed] at isGiven
      cases isGiven
    | ok statement =>
      have agrees := scan_of_parseText parsed
      rw [parsed] at isGiven
      cases statement with
      | blank =>
        rw [agrees]
        exact hypothesis isGiven
      | header name =>
        rw [agrees]
        exact hypothesis isGiven
      | setting key value =>
        obtain ⟨raw, scanned, isValue⟩ := agrees
        rw [scanned]
        dsimp only at isGiven ⊢
        rw [isValue]
        by_cases own : sectionName = field.sectionName ∧ key = field.key
        · obtain ⟨rfl, rfl⟩ := own
          rw [findField_of_mem field isRow] at isGiven
          obtain ⟨tail, -, rfl⟩ := map_eq_some_iff.mp isGiven
          rw [if_pos ⟨rfl, rfl⟩, find?_cons_of_pos (by simp), map_some, filter_some]
          by_cases fits : value.length < outputSize
          · rw [if_neg (by omega), if_pos (decide_eq_true fits)]
          · rw [if_pos (by omega), if_neg (by simpa using fits)]
        · rw [if_neg own]
          cases found : findField target sectionName key with
          | none =>
            rw [found] at isGiven
            exact hypothesis isGiven
          | some other =>
            rw [found] at isGiven
            obtain ⟨tail, isTail, rfl⟩ := map_eq_some_iff.mp isGiven
            have different : other ≠ field := by
              rintro rfl
              exact own (of_findField found).2
            rw [find?_cons_of_neg (by simpa using different)]
            exact hypothesis isTail

theorem find_call {given : List (Field × Text)} (distinct : (members given).Nodup) {field : Field}
    {value : Text} (member : (field, value) ∈ given) :
    given.find? (fun setting => decide (setting.1 = field)) = some (field, value) := by
  induction given with
  | nil => cases member
  | cons setting rest hypothesis =>
    obtain ⟨absent, distinctRest⟩ := nodup_cons.mp distinct
    rcases mem_cons.mp member with rfl | later
    · exact find?_cons_of_pos (by simp)
    · have different : setting.1 ≠ field := fun same =>
        absent (mem_map.mpr ⟨_, later, congrArg Field.member same.symm⟩)
      rw [find?_cons_of_neg (by simpa using different)]
      exact hypothesis distinctRest later

/-- For a file that the camera accepts, the web server reads the text that the loader passed to
`set_field`, when it fits the output, and finds no value exactly when the loader found no key. -/
theorem iniGetValue_spec {target : Target} {config result : Configuration} {file : Text}
    (noNul : 0 ∉ file) (loaded : load target config (some file) = .ok result) {field : Field}
    (isRow : field ∈ configFields target) (outputSize : Nat) :
    (∀ value, (field, value) ∈ loadCalls target config file →
      iniGetValue file field.sectionName field.key outputSize =
        if value.length < outputSize then some value else none) ∧
    ((∀ value, (field, value) ∈ loadCalls target config file → value.length < outputSize) →
      (iniGetValue file field.sectionName field.key outputSize = none ↔
        ∀ value, (field, value) ∉ loadCalls target config file)) ∧
    ∀ value, (field, value) ∈ loadCalls target config file →
      parseValue target field field.member.kind value = some (result field.member) := by
  obtain ⟨calls, distinct, stored⟩ := loadCalls_spec noNul loaded
  have found : ∀ value, (field, value) ∈ loadCalls target config file →
      iniGetValue file field.sectionName field.key outputSize =
        if value.length < outputSize then some value else none := by
    intro value member
    rw [iniGetValue, cString_eq_self noNul, getFrom_eq isRow outputSize calls,
      find_call distinct member, Option.map_some, Option.filter_some]
    simp
  refine ⟨found, fun fits => ⟨fun nothing value member => ?_, fun absent => ?_⟩,
    fun value member => stored _ member⟩
  · rw [found value member, if_pos (fits value member)] at nothing
    cases nothing
  · have noCall : (loadCalls target config file).find?
        (fun setting => decide (setting.1 = field)) = none := by
      refine List.find?_eq_none.mpr fun setting member => ?_
      simp only [decide_eq_true_eq]
      rintro rfl
      exact absent setting.2 member
    rw [iniGetValue, cString_eq_self noNul, getFrom_eq isRow outputSize calls, noCall]
    rfl

/-- The time zone of a small file. -/
theorem iniGetValue_spec_timezone :
    iniGetValue (bytes "[ general ]\n timezone= \" UTC0 \"") (bytes "general")
        (bytes "timezone") 160 =
      if (bytes "UTC0").length < 160 then some (bytes "UTC0") else none := by
  cases loaded : load .a8 (defaults .a8) (some (bytes "[ general ]\n timezone= \" UTC0 \"")) with
  | error error =>
    have accepted : (load .a8 (defaults .a8)
        (some (bytes "[ general ]\n timezone= \" UTC0 \""))).isOk = true := by
      decide
    rw [loaded] at accepted
    cases accepted
  | ok result =>
    have isRow : textRow "general" "timezone" .timezone 0 0 ∈ configFields .a8 := by
      decide
    have call : (textRow "general" "timezone" .timezone 0 0, bytes "UTC0") ∈
        loadCalls .a8 (defaults .a8) (bytes "[ general ]\n timezone= \" UTC0 \"") := by
      decide
    exact (iniGetValue_spec (by decide) loaded isRow 160).1 _ call

end WebIni
