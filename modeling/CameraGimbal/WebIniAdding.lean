/-
This file proves what the sections that are added for missing keys say: their lines set the missing
keys to their new values, in some order, and do nothing else.
-/

import CameraGimbal.WebIniEditing

namespace WebIni

open CText Config List

/-! ### Updates -/

/-- An update of a known key, with a value that a line can hold. -/
structure Writable (target : Target) (update : Update) : Prop where
  known : ∃ field, findField target update.sectionName update.key = some field
  kept : update.Kept
  noNewline : newline ∉ update.value
  noNul : 0 ∉ update.value
  short : update.value.length < 160

/-- The settings that updates stand for. -/
def submitted (target : Target) (updates : List Update) : List (Field × Text) :=
  updates.flatMap fun update => settingHere target update.sectionName update.key update.value

variable {target : Target} {update : Update}

theorem Writable.plain (writable : Writable target update) :
    isPlain update.sectionName = true ∧ isPlain update.key = true := by
  obtain ⟨field, found⟩ := writable.known
  obtain ⟨isRow, inSection, isKey⟩ := of_findField found
  rw [inSection, isKey]
  exact ⟨plain_sectionName isRow, plain_key isRow⟩

/-! ### The lines that are added -/

theorem bytes_entry : bytes " = \"" = [32, 61, 32, 34] := by decide

variable {name : Text}

theorem parseText_headerText (plain : isPlain name = true) (sectionName : Text) :
    parseText sectionName (trim (headerText name)) = .ok (.header name) := by
  have noClosing : (93 : UInt8) ∉ name := not_mem_plain plain (by decide)
  have short := plain_length plain
  have shape : headerText name = 91 :: (name ++ [93]) := by
    rw [headerText, bytes_brackets.1, bytes_brackets.2]
    rfl
  have whole : trim (91 :: (name ++ [93])) = 91 :: (name ++ [93]) := by
    refine trim_eq_self (by simp [isSpace]) ?_
    rw [← cons_append, getLast?_concat]
    simp [isSpace]
  rw [shape, whole, parseText, if_neg (by decide), if_pos rfl, splitAt_append [] noClosing]
  dsimp only
  rw [if_neg (by decide), trim_plain plain, if_neg]
  simp only [plain_ne_nil plain, false_or]
  omega

theorem parseText_entryText (writable : Writable target update) :
    parseText update.sectionName (trim (entryText update)) =
      .ok (.setting update.key update.value) := by
  have plainKey := writable.plain.2
  have noEquals : (61 : UInt8) ∉ update.key := not_mem_plain plainKey (by decide)
  -- the line is the one that a plain value would have, with the new value in its place
  have plainLine : parseText update.sectionName (trim (update.key ++ [32, 61, 32] ++ [48])) =
      .ok (.setting update.key [48]) := by
    have whole : trim (update.key ++ [32, 61, 32] ++ [48]) =
        update.key ++ [32, 61, 32] ++ [48] := by
      refine trim_eq_self ?_ ?_
      · rw [append_assoc, head?_append_of_ne_nil _ (plain_ne_nil plainKey)]
        exact plain_head plainKey
      · rw [getLast?_concat]
        simp [isSpace]
    rw [whole]
    exact parseText_entry _ plainKey (by decide)
  have before : (update.key ++ [32, 61, 32] ++ [48]).takeWhile (· ≠ 61) = update.key ++ [32] := by
    have other : ∀ byte ∈ update.key ++ [32], decide (byte ≠ 61) = true := by
      intro byte member
      refine decide_eq_true fun same => ?_
      rw [same] at member
      rcases mem_append.mp member with inKey | isSpace
      · exact noEquals inKey
      · exact absurd isSpace (by decide)
    have shape : update.key ++ [32, 61, 32] ++ [48] = (update.key ++ [32]) ++ [61, 32, 48] := by
      simp
    rw [shape, takeWhile_append_of_pos other, takeWhile_cons_of_neg (by simp), append_nil]
  have shape : entryText update = newLine (update.key ++ [32, 61, 32] ++ [48]) update.value := by
    rw [entryText, newLine, before, bytes_entry, bytes_quote.1]
    simp
  rw [shape]
  exact parseText_newLine plainLine writable.kept

variable {group : List Update}

theorem settings_entries (writable : ∀ update ∈ group, Writable target update)
    (together : ∀ update ∈ group, update.sectionName = name) (rest : List Text) :
    settings target name (group.map entryText ++ rest) =
      (settings target name rest).map (submitted target group ++ ·) := by
  induction group with
  | nil => simp [submitted]
  | cons update others hypothesis =>
    obtain ⟨first, writableOthers⟩ := forall_mem_cons.mp writable
    obtain ⟨rfl, togetherOthers⟩ := forall_mem_cons.mp together
    rw [map_cons, cons_append, settings_setting (parseText_entryText first),
      hypothesis writableOthers togetherOthers, Option.map_map]
    refine congrArg (Option.map · _) (funext fun given => ?_)
    simp [submitted]

/-- A value with its key. -/
def Update.assignment (update : Update) : (Text × Text) × Text := (update.name, update.value)

theorem assignments_entries (writable : ∀ update ∈ group, Writable target update)
    (together : ∀ update ∈ group, update.sectionName = name) (rest : List Text) :
    assignments name (group.map entryText ++ rest) =
      group.map Update.assignment ++ assignments name rest := by
  induction group with
  | nil => rfl
  | cons update others hypothesis =>
    obtain ⟨first, writableOthers⟩ := forall_mem_cons.mp writable
    obtain ⟨rfl, togetherOthers⟩ := forall_mem_cons.mp together
    obtain ⟨raw, scanned, isValue⟩ := scan_of_parseText (parseText_entryText first)
    rw [map_cons, cons_append, assignments, scanned]
    dsimp only
    rw [isValue, hypothesis writableOthers togetherOthers]
    rfl

def groupLines (output : Text) (name : Text) (group : List Update) : List Text :=
  (if terminated output ≠ [] then [[]] else []) ++ headerText name :: group.map entryText

section

variable (plain : isPlain name = true) (writable : ∀ update ∈ group, Writable target update)
  (together : ∀ update ∈ group, update.sectionName = name) (output sectionName : Text)
  (rest : List Text)

include plain writable together

theorem settings_groupLines :
    settings target sectionName (groupLines output name group ++ rest) =
      (settings target name rest).map (submitted target group ++ ·) := by
  have opened : settings target sectionName (headerText name :: (group.map entryText ++ rest)) =
      (settings target name rest).map (submitted target group ++ ·) := by
    rw [settings, parseText_headerText plain]
    exact settings_entries writable together rest
  unfold groupLines
  split
  · exact opened
  · exact opened

theorem assignments_groupLines :
    assignments sectionName (groupLines output name group ++ rest) =
      group.map Update.assignment ++ assignments name rest := by
  have opened : assignments sectionName (headerText name :: (group.map entryText ++ rest)) =
      group.map Update.assignment ++ assignments name rest := by
    have scanned : scan (headerText name) = .header name :=
      scan_of_parseText (parseText_headerText plain sectionName)
    rw [assignments, scanned]
    exact assignments_entries writable together rest
  unfold groupLines
  split
  · exact opened
  · exact opened

end

theorem noNul_headerText (plain : isPlain name = true) :
    (headerText name).length + 1 < lineMax ∧ newline ∉ headerText name ∧ 0 ∉ headerText name := by
  have short := plain_length plain
  have noNewline : (10 : UInt8) ∉ name := not_mem_plain plain (by decide)
  have noNul : (0 : UInt8) ∉ name := not_mem_plain plain (by decide)
  rw [headerText, bytes_brackets.1, bytes_brackets.2]
  refine ⟨?_, by simp [noNewline, newline], by simp [noNul]⟩
  simp only [length_append, length_cons, length_nil, lineMax]
  omega

theorem noNul_entryText (writable : Writable target update) :
    (entryText update).length + 1 < lineMax ∧ newline ∉ entryText update ∧
      0 ∉ entryText update := by
  have plain := writable.plain.2
  have shortKey := plain_length plain
  have short := writable.short
  have noNewlineKey : (10 : UInt8) ∉ update.key := not_mem_plain plain (by decide)
  have noNulKey : (0 : UInt8) ∉ update.key := not_mem_plain plain (by decide)
  have noNewline : (10 : UInt8) ∉ update.value := writable.noNewline
  rw [entryText, bytes_entry, bytes_quote.2]
  refine ⟨?_, by simp [noNewlineKey, noNewline, newline], by simp [noNulKey, writable.noNul]⟩
  simp only [length_append, length_cons, length_nil, lineMax]
  omega

theorem groupLines_spec (plain : isPlain name = true)
    (writable : ∀ update ∈ group, Writable target update) (output : Text) :
    ∀ line ∈ groupLines output name group,
      line.length + 1 < lineMax ∧ newline ∉ line ∧ 0 ∉ line := by
  intro line member
  rcases mem_append.mp member with isBlank | inGroup
  · have empty : line = [] := by
      split at isBlank
      · exact mem_singleton.mp isBlank
      · cases isBlank
    rw [empty]
    decide
  rcases mem_cons.mp inGroup with rfl | isEntry
  · exact noNul_headerText plain
  · obtain ⟨update, isUpdate, rfl⟩ := mem_map.mp isEntry
    exact noNul_entryText (writable update isUpdate)

/-! ### All groups -/

theorem group_output (output name : Text) (group : List Update) :
    (if terminated output ≠ [] then terminated output ++ [newline] else terminated output) ++
        headerText name ++ [newline] ++
        (group.flatMap fun other => entryText other ++ [newline]) =
      terminated output ++ (closed (groupLines output name group)).flatten := by
  have entries : (group.flatMap fun other => entryText other ++ [newline]) =
      (closed (group.map entryText)).flatten := by
    rw [closed, map_map, flatMap_def]
    rfl
  rw [entries]
  unfold groupLines closed
  split <;> simp

/-- A missing key of a section. -/
def missingIn (name : Text) (update : Update) : Bool :=
  !update.found && update.sectionName == name

/-- The updates after the group of a section. -/
def settled (name : Text) (updates : List Update) : List Update :=
  updates.map fun update =>
    if missingIn name update then { update with found := true } else update

theorem appendMissing_group (missing : update.found = false) (count : Nat) (rest : List Update)
    (output : Text) :
    appendMissing (count + 1) (update :: rest) output =
      appendMissing count (settled update.sectionName rest)
        (terminated output ++ (closed (groupLines output update.sectionName
          ((update :: rest).filter (missingIn update.sectionName)))).flatten) := by
  rw [appendMissing, missing, if_neg (by decide), ← group_output]
  rfl

theorem perm_group (rest : List Update) (name : Text) :
    (rest.filter (missingIn name) ++
      (settled name rest).filter fun update => !update.found).Perm
      (rest.filter fun update => !update.found) := by
  have others : (settled name rest).filter (fun update => !update.found) =
      (rest.filter fun update => !update.found).filter fun update => !missingIn name update := by
    induction rest with
    | nil => rfl
    | cons update tail hypothesis =>
      rw [settled] at hypothesis ⊢
      rw [map_cons]
      cases found : update.found with
      | true => simpa [missingIn, found] using hypothesis
      | false =>
        by_cases same : update.sectionName = name
        · simpa [missingIn, found, same] using hypothesis
        · simpa [missingIn, found, same] using hypothesis
  have group : rest.filter (missingIn name) =
      (rest.filter fun update => !update.found).filter (missingIn name) := by
    rw [filter_filter]
    refine filter_congr fun update _ => ?_
    unfold missingIn
    cases update.found <;> simp
  rw [others, group]
  exact filter_append_perm _ _

theorem writable_settled {updates : List Update}
    (writable : ∀ update ∈ updates, Writable target update) (name : Text) :
    ∀ update ∈ settled name updates, Writable target update := by
  intro update member
  obtain ⟨old, isOld, rfl⟩ := mem_map.mp member
  obtain ⟨known, kept, noNewline, noNul, short⟩ := writable old isOld
  split
  · exact ⟨known, kept, noNewline, noNul, short⟩
  · exact ⟨known, kept, noNewline, noNul, short⟩

/-- The missing keys are added with their values, after the lines that are there. -/
theorem appendMissing_spec {count : Nat} {updates : List Update} (enough : updates.length ≤ count)
    (writable : ∀ update ∈ updates, Writable target update) (output : Text) :
    ∃ added grouped, bodies (appendMissing count updates output) = bodies output ++ added ∧
      grouped.Perm (updates.filter fun update => !update.found) ∧
      (∀ sectionName, settings target sectionName added = some (submitted target grouped) ∧
        assignments sectionName added = grouped.map Update.assignment) ∧
      ∀ line ∈ added, line.length + 1 < lineMax ∧ 0 ∉ line := by
  induction count generalizing updates output with
  | zero =>
    rw [length_eq_zero_iff.mp (Nat.le_zero.mp enough)]
    exact ⟨[], [], (append_nil _).symm, .refl _, fun _ => ⟨rfl, rfl⟩, by simp⟩
  | succ count hypothesis =>
    cases updates with
    | nil => exact ⟨[], [], (append_nil _).symm, .refl _, fun _ => ⟨rfl, rfl⟩, by simp⟩
    | cons update rest =>
      obtain ⟨first, writableRest⟩ := forall_mem_cons.mp writable
      have enoughRest : rest.length ≤ count := Nat.le_of_succ_le_succ enough
      cases found : update.found with
      | true =>
        obtain ⟨added, grouped, isAdded, perm, isSettings, short⟩ :=
          hypothesis enoughRest writableRest output
        refine ⟨added, grouped, ?_, ?_, isSettings, short⟩
        · rw [appendMissing, found, if_pos rfl, isAdded]
        · rw [filter_cons_of_neg (by simp [found])]
          exact perm
      | false =>
        have here : missingIn update.sectionName update = true := by
          simp [missingIn, found]
        rw [appendMissing_group found]
        generalize isGroup : (update :: rest).filter (missingIn update.sectionName) = group
        have inGroup : ∀ other ∈ group, other ∈ update :: rest ∧
            missingIn update.sectionName other = true := fun other member =>
          mem_filter.mp (isGroup ▸ member)
        have writableGroup : ∀ other ∈ group, Writable target other := fun other member =>
          writable other (inGroup other member).1
        have together : ∀ other ∈ group, other.sectionName = update.sectionName := by
          intro other member
          have passed := (inGroup other member).2
          simp only [missingIn, Bool.and_eq_true, beq_iff_eq] at passed
          exact passed.2
        have lines := groupLines_spec first.plain.1 writableGroup output
        have enoughSettled : (settled update.sectionName rest).length ≤ count := by
          rw [settled, length_map]
          exact enoughRest
        obtain ⟨added, grouped, isAdded, perm, isSettings, short⟩ :=
          hypothesis enoughSettled (writable_settled writableRest _)
            (terminated output ++ (closed (groupLines output update.sectionName group)).flatten)
        rw [bodies_append fun line member => (lines line member).2.1] at isAdded
        refine ⟨groupLines output update.sectionName group ++ added, group ++ grouped,
          isAdded.trans (append_assoc _ _ _), ?_, fun sectionName => ?_,
          fun line member => ?_⟩
        · rw [← isGroup, filter_cons_of_pos here, filter_cons_of_pos (by simp [found]), cons_append]
          exact .cons _ ((Perm.append_left _ perm).trans (perm_group rest _))
        · rw [settings_groupLines first.plain.1 writableGroup together, (isSettings _).1,
            Option.map_some, assignments_groupLines first.plain.1 writableGroup together,
            (isSettings _).2, map_append]
          simp [submitted]
        · rcases mem_append.mp member with inLines | later
          · exact ⟨(lines line inLines).1, (lines line inLines).2.2⟩
          · exact short line later

end WebIni
