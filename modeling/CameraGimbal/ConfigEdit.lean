/-
This file proves that saving one parameter is a faithful edit of the INI file. The writer's
scanner is followed along a run of the loader: whether it is inside the field's section and
whether it met the field's key is what the loader has in its section name and its marks. The
lines that are written are then the old ones with one line replaced or added, and loading them
gives the old configuration with that field assigned.
-/

import CameraGimbal.ConfigLoading

namespace Config

open CText List Option Loading

/-! ### Edits -/

/-- The section that the lines end in. -/
def sectionAfter (current : Text) (lines : List Text) : Text :=
  lines.foldl (fun current line =>
    match scanLine line with
    | .header (some name) => name
    | _ => current) current

/-- An edit of one field's setting: its line is replaced, a line is added to its section, or the
section is added at the end. Every other line is kept. -/
inductive Edit (field : Field) (entry : Text) : List Text → List Text → Prop
  | replace {before after : List Text} {line : Text}
      (inside : sectionAfter [] before = field.sectionName)
      (own : scanLine line = .key field.key) :
      Edit field entry (before ++ line :: after) (before ++ entry :: after)
  | insert {before after : List Text} (inside : sectionAfter [] before = field.sectionName) :
      Edit field entry (before ++ after) (before ++ entry :: after)
  | append (lines : List Text) :
      Edit field entry lines (lines ++ [[newline], headerLine field, entry])

variable {lines : List Text}

theorem map_copyLine (whole : ∀ line ∈ lines, copyLine line = line) :
    lines.map copyLine = lines := by
  induction lines with
  | nil => rfl
  | cons line rest hypothesis =>
    obtain ⟨first, others⟩ := forall_mem_cons.mp whole
    rw [map_cons, first, hypothesis others]

/-! ### The writer along one line of the loader -/

/-- The state of the first pass that a state of the loader stands for. -/
def Loading.search (field : Field) (state : Loading) : Search :=
  { inSection := state.sectionName == field.sectionName
    keyPresent := state.seen field.member }

/-- A state of the second pass that follows a state of the loader. -/
def Loading.writing (field : Field) (state : Loading) (written : Bool) (output : List Text) :
    Writing :=
  { inSection := state.sectionName == field.sectionName, written, output }

variable {state : Loading} {line : Text}

section

variable {field : Field}

theorem sectionAfter_of_reading {next : Loading}
    (reading : Reading field state next line) (rest : List Text) :
    sectionAfter state.sectionName (line :: rest) = sectionAfter next.sectionName rest := by
  unfold sectionAfter
  rw [foldl_cons]
  cases reading with
  | header name scanned entered => rw [scanned, entered]
  | own scanned inside fresh old assigned => rw [scanned, assigned]; rfl
  | foreign name scanned elsewhere sameSection sameMark => rw [scanned, sameSection]
  | other scanned same => rw [scanned, same]

theorem searchLine_of_reading {next : Loading}
    (reading : Reading field state next line) :
    searchLine field (state.search field) line = next.search field := by
  unfold searchLine search
  cases reading with
  | header name scanned entered =>
    rw [scanned, entered]
    simp only [some_beq_some]
  | own scanned inside fresh old assigned =>
    rw [scanned, assigned]
    simp [inside]
  | foreign name scanned elsewhere sameSection sameMark =>
    rw [scanned, sameSection, sameMark]
    simp only
    rw [if_neg (by simpa using elsewhere)]
  | other scanned same => rw [scanned, same]

/-- A line that does not set the field is copied when nothing is to be inserted. -/
theorem writeLine_copies {value : Text} {present written : Bool} {next : Loading}
    (settled : (written || present) = true ∨ state.sectionName ≠ field.sectionName ∨
      ∀ name, scanLine line ≠ .header name) (reading : Reading field state next line)
    (unmarked : next.seen field.member = state.seen field.member) (output : List Text) :
    writeLine field value present (state.writing field written output) line =
      next.writing field written (output ++ [copyLine line]) := by
  unfold writeLine writing
  cases reading with
  | header name scanned entered =>
    have noInsertion : ((state.sectionName == field.sectionName) && !written && !present) =
        false := by
      rcases settled with done | outside | noHeader
      · rw [Bool.and_assoc, ← Bool.not_or, done, Bool.not_true, Bool.and_false]
      · rw [beq_eq_false_iff_ne.mpr outside, Bool.false_and, Bool.false_and]
      · exact absurd scanned (noHeader _)
    rw [scanned, entered]
    simp only [noInsertion, some_beq_some]
    rfl
  | own scanned inside fresh old assigned =>
    rw [assigned, mark_seen_self, fresh] at unmarked
    cases unmarked
  | foreign name scanned elsewhere sameSection sameMark =>
    rw [scanned, sameSection]
    simp only
    rw [if_neg (by simpa using elsewhere)]
  | other scanned same => rw [scanned, same]

theorem writeLine_own {value : Text} {present written : Bool}
    (scanned : scanLine line = .key field.key) (inside : state.sectionName = field.sectionName)
    (output : List Text) :
    writeLine field value present (state.writing field written output) line =
      state.writing field true (output ++ [entryLine field value]) := by
  unfold writeLine writing
  rw [scanned]
  simp [inside]

theorem writeLine_inserts {value : Text} {state next : Loading} {line : Text}
    {name : Text} (scanned : scanLine line = .header (some name))
    (entered : next = { state with sectionName := name })
    (inside : state.sectionName = field.sectionName) (output : List Text) :
    writeLine field value false (state.writing field false output) line =
      next.writing field true (output ++ [entryLine field value] ++ [copyLine line]) := by
  unfold writeLine writing
  rw [scanned, entered]
  simp [inside]

end

/-! ### The writer along a run of the loader -/

section Runs

variable {target : Target} {field : Field} (isRow : field ∈ configFields target)
include isRow

variable {lines : List Text} {state last : Loading}

theorem Loads.sectionAfter (loads : Loads target state lines last) :
    sectionAfter state.sectionName lines = last.sectionName := by
  induction loads with
  | nil => rfl
  | cons accepted others hypothesis =>
    rw [sectionAfter_of_reading (reading_of_loadLine isRow accepted), hypothesis]

theorem Loads.search (loads : Loads target state lines last) :
    lines.foldl (searchLine field) (state.search field) = last.search field := by
  induction loads with
  | nil => rfl
  | cons accepted others hypothesis =>
    rw [foldl_cons, searchLine_of_reading (reading_of_loadLine isRow accepted), hypothesis]

section

variable (loads : Loads target state lines last)

include loads

theorem Loads.copies (unmarked : last.seen field.member = state.seen field.member) (value : Text)
    (present written : Bool) (settled : (written || present) = true) (output : List Text) :
    lines.foldl (writeLine field value present) (state.writing field written output) =
      last.writing field written (output ++ lines.map copyLine) := by
  induction loads generalizing output with
  | nil => simp
  | @cons state next last line rest accepted others hypothesis =>
    have reading := reading_of_loadLine isRow accepted
    have between := others.unmarked_between isRow reading unmarked
    rw [foldl_cons, writeLine_copies (.inl settled) reading between,
      hypothesis (unmarked.trans between.symm)]
    simp

/-- When the loader comes to mark the field, one line sets it: the writer replaces that line and
copies the others. -/
theorem Loads.replaces
    (fresh : state.seen field.member = false) (marked : last.seen field.member = true)
    (value : Text) (output : List Text) :
    ∃ before line after middle old, lines = before ++ line :: after ∧
      Loads target state before middle ∧ middle.sectionName = field.sectionName ∧
      middle.seen field.member = false ∧ scanLine line = .key field.key ∧
      Loads target (middle.mark field.member old) after last ∧
      lines.foldl (writeLine field value true) (state.writing field false output) =
        last.writing field true
          (output ++ before.map copyLine ++ entryLine field value :: after.map copyLine) := by
  induction loads generalizing output with
  | nil state =>
    rw [fresh] at marked
    cases marked
  | @cons state next last line rest accepted others hypothesis =>
    have reading := reading_of_loadLine isRow accepted
    cases marks : next.seen field.member with
    | false =>
      obtain ⟨before, own, after, middle, old, rfl, first, inside, unset, scanned, second,
        writes⟩ := hypothesis marks marked (output ++ [copyLine line])
      refine ⟨line :: before, own, after, middle, old, rfl, .cons accepted first, inside, unset,
        scanned, second, ?_⟩
      rw [foldl_cons, writeLine_copies (.inl rfl) reading (marks.trans fresh.symm), writes]
      simp
    | true =>
      cases reading with
      | header name scanned entered =>
        rw [entered] at marks
        exact absurd marks (by simp [fresh])
      | own scanned inside unset old assigned =>
        subst assigned
        refine ⟨[], line, rest, state, old, rfl, .nil state, inside, fresh, scanned, others, ?_⟩
        have copied := others.copies isRow (marked.trans (mark_seen_self _ _ _).symm) value true
          true rfl (output ++ [entryLine field value])
        rw [foldl_cons, writeLine_own scanned inside]
        simpa [writing] using copied
      | foreign name scanned elsewhere sameSection sameMark =>
        rw [sameMark, fresh] at marks
        cases marks
      | other scanned same =>
        rw [same, fresh] at marks
        cases marks

/-- When the loader never marks the field, the writer either inserts the new line at the end of
a section of that name, or copies every line and has yet to write it. -/
theorem Loads.inserts
    (fresh : state.seen field.member = false) (unmarked : last.seen field.member = false)
    (value : Text) (output : List Text) :
    (∃ before after middle, lines = before ++ after ∧ Loads target state before middle ∧
        middle.sectionName = field.sectionName ∧ Loads target middle after last ∧
        lines.foldl (writeLine field value false) (state.writing field false output) =
          last.writing field true
            (output ++ before.map copyLine ++ entryLine field value :: after.map copyLine)) ∨
      lines.foldl (writeLine field value false) (state.writing field false output) =
        last.writing field false (output ++ lines.map copyLine) := by
  induction loads generalizing output with
  | nil => simp
  | @cons state next last line rest accepted others hypothesis =>
    have reading := reading_of_loadLine isRow accepted
    have between := others.unmarked_between isRow reading (unmarked.trans fresh.symm)
    by_cases ends : state.sectionName = field.sectionName ∧ ∃ name, scanLine line = .header name
    · obtain ⟨inside, name, scanned⟩ := ends
      left
      refine ⟨[], line :: rest, state, rfl, .nil state, inside, .cons accepted others, ?_⟩
      cases reading with
      | header opened isHeader entered =>
        have copied := others.copies isRow (unmarked.trans (between.trans fresh).symm) value false
          true rfl (output ++ [entryLine field value] ++ [copyLine line])
        rw [foldl_cons, writeLine_inserts isHeader entered inside, copied]
        simp
      | own isKey | foreign _ isKey | other isKey =>
        rw [scanned] at isKey
        cases isKey
    · have settled : state.sectionName ≠ field.sectionName ∨
          ∀ name, scanLine line ≠ .header name := by
        by_cases inside : state.sectionName = field.sectionName
        · exact .inr fun name isHeader => ends ⟨inside, name, isHeader⟩
        · exact .inl inside
      rw [foldl_cons, writeLine_copies (.inr settled) reading between]
      rcases hypothesis (between.trans fresh) unmarked (output ++ [copyLine line]) with
        ⟨before, after, middle, rfl, first, inside, second, writes⟩ | writes
      · refine .inl ⟨line :: before, after, middle, rfl, .cons accepted first, inside, second, ?_⟩
        rw [writes]
        simp
      · refine .inr ?_
        rw [writes]
        simp

end

end Runs

/-! ### Loading the lines that were written -/

section Saved

theorem finish_written {before after : List Text}
    (wholeBefore : ∀ line ∈ before, copyLine line = line)
    (wholeAfter : ∀ line ∈ after, copyLine line = line) (field : Field) (value : Text)
    (state : Loading) :
    finish field value (state.writing field true
        ([] ++ before.map copyLine ++ entryLine field value :: after.map copyLine)) =
      before ++ entryLine field value :: after := by
  simp [finish, writing, map_copyLine wholeBefore, map_copyLine wholeAfter]

variable {target : Target} {field : Field} (isRow : field ∈ configFields target) {value : Text}
  (plainValue : isPlain value = true) {stored : field.member.kind.Value}
  (parses : parseValue target field field.member.kind value = some stored)
include isRow plainValue

include parses in
theorem loadLine_entry {state : Loading} (inside : state.sectionName = field.sectionName)
    (fresh : state.seen field.member = false) :
    loadLine target state { text := entryLine field value, atEnd := false } =
      .ok (state.mark field.member stored) := by
  unfold loadLine
  rw [parseLine_entry _ (plain_key isRow) plainValue]
  have found : findField target state.sectionName field.key = some field := by
    rw [inside, findField_of_mem field isRow]
  exact loadSetting_of_find found fresh parses

include parses in
theorem Loads.entry {state last : Loading} {lines : List Text}
    (inside : state.sectionName = field.sectionName) (fresh : state.seen field.member = false)
    (rest : Loads target (state.mark field.member stored) lines last) :
    Loads target state (entryLine field value :: lines) last :=
  .cons (loadLine_entry isRow plainValue parses inside fresh) rest

include parses in
theorem saveLines_edit {lines : List Text} {config : Configuration} {last : Loading}
    (whole : ∀ line ∈ lines, copyLine line = line)
    (loads : Loads target (Loading.start config) lines last) :
    Edit field (entryLine field value) lines (saveLines field value lines) ∧
      ∃ final, Loads target (Loading.start config) (saveLines field value lines) final ∧
        final.parsed = Function.update last.parsed field.member stored := by
  have noMark : (Loading.start config).seen field.member = false := rfl
  have outside : (([] : Text) == field.sectionName) = false :=
    beq_eq_false_iff_ne.mpr (plain_ne_nil (plain_sectionName isRow)).symm
  have searched : keyPresent field lines = last.seen field.member := by
    have found := loads.search isRow
    simp only [Loading.search, Loading.start, outside] at found
    unfold keyPresent
    rw [found]
  have begins : ({ inSection := false, written := false, output := [] } : Writing) =
      (Loading.start config).writing field false [] := by
    simp only [Loading.writing, Loading.start, outside]
  unfold saveLines
  rw [searched, begins]
  cases marked : last.seen field.member with
  | true =>
    obtain ⟨before, line, after, middle, old, rfl, first, inside, fresh, own, second, writes⟩ :=
      loads.replaces isRow noMark marked value []
    obtain ⟨wholeBefore, wholeRest⟩ := List.forall_mem_append.mp whole
    obtain ⟨-, wholeAfter⟩ := List.forall_mem_cons.mp wholeRest
    rw [writes, finish_written wholeBefore wholeAfter]
    -- the old assignment is overwritten, so the lines after it find the same marks
    have replaced := second.mark isRow (marked.trans (mark_seen_self _ _ _).symm) stored
    rw [mark_mark] at replaced
    exact ⟨.replace ((first.sectionAfter isRow).trans inside) own, _,
      first.append (Loads.entry isRow plainValue parses inside fresh replaced), rfl⟩
  | false =>
    rcases loads.inserts isRow noMark marked value [] with
      ⟨before, after, middle, rfl, first, inside, second, writes⟩ | writes
    · obtain ⟨wholeBefore, wholeAfter⟩ := List.forall_mem_append.mp whole
      rw [writes, finish_written wholeBefore wholeAfter]
      have fresh : middle.seen field.member = false := by
        by_contra assigned
        have later := second.seen isRow (by simpa using assigned)
        rw [marked] at later
        cases later
      exact ⟨.insert ((first.sectionAfter isRow).trans inside), _,
        first.append (Loads.entry isRow plainValue parses inside fresh
          (second.mark isRow (marked.trans fresh.symm) stored)), rfl⟩
    · rw [writes]
      by_cases inside : last.sectionName = field.sectionName
      · have saved : finish field value (last.writing field false ([] ++ lines.map copyLine)) =
            lines ++ [entryLine field value] := by
          simp [finish, Loading.writing, map_copyLine whole, inside]
        rw [saved]
        refine ⟨?_, _, loads.append
          (Loads.entry isRow plainValue parses inside marked (.nil _)), rfl⟩
        have edited : Edit field (entryLine field value) (lines ++ [])
            (lines ++ entryLine field value :: []) :=
          .insert ((loads.sectionAfter isRow).trans inside)
        rwa [List.append_nil] at edited
      · have saved : finish field value (last.writing field false ([] ++ lines.map copyLine)) =
            lines ++ [[newline], headerLine field, entryLine field value] := by
          simp [finish, Loading.writing, map_copyLine whole, inside]
        rw [saved]
        have opened : loadLine target last { text := headerLine field, atEnd := false } =
            .ok { last with sectionName := field.sectionName } := by
          unfold loadLine
          rw [parseLine_header _ (plain_sectionName isRow)]
          rfl
        have blank : loadLine target last { text := [newline], atEnd := false } = .ok last := by
          unfold loadLine
          rw [parseLine_newline]
          rfl
        exact ⟨.append lines, _, loads.append (.cons blank (.cons opened
          (Loads.entry isRow plainValue parses rfl marked (.nil _)))), rfl⟩

end Saved

/-! ### Files and their lines -/

theorem copyLine_eq (noNul : 0 ∉ line) :
    copyLine line = line ∧ (line = [] ∨ line.getLast? = some newline) ∨
      copyLine line = line ++ [newline] := by
  unfold copyLine
  simp only
  rw [cString_eq_self noNul]
  split
  · exact .inr rfl
  next ends => exact .inl ⟨rfl, by simpa [or_iff_not_imp_left] using ends⟩

theorem noNul_copyLine (noNul : 0 ∉ line) : 0 ∉ copyLine line := by
  rcases copyLine_eq noNul with ⟨same, -⟩ | added
  · rwa [same]
  · rw [added]
    simp [noNul, newline]

theorem copyLine_copyLine (noNul : 0 ∉ line) : copyLine (copyLine line) = copyLine line := by
  rcases copyLine_eq noNul with ⟨same, -⟩ | added
  · rw [same, same]
  · rcases copyLine_eq (noNul_copyLine noNul) with ⟨same, -⟩ | again
    · exact same
    · rw [added] at again ⊢
      unfold copyLine
      rw [cString_eq_self (by simp [noNul, newline])]
      simp

theorem scanLine_copyLine (noNul : 0 ∉ line) : scanLine (copyLine line) = scanLine line := by
  unfold scanLine
  rw [cString_eq_self (noNul_copyLine noNul), cString_eq_self noNul]
  rcases copyLine_eq noNul with ⟨same, -⟩ | added
  · rw [same]
  · rw [added, trim_concat_space _ (by decide)]

theorem parseLine_copyLine {sectionName : Text} {atEnd : Bool} {statement : Statement}
    (noNul : 0 ∉ line) (parsed : parseLine sectionName { text := line, atEnd } = .ok statement) :
    parseLine sectionName { text := copyLine line, atEnd := false } = .ok statement := by
  have text := (parseLine_ok parsed).2
  simp only [cString_eq_self noNul] at text
  unfold parseLine
  simp only [cString_eq_self (noNul_copyLine noNul)]
  rcases copyLine_eq noNul with ⟨same, ends⟩ | added
  · rw [same, if_neg, text]
    rcases ends with empty | ended
    · simp [empty]
    · simp [ended]
  · rw [added, trim_concat_space _ (by decide), if_neg (by simp), text]

theorem copyLine_of_whole (noNul : 0 ∉ line) (whole : Whole line) : copyLine line = line := by
  obtain ⟨body, -, rfl⟩ := whole
  unfold copyLine
  rw [cString_eq_self noNul]
  simp

theorem copyLine_of_unended (noNul : 0 ∉ line) (nonempty : line ≠ []) (unended : newline ∉ line) :
    copyLine line = line ++ [newline] := by
  rcases copyLine_eq noNul with ⟨-, empty | ended⟩ | added
  · exact absurd empty nonempty
  · exact absurd (mem_of_getLast? ended) unended
  · exact added

/-- A line of a file, as `getline` gives it. -/
def IsLine (line : Text) : Prop := Whole line ∨ (line ≠ [] ∧ newline ∉ line)

theorem whole_copyLine (noNul : 0 ∉ line) (isLine : IsLine line) : Whole (copyLine line) := by
  rcases isLine with whole | ⟨nonempty, unended⟩
  · rwa [copyLine_of_whole noNul whole]
  · exact ⟨line, unended, copyLine_of_unended noNul nonempty unended⟩

theorem length_copyLine (noNul : 0 ∉ line) (isLine : IsLine line) {size : Nat}
    (short : line.length < size) (room : newline ∉ line → line.length + 1 < size) :
    (copyLine line).length < size := by
  rcases isLine with whole | ⟨nonempty, unended⟩
  · rwa [copyLine_of_whole noNul whole]
  · rw [copyLine_of_unended noNul nonempty unended, length_append, length_singleton]
    exact room unended

theorem saveLines_copyLine (field : Field) (value : Text) (noNul : ∀ line ∈ lines, 0 ∉ line) :
    saveLines field value (lines.map copyLine) = saveLines field value lines := by
  have searches : keyPresent field (lines.map copyLine) = keyPresent field lines := by
    unfold keyPresent
    rw [foldl_map]
    refine congrArg Search.keyPresent (foldl_ext _ _ _ fun state line member => ?_)
    unfold searchLine
    rw [scanLine_copyLine (noNul line member)]
  unfold saveLines
  rw [searches, foldl_map]
  refine congrArg (finish field value) (foldl_ext _ _ _ fun state line member => ?_)
  unfold writeLine
  rw [scanLine_copyLine (noNul line member), copyLine_copyLine (noNul line member)]

/-! ### Runs of the loader and files -/

variable {number : Nat} {last : Loading}

variable {target : Target}

theorem loadLines_cons {chunk : Chunk} {rest : List Chunk}
    (loaded : loadLines target number state (chunk :: rest) = .ok last) :
    ∃ next, loadLine target state chunk = .ok next ∧
      loadLines target (number + 1) next rest = .ok last := by
  rw [loadLines] at loaded
  split at loaded
  · cases loaded
  next next accepted => exact ⟨next, accepted, loaded⟩

theorem parsed_of_loadLines {chunks : List Chunk}
    (loaded : loadLines target number state chunks = .ok last) :
    ∀ chunk ∈ chunks, ∃ sectionName statement, parseLine sectionName chunk = .ok statement := by
  induction chunks generalizing number state with
  | nil => simp
  | cons first rest hypothesis =>
    obtain ⟨next, accepted, others⟩ := loadLines_cons loaded
    obtain ⟨statement, parsed, -⟩ := loadLine_ok accepted
    exact forall_mem_cons.mpr ⟨⟨state.sectionName, statement, parsed⟩, hypothesis others⟩

theorem fgets_of_loadLines {file : Text} (noNul : 0 ∉ file)
    (loaded : loadLines target number state (fgets lineMax file) = .ok last) :
    fgets lineMax file =
        (getline file).map (fun line => { text := line, atEnd := newline ∉ line }) ∧
      ∀ line ∈ getline file, (copyLine line).length < lineMax := by
  have lines : fgets lineMax file =
      (getline file).map (fun line => { text := line, atEnd := newline ∉ line }) := by
    refine fgetsFrom_eq_getlineFrom (by simp) fun chunk member => ?_
    obtain ⟨sectionName, statement, parsed⟩ := parsed_of_loadLines loaded chunk member
    obtain ⟨nonempty, fromFile⟩ := of_mem_fgetsFrom member
    have clean : 0 ∉ chunk.text := fun isNul => noNul (by simpa using fromFile 0 isNul)
    rcases (parseLine_ok parsed).1 with empty | ended | atEnd
    · rw [cString_eq_self clean] at empty
      exact absurd empty nonempty
    · rw [cString_eq_self clean] at ended
      exact .inr (mem_of_getLast? ended)
    · exact .inl atEnd
  refine ⟨lines, fun line isLine => ?_⟩
  have member : { text := line, atEnd := decide (newline ∉ line) } ∈ fgets lineMax file := by
    rw [lines]
    exact mem_map_of_mem isLine
  obtain ⟨short, room⟩ := length_of_mem_fgetsFrom (by decide) member
  exact length_copyLine (fun isNul => noNul (mem_of_mem_getline isLine isNul))
    (whole_of_mem_getlineFrom (by simp) isLine) short fun unended => room (by simpa using unended)

theorem loads_copies (noNul : ∀ line ∈ lines, 0 ∉ line) (loaded : loadLines target number state
      (lines.map fun line => { text := line, atEnd := newline ∉ line }) = .ok last) :
    Loads target state (lines.map copyLine) last := by
  induction lines generalizing number state with
  | nil =>
    rw [← Except.ok.inj loaded]
    exact .nil state
  | cons line rest hypothesis =>
    obtain ⟨clean, cleanRest⟩ := forall_mem_cons.mp noNul
    obtain ⟨next, accepted, others⟩ := loadLines_cons loaded
    obtain ⟨statement, parsed, obeyed⟩ := loadLine_ok accepted
    refine .cons ?_ (hypothesis cleanRest others)
    unfold loadLine
    rw [parseLine_copyLine clean parsed]
    exact obeyed

theorem loadLines_of_loads (loads : Loads target state lines last) (number : Nat) :
    loadLines target number state (lines.map fun line => { text := line, atEnd := false }) =
      .ok last := by
  induction loads generalizing number with
  | nil => rfl
  | cons accepted others hypothesis =>
    rw [map_cons, loadLines, accepted]
    exact hypothesis (number + 1)

theorem load_of_loads {config : Configuration}
    (whole : ∀ line ∈ lines, Whole line ∧ line.length < lineMax)
    (loads : Loads target (start config) lines last)
    (valid : supportValid last.parsed = true) :
    load target config (some lines.flatten) = .ok last.parsed := by
  rw [load, fgets_flatten whole, loadLines_of_loads loads]
  simp [valid]

/-! ### Saving a parameter -/

theorem Edit.mem {field : Field} {entry : Text} {saved : List Text}
    (edit : Edit field entry lines saved) (member : line ∈ saved) :
    line ∈ lines ∨ line = entry ∨ line = [newline] ∨ line = headerLine field := by
  cases edit with
  | replace | insert =>
    simp only [mem_append, mem_cons] at member ⊢
    tauto
  | append =>
    simp only [mem_append, mem_cons, not_mem_nil, or_false] at member
    tauto

theorem whole_entryLine {field : Field} {value : Text} (plainKey : isPlain field.key = true)
    (plainValue : isPlain value = true) :
    Whole (entryLine field value) ∧ (entryLine field value).length < lineMax := by
  have inKey : (10 : UInt8) ∉ field.key := not_mem_plain plainKey (by decide)
  have inValue : (10 : UInt8) ∉ value := not_mem_plain plainValue (by decide)
  have keyLength := plain_length plainKey
  have valueLength := plain_length plainValue
  unfold entryLine
  rw [bytes_equals]
  refine ⟨⟨field.key ++ [32, 61, 32] ++ value, ?_, rfl⟩, ?_⟩
  · simp [inKey, inValue, newline]
  · simp only [length_append, length_cons, length_nil, lineMax]
    omega

theorem whole_headerLine {field : Field} (plainSection : isPlain field.sectionName = true) :
    Whole (headerLine field) ∧ (headerLine field).length < lineMax := by
  have inSection : (10 : UInt8) ∉ field.sectionName := not_mem_plain plainSection (by decide)
  have length := plain_length plainSection
  unfold headerLine
  rw [bytes_brackets.1, bytes_brackets.2]
  refine ⟨⟨[91] ++ field.sectionName ++ [93], ?_, rfl⟩, ?_⟩
  · simp [inSection, newline]
  · simp only [length_append, length_cons, length_nil, lineMax]
    omega

theorem small_of_wholeNumber {value : Number} {selected : Int}
    (whole : wholeNumber value = some selected) : selected.natAbs ≤ 65535 := by
  cases value with
  | finite value =>
    rw [wholeNumber] at whole
    split at whole
    · cases whole
    next bounded =>
      cases whole
      simp only [not_or, not_lt, ne_eq, not_not] at bounded
      obtain ⟨lower, upper, same⟩ := bounded
      rw [same] at lower upper
      have lowerInt : -65535 ≤ value.num.tdiv value.den := by exact_mod_cast lower
      have upperInt : value.num.tdiv value.den ≤ 65535 := by exact_mod_cast upper
      omega
  | infinite | notANumber => cases whole

theorem paramField_row {index : Nat} {field : Field}
    (found : paramField target index = some field) :
    field ∈ configFields target ∧ field.paramName.isSome = true :=
  mem_filter.mp (mem_of_getElem? found)

/-- What a save that succeeds did. -/
structure Saves (target : Target) (file : Option Text) (index : Nat) (value : Number)
    (updated : Configuration) (newFile : Text) (field : Field) (selected : Int)
    (loaded : Configuration) (text : Text) : Prop where
  found : paramField target index = some field
  whole : wholeNumber value = some selected
  loads : loadOrDefaults target file = .ok loaded
  written : valueText field field.member.kind selected = some text
  stores : ∃ stored, parseValue target field field.member.kind text = some stored ∧
    updated = Function.update loaded field.member stored
  valid : supportValid updated = true
  isFile : newFile = saveField file field text

section

variable {file : Option Text} {index : Nat} {value : Number} {updated : Configuration}
  {newFile : Text}

theorem paramSave_ok (saves : paramSave target file index value = .ok (updated, newFile)) :
    ∃ field selected loaded text,
      Saves target file index value updated newFile field selected loaded text := by
  unfold paramSave at saves
  split at saves
  next field selected found whole =>
    split at saves
    · cases saves
    next loaded loads =>
      split at saves
      · cases saves
      next text written =>
        split at saves
        · cases saves
        next config assigned =>
          split at saves
          next valid =>
            obtain ⟨rfl, rfl⟩ := Prod.mk.inj (Except.ok.inj saves)
            obtain ⟨stored, parses, rfl⟩ := map_eq_some_iff.mp assigned
            exact ⟨field, selected, loaded, text, found, whole, loads, written,
              ⟨stored, parses, rfl⟩, valid, rfl⟩
          · cases saves
  · cases saves

end

theorem loadLines_ne_missing {chunks : List Chunk} :
    loadLines target number state chunks ≠ .error .missing := by
  induction chunks generalizing number state with
  | nil => simp [loadLines]
  | cons chunk rest hypothesis =>
    rw [loadLines]
    split
    · simp
    · exact hypothesis

theorem loadOrDefaults_some {file : Text} {loaded : Configuration}
    (loads : loadOrDefaults target (some file) = .ok loaded) :
    ∃ last, loadLines target 0 (start (defaults target)) (fgets lineMax file) = .ok last ∧
      last.parsed = loaded := by
  unfold loadOrDefaults at loads
  rw [load] at loads
  cases lines : loadLines target 0 (start (defaults target)) (fgets lineMax file) with
  | error error =>
    rw [lines] at loads
    cases error with
    | missing => exact absurd lines loadLines_ne_missing
    | line | support => cases loads
  | ok last =>
    rw [lines] at loads
    refine ⟨last, rfl, ?_⟩
    by_cases valid : supportValid last.parsed = true
    · simpa [valid] using loads
    · simp [valid] at loads

/-- The lines of a file that loads, as they are copied, load to the same configuration; they are
whole and fit the buffer. -/
theorem copies_of_load {file : Option Text} {loaded : Configuration}
    (noNul : ∀ text ∈ file, 0 ∉ text) (loads : loadOrDefaults target file = .ok loaded) :
    ∃ last, Loads target (start (defaults target)) ((fileLines file).map copyLine) last ∧
      last.parsed = loaded ∧ ∀ line ∈ fileLines file,
        0 ∉ line ∧ IsLine line ∧ (copyLine line).length < lineMax := by
  cases file with
  | none =>
    cases loads
    exact ⟨start (defaults target), .nil _, rfl, by simp [fileLines]⟩
  | some file =>
    have clean : ∀ line ∈ getline file, 0 ∉ line :=
      fun line isLine isNul => noNul file rfl (mem_of_mem_getline isLine isNul)
    obtain ⟨last, loadedLines, parsed⟩ := loadOrDefaults_some loads
    obtain ⟨lines, short⟩ := fgets_of_loadLines (noNul file rfl) loadedLines
    rw [lines] at loadedLines
    exact ⟨last, loads_copies clean loadedLines, parsed, fun line isLine =>
      ⟨clean line isLine, whole_of_mem_getlineFrom (by simp) isLine, short line isLine⟩⟩

theorem copyLine_append {first rest : Text} (noNul : 0 ∉ first ++ rest) (whole : Whole first) :
    copyLine (first ++ rest) = first ++ copyLine rest := by
  obtain ⟨clean, cleanRest⟩ : 0 ∉ first ∧ 0 ∉ rest := by simpa using noNul
  by_cases nothing : rest = []
  · subst nothing
    rw [append_nil, copyLine_of_whole clean whole]
    simp [copyLine, cString]
  · unfold copyLine
    rw [cString_eq_self noNul, cString_eq_self cleanRest]
    simp only [getLast?_append_of_ne_nil _ nothing, ne_eq, append_eq_nil_iff, nothing,
      and_false, not_false_eq_true, true_and]
    split <;> simp

theorem flatten_copies {gathered rest : Text} (fresh : newline ∉ gathered)
    (noNul : 0 ∉ gathered ++ rest) :
    ((getlineFrom gathered rest).map copyLine).flatten = copyLine (gathered ++ rest) := by
  induction rest generalizing gathered with
  | nil =>
    rw [append_nil] at noNul ⊢
    unfold getlineFrom
    split
    next nothing => simp [nothing, copyLine, cString]
    next => simp
  | cons byte rest hypothesis =>
    have regrouped : gathered ++ byte :: rest = gathered ++ [byte] ++ rest := by simp
    rw [regrouped] at noNul ⊢
    rw [getlineFrom]
    by_cases isNewline : byte = newline
    · subst isNewline
      have whole : Whole (gathered ++ [newline]) := ⟨gathered, fresh, rfl⟩
      obtain ⟨clean, cleanRest⟩ := not_or.mp (mt mem_append.mpr noNul)
      rw [if_pos rfl, map_cons, flatten_cons,
        hypothesis (by simp) (by simpa using cleanRest), nil_append,
        copyLine_append noNul whole, copyLine_of_whole clean whole]
    · rw [if_neg isNewline, hypothesis (by simp [fresh, Ne.symm isNewline]) noNul]

/-- The file that is written loads as the configuration that is handed back. -/
theorem Saves.reloads {file : Option Text} {index : Nat} {value : Number}
    {updated : Configuration} {newFile : Text} {field : Field} {selected : Int}
    {loaded : Configuration} {text : Text} (noNul : ∀ text ∈ file, 0 ∉ text)
    (saves : Saves target file index value updated newFile field selected loaded text) :
    load target (defaults target) (some newFile) = .ok updated ∧
      Edit field (entryLine field text) ((fileLines file).map copyLine)
        (saveLines field text (fileLines file)) := by
  obtain ⟨found, whole, loads, written, ⟨stored, parses, rfl⟩, valid, rfl⟩ := saves
  obtain ⟨isRow, -⟩ := paramField_row found
  have plainValue := isPlain_valueText isRow (small_of_wholeNumber whole) written
  obtain ⟨last, runs, rfl, lines⟩ := copies_of_load noNul loads
  have copied : ∀ line ∈ (fileLines file).map copyLine, copyLine line = line := by
    intro line isCopy
    obtain ⟨original, member, rfl⟩ := mem_map.mp isCopy
    exact copyLine_copyLine (lines original member).1
  obtain ⟨edit, final, loadsNew, assigned⟩ := saveLines_edit isRow plainValue parses copied runs
  have sameLines := saveLines_copyLine field text fun line member => (lines line member).1
  rw [sameLines] at edit loadsNew
  have wholeLines : ∀ line ∈ saveLines field text (fileLines file),
      Whole line ∧ line.length < lineMax := by
    intro line member
    rcases edit.mem member with isCopy | rfl | rfl | rfl
    · obtain ⟨original, isLine, rfl⟩ := mem_map.mp isCopy
      obtain ⟨clean, shape, short⟩ := lines original isLine
      exact ⟨whole_copyLine clean shape, short⟩
    · exact whole_entryLine (plain_key isRow) plainValue
    · exact ⟨⟨[], by simp, rfl⟩, by decide⟩
    · exact whole_headerLine (plain_sectionName isRow)
  rw [← assigned] at valid ⊢
  exact ⟨load_of_loads wholeLines loadsNew valid, edit⟩

/-- Saving one parameter is a faithful edit of the INI file. The lines of the old file, with the
newline that an unterminated last one lacks, are kept but for one that is replaced or added;
loading the new file gives the configuration that is handed back, which is what the old file
gives with the parameter's member, and no other, changed to the saved value. -/
theorem paramSave_edits {target : Target} {file : Option Text} {index : Nat} {value : Number}
    {updated : Configuration} {newFile : Text} (noNul : ∀ text ∈ file, 0 ∉ text)
    (saves : paramSave target file index value = .ok (updated, newFile)) :
    ∃ field selected loaded text lines, paramField target index = some field ∧
      wholeNumber value = some selected ∧ loadOrDefaults target file = .ok loaded ∧
      load target (defaults target) (some newFile) = .ok updated ∧
      paramGet target updated index = selected ∧
      (∀ other, other ≠ field.member → updated other = loaded other) ∧
      ((fileLines file).map copyLine).flatten = copyLine (file.getD []) ∧
      Edit field (entryLine field text) ((fileLines file).map copyLine) lines ∧
      newFile = lines.flatten := by
  obtain ⟨field, selected, loaded, text, saved⟩ := paramSave_ok saves
  obtain ⟨loadsNew, edit⟩ := saved.reloads noNul
  obtain ⟨found, whole, loads, written, ⟨stored, parses, rfl⟩, -, rfl⟩ := saved
  obtain ⟨isRow, isParam⟩ := paramField_row found
  refine ⟨field, selected, loaded, text, saveLines field text (fileLines file), found, whole,
    loads, loadsNew, ?_, fun other different => Function.update_of_ne different _ _, ?_, edit, rfl⟩
  · unfold paramGet
    rw [found]
    simp only [Function.update_self]
    exact number_of_valueText isRow rfl (small_of_wholeNumber whole) written
      (number_of_param isRow isParam) parses
  · cases file with
    | none => rfl
    | some file => exact flatten_copies (by simp) (noNul file rfl)

/-- A file with a comment, a repeated section and an unterminated last line. -/
def portFile : Text := bytes "# ports\n[mavlink]\nudp_port = 5\n[image]\niso = 400\n[mavlink]"

/-- The TCP port is added to the first of the two sections. -/
def newPortFile : Text :=
  bytes "# ports\n[mavlink]\nudp_port = 5\ntcp_port = 5760\n[image]\niso = 400\n[mavlink]\n"

theorem paramSave_edits_tcpPort :
    ∃ updated, paramSave .mt11 (some portFile) 21 (.finite 5760) = .ok (updated, newPortFile) ∧
      load .mt11 (defaults .mt11) (some newPortFile) = .ok updated ∧
      paramGet .mt11 updated 21 = 5760 := by
  have written : (paramSave .mt11 (some portFile) 21 (.finite 5760)).toOption.map Prod.snd =
      some newPortFile := by decide
  cases saves : paramSave .mt11 (some portFile) 21 (.finite 5760) with
  | error error =>
    rw [saves] at written
    cases written
  | ok result =>
    obtain ⟨updated, newFile⟩ := result
    rw [saves] at written
    obtain rfl : newFile = newPortFile := Option.some.inj written
    obtain ⟨field, selected, loaded, text, lines, -, whole, -, loads, number, -⟩ :=
      paramSave_edits (by decide) saves
    obtain rfl : 5760 = selected := by
      have isWhole : wholeNumber (.finite 5760) = some 5760 := by decide
      exact Option.some.inj (isWhole.symm.trans whole)
    exact ⟨updated, rfl, loads, number⟩

end Config
