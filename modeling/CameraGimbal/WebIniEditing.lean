/-
This file proves what an edit of the configuration file does to its settings. A line of an updated
key gets the new value, every other line stays, and the keys that are missing are added in sections
of their own, so that the loader finds the old settings with the updates among them.
-/

import CameraGimbal.WebIniReading

namespace WebIni

open CText Config List

/-! ### Texts -/

/-- The white space that `trim` takes away. -/
theorem trim_spec (text : Text) :
    ∃ leading trailing, text = leading ++ trim text ++ trailing ∧
      ∀ byte ∈ leading, isSpace byte = true := by
  obtain ⟨trailing, isTrailing⟩ := rdropWhile_prefix isSpace (text.dropWhile isSpace)
  refine ⟨text.takeWhile isSpace, trailing, ?_, fun byte member => mem_takeWhile_imp member⟩
  rw [append_assoc, trim, isTrailing, takeWhile_append_dropWhile]

theorem head_trim (text : Text) {byte : UInt8} (isHead : byte ∈ (trim text).head?) :
    isSpace byte = false := by
  obtain ⟨trailing, isTrailing⟩ := rdropWhile_prefix isSpace (text.dropWhile isSpace)
  have first := head?_dropWhile_not isSpace text
  have same : (text.dropWhile isSpace).head? = some byte := by
    have isHead' : (((text.dropWhile isSpace).rdropWhile isSpace)).head? = some byte := isHead
    rw [← isTrailing, head?_append, isHead']
    rfl
  rw [same] at first
  exact first

/-- A text that starts and ends with other bytes is what `trim` leaves of it and white space in
front. -/
theorem trim_leading {leading text : Text} (spaces : ∀ byte ∈ leading, isSpace byte = true)
    (first : ∀ byte ∈ text.head?, isSpace byte = false)
    (last : ∀ byte ∈ text.getLast?, isSpace byte = false) : trim (leading ++ text) = text := by
  induction leading with
  | nil => exact trim_eq_self first last
  | cons space rest hypothesis =>
    obtain ⟨isSpaceByte, others⟩ := forall_mem_cons.mp spaces
    rw [cons_append, trim_cons_space _ isSpaceByte, hypothesis others]

theorem bytes_quote : bytes "= \"" = [61, 32, 34] ∧ bytes "\"" = [34] := by decide

variable {sectionName value : Text}

theorem unquote_quoted (exact' : sectionName ≠ bytes "support_proxy" → trim value = value) :
    unquote sectionName (trim (32 :: 34 :: (value ++ [34]))) = value := by
  have outer : trim (32 :: 34 :: (value ++ [34])) = 34 :: (value ++ [34]) := by
    rw [trim_cons_space _ (by decide)]
    refine trim_eq_self (by simp [isSpace]) ?_
    rw [← cons_append, getLast?_concat]
    simp [isSpace]
  have quoted : 2 ≤ (34 :: (value ++ [34])).length ∧ (34 :: (value ++ [34])).head? = some 34 ∧
      (34 :: (value ++ [34])).getLast? = some 34 := by
    refine ⟨by simp, rfl, ?_⟩
    rw [← cons_append, getLast?_concat]
  rw [outer, unquote, if_pos quoted, ← cons_append, dropLast_concat]
  by_cases inProxy : sectionName = bytes "support_proxy"
  · exact if_pos inProxy
  · exact (if_neg inProxy).trans (exact' inProxy)

variable {body key : Text}

theorem parseText_setting (parsed : parseText sectionName (trim body) = .ok (.setting key value)) :
    ∃ leading before after first, (∀ byte ∈ leading, isSpace byte = true) ∧
      body.takeWhile (· ≠ 61) = leading ++ before ∧ 61 ∉ before ∧ key = trim before ∧
      (before ++ [61]).head? = some first ∧ isSpace first = false ∧ first ∉ [35, 59, 91] ∧
      value = unquote sectionName (trim after) := by
  cases text : trim body with
  | nil =>
    rw [text] at parsed
    cases parsed
  | cons first rest =>
    rw [text, parseText] at parsed
    split at parsed
    · cases parsed
    next noComment =>
      split at parsed
      next =>
        split at parsed
        · cases parsed
        split at parsed
        · cases parsed
        split at parsed <;> cases parsed
      next noHeader =>
        split at parsed
        · cases parsed
        next before after cut =>
          obtain ⟨rfl, rfl⟩ := Statement.setting.inj (Except.ok.inj parsed)
          obtain ⟨whole, absent⟩ := splitAt_spec cut
          obtain ⟨leading, trailing, isBody, spaces⟩ := trim_spec body
          rw [text, whole] at isBody
          have solid : isSpace first = false := head_trim body (by rw [text]; rfl)
          have isHead : (before ++ [61]).head? = some first := by
            have same := congrArg head? whole
            cases before <;> exact same.symm
          refine ⟨leading, before, after, first, spaces, ?_, absent, rfl, isHead, solid, ?_, rfl⟩
          · have other : ∀ byte ∈ leading ++ before, decide (byte ≠ 61) = true := by
              intro byte member
              refine decide_eq_true fun same => ?_
              rw [same] at member
              rcases mem_append.mp member with isLeading | inBefore
              · exact absurd (spaces 61 isLeading) (by decide)
              · exact absent inBefore
            have shape : body = (leading ++ before) ++ 61 :: (after ++ trailing) := by
              rw [isBody]
              simp
            rw [shape, takeWhile_append_of_pos other, takeWhile_cons_of_neg (by simp), append_nil]
          · simp only [mem_cons, not_mem_nil, or_false, not_or]
            exact ⟨fun same => noComment (.inl same), fun same => noComment (.inr same), noHeader⟩

theorem parseText_newLine {new : Text}
    (parsed : parseText sectionName (trim body) = .ok (.setting key value))
    (kept : sectionName ≠ bytes "support_proxy" → trim new = new) :
    parseText sectionName (trim (newLine body new)) = .ok (.setting key new) := by
  obtain ⟨leading, before, after, first, spaces, isPrefix', absent, rfl, isHead, solid, special,
    -⟩ := parseText_setting parsed
  have shape : newLine body new = leading ++ (before ++ 61 :: 32 :: 34 :: (new ++ [34])) := by
    rw [newLine, isPrefix', bytes_quote.1, bytes_quote.2]
    simp
  obtain ⟨rest, isText⟩ : ∃ rest, before ++ 61 :: 32 :: 34 :: (new ++ [34]) = first :: rest := by
    cases before with
    | nil =>
      cases isHead
      exact ⟨_, rfl⟩
    | cons byte others =>
      cases isHead
      exact ⟨_, rfl⟩
  have trimmed : trim (newLine body new) = before ++ 61 :: 32 :: 34 :: (new ++ [34]) := by
    rw [shape]
    refine trim_leading spaces ?_ ?_
    · rw [isText]
      rintro byte ⟨⟩
      exact solid
    · have split : before ++ 61 :: 32 :: 34 :: (new ++ [34]) =
          (before ++ 61 :: 32 :: 34 :: new) ++ [34] := by simp
      rw [split, getLast?_concat]
      rintro byte ⟨⟩
      decide
  simp only [mem_cons, not_mem_nil, or_false, not_or] at special
  rw [trimmed, isText, parseText, if_neg (by simp [special]), if_neg special.2.2, ← isText,
    splitAt_append _ absent]
  dsimp only
  rw [unquote_quoted kept]

/-! ### Rewriting lines -/

def newValue (updates : List Update) (sectionName key : Text) : Option Text :=
  (findUpdate updates sectionName key).map Update.value

/-- The section after a line. -/
def sectionPast (sectionName body : Text) : Text :=
  match scan body with
  | .header name => name
  | _ => sectionName

/-- What becomes of a line. -/
def rewritten (updates : List Update) (sectionName body : Text) : Text :=
  match scan body with
  | .assignment key value =>
    match newValue updates sectionName key with
    | none => body
    | some new => if unquoted sectionName value = new then body else newLine body new
  | _ => body

def rewriteFrom (updates : List Update) : Text → List Text → List Text
  | _, [] => []
  | sectionName, body :: rest =>
    rewritten updates sectionName body :: rewriteFrom updates (sectionPast sectionName body) rest

/-- The keys that lines set, with their sections. -/
def keysFrom : Text → List Text → List (Text × Text)
  | _, [] => []
  | sectionName, body :: rest =>
    match scan body with
    | .assignment key _ => (sectionName, key) :: keysFrom sectionName rest
    | .header name => keysFrom name rest
    | .other => keysFrom sectionName rest

/-- What lines assign to the keys of their sections. -/
def assignments : Text → List Text → List ((Text × Text) × Text)
  | _, [] => []
  | sectionName, body :: rest =>
    match scan body with
    | .assignment key value =>
      ((sectionName, key), unquoted sectionName value) :: assignments sectionName rest
    | .header name => assignments name rest
    | .other => assignments sectionName rest

/-- The updates when these keys were found. -/
def foundAll (keys : List (Text × Text)) (updates : List Update) : List Update :=
  updates.map fun update =>
    { update with found := update.found || keys.any fun name => update.named name.1 name.2 }

def Update.name (update : Update) : Text × Text := (update.sectionName, update.key)

/-- No key is updated twice. -/
def Distinct (updates : List Update) : Prop := (updates.map Update.name).Nodup

theorem named_iff {update : Update} :
    update.named sectionName key = true ↔ update.name = (sectionName, key) := by
  simp [Update.named, Update.name]

variable (updates : List Update)

theorem foundAll_nil : foundAll [] updates = updates := by
  refine (map_congr_left fun update _ => ?_).trans (map_id updates)
  simp

variable {updates : List Update}

theorem foundAll_of_notMem (absent : ∀ update ∈ updates, update.named sectionName key = false) :
    foundAll [(sectionName, key)] updates = updates := by
  refine (map_congr_left fun update member => ?_).trans (map_id updates)
  simp [absent update member]

theorem markFound_eq (distinct : Distinct updates) (sectionName key : Text) :
    markFound sectionName key updates = foundAll [(sectionName, key)] updates := by
  induction updates with
  | nil => rfl
  | cons update rest hypothesis =>
    obtain ⟨absent, distinctRest⟩ := nodup_cons.mp distinct
    unfold markFound
    by_cases own : update.named sectionName key = true
    · have others : ∀ other ∈ rest, other.named sectionName key = false := by
        intro other member
        rw [Bool.eq_false_iff]
        intro same
        refine absent (mem_map.mpr ⟨other, member, ?_⟩)
        rw [named_iff.mp same, named_iff.mp own]
      rw [if_pos own, foundAll, map_cons, ← foundAll, foundAll_of_notMem others]
      simp [own]
    · rw [if_neg own, hypothesis distinctRest, foundAll, foundAll, map_cons]
      simp [Bool.eq_false_iff.mpr own]

section

variable (keys : List (Text × Text))

theorem distinct_foundAll :
    Distinct (foundAll keys updates) ↔ Distinct updates := by
  unfold Distinct foundAll
  rw [map_map]
  rfl

theorem newValue_foundAll :
    newValue (foundAll keys updates) = newValue updates := by
  funext sectionName key
  unfold newValue findUpdate foundAll
  rw [find?_map, Option.map_map]
  rfl

theorem rewriteFrom_foundAll (sectionName : Text) (lines : List Text) :
    rewriteFrom (foundAll keys updates) sectionName lines =
      rewriteFrom updates sectionName lines := by
  induction lines generalizing sectionName with
  | nil => rfl
  | cons body rest hypothesis =>
    unfold rewriteFrom rewritten
    rw [newValue_foundAll, hypothesis]

end

/-! ### The loop over the lines -/

theorem newline_notMem_newLine {new : Text} (freshBody : newline ∉ body)
    (freshNew : newline ∉ new) : newline ∉ newLine body new := by
  have bytesFresh : newline ∉ bytes "= \"" ∧ newline ∉ bytes "\"" := by decide
  intro member
  simp only [newLine, mem_append] at member
  rcases member with ((inBody | inEquals) | inNew) | inQuote
  · exact freshBody ((takeWhile_sublist _).subset inBody)
  · exact bytesFresh.1 inEquals
  · exact freshNew inNew
  · exact bytesFresh.2 inQuote

theorem newLine_ne_nil (body new : Text) : newLine body new ≠ [] := by
  have quote : bytes "\"" ≠ [] := by decide
  exact append_ne_nil_of_right_ne_nil _ quote

theorem putLine_ok {line : Text} {result : Except ApplyError (List Update × Text)}
    {after : List Update} {output : Text} (put : putLine line result = .ok (after, output)) :
    ∃ rest, result = .ok (after, rest) ∧ output = line ++ rest := by
  unfold putLine at put
  split at put
  · cases put
  next updates rest =>
    obtain ⟨rfl, rfl⟩ := Prod.mk.inj (Except.ok.inj put)
    exact ⟨rest, rfl, rfl⟩

/-- One line of the loop that is accepted. -/
theorem applyFrom_cons {after : List Update} {line output : Text} {rest : List Text}
    (distinct : Distinct updates)
    (applied : applyFrom updates sectionName (line :: rest) = .ok (after, output)) :
    ∃ keys tail, keysFrom sectionName (lineBody line :: rest.map lineBody) =
        keys ++ keysFrom (sectionPast sectionName (lineBody line)) (rest.map lineBody) ∧
      applyFrom (foundAll keys updates) (sectionPast sectionName (lineBody line)) rest =
        .ok (after, tail) ∧
      (output = line ++ tail ∧ rewritten updates sectionName (lineBody line) = lineBody line ∨
        ∃ new,
          output = newLine (lineBody line) new ++ line.drop (lineBody line).length ++ tail ∧
          rewritten updates sectionName (lineBody line) = newLine (lineBody line) new ∧
          ∃ update ∈ updates, update.value = new) := by
  rw [applyFrom] at applied
  rw [keysFrom]
  unfold sectionPast rewritten
  cases scanned : scan (lineBody line) with
  | other =>
    rw [scanned] at applied
    obtain ⟨tail, isTail, rfl⟩ := putLine_ok applied
    exact ⟨[], tail, rfl, by rw [foundAll_nil]; exact isTail, .inl ⟨rfl, rfl⟩⟩
  | header name =>
    rw [scanned] at applied
    obtain ⟨tail, isTail, rfl⟩ := putLine_ok applied
    exact ⟨[], tail, rfl, by rw [foundAll_nil]; exact isTail, .inl ⟨rfl, rfl⟩⟩
  | assignment key value =>
    rw [scanned] at applied
    dsimp only at applied ⊢
    unfold newValue
    cases found : findUpdate updates sectionName key with
    | none =>
      rw [found] at applied
      obtain ⟨tail, isTail, rfl⟩ := putLine_ok applied
      have absent : ∀ update ∈ updates, update.named sectionName key = false :=
        fun update member => by simpa using find?_eq_none.mp found update member
      exact ⟨[(sectionName, key)], tail, rfl, by rw [foundAll_of_notMem absent]; exact isTail,
        .inl ⟨rfl, rfl⟩⟩
    | some update =>
      rw [found] at applied
      dsimp only at applied
      split at applied
      · cases applied
      rw [markFound_eq distinct] at applied
      rw [Option.map_some]
      split at applied
      next same =>
        obtain ⟨tail, isTail, rfl⟩ := putLine_ok applied
        exact ⟨[(sectionName, key)], tail, rfl, isTail, .inl ⟨rfl, if_pos same⟩⟩
      next different =>
        obtain ⟨tail, isTail, rfl⟩ := putLine_ok applied
        exact ⟨[(sectionName, key)], tail, rfl, isTail, .inr ⟨update.value, rfl,
          if_neg different, update, mem_of_find?_eq_some found, rfl⟩⟩

variable {lines : List Text}

theorem applyFrom_spec (isLines : Lines lines) (distinct : Distinct updates)
    (fresh : ∀ update ∈ updates, newline ∉ update.value) {after : List Update} {output : Text}
    (applied : applyFrom updates sectionName lines = .ok (after, output)) :
    after = foundAll (keysFrom sectionName (lines.map lineBody)) updates ∧
      ∃ written, Lines written ∧ written.flatten = output ∧
        written.map lineBody = rewriteFrom updates sectionName (lines.map lineBody) := by
  induction isLines generalizing updates sectionName output with
  | nil =>
    obtain ⟨rfl, rfl⟩ := Prod.mk.inj (Except.ok.inj applied)
    exact ⟨(foundAll_nil _).symm, [], .nil, rfl, rfl⟩
  | @last text nonempty freshText =>
    obtain ⟨keys, tail, isKeys, isTail, result⟩ := applyFrom_cons distinct applied
    obtain ⟨rfl, rfl⟩ := Prod.mk.inj (Except.ok.inj isTail)
    rw [lineBody_fresh freshText] at isKeys result
    rw [map_singleton, lineBody_fresh freshText, map_nil] at *
    refine ⟨by rw [isKeys]; exact congrArg (foundAll · updates) (append_nil keys).symm, ?_⟩
    rcases result with ⟨rfl, kept⟩ | ⟨new, rfl, changed, update, member, rfl⟩
    · refine ⟨[text], .last nonempty freshText, by simp, ?_⟩
      rw [rewriteFrom, kept, map_singleton, lineBody_fresh freshText]
      rfl
    · have freshNew := newline_notMem_newLine freshText (fresh update member)
      refine ⟨[newLine text update.value], .last (newLine_ne_nil _ _) freshNew, by simp, ?_⟩
      rw [rewriteFrom, changed, map_singleton, lineBody_fresh freshNew]
      rfl
  | @cons body rest freshBody _ hypothesis =>
    obtain ⟨keys, tail, isKeys, isTail, result⟩ := applyFrom_cons distinct applied
    rw [lineBody_closed freshBody] at isKeys isTail result
    obtain ⟨isAfter, written, isWritten, isOutput, areBodies⟩ :=
      hypothesis ((distinct_foundAll keys).mpr distinct) (fun update member => by
        obtain ⟨old, isOld, rfl⟩ := mem_map.mp member
        exact fresh old isOld) isTail
    rw [rewriteFrom_foundAll] at areBodies
    rw [map_cons, lineBody_closed freshBody]
    refine ⟨?_, ?_⟩
    · rw [isAfter, isKeys]
      unfold foundAll
      rw [map_map]
      refine map_congr_left fun update _ => ?_
      simp [Update.named, Bool.or_assoc]
    · rcases result with ⟨rfl, kept⟩ | ⟨new, rfl, changed, update, member, rfl⟩
      · refine ⟨(body ++ [newline]) :: written, .cons freshBody isWritten, ?_, ?_⟩
        · rw [flatten_cons, isOutput]
        · rw [rewriteFrom, kept, map_cons, lineBody_closed freshBody, areBodies]
      · have freshNew := newline_notMem_newLine freshBody (fresh update member)
        refine ⟨(newLine body update.value ++ [newline]) :: written, .cons freshNew isWritten,
          ?_, ?_⟩
        · rw [flatten_cons, isOutput, drop_left]
        · rw [rewriteFrom, changed, map_cons, lineBody_closed freshNew, areBodies]

/-! ### The settings of rewritten lines -/

/-- The setting that a line makes. -/
def settingHere (target : Target) (sectionName key value : Text) : List (Field × Text) :=
  (findField target sectionName key).toList.map fun field => (field, value)

variable {target : Target}

theorem settings_setting (parsed : parseText sectionName (trim body) = .ok (.setting key value))
    (rest : List Text) :
    settings target sectionName (body :: rest) =
      (settings target sectionName rest).map (settingHere target sectionName key value ++ ·) := by
  rw [settings, parsed]
  dsimp only
  unfold settingHere
  cases findField target sectionName key with
  | none =>
    cases settings target sectionName rest with
    | none => rfl
    | some given => rfl
  | some field => rfl

variable {given : List (Field × Text)}

/-- What an accepted line does to the settings. -/
theorem settings_cons {rest : List Text}
    (isGiven : settings target sectionName (body :: rest) = some given) :
    ∃ others, settings target (sectionPast sectionName body) rest = some others ∧
      ((given = others ∧ (∀ key raw, scan body ≠ .assignment key raw) ∧
          ∀ tail, settings target sectionName (body :: tail) =
            settings target (sectionPast sectionName body) tail) ∨
        ∃ key raw value, scan body = .assignment key raw ∧ unquoted sectionName raw = value ∧
          parseText sectionName (trim body) = .ok (.setting key value) ∧
          given = settingHere target sectionName key value ++ others) := by
  cases parsed : parseText sectionName (trim body) with
  | error fault =>
    rw [settings, parsed] at isGiven
    cases isGiven
  | ok statement =>
    have agrees := scan_of_parseText parsed
    unfold sectionPast
    cases statement with
    | blank =>
      rw [settings, parsed] at isGiven
      rw [agrees]
      exact ⟨given, isGiven, .inl ⟨rfl, by simp, fun tail => by rw [settings, parsed]⟩⟩
    | header name =>
      rw [settings, parsed] at isGiven
      rw [agrees]
      exact ⟨given, isGiven, .inl ⟨rfl, by simp, fun tail => by rw [settings, parsed]⟩⟩
    | setting key value =>
      obtain ⟨raw, scanned, isValue⟩ := agrees
      rw [settings_setting parsed] at isGiven
      obtain ⟨others, isOthers, rfl⟩ := Option.map_eq_some_iff.mp isGiven
      rw [scanned]
      exact ⟨others, isOthers, .inr ⟨key, raw, value, rfl, isValue, rfl, rfl⟩⟩

/-- A setting with the new value of its key. -/
def updated (updates : List Update) (setting : Field × Text) : Field × Text :=
  (setting.1, (newValue updates setting.1.sectionName setting.1.key).getD setting.2)

theorem map_updated_settingHere :
    (settingHere target sectionName key value).map (updated updates) =
      settingHere target sectionName key ((newValue updates sectionName key).getD value) := by
  unfold settingHere
  cases found : findField target sectionName key with
  | none => rfl
  | some field =>
    obtain ⟨-, rfl, rfl⟩ := of_findField found
    rfl

/-- A value that quotes keep as it is in its section. -/
def Update.Kept (update : Update) : Prop :=
  update.sectionName ≠ bytes "support_proxy" → trim update.value = update.value

theorem settings_rewriteFrom (kept : ∀ update ∈ updates, update.Kept)
    (isGiven : settings target sectionName lines = some given) :
    settings target sectionName (rewriteFrom updates sectionName lines) =
      some (given.map (updated updates)) := by
  induction lines generalizing sectionName given with
  | nil =>
    rw [← Option.some.inj isGiven]
    rfl
  | cons body rest hypothesis =>
    obtain ⟨others, isOthers, result⟩ := settings_cons isGiven
    have later := hypothesis isOthers
    rw [rewriteFrom]
    rcases result with ⟨rfl, noKey, same⟩ | ⟨key, raw, value, scanned, isValue, parsed, rfl⟩
    · have whole : rewritten updates sectionName body = body := by
        unfold rewritten
        split
        next key raw scanned => exact absurd scanned (noKey key raw)
        · rfl
      rw [whole, same]
      exact later
    · have isSection : sectionPast sectionName body = sectionName := by
        rw [sectionPast, scanned]
      rw [isSection] at later ⊢
      have newParsed : parseText sectionName (trim (rewritten updates sectionName body)) =
          .ok (.setting key ((newValue updates sectionName key).getD value)) := by
        rw [rewritten, scanned]
        dsimp only
        cases isNew : newValue updates sectionName key with
        | none => exact parsed
        | some new =>
          dsimp only
          obtain ⟨update, found, rfl⟩ := Option.map_eq_some_iff.mp isNew
          by_cases same : unquoted sectionName raw = update.value
          · rw [if_pos same, ← same, isValue]
            exact parsed
          · rw [if_neg same]
            have isNamed := named_iff.mp (find?_some found)
            have inSection : update.sectionName = sectionName := congrArg Prod.fst isNamed
            have stays := kept update (mem_of_find?_eq_some found)
            rw [Update.Kept, inSection] at stays
            exact parseText_newLine parsed stays
      rw [settings_setting newParsed, later, Option.map_some, map_append, map_updated_settingHere]

theorem mem_keysFrom {field : Field} (isRow : field ∈ configFields target)
    (isGiven : settings target sectionName lines = some given) :
    (field.sectionName, field.key) ∈ keysFrom sectionName lines ↔
      ∃ value, (field, value) ∈ given := by
  induction lines generalizing sectionName given with
  | nil =>
    rw [← Option.some.inj isGiven]
    simp [keysFrom]
  | cons body rest hypothesis =>
    obtain ⟨others, isOthers, result⟩ := settings_cons isGiven
    have later := hypothesis isOthers
    rw [keysFrom]
    rcases result with ⟨rfl, noKey, -⟩ | ⟨key, raw, value, scanned, -, -, rfl⟩
    · unfold sectionPast at later
      split
      next key raw scanned => exact absurd scanned (noKey key raw)
      next name scanned =>
        rw [scanned] at later
        exact later
      next scanned =>
        rw [scanned] at later
        exact later
    · rw [sectionPast, scanned] at later
      rw [scanned]
      rw [mem_cons, later]
      have here : (field.sectionName, field.key) = (sectionName, key) ↔
          findField target sectionName key = some field := by
        constructor
        · intro same
          cases same
          exact findField_of_mem field isRow
        · intro found
          obtain ⟨-, rfl, rfl⟩ := of_findField found
          rfl
      rw [here]
      constructor
      · rintro (found | ⟨old, member⟩)
        · refine ⟨value, mem_append_left _ ?_⟩
          rw [settingHere, found]
          exact mem_cons_self
        · exact ⟨old, mem_append_right _ member⟩
      · rintro ⟨old, member⟩
        rcases mem_append.mp member with isHere | isLater
        · obtain ⟨other, found, same⟩ := mem_map.mp isHere
          obtain ⟨rfl, -⟩ := Prod.mk.inj same
          exact .inl (Option.mem_toList.mp found)
        · exact .inr ⟨old, isLater⟩

end WebIni
