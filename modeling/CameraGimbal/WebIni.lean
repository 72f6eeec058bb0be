/-
This file models how the web server reads and edits the configuration file: `ini_get_value`, and
`ini_apply_updates`, which replaces the values of some keys and adds the keys that are missing.
-/

import CameraGimbal.FileLines

namespace WebIni

open CText

/-- `MAX_CONFIG`. -/
def maxConfig : Nat := 64 * 1024

/-! ### Lines -/

/-- What the two scanners take a line for. -/
inductive Scan
  | other
  | header (name : Text)
  | assignment (key value : Text)
  deriving DecidableEq

/-- The cuts in a line. The name of a section is kept in a buffer of 80 bytes. -/
def scan (line : Text) : Scan :=
  match trim line with
  | [] => .other
  | first :: rest =>
    if first = 91 then
      match splitAt 93 rest with
      | none => .other
      | some (inside, _) => .header ((trim inside).take 79)
    else if first = 35 ∨ first = 59 then .other
    else
      match splitAt 61 (first :: rest) with
      | none => .other
      | some (before, after) => .assignment (trim before) (trim after)

/-- The value of an assignment without the quotes around it. -/
def unquoted (sectionName value : Text) : Text :=
  if 1 < value.length ∧ value.head? = some 34 ∧ value.getLast? = some 34 then
    let inner := value.tail.dropLast
    if sectionName ≠ bytes "support_proxy" then trim inner else inner
  else value

/-! ### Reading -/

/-- The loop of `ini_get_value`, from a section on. -/
def getFrom (wantedSection wantedKey : Text) (outputSize : Nat) : Text → List Text → Option Text
  | _, [] => none
  | sectionName, line :: rest =>
    match scan (lineBody line) with
    | .other => getFrom wantedSection wantedKey outputSize sectionName rest
    | .header name => getFrom wantedSection wantedKey outputSize name rest
    | .assignment key value =>
      if sectionName = wantedSection ∧ key = wantedKey then
        let value := unquoted sectionName value
        if outputSize ≤ value.length then none else some value
      else getFrom wantedSection wantedKey outputSize sectionName rest

def iniGetValue (config wantedSection wantedKey : Text) (outputSize : Nat) : Option Text :=
  getFrom wantedSection wantedKey outputSize [] (getline (cString config))

/-! ### Editing -/

/-- `struct ini_update`. -/
structure Update where
  sectionName : Text
  key : Text
  value : Text
  found : Bool
  deriving DecidableEq

def Update.named (sectionName key : Text) (update : Update) : Bool :=
  update.sectionName == sectionName && update.key == key

def findUpdate (updates : List Update) (sectionName key : Text) : Option Update :=
  updates.find? (Update.named sectionName key)

/-- The updates when that one is marked. -/
def markFound (sectionName key : Text) : List Update → List Update
  | [] => []
  | update :: rest =>
    if update.named sectionName key then { update with found := true } :: rest
    else update :: markFound sectionName key rest

/-- A line up to its equals sign, with a new value. -/
def newLine (line value : Text) : Text :=
  line.takeWhile (· ≠ 61) ++ bytes "= \"" ++ value ++ bytes "\""

/-- Why `ini_apply_updates` fails. -/
inductive ApplyError
  | duplicateKey (sectionName key : Text)
  | missingKey (sectionName key : Text)
  | tooLarge
  deriving DecidableEq

/-- A line in front of what the rest of the loop writes. -/
def putLine (line : Text) :
    Except ApplyError (List Update × Text) → Except ApplyError (List Update × Text)
  | .error error => .error error
  | .ok (updates, output) => .ok (updates, line ++ output)

/-- The loop of `ini_apply_updates` over the lines, from a section on. -/
def applyFrom : List Update → Text → List Text → Except ApplyError (List Update × Text)
  | updates, _, [] => .ok (updates, [])
  | updates, sectionName, line :: rest =>
    match scan (lineBody line) with
    | .other => putLine line (applyFrom updates sectionName rest)
    | .header name => putLine line (applyFrom updates name rest)
    | .assignment key value =>
      match findUpdate updates sectionName key with
      | none => putLine line (applyFrom updates sectionName rest)
      | some update =>
        if update.found then .error (.duplicateKey sectionName update.key)
        else if unquoted sectionName value = update.value then
          putLine line (applyFrom (markFound sectionName key updates) sectionName rest)
        else
          putLine (newLine (lineBody line) update.value ++ line.drop (lineBody line).length)
            (applyFrom (markFound sectionName key updates) sectionName rest)

/-- The line that opens a section. -/
def headerText (name : Text) : Text := bytes "[" ++ name ++ bytes "]"

/-- The line of a key that was missing. -/
def entryText (update : Update) : Text :=
  update.key ++ bytes " = \"" ++ update.value ++ bytes "\""

/-- The keys that are missing, section by section: the loop over so many updates. -/
def appendMissing : Nat → List Update → Text → Text
  | 0, _, output => output
  | _ + 1, [], output => output
  | count + 1, update :: rest, output =>
    if update.found then appendMissing count rest output
    else
      let together (other : Update) : Bool :=
        !other.found && other.sectionName == update.sectionName
      let ended := terminated output
      let separated := if ended ≠ [] then ended ++ [newline] else ended
      let group := (update :: rest).filter together
      appendMissing count
        (rest.map fun other => if together other then { other with found := true } else other)
        (separated ++ headerText update.sectionName ++ [newline] ++
          group.flatMap fun other => entryText other ++ [newline])

def iniApplyUpdates (config : Text) (updates : List Update) (addMissing : Bool) :
    Except ApplyError Text :=
  match applyFrom (updates.map fun update => { update with found := false }) []
      (getline (cString config)) with
  | .error error => .error error
  | .ok (updates, output) =>
    match updates.find? (fun update => !update.found && !addMissing) with
    | some update => .error (.missingKey update.sectionName update.key)
    | none =>
      let output := if addMissing then appendMissing updates.length updates output else output
      if maxConfig < output.length then .error .tooLarge else .ok output

example : iniApplyUpdates (bytes "[a]\nx=1\n ; y\nz = 2")
      [⟨bytes "a", bytes "z", bytes "3", false⟩, ⟨bytes "b", bytes "u", bytes "", false⟩,
        ⟨bytes "a", bytes "y", bytes "4", false⟩, ⟨bytes "b", bytes "v", bytes "5", false⟩] true =
    .ok (bytes ("[a]\nx=1\n ; y\nz = \"3\"\n\n[b]\nu = \"\"\nv = \"5\"\n" ++
      "\n[a]\ny = \"4\"\n")) := by
  decide

end WebIni
