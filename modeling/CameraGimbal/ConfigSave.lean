/-
This file models the saving of one parameter: `save_field`, which rewrites the INI file line by
line, and `ca_config_param_save` over it.
-/

import CameraGimbal.Config

namespace Config

open CText

/-! ### The lines that are written -/

/-- The line that sets a field. -/
def entryLine (field : Field) (value : Text) : Text :=
  field.key ++ bytes " = " ++ value ++ [newline]

/-- The line that opens the section of a field. -/
def headerLine (field : Field) : Text := bytes "[" ++ field.sectionName ++ bytes "]" ++ [newline]

/-- A line as it is copied, with the newline that an unterminated one lacks. -/
def copyLine (line : Text) : Text :=
  let copied := cString line
  if copied ≠ [] ∧ copied.getLast? ≠ some newline then copied ++ [newline] else copied

/-! ### The scanner of the writer -/

/-- What `save_field` takes a line for. -/
inductive Scan
  | other
  | header (name : Option Text)
  | key (name : Text)
  deriving DecidableEq

/-- The cuts that both passes of `save_field` make in a trimmed line. -/
def scanText : Text → Scan
  | [] => .other
  | first :: rest =>
    if first = 91 then .header ((splitAt 93 rest).map fun (inside, _) => trim inside)
    else if first = 35 ∨ first = 59 then .other
    else
      match splitAt 61 (first :: rest) with
      | none => .other
      | some (before, _) => .key (trim before)

def scanLine (line : Text) : Scan := scanText (trim (cString line))

/-- The first pass: whether the line is in the field's section, and whether its key was seen. -/
structure Search where
  inSection : Bool
  keyPresent : Bool

def searchLine (field : Field) (state : Search) (line : Text) : Search :=
  match scanLine line with
  | .header name => { state with inSection := name == some field.sectionName }
  | .key name =>
    if state.inSection && name == field.key then { state with keyPresent := true } else state
  | .other => state

/-- Whether some line sets the field. -/
def keyPresent (field : Field) (lines : List Text) : Bool :=
  (lines.foldl (searchLine field) { inSection := false, keyPresent := false }).keyPresent

/-- The second pass, with the lines written so far. -/
structure Writing where
  inSection : Bool
  written : Bool
  output : List Text

/-- One line of the second pass: the field's own line is replaced, and a key that no line sets
goes in front of the header that ends its section. -/
def writeLine (field : Field) (value : Text) (present : Bool) (state : Writing) (line : Text) :
    Writing :=
  match scanLine line with
  | .header name =>
    let inserted := if state.inSection && !state.written && !present then
      { state with written := true, output := state.output ++ [entryLine field value] }
      else state
    { inserted with
      inSection := name == some field.sectionName
      output := inserted.output ++ [copyLine line] }
  | .key name =>
    if state.inSection && name == field.key then
      { state with written := true, output := state.output ++ [entryLine field value] }
    else { state with output := state.output ++ [copyLine line] }
  | .other => { state with output := state.output ++ [copyLine line] }

/-- What is written after the last line. -/
def finish (field : Field) (value : Text) (state : Writing) : List Text :=
  if state.written then state.output
  else if state.inSection then state.output ++ [entryLine field value]
  else state.output ++ [[newline], headerLine field, entryLine field value]

def fileLines : Option Text → List Text
  | none => []
  | some file => getline file

/-- `save_field`: the lines that replace the file. -/
def saveLines (field : Field) (value : Text) (lines : List Text) : List Text :=
  finish field value
    (lines.foldl (writeLine field value (keyPresent field lines))
      { inSection := false, written := false, output := [] })

def saveField (file : Option Text) (field : Field) (value : Text) : Text :=
  (saveLines field value (fileLines file)).flatten

/-! ### Saving a parameter -/

/-- A C `float`. -/
inductive Number
  | finite (value : Rat)
  | infinite
  | notANumber

/-- The checks of a parameter's value: a whole number within bounds. -/
def wholeNumber : Number → Option Int
  | .finite value =>
    let selected := value.num.tdiv value.den
    if value < -65535 ∨ 65535 < value ∨ value ≠ selected then none else some selected
  | .infinite | .notANumber => none

def paramField (target : Target) (index : Nat) : Option Field :=
  ((configFields target).filter fun field => field.paramName.isSome)[index]?

/-- How a selected value of a member of the field's kind is written in the file. -/
def valueText (field : Field) : Kind → Int → Option Text
  | .enumeration, selected =>
    ((field.options.filter fun option => option.value == selected).getLast?).map Choice.name
  | .boolean, selected =>
    if selected = 0 then some (bytes "false")
    else if selected = 1 then some (bytes "true")
    else none
  | _, selected => some (printInt selected)

/-- `(int)` of an `unsigned`. -/
def toInt32 (value : Nat) : Int := Int.bmod value (2 ^ 32)

/-- A member's value as `ca_config_param_get` returns it. No text member is a parameter. -/
def Kind.number : (kind : Kind) → kind.Value → Int
  | .boolean, value => Bool.toInt value
  | .unsigned, value => toInt32 value
  | .enumeration, value | .integer, value => value
  | .timezone, _ | .string, _ => 0

/-- `ca_config_param_get`. -/
def paramGet (target : Target) (config : Configuration) (index : Nat) : Int :=
  match paramField target index with
  | none => 0
  | some field => field.member.kind.number (config field.member)

/-- Why `ca_config_param_save` fails. -/
inductive SaveError
  | invalid
  | load (error : LoadError)

/-- The configuration that the file gives, the defaults when there is none. -/
def loadOrDefaults (target : Target) (file : Option Text) : Except LoadError Configuration :=
  match load target (defaults target) file with
  | .ok config => .ok config
  | .error .missing => .ok (defaults target)
  | .error error => .error error

/-- `ca_config_param_save`: the configuration, and the file that is renamed over the old one.
An error leaves both alone. -/
def paramSave (target : Target) (file : Option Text) (index : Nat) (value : Number) :
    Except SaveError (Configuration × Text) :=
  match paramField target index, wholeNumber value with
  | some field, some selected =>
    match loadOrDefaults target file with
    | .error error => .error (.load error)
    | .ok loaded =>
      match valueText field field.member.kind selected with
      | none => .error .invalid
      | some text =>
        match setField target loaded field text with
        | none => .error .invalid
        | some updated =>
          if supportValid updated then .ok (updated, saveField file field text)
          else .error .invalid
  | _, _ => .error .invalid

end Config
