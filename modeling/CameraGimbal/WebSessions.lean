/-
This file models the login sessions of the web server. They are lines of a small file that is read
and rewritten as a whole under its lock: the boot they belong to, and a token and the time of its
expiry for each.
-/

import CameraGimbal.FileLines
import CameraGimbal.SessionLedger
import CameraGimbal.WebForm

namespace WebSessions

open CText SessionLedger

def maxSessions : Nat := 16

def maxSessionFile : Nat := maxSessions * 128

def sessionLifetimeSeconds : Nat := 24 * 60 * 60

/-! ### Tokens -/

/-- A digit as `%x` prints it. -/
def hexDigit (digit : UInt8) : UInt8 := if digit < 10 then 48 + digit else 87 + digit

/-- `random_token`, of the bytes that were read. -/
def randomToken (random : Vector UInt8 32) : Text :=
  random.toList.flatMap fun (byte : UInt8) => [hexDigit (byte >>> 4), hexDigit (byte &&& 15)]

def isUpper (byte : UInt8) : Bool := 65 ≤ byte && byte ≤ 90

def validTokenText (text : Text) : Bool :=
  text.length = 64 && text.all fun byte => (WebForm.hexValue byte).isSome && !isUpper byte

/-! ### The file -/

/-- `read_boot_id`, of what the kernel gives. -/
def readBootId (boot : Text) : Option Text :=
  if 63 ≤ boot.length ∨ boot.length < 33 ∨ boot.getLast? ≠ some newline then none
  else
    let output := cString boot.dropLast
    if output.all fun byte => (WebForm.hexValue byte).isSome || byte == 45 then some output
    else none

/-- The line of a session in the loop of `load_sessions`; none for a line that is skipped. -/
def loadLine (now : Nat) (line : Text) : Option (Entry Text) :=
  match splitAt 32 line with
  | none => none
  | some (token, rest) =>
    if validTokenText token = false ∨ rest.head?.all isDigit = false ∨ rest = [] then none
    else
      match strtoul 64 rest with
      | none => none
      | some expiry =>
        if expiry.inRange = false ∨ expiry.rest ≠ [] ∨ expiry.value ≤ now then none
        else some { token, expiry := expiry.value.toNat }

/-- The loop of `load_sessions`, with room for so many entries. A last line without a newline ends
it. -/
def loadLines (now : Nat) : Nat → List Text → List (Entry Text)
  | _, [] => []
  | 0, _ :: _ => []
  | room + 1, line :: rest =>
    if line.getLast? ≠ some newline then []
    else
      match loadLine now (lineBody line) with
      | none => loadLines now (room + 1) rest
      | some entry => entry :: loadLines now room rest

/-- `load_sessions`; none for a read error. -/
def loadSessions (boot : Text) (now : Nat) (file : Text) : Option (List (Entry Text)) :=
  if maxSessionFile < file.length then none
  else
    match readBootId boot with
    | none => none
    | some bootId =>
      match getline (cString file) with
      | [] => some []
      | first :: rest =>
        if first.getLast? ≠ some newline then some []
        else if lineBody first ≠ bytes "boot " ++ bootId then some []
        else some (loadLines now maxSessions rest)

/-- The line of a session without its newline. -/
def entryLine (entry : Entry Text) : Text := entry.token ++ 32 :: printNat entry.expiry

/-- The loop of `store_sessions`, after the text that is already in the buffer. -/
def storeEntries (used : Text) : List (Entry Text) → Option Text
  | [] => some used
  | entry :: rest =>
    let line := entryLine entry ++ [newline]
    if maxSessionFile + 1 - used.length ≤ line.length then none
    else storeEntries (used ++ line) rest

/-- The text that `store_sessions` writes. -/
def storeSessions (boot : Text) (entries : List (Entry Text)) : Option Text :=
  match readBootId boot with
  | none => none
  | some bootId =>
    let first := bytes "boot " ++ bootId ++ [newline]
    if maxSessionFile + 1 ≤ first.length then none else storeEntries first entries

/-! ### Operations under the lock -/

/-- `create_session`, with the clock when the file is read and when the expiry is set. -/
def createSession (boot : Text) (file : Text) (random : Vector UInt8 32) (now later : Nat) :
    Text × Bool :=
  match loadSessions boot now file with
  | none => (file, false)
  | some entries =>
    match storeSessions boot (added maxSessions ((later + sessionLifetimeSeconds) % 2 ^ 64)
        (randomToken random) entries) with
    | none => (file, false)
    | some contents => (contents, true)

def sessionValid (boot : Text) (file : Text) (token : Text) (now : Nat) : Bool :=
  validTokenText token &&
    ((loadSessions boot now file).getD []).any fun entry => decide (entry.token = token)

def destroySession (boot : Text) (file : Text) (token : Text) (now : Nat) : Text × Bool :=
  if validTokenText token = false then (file, true)
  else
    match loadSessions boot now file with
    | none => (file, false)
    | some entries =>
      let kept := without token entries
      if kept.length = entries.length then (file, true)
      else
        match storeSessions boot kept with
        | none => (file, false)
        | some contents => (contents, true)

/-! ### Runs -/

/-- A reading of `CLOCK_MONOTONIC`, in the seconds of a `time_t`. -/
structure Seconds where
  value : Nat
  fits : value < 2 ^ 63

/-- What the request processes do, one after another under the lock of the file. -/
inductive Event where
  | create (random : Vector UInt8 32) (now later : Seconds)
  | validate (token : Text) (now : Seconds)
  | destroy (token : Text) (now : Seconds)

def step (boot : Text) (file : Text) : Event → Text × Bool
  | .create random now later => createSession boot file random now.value later.value
  | .validate token now => (file, sessionValid boot file token now.value)
  | .destroy token now => destroySession boot file token now.value

def run (boot : Text) (file : Text) (events : List Event) : Text :=
  events.foldl (fun file event => (step boot file event).1) file

def Event.time : Event → Nat
  | .create _ _ later => later.value
  | .validate _ now => now.value
  | .destroy _ now => now.value

/-- The clock does not go back, from some time on. -/
def Ordered (since : Nat) : List Event → Prop
  | [] => True
  | .create _ now later :: rest =>
    since ≤ now.value ∧ now.value ≤ later.value ∧ Ordered later.value rest
  | .validate _ now :: rest => since ≤ now.value ∧ Ordered now.value rest
  | .destroy _ now :: rest => since ≤ now.value ∧ Ordered now.value rest

def timeAfter (since : Nat) (events : List Event) : Nat :=
  events.foldl (fun _ event => event.time) since

/-- What becomes of the sessions in an event. -/
def ledgerStep (ledger : List (Session Text)) : Event → List (Session Text)
  | .create random now later =>
    created maxSessions now.value (later.value + sessionLifetimeSeconds) (randomToken random) ledger
  | .validate _ _ => ledger
  | .destroy token _ => destroyed token ledger

/-- Every session that a run creates, and what becomes of it. -/
def ledgerOf (events : List Event) : List (Session Text) := events.foldl ledgerStep []

end WebSessions
