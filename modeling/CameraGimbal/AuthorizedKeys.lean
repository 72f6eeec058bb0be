/-
This file models the SSH keys page of the web server: a public key as a line of the keys file, the
replacement of a file by a new one, and the requests that add keys to the file or remove one. The
keys are kept in a persistent file, and a copy of it is the one the SSH server reads.
-/

import CameraGimbal.Config
import CameraGimbal.FileLines
import CameraGimbal.WebForm

namespace AuthorizedKeys

open CText

/-! ### Public keys -/

/-- `struct public_key_view`. -/
structure PublicKey where
  type : Text
  blob : Text
  comment : Text
deriving DecidableEq

def isBlank (byte : UInt8) : Bool := byte == 32 || byte == 9

def supportedTypes : List String :=
  ["ssh-ed25519", "ssh-rsa", "ecdsa-sha2-nistp256", "ecdsa-sha2-nistp384", "ecdsa-sha2-nistp521",
    "sk-ssh-ed25519@openssh.com", "sk-ecdsa-sha2-nistp256@openssh.com"]

def supportedPublicKeyType (type : Text) : Bool := supportedTypes.any fun name => bytes name = type

def blobBytes : Bool → Text → Bool
  | _, [] => true
  | padding, byte :: rest =>
    if byte = 61 then blobBytes true rest
    else if padding || !(isAlphanumeric byte || byte == 43 || byte == 47) then false
    else blobBytes padding rest

def parsePublicKey (text : Text) : Option PublicKey :=
  let text := (text.dropWhile isBlank).rdropWhile fun byte => isBlank byte || byte == 13
  let type := text.takeWhile (!isBlank ·)
  let rest := (text.drop type.length).dropWhile isBlank
  let blob := rest.takeWhile (!isBlank ·)
  let comment := (rest.drop blob.length).dropWhile isBlank
  if text = [] then none
  else if supportedPublicKeyType type = false then none
  else if blobBytes false blob = false then none
  else if blob.length < 16 ∨ 16384 < blob.length then none
  else if 2 < (blob.rtakeWhile (· == 61)).length ∨ blob.length % 4 ≠ 0 then none
  else if comment.any isControl then none
  else some { type, blob, comment }

/-- `public_key_identity_equal`. -/
def PublicKey.same (first second : PublicKey) : Bool :=
  first.type = second.type && first.blob = second.blob

/-! ### Files -/

/-- What the file operations of `save_atomic_file` do. -/
structure SaveCalls where
  fits : Bool
  written : Bool
  closed : Bool
  renamed : Bool
  synced : Bool

/-- What a request reports when it fails. -/
inductive Error where
  | keyRequired
  | keysTooLarge
  | outOfMemory
  | keyMalformed (line : Nat)
  | keyDuplicateLine (line : Nat)
  | lockUsers
  | keysRead
  | keyAlready (line : Nat)
  | keyFileTooLarge
  | keyRemoveUnconfirmed
  | keySelection
  | keyAbsent
  | keyLast
  | pathTooLong
  | cannotWrite
  | cannotClose
  | cannotInstall
  | cannotSync
  | keysRuntimeDir
  | keysRuntimeActivation
deriving DecidableEq

/-- `save_atomic_file`: the file afterwards, absent or with its contents, and an error. -/
def saveAtomicFile (calls : SaveCalls) (file : Option Text) (contents : Text) :
    Option Text × Option Error :=
  if calls.fits = false then (file, some .pathTooLong)
  else if calls.written = false then (file, some .cannotWrite)
  else if calls.closed = false then (file, some .cannotClose)
  else if calls.renamed = false then (file, some .cannotInstall)
  else if calls.synced = false then (some contents, some .cannotSync)
  else (some contents, none)

/-- What `mkdir` reports. -/
inductive Made where
  | created
  | exists
  | failed
deriving DecidableEq

/-- What everything outside the server does in a request. -/
structure Calls where
  candidatesAllocated : Bool
  locked : Bool
  read : Bool
  updatedAllocated : Bool
  persistent : SaveCalls
  directory : Made
  moded : Bool
  runtime : SaveCalls

/-- The persistent keys file and the copy of it. -/
structure Files where
  persistent : Option Text
  runtime : Option Text
deriving DecidableEq

def installAuthorizedKeys (calls : Calls) (files : Files) (contents : Text) :
    Files × Option Error :=
  match saveAtomicFile calls.persistent files.persistent contents with
  | (persistent, some error) => ({ files with persistent }, some error)
  | (persistent, none) =>
    if calls.directory = .failed then ({ files with persistent }, some .keysRuntimeDir)
    else if calls.moded = false then ({ files with persistent }, some .keysRuntimeActivation)
    else
      match saveAtomicFile calls.runtime files.runtime contents with
      | (runtime, some _) => ({ persistent, runtime }, some .keysRuntimeActivation)
      | (runtime, none) => ({ persistent, runtime }, none)

/-- `MAX_AUTHORIZED_KEYS`. -/
def maxAuthorizedKeys : Nat := 64 * 1024

def readAuthorizedKeys (calls : Calls) (file : Option Text) : Option Text :=
  if calls.read = false then none
  else
    match file with
    | none => some []
    | some text => if maxAuthorizedKeys < text.length then none else some text

/-! ### Lines -/

/-- `struct public_key_line`: a key and its text between the blanks of a line. -/
structure KeyLine where
  key : PublicKey
  text : Text
deriving DecidableEq

/-- A submitted line without the blanks around it. -/
def trimBlanks (line : Text) : Text := (line.dropWhile isBlank).rdropWhile isBlank

/-- The keys of the submitted lines, after so many that were found before. -/
def candidateLines (count : Nat) : List Text → Except Error (List KeyLine)
  | [] => .ok []
  | line :: rest =>
    let text := trimBlanks line
    if text = [] then candidateLines count rest
    else
      match parsePublicKey text with
      | none => .error (.keyMalformed (count + 1))
      | some key => (candidateLines (count + 1) rest).map ({ key, text } :: ·)

/-- The place of the first key that was submitted before. -/
def duplicateLine (prior : List PublicKey) : List PublicKey → Option Nat
  | [] => none
  | key :: rest =>
    if prior.any key.same then some (prior.length + 1)
    else duplicateLine (prior ++ [key]) rest

/-- The place of the first key that is in a line of the file. -/
def presentLine (existing : List Text) (place : Nat) : List PublicKey → Option Nat
  | [] => none
  | key :: rest =>
    if existing.any fun line => (parsePublicKey line).any key.same then some (place + 1)
    else presentLine existing (place + 1) rest

/-- `MAX_AUTHORIZED_KEYS - line_len - 1`, in unsigned arithmetic. -/
def roomBefore (target : Config.Target) (length : Nat) : Nat :=
  (maxAuthorizedKeys + 2 ^ target.longBits - length - 1) % 2 ^ target.longBits

/-- The size of the file with the new lines, unless it is too large. -/
def updatedLength (target : Config.Target) (used : Nat) : List KeyLine → Option Nat
  | [] => some used
  | line :: rest =>
    if roomBefore target line.text.length < used then none
    else updatedLength target (used + line.text.length + 1) rest

/-- A file with lines added, after a newline where its last line has none. -/
def appended (file : Text) (lines : List KeyLine) : Text :=
  terminated file ++ (closed (lines.map KeyLine.text)).flatten

/-! ### Requests -/

/-- The file with the submitted keys, or why there is none. -/
def addedKeys (target : Config.Target) (calls : Calls) (file : Option Text) (body : Text) :
    Except Error (Text × List KeyLine) :=
  match WebForm.formValue body "public_key" with
  | none => .error .keyRequired
  | some value =>
    let input := WebForm.normalizeNewlines value
    if value = [] then .error .keyRequired
    else if maxAuthorizedKeys < input.length then .error .keysTooLarge
    else if calls.candidatesAllocated = false then .error .outOfMemory
    else
      match candidateLines 0 (bodies input) with
      | .error error => .error error
      | .ok candidates =>
        if candidates = [] then .error .keyRequired
        else
          match duplicateLine [] (candidates.map KeyLine.key) with
          | some line => .error (.keyDuplicateLine line)
          | none =>
            if calls.locked = false then .error .lockUsers
            else
              match readAuthorizedKeys calls file with
              | none => .error .keysRead
              | some existing =>
                match presentLine (bodies existing) 0 (candidates.map KeyLine.key) with
                | some line => .error (.keyAlready line)
                | none =>
                  match updatedLength target (terminated existing).length candidates with
                  | none => .error .keyFileTooLarge
                  | some _ =>
                    if calls.updatedAllocated = false then .error .outOfMemory
                    else .ok (appended existing candidates, candidates)

/-- What the loop of `remove_authorized_key` has found. -/
structure Removal where
  found : Bool
  remainingSupported : Nat
  updated : Text

/-- One line of the loop of `remove_authorized_key`. -/
def Removal.line (wanted : PublicKey) (removal : Removal) (line : Text) : Removal :=
  let current := parsePublicKey (lineBody line)
  if removal.found = false ∧ current.any wanted.same = true then { removal with found := true }
  else
    { removal with
      remainingSupported :=
        if current.isSome then removal.remainingSupported + 1 else removal.remainingSupported
      updated := removal.updated ++ line }

/-- The file without the selected key, or why there is none. -/
def remainingKeys (calls : Calls) (file : Option Text) (body : Text) : Except Error Text :=
  let requested := WebForm.formValue body "public_key"
  let confirmation := WebForm.formValue body "confirm"
  if confirmation ≠ some (bytes "yes") then .error .keyRemoveUnconfirmed
  else
    match requested.bind parsePublicKey with
    | none => .error .keySelection
    | some wanted =>
      if calls.locked = false then .error .lockUsers
      else
        match readAuthorizedKeys calls file with
        | none => .error .keysRead
        | some existing =>
          if calls.updatedAllocated = false then .error .outOfMemory
          else
            let removal := (getline existing).foldl (Removal.line wanted)
              { found := false, remainingSupported := 0, updated := [] }
            if removal.found = false then .error .keyAbsent
            else if removal.remainingSupported = 0 then .error .keyLast
            else .ok removal.updated

/-- Install the new file of a request, and count the keys it adds. -/
def install (calls : Calls) (files : Files) : Except Error (Text × Nat) → Files × Except Error Nat
  | .error error => (files, .error error)
  | .ok (contents, count) =>
    match installAuthorizedKeys calls files contents with
    | (files, none) => (files, .ok count)
    | (files, some error) => (files, .error error)

def addAuthorizedKeys (target : Config.Target) (calls : Calls) (files : Files) (body : Text) :
    Files × Except Error Nat :=
  install calls files ((addedKeys target calls files.persistent body).map fun (contents, lines) =>
    (contents, lines.length))

def removeAuthorizedKey (calls : Calls) (files : Files) (body : Text) :
    Files × Except Error Nat :=
  install calls files ((remainingKeys calls files.persistent body).map fun contents =>
    (contents, 0))

/-- A request, with what happens outside the server while it is served. -/
inductive Request where
  | add (body : Text) (calls : Calls)
  | remove (body : Text) (calls : Calls)

def Request.calls : Request → Calls
  | .add _ calls => calls
  | .remove _ calls => calls

/-- The new file of a request and the number of keys it adds, or why there is none. -/
def Request.contents (target : Config.Target) (file : Option Text) :
    Request → Except Error (Text × Nat)
  | .add body calls => (addedKeys target calls file body).map fun (contents, lines) =>
      (contents, lines.length)
  | .remove body calls => (remainingKeys calls file body).map fun contents => (contents, 0)

def step (target : Config.Target) (files : Files) : Request → Files × Except Error Nat
  | .add body calls => addAuthorizedKeys target calls files body
  | .remove body calls => removeAuthorizedKey calls files body

def run (target : Config.Target) (files : Files) (requests : List Request) : Files :=
  requests.foldl (fun files request => (step target files request).1) files

end AuthorizedKeys
