/-
This file models the tool that takes the telemetry out of a video: it cuts a byte stream, which it
reads in chunks, into NAL units at what a regular expression matches, and reads the telemetry
records in the SEI units.

The parser of the JSON text is the one of the standard library, and stands as a parameter.
-/

import CameraGimbal.Bytes
import Mathlib.Data.List.DropRight

namespace VideoTelemetry

/-- `UUID`. -/
def uuid : Bytes :=
  [0x8d, 0x64, 0x6b, 0x4e, 0x55, 0x6f, 0x4a, 0x90, 0x8b, 0x7c, 0x35, 0xe6, 0x29, 0x51, 0x03, 0x21]

/-! ### NAL units -/

/-- The length of the match of `START` at the head of the data; zero when there is none. -/
def startMatch : Bytes → Nat
  | 0 :: 0 :: 0 :: 1 :: _ => 4
  | 0 :: 0 :: 1 :: _ => 3
  | _ => 0

/-- A match of a regular expression. -/
structure Match where
  start : Nat
  stop : Nat
  deriving DecidableEq, Repr

/-- `START.finditer`, for the data from a position on. -/
def finditer (position : Nat) (data : Bytes) : List Match :=
  match data with
  | [] => []
  | byte :: rest =>
    if _none : startMatch (byte :: rest) = 0 then finditer (position + 1) rest
    else
      { start := position, stop := position + startMatch (byte :: rest) } ::
        finditer (position + startMatch (byte :: rest))
          ((byte :: rest).drop (startMatch (byte :: rest)))
termination_by data.length
decreasing_by
  · exact Nat.lt_succ_self _
  · rw [List.length_drop, List.length_cons]
    omega

/-- `rstrip(b"\0")`. -/
def rstrip (data : Bytes) : Bytes := data.rdropWhile (· == 0)

/-- What is yielded of what is pending: what is between two matches. -/
def between (pending : Bytes) (starts : List Match) : List Bytes :=
  (starts.zip starts.tail).map fun (first, second) =>
    rstrip ((pending.take second.start).drop first.stop)

/-- What is still pending. -/
def keep (pending : Bytes) (starts : List Match) : Bytes :=
  match starts.getLast? with
  | some last => pending.drop last.start
  | none => if 4 < pending.length then pending.drop (pending.length - 4) else pending

/-- What is yielded at the end. -/
def lastNal (pending : Bytes) : List Bytes :=
  if startMatch pending = 0 then [] else [rstrip (pending.drop (startMatch pending))]

/-- The loop of `nals`, with the chunks that are still to be read; behind them a read gives
nothing. -/
def nalsLoop (pending : Bytes) : List Bytes → List Bytes
  | [] =>
    between pending (finditer 0 pending) ++ lastNal (keep pending (finditer 0 pending))
  | chunk :: chunks =>
    let grown := pending ++ chunk
    let starts := finditer 0 grown
    between grown starts ++
      if chunk = [] then lastNal (keep grown starts) else nalsLoop (keep grown starts) chunks

def nals (chunks : List Bytes) : List Bytes := nalsLoop [] chunks

/-! ### Records -/

/-- The loop that takes out the bytes of the emulation prevention. -/
def rbspBytes : Nat → Bytes → Bytes
  | _, [] => []
  | zeros, byte :: rest =>
    if zeros = 2 ∧ byte = 3 then rbspBytes 0 rest
    else byte :: rbspBytes (if byte = 0 then zeros + 1 else 0) rest

/-- A field: as many bytes of 255 as there are, and one more. -/
def readField : Bytes → Option (Nat × Bytes)
  | [] => none
  | byte :: rest =>
    if byte = 255 then (readField rest).map fun (value, rest) => (255 + value, rest)
    else some (byte.toNat, rest)

theorem readField_shrinks {data rest : Bytes} {value : Nat}
    (read : readField data = some (value, rest)) : rest.length < data.length := by
  induction data generalizing value with
  | nil => exact nomatch read
  | cons byte others hypothesis =>
    unfold readField at read
    split at read
    · obtain ⟨⟨last, _⟩, isLast, same⟩ := Option.map_eq_some_iff.mp read
      obtain ⟨-, rfl⟩ := Prod.mk.inj same
      exact (hypothesis isLast).trans (Nat.lt_succ_self _)
    · obtain ⟨-, rfl⟩ := Prod.mk.inj (Option.some.inj read)
      exact Nat.lt_succ_self _

section Records

variable {Json Error : Type} (loads : Bytes → Except Error Json)

/-- The loop over the messages: the records that are yielded, and the error that ends it, if one
does. -/
def records (data : Bytes) : List Json × Option Error :=
  if data = [] ∨ data = [0x80] then ([], none)
  else
    match _kind : readField data with
    | none => ([], none)
    | some (kind, behindKind) =>
      match _size : readField behindKind with
      | none => ([], none)
      | some (size, behind) =>
        if behind.length < size then ([], none)
        else
          let payload := behind.take size
          let later := records (behind.drop size)
          if kind = 5 ∧ payload.take 16 = uuid then
            match loads (payload.drop 16) with
            | .error error => ([], some error)
            | .ok record => (record :: later.1, later.2)
          else later
termination_by data.length
decreasing_by
  have first := readField_shrinks _kind
  have second := readField_shrinks _size
  rw [List.length_drop]
  omega

/-- The size of the header of a NAL unit. -/
def header (codec : String) : Nat := if codec = "h265" ∨ codec = "hevc" then 2 else 1

def telemetry (codec : String) (nal : Bytes) : List Json × Option Error :=
  match nal with
  | [] => ([], none)
  | first :: _ =>
    let kind := if header codec = 2 then (first >>> 1) &&& 63 else first &&& 31
    let kinds : Bytes := if header codec = 2 then [39, 40] else [6]
    if kind ∈ kinds then records loads (rbspBytes 0 (nal.drop (header codec))) else ([], none)

end Records

end VideoTelemetry
