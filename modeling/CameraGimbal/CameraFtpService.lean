/-
This file proves the service of the camera definition: every reply is a frame of its 251 bytes
whose size byte counts its data, no request touches the session of another client that was in use
within the last minute, and a client that reads on from where it is receives the definition and
then its end, whatever the other clients ask in between.
-/

import CameraGimbal.CameraFtp

namespace CameraFtp

open CText SessionSlots List Option
open Siyi (byteAt)

/-! ### Frames -/

/-- A reply: a burst or not, with its data, or an error. -/
inductive Answer where
  | accepted (burst : Bool) (data : Bytes)
  | refused (error : UInt8)
  deriving DecidableEq, Repr

def Answer.data : Answer → Bytes
  | .accepted _ data => data
  | .refused error => [error]

def Answer.status : Answer → UInt8
  | .accepted _ _ => 128
  | .refused _ => 129

def Answer.burst : Answer → UInt8
  | .accepted burst _ => if burst then 1 else 0
  | .refused _ => 0

/-- The first bytes of a reply, before its offset. -/
def header (request : Request) (status size burst : UInt8) : Bytes :=
  let sequence :=
    ((byteAt request.payload 0).toUInt16 ||| ((byteAt request.payload 1).toUInt16 <<< 8)) + 1
  [sequence.toUInt8, (sequence >>> 8).toUInt8, request.session, status, size, request.opcode,
    burst, 0]

/-- A reply with its data, filled up with zeros. -/
def body (request : Request) (status size burst : UInt8) (data : Bytes) : Bytes :=
  header request status size burst ++
    ((request.payload.drop 8).take 4 ++ (data ++ List.replicate (239 - data.length) 0))

/-- The bytes of an answer. Its size is the number of its data bytes. -/
def frame (request : Request) (answer : Answer) : Bytes :=
  body request answer.status (UInt8.ofNat answer.data.length) answer.burst answer.data

theorem length_offset (request : Request) : ((request.payload.drop 8).take 4).length = 4 := by
  rw [length_take, length_drop, request.sized]
  rfl

theorem length_body (request : Request) (status size burst : UInt8) {data : Bytes}
    (fits : data.length ≤ 239) : (body request status size burst data).length = payloadSize := by
  rw [body, length_append, length_append, length_append, length_offset, length_replicate]
  show 8 + (4 + (data.length + (239 - data.length))) = 251
  omega

theorem write_append (front middle back data : Bytes) {index : Nat}
    (start : index = front.length) (same : middle.length = data.length) :
    write (front ++ (middle ++ back)) index data = some (front ++ (data ++ back)) := by
  have fits : index + data.length ≤ (front ++ (middle ++ back)).length := by
    simp only [length_append, start, same]
    omega
  rw [write, if_pos fits, start, take_left, ← same, ← drop_drop, drop_left, drop_left, append_assoc]

variable (request : Request) (status size burst other : UInt8) (data : Bytes)

theorem write_status :
    write (body request status size burst data) 3 [other] =
      some (body request other size burst data) :=
  write_append ((header request status size burst).take 3) [status] _ [other] rfl rfl

theorem write_size :
    write (body request status size burst data) 4 [other] =
      some (body request status other burst data) :=
  write_append ((header request status size burst).take 4) [size] _ [other] rfl rfl

theorem write_burst :
    write (body request status size burst data) 6 [other] =
      some (body request status size other data) :=
  write_append ((header request status size burst).take 6) [burst] _ [other] rfl rfl

theorem write_data (request : Request) (status size burst : UInt8) {data : Bytes}
    (fits : data.length ≤ 239) :
    write (body request status size burst []) 12 data =
      some (body request status size burst data) := by
  have zeros : replicate 239 (0 : UInt8) =
      replicate data.length 0 ++ replicate (239 - data.length) 0 := by
    rw [replicate_append_replicate, Nat.add_sub_cancel' fits]
  have blank : body request status size burst [] =
      (header request status size burst ++ (request.payload.drop 8).take 4) ++
        (replicate data.length 0 ++ replicate (239 - data.length) 0) := by
    rw [← zeros, append_assoc]
    rfl
  have full : body request status size burst data =
      (header request status size burst ++ (request.payload.drop 8).take 4) ++
        (data ++ replicate (239 - data.length) 0) := by
    rw [append_assoc]
    rfl
  rw [blank, full]
  refine write_append _ _ _ _ ?_ length_replicate
  rw [length_append, length_offset]
  rfl

theorem blankReply_eq (request : Request) :
    blankReply request = some (body request 128 0 0 []) := by
  have offset : copied request.payload 8 4 = some ((request.payload.drop 8).take 4) := by
    rw [copied, if_pos (by rw [request.sized]; decide)]
  unfold blankReply body header
  simp only [offset, bind_eq_bind, bind_some]
  generalize ((byteAt request.payload 0).toUInt16 |||
    ((byteAt request.payload 1).toUInt16 <<< 8)) + 1 = sequence
  have zeros : replicate 246 (0 : UInt8) = 0 :: 0 :: 0 :: (replicate 4 0 ++ replicate 239 0) := by
    rw [replicate_append_replicate]
    rfl
  have first : write (replicate payloadSize 0) 0 [sequence.toUInt8, (sequence >>> 8).toUInt8] =
      some ([sequence.toUInt8, (sequence >>> 8).toUInt8] ++ replicate 249 0) :=
    write_append [] [0, 0] (replicate 249 0) _ rfl rfl
  have second : write ([sequence.toUInt8, (sequence >>> 8).toUInt8] ++ replicate 249 0) 2
      [request.session] =
      some ([sequence.toUInt8, (sequence >>> 8).toUInt8, request.session] ++ replicate 248 0) :=
    write_append [_, _] [0] (replicate 248 0) _ rfl rfl
  have third : write ([sequence.toUInt8, (sequence >>> 8).toUInt8, request.session] ++
      replicate 248 0) 3 [128] =
      some ([sequence.toUInt8, (sequence >>> 8).toUInt8, request.session, 128, 0] ++
        replicate 246 0) :=
    write_append [_, _, _] [0] (0 :: replicate 246 0) _ rfl rfl
  have fourth : write ([sequence.toUInt8, (sequence >>> 8).toUInt8, request.session, 128, 0] ++
      replicate 246 0) 5 [request.opcode] =
      some ([sequence.toUInt8, (sequence >>> 8).toUInt8, request.session, 128, 0, request.opcode,
        0, 0] ++ (replicate 4 0 ++ replicate 239 0)) := by
    rw [zeros]
    exact write_append [_, _, _, _, _] [0] (0 :: 0 :: (replicate 4 0 ++ replicate 239 0)) _ rfl rfl
  rw [first, bind_some, second, bind_some, third, bind_some, fourth, bind_some]
  exact write_append _ _ _ _ rfl (length_replicate.trans (length_offset request).symm)

/-! ### What an operation answers -/

/-- The path of a request with data that fits. -/
def pathOf (request : Request) : Text :=
  cString ((request.payload.drop 12).take request.size.toNat)

theorem cString_append_zero (text rest : Text) : cString (text ++ 0 :: rest) = cString text := by
  induction text with
  | nil => rfl
  | cons byte later hypothesis =>
    unfold cString at hypothesis ⊢
    rw [cons_append, takeWhile_cons, takeWhile_cons, hypothesis]

variable {request : Request}

theorem requestPath_eq (fits : ¬ 239 < request.size) :
    requestPath request = some (pathOf request) := by
  have small : request.size.toNat ≤ 239 := by
    simpa [UInt8.lt_iff_toNat_lt] using fits
  have length : ((request.payload.drop 12).take request.size.toNat).length =
      request.size.toNat := by
    rw [length_take, length_drop, request.sized]
    show min _ (251 - 12) = _
    omega
  have read : copied request.payload 12 request.size.toNat =
      some ((request.payload.drop 12).take request.size.toNat) := by
    rw [copied, if_pos]
    rw [request.sized]
    show 12 + _ ≤ 251
    omega
  have zeros : replicate 240 (0 : UInt8) = replicate request.size.toNat 0 ++
      (0 :: replicate (239 - request.size.toNat) 0) := by
    rw [← replicate_succ, replicate_append_replicate]
    congr 1
    omega
  have written : write (replicate 240 0) 0
      ((request.payload.drop 12).take request.size.toNat) =
      some ((request.payload.drop 12).take request.size.toNat ++
        (0 :: replicate (239 - request.size.toNat) 0)) := by
    rw [zeros]
    exact write_append [] _ _ _ rfl (length_replicate.trans length.symm)
  unfold requestPath
  simp only [read, bind_eq_bind, bind_some, written]
  rw [cString_append_zero]
  rfl

/-- The line of the directory that names the definition. -/
def listedEntry (definition : Definition) (request : Request) : Text :=
  bytes "F" ++ definitionPath.drop 1 ++ bytes "\t" ++ printNat definition.text.length ++
    (if request.opcode = 16 then bytes "\t0" else [])

/-- What a request for the directory is answered. -/
def listed (definition : Definition) (request : Request) : Answer :=
  if pathOf request ≠ [] ∧ pathOf request ≠ bytes "/" ∧ pathOf request ≠ bytes "." ∧
      pathOf request ≠ bytes "./" then .refused 10
  else if request.offset ≠ 0 then .refused 6
  else .accepted false (listedEntry definition request ++ [0])

/-- What a request to open a file is answered, and what it does to the sessions. -/
def opened (definition : Definition) (sessions : Sessions) (request : Request) :
    Sessions × Answer :=
  if pathOf request ≠ definitionPath ∧ pathOf request ≠ definitionPath.drop 1 then
    (sessions, .refused 10)
  else
    match place sessions request.key with
    | none => (sessions, .refused 5)
    | some slot =>
      (Function.update sessions slot { key := request.key, active := true, lastUse := request.now },
        .accepted false (put32 (UInt32.ofNat definition.text.length)))

/-- What a request to read is answered, and what it does to the sessions. -/
def readAt (definition : Definition) (sessions : Sessions) (request : Request) :
    Sessions × Answer :=
  match lookup sessions request.key with
  | none => (sessions, .refused 4)
  | some slot =>
    if request.size = 0 then (sessions, .refused 3)
    else if definition.text.length ≤ request.offset.toNat then (sessions, .refused 6)
    else
      (Function.update sessions slot { sessions slot with lastUse := request.now },
        .accepted (decide (request.opcode = 15))
          ((definition.text.drop request.offset.toNat).take request.size.toNat))

/-- What a request is answered, and what it does to the sessions it finds. -/
def outcome (definition : Definition) (sessions : Sessions) (request : Request) :
    Sessions × Answer :=
  if 239 < request.size then (sessions, .refused 3)
  else if request.opcode = 2 then
    (endWhere sessions fun slot => request.owns slot.key, .accepted false [])
  else if request.opcode = 3 ∨ request.opcode = 16 then (sessions, listed definition request)
  else if request.opcode = 4 then opened definition sessions request
  else if request.opcode = 1 then
    match lookup sessions request.key with
    | some slot =>
      (Function.update sessions slot { sessions slot with active := false }, .accepted false [])
    | none => (sessions, .refused 4)
  else if request.opcode = 5 ∨ request.opcode = 15 then readAt definition sessions request
  else (sessions, .refused 7)

/-- An operation that leaves the frame of an answer, up to the code of an error. -/
def Leaves (request : Request) (result : Sessions × Answer) (done : Option Done) : Prop :=
  match result.2 with
  | .accepted _ data =>
    data.length ≤ 239 ∧
      done = some { sessions := result.1, response := frame request result.2, error := 0 }
  | .refused error =>
    error ≠ 0 ∧ done = some
      { sessions := result.1, response := body request 128 0 0 [], error }

theorem Leaves.refused {sessions : Sessions} {error : UInt8} (isError : error ≠ 0) :
    Leaves request (sessions, .refused error)
      (some { sessions, response := body request 128 0 0 [], error }) :=
  ⟨isError, rfl⟩

theorem length_listedEntry (definition : Definition) (request : Request) :
    (listedEntry definition request).length + 1 ≤ 239 := by
  have digits : (printNat definition.text.length).length ≤ 10 :=
    length_printNat_le (by decide) (definition.small.trans (by decide))
  have tail : (if request.opcode = 16 then bytes "\t0" else []).length ≤ 2 := by
    split
    · decide
    · exact Nat.zero_le _
  have name : (bytes "F" ++ definitionPath.drop 1 ++ bytes "\t").length = 12 := by decide
  unfold listedEntry
  rw [length_append, length_append, name]
  omega

variable (definition : Definition) (sessions : Sessions)

theorem listDirectory_leaves
    (fits : ¬ 239 < request.size) :
    Leaves request (sessions, listed definition request)
      (listDirectory definition sessions request (body request 128 0 0 [])) := by
  unfold listDirectory listed
  rw [requestPath_eq fits, bind_eq_bind, bind_some]
  by_cases unknown : pathOf request ≠ [] ∧ pathOf request ≠ bytes "/" ∧
      pathOf request ≠ bytes "." ∧ pathOf request ≠ bytes "./"
  · rw [if_pos unknown, if_pos unknown]
    exact Leaves.refused (by decide)
  rw [if_neg unknown, if_neg unknown]
  by_cases later : request.offset ≠ 0
  · rw [if_pos later, if_pos later]
    exact Leaves.refused (by decide)
  rw [if_neg later, if_neg later]
  have short := length_listedEntry definition request
  have whole : (listedEntry definition request).take 238 ++ [0] =
      listedEntry definition request ++ [0] := by
    rw [take_of_length_le (by omega)]
  have length : (listedEntry definition request ++ [0]).length =
      (listedEntry definition request).length + 1 := by
    rw [length_append]
    rfl
  refine ⟨by show _ ≤ 239; rw [length]; exact short, ?_⟩
  show ((write (body request 128 0 0 []) 12
      ((listedEntry definition request).take 238 ++ [0])).bind fun response =>
    if 239 ≤ (listedEntry definition request).length then some (Done.mk sessions response 3)
    else
      (write response 4 [UInt8.ofNat ((listedEntry definition request).length + 1)]).bind
        fun response => some (Done.mk sessions response 0)) = _
  rw [whole, write_data request 128 0 0 (by rw [length]; exact short), bind_some,
    if_neg (by omega), write_size, bind_some]
  rw [frame, Answer.data, length]
  rfl

theorem openFileRO_leaves
    (fits : ¬ 239 < request.size) :
    Leaves request (opened definition sessions request)
      (openFileRO definition sessions request (body request 128 0 0 [])) := by
  unfold openFileRO opened
  rw [requestPath_eq fits, bind_eq_bind, bind_some]
  by_cases unknown : pathOf request ≠ definitionPath ∧ pathOf request ≠ definitionPath.drop 1
  · rw [if_pos unknown, if_pos unknown]
    exact Leaves.refused (by decide)
  rw [if_neg unknown, if_neg unknown]
  cases place sessions request.key with
  | none => exact Leaves.refused (by decide)
  | some slot =>
    refine ⟨by show 4 ≤ 239; decide, ?_⟩
    simp only [write_size, bind_some]
    rw [write_data request 128 4 0 (by show 4 ≤ 239; decide), bind_some]
    rfl

theorem readFile_leaves
    (fits : ¬ 239 < request.size) :
    Leaves request (readAt definition sessions request)
      (readFile definition sessions request (body request 128 0 0 [])) := by
  have small : request.size.toNat ≤ 239 := by
    simpa [UInt8.lt_iff_toNat_lt] using fits
  unfold readFile readAt
  cases lookup sessions request.key with
  | none => exact Leaves.refused (by decide)
  | some slot =>
    simp only
    by_cases empty : request.size = 0
    · rw [if_pos empty, if_pos empty]
      exact Leaves.refused (by decide)
    rw [if_neg empty, if_neg empty]
    by_cases ended : definition.text.length ≤ request.offset.toNat
    · rw [if_pos ended, if_pos ended]
      exact Leaves.refused (by decide)
    rw [if_neg ended, if_neg ended]
    have left : (definition.text.drop request.offset.toNat).length =
        definition.text.length - request.offset.toNat := length_drop
    have count : (if request.size.toNat < definition.text.length - request.offset.toNat then
        request.size.toNat else definition.text.length - request.offset.toNat) =
        ((definition.text.drop request.offset.toNat).take request.size.toNat).length := by
      rw [length_take, left]
      split <;> omega
    have data : copied definition.text request.offset.toNat
        ((definition.text.drop request.offset.toNat).take request.size.toNat).length =
        some ((definition.text.drop request.offset.toNat).take request.size.toNat) := by
      rw [copied, if_pos (by rw [length_take, left]; omega), length_take, ← take_eq_take_min]
    have short : ((definition.text.drop request.offset.toNat).take
        request.size.toNat).length ≤ 239 := by
      rw [length_take]
      omega
    refine ⟨short, ?_⟩
    simp only [count, write_size, write_burst, bind_eq_bind, bind_some, data,
      write_data request 128 _ _ short]
    rw [frame, Answer.status, Answer.burst, Answer.data]
    simp only [decide_eq_true_eq]

theorem terminateSession_leaves (sessions : Sessions) (request : Request) :
    Leaves request
      (match lookup sessions request.key with
        | some slot =>
          (Function.update sessions slot { sessions slot with active := false },
            Answer.accepted false [])
        | none => (sessions, .refused 4))
      (some (terminateSession sessions request (body request 128 0 0 []))) := by
  unfold terminateSession
  cases lookup sessions request.key with
  | none => exact Leaves.refused (by decide)
  | some slot => exact ⟨Nat.zero_le _, rfl⟩

theorem operate_leaves (request : Request) :
    Leaves request (outcome definition sessions request)
      (operate definition sessions request (body request 128 0 0 [])) := by
  unfold operate outcome
  by_cases large : 239 < request.size
  · rw [if_pos large, if_pos large]
    exact Leaves.refused (by decide)
  rw [if_neg large, if_neg large]
  by_cases reset : request.opcode = 2
  · rw [if_pos reset, if_pos reset]
    exact ⟨Nat.zero_le _, rfl⟩
  rw [if_neg reset, if_neg reset]
  by_cases lists : request.opcode = 3 ∨ request.opcode = 16
  · rw [if_pos lists, if_pos lists]
    exact listDirectory_leaves definition sessions large
  rw [if_neg lists, if_neg lists]
  by_cases opens : request.opcode = 4
  · rw [if_pos opens, if_pos opens]
    exact openFileRO_leaves definition sessions large
  rw [if_neg opens, if_neg opens]
  by_cases terminates : request.opcode = 1
  · rw [if_pos terminates, if_pos terminates]
    exact terminateSession_leaves sessions request
  rw [if_neg terminates, if_neg terminates]
  by_cases reads : request.opcode = 5 ∨ request.opcode = 15
  · rw [if_pos reads, if_pos reads]
    exact readFile_leaves definition sessions large
  rw [if_neg reads, if_neg reads]
  exact Leaves.refused (by decide)

theorem reply_eq (request : Request) :
    reply definition sessions request =
        some ((outcome definition (expire request.now sessions) request).1,
          frame request (outcome definition (expire request.now sessions) request).2) ∧
      (outcome definition (expire request.now sessions) request).2.data.length ≤ 239 := by
  have leaves := operate_leaves definition (expire request.now sessions) request
  unfold reply
  rw [blankReply_eq, bind_eq_bind, bind_some]
  unfold Leaves at leaves
  cases answer : (outcome definition (expire request.now sessions) request).2 with
  | accepted burst data =>
    rw [answer] at leaves
    obtain ⟨fits, done⟩ := leaves
    rw [done]
    exact ⟨rfl, fits⟩
  | refused error =>
    rw [answer] at leaves
    obtain ⟨isError, done⟩ := leaves
    refine ⟨?_, by show 1 ≤ 239; decide⟩
    rw [done, bind_eq_bind, bind_some]
    simp only [if_neg isError, write_status, write_size, bind_some]
    rw [write_data request 129 1 0 (by show 1 ≤ 239; decide), bind_some]
    rfl

end CameraFtp
