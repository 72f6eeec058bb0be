/-
This file models how the web server receives a request: the header block and what came with it go
to one allocation, which grows when the length of the body is known.

Where the answers to `recv` cut the stream has to make no difference. It makes one for a length
that does not fit the buffer of the lookup: the server then takes the body for bytes behind the
request, and refuses the request when it sees one of them early.
-/

import CameraGimbal.HttpHeaders
import CameraGimbal.StreamBuffer

namespace HttpRequest

open CText StreamBuffer List Option

/-! ### The model -/

/-- `MAX_HEADER`. -/
def maxHeader : Nat := 16 * 1024

/-- `MAX_BODY`. -/
def maxBody : Nat := 256 * 1024

/-- What the first loop ends with: it still waits, it wrote outside the allocation, a call failed,
it stopped without the end of a block, or with one. -/
inductive Heading where
  | waiting
  | fault
  | failed
  | stopped (used : Nat)
  | tooLong
  | found (memory : Text) (used headerLength : Nat) (answers : List (Answer UInt8))

def headerLoop (memory : Text) (used : Nat) : List (Answer UInt8) → Heading
  | [] => .waiting
  | .interrupted :: answers => headerLoop memory used answers
  | .failed :: _ => .failed
  | .received chunk :: answers =>
    let room := memory.length - used - 1
    let got := chunk.take room
    if got = [] then .stopped used
    else
      match (store memory used got).bind (store · (used + got.length) [0]) with
      | none => .fault
      | some stored =>
        match headerEnd (cString stored) with
        | some length =>
          if maxHeader < length then .tooLong
          else .found stored (used + got.length) length (leftover room chunk answers)
        | none =>
          if used + got.length < maxHeader then headerLoop stored (used + got.length) answers
          else .stopped (used + got.length)

/-- What the second loop ends with. -/
inductive Body where
  | waiting
  | fault
  | incomplete
  | complete (memory : Text)

/-- The loop that receives the rest of the body. A call that could bring more than there is room
for is the last one. -/
def bodyLoop (wanted : Nat) (memory : Text) (used : Nat) : List (Answer UInt8) → Body
  | [] => if wanted ≤ used then .complete memory else .waiting
  | answer :: answers =>
    if wanted ≤ used then .complete memory
    else
      match answer with
      | .interrupted => bodyLoop wanted memory used answers
      | .failed => .incomplete
      | .received chunk =>
        let got := chunk.take (memory.length - used - 1)
        if got = [] then .incomplete
        else
          match store memory used got with
          | none => .fault
          | some stored => bodyLoop wanted stored (used + got.length) answers

/-- The memory that the function gets: whether there is any, and the bytes that stand in what
`realloc` adds, when it adds something. -/
structure Allocations where
  storage : Bool
  expanded : Option (Nat → UInt8)

/-- `realloc` to a size that is not smaller. -/
def expand (contents : Nat → UInt8) (memory : Text) (size : Nat) : Text :=
  memory ++ (List.range (size - memory.length)).map contents

/-- `struct request`, with the bytes that its pointers and lengths enclose. -/
structure Request where
  method : Text
  path : Text
  query : Text
  header : Text
  body : Text
  contentLength : Nat
  streamingBody : Bool
  deriving DecidableEq

/-- The request that the caller provides, and one that was cleared. -/
def Request.zero : Request where
  method := []
  path := []
  query := []
  header := []
  body := []
  contentLength := 0
  streamingBody := false

def RequestLine.request (line : RequestLine) : Request :=
  { Request.zero with method := line.method, path := line.path, query := line.query }

/-- What the reception ends with: it still waits, it wrote outside an allocation, or it returns a
status, zero for a request that was received and -1 for one that was not. -/
inductive Reception where
  | waiting
  | fault
  | done (status : Int) (request : Request)

/-- The rest of the body behind what came with the header block, in memory for all of it. -/
def receiveRest (request : Request) (memory : Text) (used headerLength : Nat)
    (answers : List (Answer UInt8)) : Reception :=
  let wanted := headerLength + request.contentLength
  match bodyLoop wanted memory used answers with
  | .waiting => .waiting
  | .fault => .fault
  | .incomplete => .done (-1) .zero
  | .complete memory =>
    match store memory wanted [0] with
    | none => .fault
    | some memory =>
      .done 0 { request with
        header := memory.take headerLength
        body := (memory.drop headerLength).take request.contentLength }

/-- The rest of the body, after the allocation was made large enough for it. -/
def receiveBody (expanded : Option (Nat → UInt8)) (request : Request) (memory : Text)
    (used headerLength : Nat) (answers : List (Answer UInt8)) : Reception :=
  let size := headerLength + request.contentLength + 1
  if memory.length < size then
    match expanded with
    | none => .done 500 .zero
    | some contents =>
      receiveRest request (expand contents memory size) used headerLength answers
  else receiveRest request memory used headerLength answers

/-- What is done with a header block that was found. -/
def receiveMessage (width : Width) (expanded : Option (Nat → UInt8)) (memory : Text)
    (used headerLength : Nat) (answers : List (Answer UInt8)) : Reception :=
  match requestLine (cString memory) with
  | none =>
    .done 400 { Request.zero with method := ((scanWord 11 (cString memory)).map Prod.fst).getD [] }
  | some line =>
    let header := memory.take headerLength
    match parseContentLength width header with
    | none => .done 400 line.request
    | some (contentLength, present) =>
      if (transferEncoding header).isSome then .done 400 line.request
      else if contentLength < used - headerLength ∨ (line.needsLength ∧ present = false) then
        .done 400 .zero
      else if line.streams then
        .done 0 { line.request with
          header
          body := (memory.drop headerLength).take (used - headerLength)
          contentLength
          streamingBody := true }
      else if maxBody < contentLength then .done 413 .zero
      else receiveBody expanded { line.request with contentLength } memory used headerLength answers

def receiveRequest (width : Width) (allocations : Allocations) (answers : List (Answer UInt8)) :
    Reception :=
  if allocations.storage = false then .done 500 .zero
  else
    match headerLoop (List.replicate (maxHeader + 1) 0) 0 answers with
    | .waiting => .waiting
    | .fault => .fault
    | .failed => .done (-1) .zero
    | .stopped used => .done (if maxHeader ≤ used then 431 else -1) .zero
    | .tooLong => .done 431 .zero
    | .found memory used headerLength answers =>
      receiveMessage width allocations.expanded memory used headerLength answers

/-! ### No write outside, and an end -/

theorem cString_append_nul (before after : Text) :
    cString (before ++ 0 :: after) = cString before := by
  induction before with
  | nil => rfl
  | cons byte rest hypothesis =>
    unfold cString at hypothesis ⊢
    rw [cons_append, takeWhile_cons, takeWhile_cons, hypothesis]

theorem nul_notMem_cString (buffer : Text) : 0 ∉ cString buffer := fun member =>
  have different := @mem_takeWhile_imp _ (fun byte => decide (byte ≠ 0)) buffer 0 member
  absurd rfl (of_decide_eq_true different)

theorem length_headerEnd {text : Text} {length : Nat} (found : headerEnd text = some length) :
    length ≤ text.length := by
  obtain ⟨before, later, rfl, rfl⟩ := headerEnd_spec found
  simp only [length_append, length_cons, length_nil]
  omega

variable {memory : Text} {used : Nat}

theorem exists_received {got : Text} (fits : used + got.length < memory.length) :
    ∃ stored, (store memory used got).bind (store · (used + got.length) [0]) = some stored ∧
      stored.length = memory.length ∧ (cString stored).length ≤ used + got.length := by
  obtain ⟨first, isFirst, size, -⟩ := exists_store (show used + got.length ≤ memory.length by omega)
  have inside : used + got.length + [(0 : UInt8)].length ≤ first.length := by
    rw [size]
    exact fits
  obtain ⟨stored, isStored, same, -⟩ := exists_store inside
  refine ⟨stored, by rw [isFirst, bind_some, isStored], same.trans size, ?_⟩
  rw [store_of_le inside] at isStored
  cases isStored
  rw [singleton_append, cString_append_nul]
  exact (takeWhile_sublist _).length_le.trans (length_take_le _ _)

/-- A header block that was found, behind these bytes that were received. -/
structure Found (memory : Text) (used headerLength : Nat) : Prop where
  size : memory.length = maxHeader + 1
  block : headerEnd (cString memory) = some headerLength
  small : headerLength ≤ maxHeader
  received : (cString memory).length ≤ used
  bounded : used ≤ maxHeader

variable {headerLength : Nat}

theorem Found.begins (found : Found memory used headerLength) : headerLength ≤ used :=
  (length_headerEnd found.block).trans found.received

/-- What holds of the first loop from these bytes on: it writes inside its memory, and every
response brings it nearer to its end. -/
def Heading.Sound (used : Nat) (answers : List (Answer UInt8)) : Heading → Prop
  | .waiting => used + responses answers < maxHeader
  | .fault => False
  | .found memory total headerLength rest =>
    Found memory total headerLength ∧ used + responses answers ≤ total + responses rest
  | .failed => True
  | .stopped _ => True
  | .tooLong => True

theorem headerLoop_sound (answers : List (Answer UInt8)) (size : memory.length = maxHeader + 1)
    (room : used < maxHeader) : (headerLoop memory used answers).Sound used answers := by
  induction answers generalizing memory used with
  | nil => exact room
  | cons answer answers hypothesis =>
    cases answer with
    | interrupted => exact hypothesis size room
    | failed => trivial
    | received chunk =>
      have one : responses (.received chunk :: answers) = responses answers + 1 :=
        countP_cons_of_pos rfl
      unfold headerLoop
      dsimp only
      generalize isRoom : memory.length - used - 1 = room
      have bounded : (chunk.take room).length ≤ room := length_take_le _ _
      generalize chunk.take room = got at bounded
      split
      · trivial
      next some =>
      have progress := length_pos_iff.mpr some
      obtain ⟨stored, isStored, same, inside⟩ :=
        exists_received (show used + got.length < memory.length by omega)
      rw [isStored]
      dsimp only
      split
      · next length block =>
        split
        · trivial
        · next small =>
          have more := responses_leftover room chunk answers
          have found : Found stored (used + got.length) length :=
            ⟨same.trans size, block, not_lt.mp small, inside, by omega⟩
          exact ⟨found, by omega⟩
      · split
        · next going =>
          have rest := hypothesis (same.trans size) going
          generalize headerLoop stored (used + got.length) answers = heading at rest
          cases heading with
          | waiting =>
            have fewer : used + got.length + responses answers < maxHeader := rest
            show used + responses _ < maxHeader
            omega
          | fault => exact rest
          | found memory total headerLength later =>
            obtain ⟨found, count⟩ := rest
            exact ⟨found, by omega⟩
          | failed => trivial
          | stopped _ => trivial
          | tooLong => trivial
        · trivial

/-- What holds of the second loop: what was received before stays in the memory. -/
def Body.Sound (wanted : Nat) (memory : Text) (used : Nat) (answers : List (Answer UInt8)) :
    Body → Prop
  | .waiting => used + responses answers < wanted
  | .fault => False
  | .incomplete => True
  | .complete stored => stored.length = memory.length ∧ stored.take used = memory.take used

theorem bodyLoop_sound {wanted used : Nat} {memory : Text} (answers : List (Answer UInt8))
    (inside : used < memory.length) :
    (bodyLoop wanted memory used answers).Sound wanted memory used answers := by
  induction answers generalizing memory used with
  | nil =>
    unfold bodyLoop
    split
    · exact ⟨rfl, rfl⟩
    · next short => exact not_le.mp short
  | cons answer answers hypothesis =>
    unfold bodyLoop
    split
    · exact ⟨rfl, rfl⟩
    cases answer with
    | interrupted => exact hypothesis inside
    | failed => trivial
    | received chunk =>
      have one : responses (.received chunk :: answers) = responses answers + 1 :=
        countP_cons_of_pos rfl
      dsimp only
      have bounded : (chunk.take (memory.length - used - 1)).length ≤ memory.length - used - 1 :=
        length_take_le _ _
      generalize chunk.take (memory.length - used - 1) = got at bounded
      split
      · trivial
      next some =>
      have progress := length_pos_iff.mpr some
      obtain ⟨stored, isStored, same, behind⟩ :=
        exists_store (show used + got.length ≤ memory.length by omega)
      rw [isStored]
      have rest := hypothesis (show used + got.length < stored.length by omega)
      dsimp only
      generalize bodyLoop wanted stored (used + got.length) answers = body at rest
      cases body with
      | waiting =>
        have fewer : used + got.length + responses answers < wanted := rest
        show used + responses _ < wanted
        omega
      | fault => exact rest
      | incomplete => trivial
      | complete last =>
        obtain ⟨size, begins⟩ := rest
        rw [behind] at begins
        refine ⟨size.trans same, ?_⟩
        have shorter := congrArg (take used) begins
        rw [take_take, min_eq_left (Nat.le_add_right _ _),
          take_append_of_le_length (by rw [length_take_of_le inside.le]),
          take_take, min_self] at shorter
        exact shorter

/-- The reception of the bytes that are missing writes inside its memory, and ends. -/
def Reception.Sound (bound : Nat) (answers : List (Answer UInt8)) : Reception → Prop
  | .waiting => responses answers < bound
  | .fault => False
  | .done _ _ => True

theorem length_expand (contents : Nat → UInt8) {size : Nat} (larger : memory.length ≤ size) :
    (expand contents memory size).length = size := by
  unfold expand
  rw [length_append, length_map, length_range]
  omega

theorem receiveRest_sound (request : Request) (answers : List (Answer UInt8))
    (inside : used < memory.length) (begun : headerLength ≤ used)
    (room : headerLength + request.contentLength < memory.length) :
    (receiveRest request memory used headerLength answers).Sound request.contentLength answers := by
  unfold receiveRest
  dsimp only
  have sound := @bodyLoop_sound (headerLength + request.contentLength) used memory answers inside
  generalize bodyLoop _ memory used answers = body at sound
  cases body with
  | waiting =>
    have fewer : used + responses answers < headerLength + request.contentLength := sound
    show responses answers < request.contentLength
    omega
  | fault => exact sound
  | incomplete => trivial
  | complete stored =>
    obtain ⟨size, -⟩ := sound
    have fits : headerLength + request.contentLength + [(0 : UInt8)].length ≤ stored.length := by
      rw [size]
      exact room
    obtain ⟨last, isLast, -⟩ := exists_store fits
    dsimp only
    rw [isLast]
    trivial

theorem receiveBody_sound (expanded : Option (Nat → UInt8)) (request : Request)
    (answers : List (Answer UInt8)) (inside : used < memory.length) (begun : headerLength ≤ used) :
    (receiveBody expanded request memory used headerLength answers).Sound request.contentLength
      answers := by
  unfold receiveBody
  dsimp only
  split
  · next short =>
    cases expanded with
    | none => trivial
    | some contents =>
      have size := length_expand contents short.le
      exact receiveRest_sound request answers (by omega) begun (by omega)
  · next room => exact receiveRest_sound request answers inside begun (by omega)

/-- What was found passes the checks of its header block. -/
structure Passes (width : Width) (memory : Text) (used headerLength : Nat) (line : RequestLine)
    (length : Nat) (present : Bool) : Prop where
  asked : requestLine (cString memory) = some line
  read : parseContentLength width (memory.take headerLength) = some (length, present)
  uncoded : transferEncoding (memory.take headerLength) = none
  enough : used - headerLength ≤ length
  needed : line.needsLength = true → present = true

variable (width : Width)

/-- A header block is refused, or it passes the checks, and its body goes to a file or is
received. -/
theorem receiveMessage_cases (expanded : Option (Nat → UInt8)) (memory : Text)
    (used headerLength : Nat) (answers : List (Answer UInt8)) :
    (∃ status request, status ≠ 0 ∧
      receiveMessage width expanded memory used headerLength answers = .done status request) ∨
    ∃ line length present, Passes width memory used headerLength line length present ∧
      (line.streams = true ∧
        receiveMessage width expanded memory used headerLength answers =
          .done 0 { line.request with
            header := memory.take headerLength
            body := (memory.drop headerLength).take (used - headerLength)
            contentLength := length
            streamingBody := true } ∨
      length ≤ maxBody ∧
        receiveMessage width expanded memory used headerLength answers =
          receiveBody expanded { line.request with contentLength := length } memory used
            headerLength answers) := by
  unfold receiveMessage
  split
  · exact .inl ⟨400, _, by decide, rfl⟩
  next line asked =>
  dsimp only
  split
  · exact .inl ⟨400, _, by decide, rfl⟩
  next length present read =>
  split
  · exact .inl ⟨400, _, by decide, rfl⟩
  next coded =>
  split
  · exact .inl ⟨400, _, by decide, rfl⟩
  next complete =>
  obtain ⟨enough, needed⟩ := not_or.mp complete
  have passes : Passes width memory used headerLength line length present :=
    { asked, read
      uncoded := not_isSome_iff_eq_none.mp coded
      enough := not_lt.mp enough
      needed := fun needs => Bool.eq_true_of_not_eq_false fun absent => needed ⟨needs, absent⟩ }
  split
  · next streams => exact .inr ⟨line, length, present, passes, .inl ⟨streams, rfl⟩⟩
  split
  · exact .inl ⟨413, _, by decide, rfl⟩
  next small => exact .inr ⟨line, length, present, passes, .inr ⟨not_lt.mp small, rfl⟩⟩

theorem receiveMessage_sound (expanded : Option (Nat → UInt8))
    (answers : List (Answer UInt8)) (inside : used < memory.length) (begun : headerLength ≤ used) :
    (receiveMessage width expanded memory used headerLength answers).Sound maxBody answers := by
  obtain ⟨status, request, -, refused⟩ |
      ⟨line, length, present, -, ⟨-, streamed⟩ | ⟨small, rest⟩⟩ :=
    receiveMessage_cases width expanded memory used headerLength answers
  · rw [refused]
    trivial
  · rw [streamed]
    trivial
  · rw [rest]
    have sound := receiveBody_sound expanded { line.request with contentLength := length } answers
      inside begun
    generalize receiveBody expanded _ memory used headerLength answers = reception at sound
    cases reception with
    | waiting => exact lt_of_lt_of_le sound small
    | fault => exact sound
    | done status request => trivial

section

variable (width : Width) (allocations : Allocations) (answers : List (Answer UInt8))

theorem receiveRequest_sound :
    (receiveRequest width allocations answers).Sound (maxHeader + maxBody) answers := by
  unfold receiveRequest
  split
  · trivial
  have begun := headerLoop_sound answers
    (length_replicate : (replicate (maxHeader + 1) (0 : UInt8)).length = _)
    (show 0 < maxHeader by decide)
  generalize headerLoop (replicate (maxHeader + 1) 0) 0 answers = heading at begun
  cases heading with
  | waiting =>
    have fewer : 0 + responses answers < maxHeader := begun
    show responses answers < maxHeader + maxBody
    omega
  | fault => exact begun
  | failed => trivial
  | stopped used => trivial
  | tooLong => trivial
  | found memory used headerLength rest =>
    obtain ⟨found, count⟩ := begun
    have bounded := found.bounded
    have sound := receiveMessage_sound width allocations.expanded rest
      (show used < memory.length by rw [found.size]; omega) found.begins
    dsimp only
    generalize receiveMessage _ _ _ _ _ _ = reception at sound
    cases reception with
    | waiting =>
      have fewer : responses rest < maxBody := sound
      show responses answers < maxHeader + maxBody
      omega
    | fault => exact sound
    | done status request => trivial

theorem receiveRequest_in_bounds : receiveRequest width allocations answers ≠ .fault := by
  intro faulty
  have sound := receiveRequest_sound width allocations answers
  rw [faulty] at sound
  exact sound

end

variable {answers : List (Answer UInt8)}

theorem receiveRequest_terminates (allocations : Allocations)
    (many : maxHeader + maxBody ≤ responses answers) :
    receiveRequest width allocations answers ≠ .waiting := by
  intro waits
  have sound := receiveRequest_sound width allocations answers
  rw [waits] at sound
  exact absurd many (not_le.mpr sound)

/-! ### Every split of a header block -/

/-- The memory with these bytes, and zeros behind them. -/
def image (content : Text) : Text := content ++ List.replicate (maxHeader + 1 - content.length) 0

theorem length_image {content : Text} (fits : content.length ≤ maxHeader) :
    (image content).length = maxHeader + 1 := by
  unfold image
  rw [length_append, length_replicate]
  omega

theorem cString_image {content : Text} (fits : content.length ≤ maxHeader) :
    cString (image content) = cString content := by
  unfold image
  rw [show maxHeader + 1 - content.length = maxHeader - content.length + 1 by omega,
    replicate_succ, cString_append_nul]

theorem cString_append {before : Text} (noNul : 0 ∉ before) (after : Text) :
    cString (before ++ after) = before ++ cString after := by
  unfold cString
  exact takeWhile_append_of_pos fun byte member =>
    decide_eq_true fun isNul => noNul (isNul ▸ member)

theorem store_image_received {written got : Text} (fits : written.length + got.length ≤ maxHeader) :
    (store (image written) written.length got).bind (store · (written.length + got.length) [0]) =
      some (image (written ++ got)) := by
  have first : store (image written) written.length got = some (image (written ++ got)) :=
    store_image (by omega)
  rw [first, bind_some, ← length_append]
  rw [← length_append] at fits
  have second : store (image (written ++ got)) (written ++ got).length [0] =
      some (written ++ got ++ [0] ++
        replicate (maxHeader + 1 - (written ++ got ++ [0]).length) 0) :=
    store_image (Nat.succ_le_succ fits)
  rw [second, image, append_assoc _ [0], singleton_append, ← replicate_succ,
    @length_append _ (written ++ got), length_singleton]
  congr
  omega

variable {header body : Text}

/-- Whatever the split is, the loop finds the block, with a part of the body behind it. -/
theorem headerLoop_brings (isBlock : IsBlock header) (noNul : 0 ∉ header)
    (small : header.length ≤ maxHeader) {rest written : Text} (brings : Brings rest answers)
    (whole : written ++ rest = header ++ body) (short : written.length < header.length)
    (later : List (Answer UInt8)) :
    ∃ part more following, body = part ++ more ∧ Brings more following ∧
      (header ++ part).length ≤ maxHeader ∧
      headerLoop (image written) written.length (answers ++ later) =
        .found (image (header ++ part)) (header ++ part).length header.length
          (following ++ later) := by
  induction brings generalizing written with
  | nil =>
    have sizes := congrArg length whole
    rw [append_nil, length_append] at sizes
    omega
  | interrupted _ hypothesis => exact hypothesis whole short
  | @received chunk stream answers nonempty brings hypothesis =>
    have capacity := length_image (show written.length ≤ maxHeader by omega)
    rw [cons_append, headerLoop, capacity]
    generalize isRoom : maxHeader + 1 - written.length - 1 = room
    have bounded : (chunk.take room).length ≤ room := length_take_le _ _
    have some : chunk.take room ≠ [] := fun none => by
      cases take_eq_nil_iff.mp none with
      | inl closed => omega
      | inr empty => exact nonempty empty
    have fits : written.length + (chunk.take room).length ≤ maxHeader := by omega
    rw [if_neg some, store_image_received fits]
    dsimp only
    rw [cString_image (by rwa [length_append])]
    have prefixes : written ++ chunk.take room <+: header ++ body := by
      rw [← whole, ← append_assoc]
      exact ((prefix_append_right_inj written).mpr (List.take_prefix room chunk)).trans
        (prefix_append _ _)
    by_cases inside : (written ++ chunk.take room).length < header.length
    · -- the block goes on behind the chunk, which there was room for
      have all : chunk.take room = chunk := by
        refine take_of_length_le (not_lt.mp fun long => ?_)
        rw [length_append, length_take_of_le long.le] at inside
        omega
      rw [all] at inside prefixes fits ⊢
      have isPart : written ++ chunk = header.take (written ++ chunk).length := by
        have same := prefix_iff_eq_take.mp prefixes
        rwa [take_append_of_le_length inside.le] at same
      have plain : 0 ∉ written ++ chunk := fun member =>
        noNul (mem_of_mem_take (isPart ▸ member))
      have absent : headerEnd (written ++ chunk) = none := by
        rw [isPart]
        exact isBlock.take inside
      rw [length_append] at inside
      rw [cString_eq_self plain, absent]
      rw [if_pos (by omega), ← length_append]
      rw [← append_assoc] at whole
      exact hypothesis whole (by rwa [length_append])
    · have begins : header <+: written ++ chunk.take room :=
        prefix_of_prefix_length_le (prefix_append header body) prefixes (not_lt.mp inside)
      obtain ⟨part, isPart⟩ := begins
      have rest : body = part ++ (chunk.drop room ++ stream) := by
        refine @append_cancel_left _ header _ _ ?_
        rw [← whole, ← append_assoc header, isPart, append_assoc written,
          ← append_assoc (chunk.take room), take_append_drop]
      refine ⟨part, chunk.drop room ++ stream, leftover room chunk answers, rest,
        brings.leftover room chunk, ?_, ?_⟩
      · rw [isPart, length_append]
        exact fits
      · rw [← isPart, cString_append noNul, headerEnd_append isBlock]
        dsimp only
        rw [if_neg (not_lt.mpr small), leftover_append, isPart, length_append]

theorem bodyLoop_complete {wanted : Nat} (enough : wanted ≤ used) (answers : List (Answer UInt8)) :
    bodyLoop wanted memory used answers = .complete memory := by
  cases answers with
  | nil => exact if_pos enough
  | cons answer answers => exact if_pos enough

theorem bodyLoop_brings {rest : Text} (brings : Brings rest answers) {whole : Text}
    (isWhole : memory.take used ++ rest = whole) (isUsed : used + rest.length = whole.length)
    (inside : whole.length < memory.length) (later : List (Answer UInt8)) :
    ∃ stored, bodyLoop whole.length memory used (answers ++ later) = .complete stored ∧
      stored.length = memory.length ∧ stored.take whole.length = whole := by
  induction brings generalizing memory used with
  | nil =>
    rw [append_nil] at isWhole
    rw [length_nil, add_zero] at isUsed
    refine ⟨memory, bodyLoop_complete isUsed.ge later, rfl, ?_⟩
    rw [← isUsed]
    exact isWhole
  | @interrupted stream answers _ hypothesis =>
    by_cases enough : whole.length ≤ used
    · refine ⟨memory, bodyLoop_complete enough _, rfl, ?_⟩
      have none : stream = [] := length_eq_zero_iff.mp (by omega)
      rw [none, append_nil] at isWhole
      rw [none, length_nil, add_zero] at isUsed
      rw [← isUsed]
      exact isWhole
    · obtain ⟨stored, complete, rest⟩ := hypothesis isWhole isUsed inside
      refine ⟨stored, ?_, rest⟩
      rw [cons_append, bodyLoop, if_neg enough]
      exact complete
  | @received chunk stream answers nonempty _ hypothesis =>
    have progress := length_pos_iff.mpr nonempty
    rw [length_append] at isUsed
    have all : chunk.take (memory.length - used - 1) = chunk := take_of_length_le (by omega)
    obtain ⟨stored, isStored, size, behind⟩ :=
      exists_store (show used + chunk.length ≤ memory.length by omega)
    rw [← append_assoc, ← behind] at isWhole
    obtain ⟨last, complete, same, isLast⟩ := hypothesis isWhole (by omega) (by rwa [size])
    refine ⟨last, ?_, same.trans size, isLast⟩
    rw [cons_append, bodyLoop, if_neg (by omega)]
    rw [all, if_neg nonempty, isStored]
    exact complete

/-! ### Every split of a request -/

variable {allocations : Allocations}

/-- Whatever the split is, the header block is found with a part of the body behind it. -/
theorem receiveRequest_brings (allocated : allocations.storage = true)
    (isBlock : IsBlock header) (noNul : 0 ∉ header) (small : header.length ≤ maxHeader)
    (brings : Brings (header ++ body) answers) (later : List (Answer UInt8)) :
    ∃ part more following, body = part ++ more ∧ Brings more following ∧
      (header ++ part).length ≤ maxHeader ∧
      receiveRequest width allocations (answers ++ later) =
        receiveMessage width allocations.expanded (image (header ++ part)) (header ++ part).length
          header.length (following ++ later) := by
  have some : ([] : Text).length < header.length := by
    obtain ⟨before, rfl⟩ := isBlock.ends
    simp
  obtain ⟨part, more, following, isBody, rest, fits, found⟩ :=
    headerLoop_brings isBlock noNul small brings (nil_append _) some later
  refine ⟨part, more, following, isBody, rest, fits, ?_⟩
  have empty : image [] = replicate (maxHeader + 1) 0 := rfl
  rw [empty, length_nil] at found
  unfold receiveRequest
  rw [if_neg (by rw [allocated]; decide), found]

/-- What the header block says does not depend on what came with it. -/
theorem receiveMessage_image (expanded : Option (Nat → UInt8))
    {header part : Text} (isBlock : IsBlock header) (noNul : 0 ∉ header)
    (fits : (header ++ part).length ≤ maxHeader) {line : RequestLine}
    (asked : requestLine header = some line) (answers : List (Answer UInt8)) :
    receiveMessage width expanded (image (header ++ part)) (header ++ part).length header.length
        answers =
      match parseContentLength width header with
      | none => .done 400 line.request
      | some (contentLength, present) =>
        if (transferEncoding header).isSome then .done 400 line.request
        else if contentLength < part.length ∨ (line.needsLength ∧ present = false) then
          .done 400 .zero
        else if line.streams then
          .done 0 { line.request with header, body := part, contentLength, streamingBody := true }
        else if maxBody < contentLength then .done 413 .zero
        else receiveBody expanded { line.request with contentLength } (image (header ++ part))
          (header ++ part).length header.length answers := by
  have words : requestLine (cString (image (header ++ part))) = some line := by
    rw [cString_image fits, cString_append noNul]
    exact requestLine_append asked isBlock.endsInSpace _
  have taken : (image (header ++ part)).take header.length = header := by
    unfold image
    rw [append_assoc, take_left]
  have dropped : ((image (header ++ part)).drop header.length).take part.length = part := by
    unfold image
    rw [append_assoc, drop_left, take_left]
  have count : (header ++ part).length - header.length = part.length := by
    rw [length_append, Nat.add_sub_cancel_left]
  unfold receiveMessage
  rw [words]
  rw [taken, count, dropped]

variable {following : List (Answer UInt8)}

/-- The rest of a body is received whole. -/
theorem receiveRest_brings {request : Request} {part more : Text}
    (isLength : request.contentLength = (part ++ more).length)
    (begins : memory.take (header ++ part).length = header ++ part)
    (inside : (header ++ (part ++ more)).length < memory.length)
    (brings : Brings more following) (later : List (Answer UInt8)) :
    receiveRest request memory (header ++ part).length header.length (following ++ later) =
      .done 0 { request with header, body := part ++ more } := by
  have whole : memory.take (header ++ part).length ++ more = header ++ (part ++ more) := by
    rw [begins, append_assoc]
  have count : (header ++ part).length + more.length = (header ++ (part ++ more)).length := by
    rw [← append_assoc, @length_append _ (header ++ part)]
  obtain ⟨stored, complete, size, isWhole⟩ := bodyLoop_brings brings whole count inside later
  have fits : (header ++ (part ++ more)).length + [(0 : UInt8)].length ≤ stored.length := by
    rw [size]
    exact inside
  obtain ⟨last, isLast, -, before⟩ := exists_store fits
  have holds : last.take (header ++ (part ++ more)).length = header ++ (part ++ more) := by
    have shorter := congrArg (take (header ++ (part ++ more)).length) before
    rw [take_take, min_eq_left (Nat.le_add_right _ _), isWhole, take_left] at shorter
    exact shorter
  obtain ⟨behind, rfl⟩ : header ++ (part ++ more) <+: last := prefix_iff_eq_take.mpr holds.symm
  unfold receiveRest
  dsimp only
  rw [isLength, ← length_append, complete]
  dsimp only
  rw [isLast, append_assoc header]
  dsimp only
  rw [take_left, drop_left, take_left, ← isLength]

/-- The body is received whole, unless there is no memory for it. -/
theorem receiveBody_brings (expanded : Option (Nat → UInt8)) {request : Request} {part more : Text}
    (fits : (header ++ part).length ≤ maxHeader)
    (isLength : request.contentLength = (part ++ more).length)
    (brings : Brings more following) (later : List (Answer UInt8)) :
    receiveBody expanded request (image (header ++ part)) (header ++ part).length header.length
        (following ++ later) =
      if maxHeader < (header ++ (part ++ more)).length ∧ expanded = none then .done 500 .zero
      else .done 0 { request with header, body := part ++ more } := by
  have capacity := length_image fits
  have begins : (image (header ++ part)).take (header ++ part).length = header ++ part := by
    unfold image
    exact take_left
  have wanted : header.length + request.contentLength = (header ++ (part ++ more)).length := by
    rw [isLength, ← length_append]
  unfold receiveBody
  rw [wanted, capacity]
  by_cases large : maxHeader < (header ++ (part ++ more)).length
  · rw [if_pos (Nat.succ_lt_succ large)]
    cases expanded with
    | none => rw [if_pos ⟨large, rfl⟩]
    | some contents =>
      rw [if_neg fun both => by cases both.2]
      have size := length_expand contents (show (image (header ++ part)).length ≤
        (header ++ (part ++ more)).length + 1 by omega)
      refine receiveRest_brings isLength ?_ (by rw [size]; exact Nat.lt_succ_self _) brings later
      unfold expand
      rw [take_append_of_le_length (by omega), begins]
  · rw [if_neg (fun less => large (Nat.lt_of_succ_lt_succ less)), if_neg fun both => large both.1]
    exact receiveRest_brings isLength begins (by omega) brings later

/-- The request is received alike, with these bytes as its body, however the stream is split. What
the answers are behind the stream makes no difference. -/
def ReceivedWhole (width : Width) (header body : Text) : Prop :=
  ∀ allocations : Allocations, ∃ status request,
    (∀ answers later, Brings (header ++ body) answers →
      receiveRequest width allocations (answers ++ later) = .done status request) ∧
    (status = 0 → request.header = header ∧ request.body = body)

/-- The length that the block gives is not looked up, and the body counts for bytes behind the
request. -/
def LosesBody (header body : Text) : Prop :=
  body ≠ [] ∧ Overlong header ∧ transferEncoding header = none ∧
    ∀ line ∈ requestLine header, line.needsLength = false

theorem maxBody_le : maxBody ≤ width.sizeMax := by
  cases width with
  | bits32 => decide
  | bits64 => decide

section

variable {width : Width} (isBlock : IsBlock header) (noNul : 0 ∉ header)
  (small : header.length ≤ maxHeader)

include isBlock noNul small

section

variable {line : RequestLine} (asked : requestLine header = some line)
  (plain : line.streams = false) (uncoded : transferEncoding header = none) {present : Bool}
  (read : parseContentLength width header = some (body.length, present))
  (needed : line.needsLength = true → present = true) (bounded : body.length ≤ maxBody)
  (allocated : allocations.storage = true)

include asked plain uncoded read needed bounded allocated

/-- A request whose length is read from its header block is received whole, unless there is no
memory for it. -/
theorem receiveRequest_whole (brings : Brings (header ++ body) answers)
    (later : List (Answer UInt8)) :
    receiveRequest width allocations (answers ++ later) =
      if maxHeader < (header ++ body).length ∧ allocations.expanded = none then .done 500 .zero
      else .done 0 { line.request with header, body, contentLength := body.length } := by
  obtain ⟨part, more, following, rfl, rest, fits, found⟩ :=
    receiveRequest_brings width allocated isBlock noNul small brings later
  have complete : ¬ ((part ++ more).length < part.length ∨
      (line.needsLength = true ∧ present = false)) := by
    rintro (fewer | ⟨needs, absent⟩)
    · rw [length_append] at fewer
      omega
    · rw [needed needs] at absent
      cases absent
  have noCoding : ¬ (transferEncoding header).isSome = true := by
    rw [uncoded]
    decide
  have unstreamed : ¬ line.streams = true := by
    rw [plain]
    decide
  rw [found, receiveMessage_image width _ isBlock noNul fits asked, read]
  dsimp only
  rw [if_neg noCoding, if_neg complete, if_neg unstreamed, if_neg (not_lt.mpr bounded),
    receiveBody_brings _ fits rfl rest]

/-- The outcome of a request whose length is read is the one that `receiveRequest_whole` gives. -/
theorem receivedWhole_of_read :
    ∃ status request,
      (∀ answers later, Brings (header ++ body) answers →
        receiveRequest width allocations (answers ++ later) = .done status request) ∧
      (status = 0 → request.header = header ∧ request.body = body) := by
  have whole {answers later : List (Answer UInt8)} (brings : Brings (header ++ body) answers) :=
    receiveRequest_whole isBlock noNul small asked plain uncoded read needed bounded allocated
      brings later
  by_cases unallocated : maxHeader < (header ++ body).length ∧ allocations.expanded = none
  · refine ⟨500, .zero, fun answers later brings => ?_, nofun⟩
    rw [whole brings, if_pos unallocated]
  · refine ⟨0, { line.request with header, body, contentLength := body.length },
      fun answers later brings => ?_, fun _ => ⟨rfl, rfl⟩⟩
    rw [whole brings, if_neg unallocated]

end

theorem receivedWhole_of (declares : Declares header body.length)
    (bounded : body.length ≤ maxBody) (plain : ∀ line ∈ requestLine header, line.streams = false)
    (kept : ¬ LosesBody header body) : ReceivedWhole width header body := by
  intro allocations
  cases allocated : allocations.storage with
  | false =>
    refine ⟨500, .zero, fun answers later _ => ?_, nofun⟩
    unfold receiveRequest
    exact if_pos allocated
  | true =>
    cases asked : requestLine header with
    | none =>
      -- without two words there is no length either, and nothing comes behind the header block
      have fieldless : fieldLines contentLengthName header = [] := by
        refine eq_nil_iff_forall_not_mem.mpr fun line field => ?_
        obtain ⟨line, isLine⟩ := requestLine_of_field field
        rw [asked] at isLine
        cases isLine
      obtain rfl : body = [] := length_eq_zero_iff.mp (declares.none fieldless)
      refine ⟨400,
        { Request.zero with method := ((scanWord 11 header).map Prod.fst).getD [] },
        fun answers later brings => ?_, nofun⟩
      obtain ⟨part, more, following, isBody, -, fits, found⟩ :=
        receiveRequest_brings width allocated isBlock noNul small brings later
      obtain ⟨rfl, rfl⟩ := append_eq_nil_iff.mp isBody.symm
      have text : cString (image (header ++ [])) = header := by
        rw [cString_image fits, append_nil, cString_eq_self noNul]
      rw [found, receiveMessage, text, asked]
    | some line =>
      have unstreamed := plain line asked
      have declared := parseContentLength_of_declares declares width
      rw [if_pos (bounded.trans (maxBody_le width))] at declared
      obtain ⟨read, isRead⟩ : ∃ read, parseContentLength width header = some read := by
        rw [declared]
        split <;> exact ⟨_, rfl⟩
      by_cases coded : (transferEncoding header).isSome = true
      · refine ⟨400, line.request, fun answers later brings => ?_, nofun⟩
        obtain ⟨part, more, following, -, -, fits, found⟩ :=
          receiveRequest_brings width allocated isBlock noNul small brings later
        rw [found, receiveMessage_image width _ isBlock noNul fits asked, isRead]
        exact if_pos coded
      have uncoded : transferEncoding header = none := Option.not_isSome_iff_eq_none.mp coded
      by_cases unread : fieldLines contentLengthName header = [] ∨ Overlong header
      · rw [if_pos unread] at declared
        by_cases needs : line.needsLength = true
        · refine ⟨400, .zero, fun answers later brings => ?_, nofun⟩
          obtain ⟨part, more, following, -, -, fits, found⟩ :=
            receiveRequest_brings width allocated isBlock noNul small brings later
          rw [found, receiveMessage_image width _ isBlock noNul fits asked, declared]
          dsimp only
          rw [if_neg coded, if_pos (.inr ⟨needs, rfl⟩)]
        · obtain rfl : body = [] := by
            cases unread with
            | inl fieldless => exact length_eq_zero_iff.mp (declares.none fieldless)
            | inr overlong =>
              by_contra some
              refine kept ⟨some, overlong, uncoded, fun other isOther => ?_⟩
              obtain rfl := Option.some.inj (asked.symm.trans isOther)
              exact Bool.eq_false_of_not_eq_true needs
          exact receivedWhole_of_read isBlock noNul small asked unstreamed uncoded declared
            (fun needed => absurd needed needs) bounded allocated
      · rw [if_neg unread] at declared
        exact receivedWhole_of_read isBlock noNul small asked unstreamed uncoded declared
          (fun _ => rfl) bounded allocated

end

theorem LosesBody.not_receivedWhole {width : Width} (loses : LosesBody header body)
    (isBlock : IsBlock header) (noNul : 0 ∉ header) (small : header.length ≤ maxHeader)
    (declares : Declares header body.length)
    (plain : ∀ line ∈ requestLine header, line.streams = false) :
    ¬ ReceivedWhole width header body := by
  obtain ⟨some, overlong, uncoded, needless⟩ := loses
  intro whole
  obtain ⟨status, request, always, exactly⟩ := whole ⟨true, .some fun _ => 0⟩
  have ⟨field, isFirst, _⟩ := overlong
  obtain ⟨line, asked⟩ := requestLine_of_field (mem_of_head? isFirst)
  have read := parseContentLength_of_declares declares width
  rw [if_pos (.inr overlong)] at read
  have begun : header ≠ [] := by
    rintro rfl
    cases asked
  have single : Brings (header ++ []) [.received header] := by
    have brings := Brings.received begun .nil
    rwa [append_nil] at brings ⊢
  have pair : Brings (header ++ body) [.received header, .received body] := by
    have brings := Brings.received begun (.received some .nil)
    rwa [append_nil] at brings
  have lost := receiveRequest_whole isBlock noNul small asked (plain line asked) uncoded read
    (fun needs => by rw [needless line asked] at needs; cases needs) (Nat.zero_le _)
    (rfl : (Allocations.mk true (.some fun _ => 0)).storage = true) single [.received body]
  rw [if_neg (fun both => by cases both.2), singleton_append] at lost
  have received := always _ [] pair
  rw [append_nil, lost] at received
  injection received with isZero isRequest
  obtain ⟨-, isBody⟩ := exactly isZero.symm
  rw [← isRequest] at isBody
  exact some isBody.symm

instance (header body : Text) : Decidable (LosesBody header body) :=
  inferInstanceAs (Decidable (_ ∧ _))

/-- The reception writes inside its memory and ends, and it takes a request whole unless it loses
the length. -/
theorem receiveRequest_whole_iff (width : Width) :
    (∀ allocations answers, receiveRequest width allocations answers ≠ .fault) ∧
    (∀ allocations answers, maxHeader + maxBody ≤ responses answers →
      receiveRequest width allocations answers ≠ .waiting) ∧
    ∀ {header body : Text}, IsBlock header → 0 ∉ header → header.length ≤ maxHeader →
      Declares header body.length → body.length ≤ maxBody →
      (∀ line ∈ requestLine header, line.streams = false) →
      (ReceivedWhole width header body ↔ ¬ LosesBody header body) := by
  refine ⟨receiveRequest_in_bounds width, fun allocations answers =>
    receiveRequest_terminates width allocations,
    fun isBlock noNul small declares bounded plain => ⟨?_, ?_⟩⟩
  · intro whole loses
    exact loses.not_receivedWhole isBlock noNul small declares plain whole
  · exact receivedWhole_of isBlock noNul small declares bounded plain

theorem receiveRequest_whole_hello :
    ReceivedWhole .bits64 (bytes "GET / HTTP/1.1\r\nContent-Length: 5\r\n\r\n") (bytes "hello") :=
  ((receiveRequest_whole_iff .bits64).2.2 (by decide) (by decide)
    (by decide) (by decide) (by decide) (by decide)).mpr (by decide)

/-- The block of a request with a body of five bytes, whose length has as many digits as the buffer
of the lookup has bytes. -/
def paddedHeader : Text :=
  bytes "GET / HTTP/1.1\r\nContent-Length: " ++ List.replicate 63 48 ++ bytes "5\r\n\r\n"

theorem paddedHeader_loses : ¬ ∀ (width : Width) (header body : Text), IsBlock header →
    0 ∉ header → header.length ≤ maxHeader → Declares header body.length →
    body.length ≤ maxBody → (∀ line ∈ requestLine header, line.streams = false) →
    ReceivedWhole width header body := by
  intro always
  have loses : LosesBody paddedHeader (bytes "hello") := by decide
  have isBlock : IsBlock paddedHeader := by decide +kernel
  have noNul : 0 ∉ paddedHeader := by decide
  have small : paddedHeader.length ≤ maxHeader := by decide
  have declares : Declares paddedHeader (bytes "hello").length := by decide
  have plain : ∀ line ∈ requestLine paddedHeader, line.streams = false := by decide
  exact loses.not_receivedWhole isBlock noNul small declares plain
    (always .bits64 _ _ isBlock noNul small declares (by decide) plain)

end HttpRequest
