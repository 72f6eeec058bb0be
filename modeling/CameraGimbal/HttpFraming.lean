/-
This file is about where the web server takes the body of a request to end. Another server in front
of it goes by what HTTP says the header block means, and the two have to agree.

They agree on the blocks that the server accepts unless its lookup misses a field, because the value
does not fit the buffer or another field of the name comes first, or its number is read from a value
that has more than digits.
-/

import CameraGimbal.HttpReceiving

namespace HttpRequest

open CText StreamBuffer List Option

/-! ### Accepted requests -/

variable {length : Nat}

theorem headerEnd_take {text : Text} (found : headerEnd text = some length) :
    headerEnd (text.take length) = some length := by
  induction text generalizing length with
  | nil => cases found
  | cons byte rest hypothesis =>
    rw [headerEnd] at found
    split at found
    · next here =>
      cases found
      obtain ⟨later, same⟩ := here
      rw [← same]
      rfl
    · next later =>
      obtain ⟨inner, isInner, rfl⟩ := map_eq_some_iff.mp found
      have absent : ¬ [13, 10, 13, 10] <+: byte :: rest.take inner := fun here =>
        later (here.trans (List.take_prefix (inner + 1) (byte :: rest)))
      rw [take_succ_cons, headerEnd, if_neg absent, hypothesis isInner]
      rfl

/-- The server lets a header block pass, with this length for the body. -/
structure Accepts (width : Width) (header : Text) (length : Nat) : Prop where
  isBlock : IsBlock header
  noNul : 0 ∉ header
  small : header.length ≤ maxHeader
  uncoded : transferEncoding header = none
  checks : ∃ line present, requestLine header = some line ∧
    parseContentLength width header = some (length, present) ∧
    (line.needsLength = true → present = true) ∧ (line.streams = true ∨ length ≤ maxBody)

variable {request : Request} {memory : Text} {used headerLength : Nat}
  {answers : List (Answer UInt8)}

theorem receiveRest_done {received : Request} (inside : used < memory.length)
    (begun : headerLength ≤ used) (room : headerLength + request.contentLength < memory.length)
    (isDone : receiveRest request memory used headerLength answers = .done 0 received) :
    ∃ body, body.length = request.contentLength ∧
      received = { request with header := memory.take headerLength, body } := by
  unfold receiveRest at isDone
  dsimp only at isDone
  have sound := @bodyLoop_sound (headerLength + request.contentLength) used memory answers inside
  generalize bodyLoop _ memory used answers = body at sound isDone
  cases body with
  | waiting => cases isDone
  | fault => cases isDone
  | incomplete => cases isDone
  | complete stored =>
    obtain ⟨size, begins⟩ := sound
    have fits : headerLength + request.contentLength + [(0 : UInt8)].length ≤ stored.length := by
      rw [size]
      exact room
    obtain ⟨last, isLast, same, behind⟩ := exists_store fits
    dsimp only at isDone
    rw [isLast] at isDone
    injection isDone with _ isReceived
    have header : last.take headerLength = memory.take headerLength := by
      have shorter := congrArg (take headerLength) behind
      have earlier := congrArg (take headerLength) begins
      rw [take_take, take_take, min_eq_left begun] at earlier
      rw [take_take, min_eq_left (by omega), take_append_of_le_length
        (by rw [length_take_of_le] <;> omega), take_take, min_eq_left (by omega),
        earlier] at shorter
      exact shorter
    refine ⟨(last.drop headerLength).take request.contentLength, ?_, ?_⟩
    · rw [length_take, length_drop]
      omega
    · rw [← isReceived, header]

variable {expanded : Option (Nat → UInt8)}

theorem receiveBody_done {received : Request}
    (inside : used < memory.length) (begun : headerLength ≤ used)
    (isDone : receiveBody expanded request memory used headerLength answers = .done 0 received) :
    ∃ body, body.length = request.contentLength ∧
      received = { request with header := memory.take headerLength, body } := by
  unfold receiveBody at isDone
  dsimp only at isDone
  split at isDone
  · next short =>
    cases expanded with
    | none => cases isDone
    | some contents =>
      have size := length_expand contents short.le
      obtain ⟨body, isLength, isReceived⟩ := receiveRest_done (by omega) begun (by omega) isDone
      refine ⟨body, isLength, ?_⟩
      rw [isReceived, expand, take_append_of_le_length (by omega)]
  · next room => exact receiveRest_done inside begun (by omega) isDone

theorem Found.header (found : Found memory used headerLength) :
    ∃ more, cString memory = memory.take headerLength ++ more ∧
      (memory.take headerLength).length = headerLength ∧ IsBlock (memory.take headerLength) ∧
      0 ∉ memory.take headerLength := by
  have long := length_headerEnd found.block
  have isPrefix : cString memory <+: memory := takeWhile_prefix _
  have same : memory.take headerLength = (cString memory).take headerLength := by
    obtain ⟨behind, isMemory⟩ := isPrefix
    nth_rewrite 1 [← isMemory]
    exact take_append_of_le_length long
  have size : ((cString memory).take headerLength).length = headerLength := length_take_of_le long
  refine ⟨(cString memory).drop headerLength, ?_, ?_, ?_, fun member => ?_⟩
  · rw [same, take_append_drop]
  · rw [same, size]
  · rw [same, IsBlock, size]
    exact headerEnd_take found.block
  · rw [same] at member
    exact nul_notMem_cString memory (mem_of_mem_take member)

variable {width : Width}

/-- The words of the first line come from the header block, since nothing was received behind a
block without a length. -/
theorem Found.requestLine (found : Found memory used headerLength)
    {line : RequestLine} {present : Bool}
    (passes : Passes width memory used headerLength line length present) :
    HttpRequest.requestLine (memory.take headerLength) = some line := by
  obtain ⟨more, text, size, isBlock, -⟩ := found.header
  have asked := passes.asked
  cases fields : fieldLines contentLengthName (memory.take headerLength) with
  | nil =>
    have declares : Declares (memory.take headerLength) 0 := by
      refine ⟨fun field isField => ?_, fun _ => rfl⟩
      rw [fields] at isField
      cases isField
    have read := passes.read
    rw [parseContentLength_of_declares declares, if_pos (.inl fields)] at read
    have isZero := (Prod.mk.inj (some.inj read)).1
    have sizes := congrArg List.length text
    rw [List.length_append, size] at sizes
    have received := found.received
    have enough := passes.enough
    obtain rfl : more = [] := List.length_eq_zero_iff.mp (by omega)
    rwa [text, List.append_nil] at asked
  | cons field rest =>
    obtain ⟨other, isOther⟩ := requestLine_of_field (fields ▸ List.mem_cons_self)
    have whole := requestLine_append isOther isBlock.endsInSpace more
    rw [← text, asked] at whole
    rw [isOther, whole]

theorem receiveMessage_done (found : Found memory used headerLength)
    (isDone : receiveMessage width expanded memory used headerLength answers = .done 0 request) :
    Accepts width request.header request.contentLength ∧
      (request.streamingBody = false → request.body.length = request.contentLength) := by
  obtain ⟨more, text, size, isBlock, noNul⟩ := found.header
  have accepts {line : RequestLine} {length : Nat} {present : Bool}
      (passes : Passes width memory used headerLength line length present)
      (bounded : line.streams = true ∨ length ≤ maxBody) :
      Accepts width (memory.take headerLength) length :=
    { isBlock, noNul
      small := size.trans_le found.small
      uncoded := passes.uncoded
      checks :=
        ⟨line, present, found.requestLine passes, passes.read, passes.needed, bounded⟩ }
  obtain ⟨status, other, failed, refused⟩ |
      ⟨line, length, present, passes, ⟨streams, streamed⟩ | ⟨small, rest⟩⟩ :=
    receiveMessage_cases width expanded memory used headerLength answers
  · rw [refused] at isDone
    injection isDone with isZero
    exact absurd isZero failed
  · rw [streamed] at isDone
    injection isDone with _ isRequest
    rw [← isRequest]
    exact ⟨accepts passes (.inl streams), nofun⟩
  · rw [rest] at isDone
    have bounded := found.bounded
    have capacity := found.size
    obtain ⟨body, isLength, rfl⟩ := receiveBody_done (by omega) found.begins isDone
    exact ⟨accepts passes (.inr small), fun _ => isLength⟩

theorem receiveRequest_done {allocations : Allocations}
    (isDone : receiveRequest width allocations answers = .done 0 request) :
    Accepts width request.header request.contentLength ∧
      (request.streamingBody = false → request.body.length = request.contentLength) := by
  unfold receiveRequest at isDone
  split at isDone
  · cases isDone
  have begun := headerLoop_sound answers
    (length_replicate : (replicate (maxHeader + 1) (0 : UInt8)).length = _)
    (show 0 < maxHeader by decide)
  generalize headerLoop (replicate (maxHeader + 1) 0) 0 answers = heading at begun isDone
  cases heading with
  | waiting => cases isDone
  | fault => cases isDone
  | failed => cases isDone
  | stopped used =>
    dsimp only at isDone
    split at isDone <;> cases isDone
  | tooLong => cases isDone
  | found memory used headerLength rest => exact receiveMessage_done begun.1 isDone

theorem Accepts.exists_done {header : Text}
    (accepts : Accepts width header length) : ∃ allocations answers request,
      receiveRequest width allocations answers = .done 0 request ∧ request.header = header ∧
        request.contentLength = length := by
  obtain ⟨isBlock, noNul, small, uncoded, line, present, asked, read, needed, bounded⟩ := accepts
  have allocated : (Allocations.mk true (some fun _ => 0)).storage = true := rfl
  have begun : header ≠ [] := by
    rintro rfl
    cases asked
  -- the header block with its body in one piece, and without it when the body goes to a file
  have piece {body : Text} : Brings (header ++ body) [.received (header ++ body)] := by
    have brings := Brings.received (append_ne_nil_of_left_ne_nil begun body) .nil
    rwa [append_nil] at brings
  cases streams : line.streams with
  | true =>
    obtain ⟨part, more, following, isBody, -, fits, found⟩ :=
      receiveRequest_brings width allocated isBlock noNul small (@piece []) []
    obtain ⟨rfl, rfl⟩ := append_eq_nil_iff.mp isBody.symm
    have complete : ¬ (length < ([] : Text).length ∨
        (line.needsLength = true ∧ present = false)) := by
      rintro (fewer | ⟨needs, absent⟩)
      · cases fewer
      · rw [needed needs] at absent
        cases absent
    have noCoding : ¬ (transferEncoding header).isSome = true := by
      rw [uncoded]
      decide
    rw [receiveMessage_image width _ isBlock noNul fits asked, read] at found
    dsimp only at found
    rw [if_neg noCoding, if_neg complete, if_pos streams] at found
    exact ⟨_, _, _, found, rfl, rfl⟩
  | false =>
    have isLength : (replicate length (0 : UInt8)).length = length := length_replicate
    have unstreamed : length ≤ maxBody := bounded.resolve_left (by rw [streams]; decide)
    have found := receiveRequest_whole isBlock noNul small asked streams uncoded
      (isLength.symm ▸ read) needed (isLength.symm ▸ unstreamed) allocated
      (@piece (replicate length 0)) []
    rw [if_neg fun both => by cases both.2] at found
    exact ⟨_, _, _, found, rfl, isLength⟩

/-! ### Strict framing -/

/-- In every request that is accepted with a header block, the block says what the server takes it
to say: there is no transfer coding, and the body has the length. -/
def FramedStrictly (width : Width) (header : Text) : Prop :=
  ∀ allocations answers request, receiveRequest width allocations answers = .done 0 request →
    request.header = header →
    fieldLines transferEncodingName header = [] ∧ Declares header request.contentLength ∧
      request.contentLength ≤ width.sizeMax ∧
      (request.streamingBody = false → request.body.length = request.contentLength)

/-- A header block that leaves nothing open: no transfer coding, digits alone in every field with
the length, the same number in all of them, and zero when the first is too long to be looked up. -/
structure Unambiguous (header : Text) : Prop where
  uncoded : fieldLines transferEncodingName header = []
  digits : ∀ line ∈ fieldLines contentLengthName header,
    fieldValue contentLengthName line ≠ [] ∧
      ∀ byte ∈ fieldValue contentLengthName line, isDigit byte = true
  agree : ∀ first ∈ fieldLines contentLengthName header,
    ∀ second ∈ fieldLines contentLengthName header,
      decimal (fieldValue contentLengthName first) = decimal (fieldValue contentLengthName second)
  short : ∀ first ∈ (fieldLines contentLengthName header).head?,
    64 ≤ (fieldValue contentLengthName first).length →
      decimal (fieldValue contentLengthName first) = 0

theorem Unambiguous.declares {header : Text} (plain : Unambiguous header) :
    ∃ length, Declares header length ∧ (Overlong header → length = 0) := by
  cases lines : fieldLines contentLengthName header with
  | nil =>
    refine ⟨0, ⟨fun line field => ?_, fun _ => rfl⟩, fun _ => rfl⟩
    rw [lines] at field
    cases field
  | cons first rest =>
    have isFirst : first ∈ fieldLines contentLengthName header := lines ▸ mem_cons_self
    refine ⟨decimal (fieldValue contentLengthName first),
      ⟨fun line field => ?_, fun none => ?_⟩, ?_⟩
    · obtain ⟨nonempty, digits⟩ := plain.digits line field
      exact ⟨nonempty, digits, plain.agree line field first isFirst⟩
    · rw [lines] at none
      cases none
    · rintro ⟨line, head, long⟩
      have zero := plain.short line head long
      rw [lines] at head
      cases head
      exact zero

theorem unambiguous_of_declares {header : Text}
    (uncoded : fieldLines transferEncodingName header = [])
    (declares : Declares header length) (short : Overlong header → length = 0) :
    Unambiguous header where
  uncoded
  digits line field := ⟨(declares.fields line field).nonempty, (declares.fields line field).digits⟩
  agree first isFirst second isSecond :=
    (declares.fields first isFirst).number.trans (declares.fields second isSecond).number.symm
  short first head long :=
    (declares.fields first (mem_of_head? head)).number.trans (short ⟨first, head, long⟩)

/-- The framing is strict for the header blocks that leave nothing open, and for those that the
server refuses. -/
theorem framedStrictly_iff (width : Width) (header : Text) :
    FramedStrictly width header ↔
      ((∃ length, Accepts width header length) → Unambiguous header) := by
  constructor
  · rintro strict ⟨length, accepts⟩
    obtain ⟨allocations, answers, request, isDone, isHeader, rfl⟩ := accepts.exists_done
    obtain ⟨uncoded, declares, -, -⟩ := strict allocations answers request isDone isHeader
    refine unambiguous_of_declares uncoded declares fun overlong => ?_
    obtain ⟨line, present, -, read, -⟩ := accepts.checks
    rw [parseContentLength_of_declares declares, if_pos (.inr overlong)] at read
    exact (Prod.mk.inj (Option.some.inj read)).1.symm
  · rintro plain allocations answers request isDone rfl
    obtain ⟨accepts, whole⟩ := receiveRequest_done isDone
    have unambiguous := plain ⟨_, accepts⟩
    have uncoded := unambiguous.uncoded
    obtain ⟨length, declares, short⟩ := unambiguous.declares
    obtain ⟨line, present, -, read, -⟩ := accepts.checks
    rw [parseContentLength_of_declares declares] at read
    split at read
    · next unread =>
      have isZero := (Prod.mk.inj (Option.some.inj read)).1
      have none : length = 0 := by
        cases unread with
        | inl fieldless => exact declares.none fieldless
        | inr overlong => exact short overlong
      rw [none, isZero] at declares
      exact ⟨uncoded, declares, isZero ▸ Nat.zero_le _, whole⟩
    · split at read
      · next fits =>
        obtain rfl := (Prod.mk.inj (Option.some.inj read)).1
        exact ⟨uncoded, declares, fits, whole⟩
      · cases read

/-- A request whose length has a sign, which the server reads. -/
def signedHeader : Text := bytes "POST / HTTP/1.1\r\nContent-Length: +5\r\n\r\n"

theorem signedHeader_framed : ¬ ∀ width header, FramedStrictly width header := by
  intro strict
  have accepts : Accepts .bits64 signedHeader 5 :=
    ⟨by decide, by decide, by decide, by decide,
      { method := bytes "POST", path := bytes "/", query := [] }, true, by decide,
      by decide, fun _ => rfl, .inr (by decide)⟩
  obtain ⟨allocations, answers, request, isDone, isHeader, isLength⟩ := accepts.exists_done
  obtain ⟨-, declares, -, -⟩ :=
    strict .bits64 signedHeader allocations answers request isDone isHeader
  rw [isLength] at declares
  exact absurd declares (by decide)

end HttpRequest
