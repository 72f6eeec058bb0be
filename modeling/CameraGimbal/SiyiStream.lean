/-
This file proves what the SIYI server makes of an incoming byte stream.

A turn of the loop over the input is followed as progress of the stream's
incoming half: a byte dropped, a packet dispatched, bytes read. As long as no
reply closes the stream of the request it answers, the accounting of the input
never goes below zero and the packets dispatched are those of the greedy scan.
-/

import CameraGimbal.SiyiSending

namespace SiyiServer

open Siyi Framing OutputQueue PendingTable Relation List

/-! ### The first header in the input -/

theorem scanStart_le (input : Bytes) : scanStart input ≤ input.length := by
  fun_induction scanStart input with
  | case1 first second rest other hypothesis =>
    simp only [length_cons] at hypothesis ⊢
    omega
  | case2 => exact Nat.zero_le _
  | case3 => exact Nat.zero_le _

/-- What `scanStart` leaves starts at a header, or is too short to tell. -/
theorem scanStart_aligned (input : Bytes) :
    (input.drop (scanStart input)).length < 2 ∨
      (byteAt (input.drop (scanStart input)) 0 = 0x55 ∧
        byteAt (input.drop (scanStart input)) 1 = 0x66) := by
  fun_induction scanStart input with
  | case1 first second rest other hypothesis => exact hypothesis
  | case2 first second rest header =>
    obtain ⟨isFirst, isSecond⟩ := not_or.mp header
    exact .inr ⟨not_not.mp isFirst, not_not.mp isSecond⟩
  | case3 input short =>
    left
    match input, short with
    | [], _ => decide
    | [_], _ => simp
    | first :: second :: rest, short => exact absurd rfl (short first second rest)

/-! ### Progress of a stream -/

/-- One step of the incoming half of a stream, with the callback's answers still to come. -/
inductive Progress (route : Route) :
    Inbound × List Answer → Inbound × List Answer → Prop where
  | skip (inbound : Inbound) (answers : List Answer) :
    streamVerdict inbound.input = .skip →
    Progress route (inbound, answers) ({ inbound with input := inbound.input.tail }, answers)
  | keepalive (inbound : Inbound) (answers : List Answer) (packet : Packet) (total : Nat) :
    parseOne inbound.input = .packet packet total →
    isKeepalive route packet = true →
    Progress route (inbound, answers)
      ({ inbound with
          input := inbound.input.drop total
          framed := inbound.framed ++ [inbound.input.take total] }, answers)
  | request (inbound : Inbound) (answers : List Answer) (packet : Packet) (total : Nat) :
    parseOne inbound.input = .packet packet total →
    isKeepalive route packet = false →
    Progress route (inbound, answers)
      ({ inbound with
          input :=
            if (answers.headD .silent).failure = some .protocol then inbound.input.tail
            else inbound.input.drop total
          framed := inbound.framed ++ [inbound.input.take total]
          requests := inbound.requests ++ [packet] }, answers.tail)
  | receive (inbound : Inbound) (answers : List Answer) (chunk : Bytes) :
    Progress route (inbound, answers)
      ({ inbound with
          input := inbound.input ++ chunk
          received := inbound.received ++ chunk }, answers)

theorem scanStart_progress (route : Route) (inbound : Inbound) (answers : List Answer) :
    ReflTransGen (Progress route) (inbound, answers)
      ({ inbound with input := inbound.input.drop (scanStart inbound.input) }, answers) := by
  obtain ⟨input, received, framed, requests⟩ := inbound
  induction input with
  | nil => exact .refl
  | cons first rest hypothesis =>
    cases rest with
    | nil => exact .refl
    | cons second rest =>
      by_cases header : first ≠ 0x55 ∨ second ≠ 0x66
      · have verdict : streamVerdict (first :: second :: rest) = .skip := by
          simp only [streamVerdict, length_cons]
          rw [if_neg (by omega), if_pos]
          exact header
        have start : scanStart (first :: second :: rest) = scanStart (second :: rest) + 1 := by
          rw [scanStart, if_pos header]
        simp only [start, drop_succ_cons]
        exact .head (.skip ⟨_, received, framed, requests⟩ answers verdict) hypothesis
      · have start : scanStart (first :: second :: rest) = 0 := by
          rw [scanStart, if_neg header]
        simp only [start, drop_zero]
        exact .refl

/-! ### Serving one stream -/

/-- A stream that is being served: it is open, and its input fits its buffer. -/
structure Serving (server : Server) (port : Port) (route : Route) : Prop where
  leads : route.port = some port
  isOpen : (server.streams port).isOpen = true
  bounded : (server.streams port).inbound.input.length ≤ streamBuffer
  kept : server.history.replyClosed = false
  idle : server.active = none

/-- What serving one stream leaves alone. -/
structure Served (port : Port) (before after : Server) : Prop where
  others : ∀ other, other ≠ port → (before.streams other).Spared (after.streams other)
  generation : after.generation = before.generation
  accepts : after.history.accepts = before.history.accepts
  inputFull : after.history.inputFull = before.history.inputFull

theorem Served.refl (port : Port) (server : Server) : Served port server server :=
  ⟨fun _ _ => .refl _, rfl, rfl, rfl⟩

variable {port : Port}

theorem Served.trans {first second third : Server} (before : Served port first second)
    (after : Served port second third) : Served port first third where
  others other different := (before.others other different).trans (after.others other different)
  generation := after.generation.trans before.generation
  accepts := after.accepts.trans before.accepts
  inputFull := after.inputFull.trans before.inputFull

theorem Served.setStream (server : Server) (port : Port) (stream : Stream) :
    Served port server (server.setStream port stream) :=
  ⟨fun other different => by rw [setStream_other server stream different]; exact .refl _,
    rfl, rfl, rfl⟩

/-- A fault raised because a reply has emptied the input that is being consumed. -/
def Fault.ByReply : Fault → Prop
  | .underflow server minuend subtrahend =>
    server.history.replyClosed = true ∧ minuend = 0 ∧ 0 < subtrahend
  | .overrun _ _ => False

variable {server : Server}

theorem removeFront_ok {count : Nat} (enough : count ≤ (server.streams port).inbound.input.length)
    (bounded : (server.streams port).inbound.input.length ≤ streamBuffer) :
    removeFront server port count =
      .ok (server.setInput port ((server.streams port).inbound.input.drop count)) := by
  unfold removeFront
  rw [if_neg (by omega), if_neg (by omega)]

theorem removeFront_emptied {count : Nat} (emptied : (server.streams port).inbound.input = [])
    (positive : 0 < count) :
    removeFront server port count = .error (.underflow server 0 count) := by
  unfold removeFront
  simp only [emptied, length_nil]
  rw [if_pos positive]

theorem Serving.setInput {route : Route} {input : Bytes} (serving : Serving server port route)
    (bounded : input.length ≤ streamBuffer) : Serving (server.setInput port input) port route where
  leads := serving.leads
  isOpen := by simp [Server.setInput, serving.isOpen]
  bounded := by simpa [Server.setInput] using bounded
  kept := serving.kept
  idle := serving.idle

/-! ### Dispatching a packet of the stream -/

theorem activate_streams (server : Server) {route : Route} (leads : route.port = some port)
    (packet : Packet) :
    (activate server route packet).streams =
      (server.setStream port
        { server.streams port with
          inbound :=
            { (server.streams port).inbound with
              requests := (server.streams port).inbound.requests ++ [packet] } }).streams := by
  simp only [activate, noteRequest, leads]

theorem noteFramed_eq (server : Server) {route : Route} (leads : route.port = some port)
    (packet : Bytes) :
    noteFramed server route packet =
      server.setStream port
        { server.streams port with
          inbound :=
            { (server.streams port).inbound with
              framed := (server.streams port).inbound.framed ++ [packet] } } := by
  simp only [noteFramed, leads]

/-- Serving a request of an open stream leaves the input alone, unless a reply closes the
stream. -/
theorem serve_spec {route : Route} (serving : Serving server port route) (packet : Packet)
    (answer : Answer) :
    let after := serve server route packet answer
    Served port server after ∧ after.active = none ∧
      (after.history.replyClosed = false ∧ (after.streams port).isOpen = true ∧
          (after.streams port).inbound =
            { (server.streams port).inbound with
              requests := (server.streams port).inbound.requests ++ [packet] } ∨
        after.history.replyClosed = true ∧ (after.streams port).inbound.input = []) := by
  obtain ⟨streams, history, generation, idle⟩ := serve_history server route packet answer
  have spared := emitAll_spared (activate server route packet) answer.replies
  have activeStreams := activate_streams server serving.leads packet
  have activeHistory : (activate server route packet).history = server.history := by
    simp only [activate, noteRequest, serving.leads, Server.setStream]
  have activeGeneration : (activate server route packet).generation = server.generation := by
    simp only [activate, noteRequest, serving.leads, Server.setStream]
  have closed := emitAll_replyClosed (activate server route packet) route rfl answer.replies
  rw [activeHistory, serving.kept, Bool.false_or, closedBetween, serving.leads] at closed
  have own := spared.streams port
  simp only [activeStreams, setStream_self] at own closed
  refine ⟨⟨fun other different => ?_, ?_, ?_, ?_⟩, idle, ?_⟩
  · have := spared.streams other
    rwa [activeStreams, setStream_other server _ different, ← streams] at this
  · rw [generation, spared.generation, activeGeneration]
  · rw [history, spared.accepts, activeHistory]
  · rw [history, spared.inputFull, activeHistory]
  · rw [history, streams, closed, serving.isOpen, Bool.true_and]
    rcases own with ⟨sameOpen, sameInbound⟩ | ⟨-, isClosed, emptied⟩
    · left
      simp only [sameOpen, sameInbound, serving.isOpen, Bool.not_true, and_self]
    · right
      simp only [isClosed, emptied, Bool.not_false, and_self]

/-- Dispatching the packet at the head of the input, as the stream sees it. -/
theorem dispatchPacket_of_parsed {input : Bytes} {packet : Packet} {total : Nat}
    (parsed : parseOne input = .packet packet total) (server : Server) (route : Route)
    (answers : List Answer) :
    dispatchPacket server route (input.take total) answers =
      if isKeepalive route packet then (noteFramed server route (input.take total), none, answers)
      else
        (serve (noteFramed server route (input.take total)) route packet (answers.headD .silent),
          (answers.headD .silent).failure, answers.tail) := by
  obtain ⟨-, -, whole, -, enough, -⟩ := parseOne_packet parsed
  have head : parseOne (input.take total) = .packet packet total := by
    rw [whole, parseOne_take (by omega), ← whole, parsed]
  have length : (input.take total).length = total := by
    rw [length_take]
    omega
  unfold dispatchPacket
  rw [head]
  simp only [length, ne_eq, not_true_eq_false, if_false]

/-- Only a packet that parses is dispatched; a malformed one is refused. -/
theorem dispatchPacket_of_malformed {input : Bytes}
    (malformed : parseOne input = .malformed) (enough : declaredTotal input ≤ input.length)
    (server : Server) (route : Route) (answers : List Answer) :
    dispatchPacket server route (input.take (declaredTotal input)) answers =
      (server, some .protocol, answers) := by
  unfold dispatchPacket
  rw [parseOne_take enough, malformed]

/-! ### One turn -/

/-- What one turn of the loop may end in. -/
def TurnSound (port : Port) (route : Route) (server : Server) (answers : List Answer) :
    Except Fault (Server × List Answer × Bool) → Prop
  | .error fault => fault.ByReply
  | .ok (after, rest, again) =>
    Serving after port route ∧ Served port server after ∧
      ReflTransGen (Progress route) ((server.streams port).inbound, answers)
        ((after.streams port).inbound, rest) ∧
      (again = true → (after.streams port).inbound.input.length <
        (server.streams port).inbound.input.length) ∧
      (again = false → streamVerdict (after.streams port).inbound.input = .wait)

theorem TurnSound.skip {server : Server} {port : Port} {route : Route}
    (serving : Serving server port route) (answers : List Answer)
    (verdict : streamVerdict (server.streams port).inbound.input = .skip) :
    TurnSound port route server answers
      ((removeFront server port 1).map fun after => (after, answers, true)) := by
  have nonempty := length_pos_iff.mpr (streamFormat.skip_nonempty verdict)
  have bounded := serving.bounded
  rw [removeFront_ok (by omega) bounded]
  refine ⟨serving.setInput (by rw [length_drop]; omega), .setStream .., .single ?_, ?_, ?_⟩
  · simp only [Server.setInput, setStream_self, drop_one]
    exact .skip _ answers verdict
  · intro _
    simp only [Server.setInput, setStream_self, length_drop]
    omega
  · intro again
    cases again

/-- A turn that dispatches a packet. -/
theorem TurnSound.dispatch {server : Server} {port : Port} {route : Route}
    (serving : Serving server port route) (answers : List Answer) {packet : Packet} {total : Nat}
    (parsed : parseOne (server.streams port).inbound.input = .packet packet total) :
    TurnSound port route server answers
      (match dispatchPacket server route
          ((server.streams port).inbound.input.take total) answers with
        | (after, some .protocol, answers) =>
          (removeFront after port 1).map fun after => (after, answers, true)
        | (after, _, answers) =>
          (removeFront after port total).map fun after => (after, answers, true)) := by
  obtain ⟨-, -, -, -, enough, -⟩ := parseOne_packet parsed
  have positive := parseOne_consumed_pos parsed
  have bounded := serving.bounded
  rw [dispatchPacket_of_parsed parsed, noteFramed_eq server serving.leads]
  set framed := server.setStream port
    { server.streams port with
      inbound :=
        { (server.streams port).inbound with
          framed := (server.streams port).inbound.framed ++
            [(server.streams port).inbound.input.take total] } } with framedEq
  have framedServing : Serving framed port route :=
    ⟨serving.leads, by simp [framedEq, serving.isOpen], by simpa [framedEq] using bounded,
      serving.kept, serving.idle⟩
  have framedServed : Served port server framed := .setStream ..
  have framedInput : (framed.streams port).inbound =
      { (server.streams port).inbound with
        framed := (server.streams port).inbound.framed ++
          [(server.streams port).inbound.input.take total] } := by
    rw [framedEq, setStream_self]
  -- `count` bytes are removed after a dispatch that left the input alone
  have remove (after : Server) (rest : List Answer) (count : Nat) (some : 0 < count)
      (within : count ≤ total) (served : Served port server after)
      (serving' : Serving after port route)
      (input : (after.streams port).inbound.input = (server.streams port).inbound.input)
      (progress : Progress route ((server.streams port).inbound, answers)
        ({ (after.streams port).inbound with
            input := (server.streams port).inbound.input.drop count }, rest)) :
      TurnSound port route server answers
        ((removeFront after port count).map fun after => (after, rest, true)) := by
    rw [removeFront_ok (by rw [input]; omega) serving'.bounded, input]
    refine ⟨serving'.setInput (by rw [length_drop]; omega), served.trans (.setStream ..),
      .single ?_, ?_, ?_⟩
    · simpa only [Server.setInput, setStream_self] using progress
    · intro _
      simp only [Server.setInput, setStream_self, length_drop]
      omega
    · intro again
      cases again
  by_cases keepalive : isKeepalive route packet = true
  · rw [if_pos keepalive]
    refine remove framed answers total positive le_rfl framedServed framedServing
      (by rw [framedInput]) ?_
    rw [framedInput]
    exact .keepalive _ answers packet total parsed keepalive
  · rw [if_neg keepalive]
    obtain ⟨served, idle, outcome⟩ := serve_spec framedServing packet (answers.headD .silent)
    have step : Progress route _ _ := .request (server.streams port).inbound answers packet total
      parsed (Bool.eq_false_iff.mpr keepalive)
    set after := serve framed route packet (answers.headD .silent)
    rcases outcome with ⟨kept, isOpen, inbound⟩ | ⟨closed, emptied⟩
    · have input : (after.streams port).inbound.input =
          (server.streams port).inbound.input := by rw [inbound, framedInput]
      have afterServing : Serving after port route :=
        ⟨serving.leads, isOpen, by rw [input]; exact bounded, kept, idle⟩
      split
      · next equal =>
        obtain ⟨rfl, failed, rfl⟩ := triple_inj equal
        refine remove after answers.tail 1 one_pos positive (framedServed.trans served)
          afterServing input ?_
        rw [if_pos failed] at step
        simpa only [inbound, framedInput, drop_one] using step
      · next other equal =>
        obtain ⟨rfl, failed, rfl⟩ := triple_inj equal
        refine remove after answers.tail total positive le_rfl (framedServed.trans served)
          afterServing input ?_
        rw [if_neg (by rw [failed]; exact other)] at step
        simpa only [inbound, framedInput] using step
    · split
      · next equal =>
        obtain ⟨rfl, -, rfl⟩ := triple_inj equal
        rw [removeFront_emptied emptied one_pos]
        exact ⟨closed, rfl, one_pos⟩
      · next equal =>
        obtain ⟨rfl, -, rfl⟩ := triple_inj equal
        rw [removeFront_emptied emptied positive]
        exact ⟨closed, rfl, positive⟩

theorem TurnSound.wait {route : Route} (serving : Serving server port route) (answers : List Answer)
    (verdict : streamVerdict (server.streams port).inbound.input = .wait) :
    TurnSound port route server answers (.ok (server, answers, false)) :=
  ⟨serving, .refl port server, .refl, fun again => absurd again (by simp), fun _ => verdict⟩

section

variable {route : Route} (serving : Serving server port route) (answers : List Answer)

include serving

theorem frameStep_sound (aligned : (server.streams port).inbound.input.length < 2 ∨
      (byteAt (server.streams port).inbound.input 0 = 0x55 ∧
        byteAt (server.streams port).inbound.input 1 = 0x66)) :
    TurnSound port route server answers (frameStep server port route answers) := by
  unfold frameStep
  simp only
  rcases lt_or_ge (server.streams port).inbound.input.length 2 with short | enough
  · rw [if_pos (by unfold minPacket; omega)]
    exact .wait serving answers (streamVerdict_of_short short)
  obtain ⟨first, second⟩ := aligned.resolve_left (by omega)
  have verdict := streamVerdict_of_header (by omega) first second
  cases parsed : parseOne (server.streams port).inbound.input with
  | incomplete =>
    rw [parsed] at verdict
    rcases parseOne_incomplete parsed with short | ⟨fits, cut⟩
    · rw [if_pos short]
      exact .wait serving answers verdict
    · split
      · exact .wait serving answers verdict
      · rw [if_neg (not_lt.mpr fits)]
        exact .wait serving answers verdict
  | malformed =>
    rw [parsed] at verdict
    obtain ⟨long, tooLong | whole⟩ := parseOne_malformed parsed first second
    · rw [if_neg (by omega), if_pos tooLong]
      exact .skip serving answers verdict
    · rw [if_neg (by omega)]
      split
      · exact .skip serving answers verdict
      · rw [if_neg (by omega), dispatchPacket_of_malformed parsed whole]
        exact .skip serving answers verdict
  | packet packet total =>
    obtain ⟨-, -, whole, fits, inside, -⟩ := parseOne_packet parsed
    have least := minPacket_le_declaredTotal (server.streams port).inbound.input
    rw [if_neg (by omega), if_neg (by omega), if_neg (by omega), ← whole]
    exact .dispatch serving answers parsed

theorem streamStep_sound :
    TurnSound port route server answers (streamStep server port route answers) := by
  have aligned := scanStart_aligned (server.streams port).inbound.input
  have progress := scanStart_progress route (server.streams port).inbound answers
  have within := scanStart_le (server.streams port).inbound.input
  unfold streamStep
  simp only
  split
  · have bounded := serving.bounded
    rw [removeFront_ok within bounded]
    simp only
    set start := scanStart (server.streams port).inbound.input
    set moved := server.setInput port ((server.streams port).inbound.input.drop start) with movedEq
    have movedServing : Serving moved port route := serving.setInput (by rw [length_drop]; omega)
    have movedInbound : (moved.streams port).inbound =
        { (server.streams port).inbound with
          input := (server.streams port).inbound.input.drop start } := by
      simp only [movedEq, Server.setInput, setStream_self]
    have turn := frameStep_sound movedServing answers (by rw [movedInbound]; exact aligned)
    cases result : frameStep moved port route answers with
    | error fault =>
      rw [result] at turn
      exact turn
    | ok outcome =>
      obtain ⟨after, rest, again⟩ := outcome
      rw [result] at turn
      obtain ⟨serving', served, later, shorter, waits⟩ := turn
      rw [movedInbound] at later shorter
      refine ⟨serving', (Served.setStream ..).trans served, progress.trans later,
        fun more => (shorter more).trans_le ?_, waits⟩
      rw [length_drop]
      exact Nat.sub_le _ _
  · next atHeader =>
    rw [not_not.mp atHeader, drop_zero] at aligned
    exact frameStep_sound serving answers aligned

end

/-! ### The loops -/

/-- What consuming an input may end in. -/
def LoopSound (port : Port) (route : Route) (server : Server) (answers : List Answer) :
    Except Fault (Server × List Answer) → Prop
  | .error fault => fault.ByReply
  | .ok (after, rest) =>
    Serving after port route ∧ Served port server after ∧
      ReflTransGen (Progress route) ((server.streams port).inbound, answers)
        ((after.streams port).inbound, rest) ∧
      streamVerdict (after.streams port).inbound.input = .wait

theorem processLoop_sound {route : Route} (turns : Nat) (serving : Serving server port route)
    (answers : List Answer) (enough : (server.streams port).inbound.input.length ≤ turns) :
    LoopSound port route server answers (processLoop port route turns server answers) := by
  induction turns generalizing server answers with
  | zero =>
    exact ⟨serving, .refl port server, .refl, streamVerdict_of_short (by omega)⟩
  | succ turns hypothesis =>
    unfold processLoop
    split
    · next empty =>
      exact ⟨serving, .refl port server, .refl, streamVerdict_of_short (by simp [empty])⟩
    · have turn := streamStep_sound serving answers
      cases result : streamStep server port route answers with
      | error fault =>
        rw [result] at turn
        exact turn
      | ok outcome =>
        obtain ⟨after, rest, again⟩ := outcome
        rw [result] at turn
        obtain ⟨serving', served, progress, shorter, waits⟩ := turn
        cases again with
        | false => exact ⟨serving', served, progress, waits rfl⟩
        | true =>
          have := shorter rfl
          have later := hypothesis serving' rest (by omega)
          simp only
          cases result' : processLoop port route turns after rest with
          | error fault =>
            rw [result'] at later
            exact later
          | ok outcome =>
            rw [result'] at later
            obtain ⟨serving'', served', progress', waits'⟩ := later
            exact ⟨serving'', served.trans served', progress.trans progress', waits'⟩

/-- What reading a stream may end in. -/
def ReadSound (port : Port) (route : Route) (server : Server) (answers : List Answer) :
    Except Fault (Server × Bool) → Prop
  | .error fault => fault.ByReply
  | .ok (after, _) =>
    Serving after port route ∧ Served port server after ∧
      (∃ rest, ReflTransGen (Progress route) ((server.streams port).inbound, answers)
        ((after.streams port).inbound, rest)) ∧
      streamVerdict (after.streams port).inbound.input = .wait

theorem readStream_sound {server : Server} {route : Route} (endFails : Bool)
    (receives : List Receive) (serving : Serving server port route) (answers : List Answer) :
    ReadSound port route server answers
      (readStream port route endFails receives server answers) := by
  have loop := processLoop_sound _ serving answers le_rfl
  unfold readStream processStream
  cases result : processLoop port route _ server answers with
  | error fault =>
    rw [result] at loop
    exact loop
  | ok outcome =>
    obtain ⟨after, rest⟩ := outcome
    rw [result] at loop
    obtain ⟨serving', served, progress, waits⟩ := loop
    have short := length_lt_of_wait waits
    have stops (failed : Bool) : ReadSound port route server answers (.ok (after, failed)) :=
      ⟨serving', served, ⟨rest, progress⟩, waits⟩
    simp only
    rw [if_neg (by unfold streamBuffer; omega), if_neg (by simp [serving'.isOpen])]
    match receives with
    | [] => exact stops false
    | receive :: later =>
      have resumes {next : Server} (nextServing : Serving next port route)
          (nextServed : Served port after next)
          (step : ReflTransGen (Progress route) ((after.streams port).inbound, rest)
            ((next.streams port).inbound, rest)) :
          ReadSound port route server answers (readStream port route endFails later next rest) := by
        have remaining := readStream_sound endFails later nextServing rest
        cases finished : readStream port route endFails later next rest with
        | error fault =>
          rw [finished] at remaining
          exact remaining
        | ok outcome =>
          rw [finished] at remaining
          obtain ⟨lastServing, lastServed, ⟨rest', progress'⟩, waits'⟩ := remaining
          exact ⟨lastServing, (served.trans nextServed).trans lastServed,
            ⟨rest', (progress.trans step).trans progress'⟩, waits'⟩
      cases receive with
      | bytes chunk =>
        simp only
        split
        · exact stops endFails
        · refine resumes ⟨serving'.leads, ?_, ?_, serving'.kept, serving'.idle⟩
            (.setStream ..) (.single ?_)
          · simp only [SiyiServer.receive, setStream_self, serving'.isOpen]
          · simp only [SiyiServer.receive, setStream_self, length_append, length_take]
            have := serving'.bounded
            omega
          · simp only [SiyiServer.receive, setStream_self]
            exact .receive _ rest _
      | interrupted => exact resumes serving' (.refl port after) .refl
      | blocked => exact stops false
      | failed => exact stops true

/-! ### Every event -/

/-- The state between events: no request is being handled, no reply has closed the stream of
its request, and every input waits for more bytes. -/
structure Sound (server : Server) : Prop where
  idle : server.active = none
  kept : server.history.replyClosed = false
  notFull : server.history.inputFull = false
  waits : ∀ port, streamVerdict (server.streams port).inbound.input = .wait
  closed : ∀ port, (server.streams port).isOpen = false →
    (server.streams port).inbound.input = []

theorem Sound.start (uart : Bool) : Sound (start uart) where
  idle := rfl
  kept := rfl
  notFull := rfl
  waits port := by cases port <;> rfl
  closed port _ := by cases port <;> rfl

variable {before after : Stream}

theorem Stream.Spared.waits (spared : before.Spared after)
    (waits : streamVerdict before.inbound.input = .wait) :
    streamVerdict after.inbound.input = .wait := by
  rcases spared with ⟨-, sameInbound⟩ | ⟨-, -, emptied⟩
  · rwa [sameInbound]
  · rw [emptied]
    rfl

theorem Stream.Spared.closed (spared : before.Spared after)
    (closed : before.isOpen = false → before.inbound.input = []) :
    after.isOpen = false → after.inbound.input = [] := by
  rcases spared with ⟨sameOpen, sameInbound⟩ | ⟨-, -, emptied⟩
  · rwa [sameOpen, sameInbound]
  · intro _
    rw [emptied]

theorem Sound.spared {before after : Server} (sound : Sound before)
    (streams : ∀ port, (before.streams port).Spared (after.streams port))
    (idle : after.active = none) (kept : after.history.replyClosed = before.history.replyClosed)
    (notFull : after.history.inputFull = before.history.inputFull) : Sound after where
  idle := idle
  kept := kept.trans sound.kept
  notFull := notFull.trans sound.notFull
  waits port := (streams port).waits (sound.waits port)
  closed port := (streams port).closed (sound.closed port)

theorem Sound.sent {before after : Server} (sound : Sound before) (sent : Sent before after) :
    Sound after :=
  sound.spared sent.streams (sent.active.trans sound.idle) sent.replyClosed sent.inputFull

/-- What an event makes of a stream that is open afterwards: the connection is new, or it has
made progress. -/
def Advances (answers : List Answer) (port : Port) (before after : Stream) : Prop :=
  after.isOpen = true →
    after.inbound = .fresh ∨
      (before.isOpen = true ∧ ∃ route rest, route.port = some port ∧
        ReflTransGen (Progress route) (before.inbound, answers) (after.inbound, rest))

def Port.route : Port → Route
  | .client slot => .tcp slot 0
  | .uart => .uart

theorem Port.route_port (port : Port) : port.route.port = some port := by
  cases port <;> rfl

theorem Advances.of_spared (spared : before.Spared after) (answers : List Answer) (port : Port) :
    Advances answers port before after := by
  intro isOpen
  obtain ⟨wasOpen, same⟩ := spared.of_open isOpen
  exact .inr ⟨wasOpen, port.route, answers, port.route_port, by rw [same]⟩

theorem Advances.spared {answers : List Answer} {middle : Stream}
    (advances : Advances answers port before middle) (spared : middle.Spared after) :
    Advances answers port before after := by
  intro isOpen
  obtain ⟨wasOpen, same⟩ := spared.of_open isOpen
  rw [same]
  exact advances wasOpen

def Event.answers : Event → List Answer
  | .datagrams _ answers => answers
  | .uart ready => ready.answers
  | .client _ _ ready => ready.answers
  | _ => []

/-- What handling an event may end in. -/
def StepSound (before : Server) (answers : List Answer) : Except Fault Server → Prop
  | .error fault => fault.ByReply
  | .ok after =>
    Sound after ∧ ∀ port, Advances answers port (before.streams port) (after.streams port)

theorem dispatchPacket_udp (sound : Sound server) (address : Address) (packet : Bytes)
    (answers : List Answer) :
    Sound (dispatchPacket server (.udp address) packet answers).1 ∧
      ∀ port, (server.streams port).Spared
        ((dispatchPacket server (.udp address) packet answers).1.streams port) := by
  have unchanged : Sound server ∧ ∀ port, (server.streams port).Spared (server.streams port) :=
    ⟨sound, fun _ => .refl _⟩
  unfold dispatchPacket
  split
  · next parsed consumed _ =>
    split
    · exact unchanged
    split
    · exact unchanged
    · simp only [noteFramed, Route.port]
      set answer := answers.headD .silent
      obtain ⟨streams, history, -, idle⟩ := serve_history server (.udp address) parsed answer
      have spared := emitAll_spared (activate server (.udp address) parsed) answer.replies
      have closed := emitAll_replyClosed (activate server (.udp address) parsed) (.udp address)
        rfl answer.replies
      have kept : ∀ port, (server.streams port).Spared
          ((serve server (.udp address) parsed answer).streams port) := by
        rw [streams]
        exact spared.streams
      refine ⟨sound.spared kept idle ?_ ?_, kept⟩
      · rw [history, closed]
        simp only [closedBetween, Route.port, Bool.or_false]
        rfl
      · rw [history, spared.inputFull]
        rfl
  · exact unchanged

theorem dispatchDatagram_udp (address : Address) (fuel : Nat) (datagram : Bytes)
    (sound : Sound server) (answers : List Answer) :
    Sound (dispatchDatagram (.udp address) fuel datagram server answers).1 ∧
      ∀ port, (server.streams port).Spared
        ((dispatchDatagram (.udp address) fuel datagram server answers).1.streams port) := by
  induction fuel generalizing datagram server answers with
  | zero => exact ⟨sound, fun _ => .refl _⟩
  | succ fuel hypothesis =>
    unfold dispatchDatagram
    split
    · next consumed _ =>
      obtain ⟨dispatched, spared⟩ :=
        dispatchPacket_udp sound address (datagram.take consumed) answers
      obtain ⟨later, spared'⟩ := hypothesis (datagram.drop consumed) dispatched
        (dispatchPacket server (.udp address) (datagram.take consumed) answers).2.2
      exact ⟨later, fun port => (spared port).trans (spared' port)⟩
    · exact ⟨sound, fun _ => .refl _⟩

theorem handleUdp_sound (arrived : List (Address × Bytes)) (sound : Sound server)
    (answers : List Answer) :
    Sound (handleUdp server answers arrived) ∧
      ∀ port, (server.streams port).Spared ((handleUdp server answers arrived).streams port) := by
  induction arrived generalizing server answers with
  | nil => exact ⟨sound, fun _ => .refl _⟩
  | cons arrival later hypothesis =>
    obtain ⟨address, bytes⟩ := arrival
    obtain ⟨dispatched, spared⟩ := dispatchDatagram_udp address
      (bytes.take datagramBuffer).length (bytes.take datagramBuffer) sound answers
    obtain ⟨rest, spared'⟩ := hypothesis dispatched
      (dispatchDatagram (.udp address) (bytes.take datagramBuffer).length
        (bytes.take datagramBuffer) server answers).2
    exact ⟨rest, fun port => (spared port).trans (spared' port)⟩

theorem openClient_sound (sound : Sound server) (slot : Slot) :
    Sound (openClient server slot) ∧
      ∀ port, port ≠ .client slot →
        (openClient server slot).streams port = server.streams port := by
  have others (port : Port) (different : port ≠ .client slot) :
      (openClient server slot).streams port = server.streams port :=
    setStream_other server _ different
  have own : ((openClient server slot).streams (.client slot)).inbound = .fresh ∧
      ((openClient server slot).streams (.client slot)).isOpen = true := by
    simp only [openClient, setStream_self, and_self]
  refine ⟨⟨sound.idle, sound.kept, sound.notFull, fun port => ?_, fun port => ?_⟩, others⟩
  · by_cases same : port = .client slot
    · rw [same, own.1]
      rfl
    · rw [others port same]
      exact sound.waits port
  · by_cases same : port = .client slot
    · rw [same, own.2]
      intro isClosed
      cases isClosed
    · rw [others port same]
      exact sound.closed port

theorem openClient_inbound (server : Server) (slot : Slot) :
    ((openClient server slot).streams (.client slot)).inbound = .fresh := by
  simp only [openClient, setStream_self]

theorem acceptClients_sound (polled : List Bool) (sound : Sound server) :
    Sound (acceptClients server polled) ∧
      ∀ port, ((acceptClients server polled).streams port).isOpen = true →
        ((acceptClients server polled).streams port).inbound = .fresh ∨
          ((server.streams port).isOpen = true ∧
            ((acceptClients server polled).streams port).inbound =
              (server.streams port).inbound) := by
  induction polled generalizing server with
  | nil => exact ⟨sound, fun port isOpen => .inr ⟨isOpen, rfl⟩⟩
  | cons accepted later hypothesis =>
    unfold acceptClients
    split
    · exact hypothesis sound
    · next slot _ =>
      obtain ⟨opened, others⟩ := openClient_sound sound slot
      have through {after : Server} {port : Port}
          (same : (after.streams port).inbound = ((openClient server slot).streams port).inbound)
          (wasOpen : ((openClient server slot).streams port).isOpen = true) :
          (after.streams port).inbound = .fresh ∨
            ((server.streams port).isOpen = true ∧
              (after.streams port).inbound = (server.streams port).inbound) := by
        by_cases own : port = .client slot
        · left
          rw [same, own, openClient_inbound]
        · rw [others port own] at same wasOpen
          exact .inr ⟨wasOpen, same⟩
      split
      · obtain ⟨rest, fresh⟩ := hypothesis opened
        refine ⟨rest, fun port isOpen => ?_⟩
        rcases fresh port isOpen with isFresh | ⟨wasOpen, same⟩
        · exact .inl isFresh
        · exact through same wasOpen
      · have sent : Sent (openClient server slot) (closeClient (openClient server slot) slot) :=
          closeStream_sent ..
        refine ⟨opened.sent sent, fun port isOpen => ?_⟩
        obtain ⟨wasOpen, same⟩ := (sent.streams port).of_open isOpen
        exact through same wasOpen

theorem flushReady_sent (server : Server) (port : Port) (failed : Bool)
    (output : Option Transport) : Sent server (flushReady server port failed output).1 := by
  cases output with
  | none => exact .refl server
  | some transport =>
    simp only [flushReady]
    split
    · exact flushStream_sent ..
    · exact .refl server

theorem readStream_closed (isClosed : (server.streams port).isOpen = false)
    (empty : (server.streams port).inbound.input = []) (route : Route) (endFails : Bool)
    (receives : List Receive) (answers : List Answer) :
    readStream port route endFails receives server answers = .ok (server, true) := by
  have nothing : processStream server port route answers = .ok (server, answers) := by
    rw [processStream, empty]
    rfl
  cases receives <;> simp [readStream, nothing, empty, isClosed, streamBuffer, maxPacket]

/-- What the input half of a poll event may end in. -/
def ReadyInputSound (before : Server) (answers : List Answer) :
    Except Fault (Server × Bool) → Prop
  | .error fault => fault.ByReply
  | .ok (after, _) =>
    Sound after ∧ ∀ port, Advances answers port (before.streams port) (after.streams port)

theorem readStream_ready (sound : Sound server) {route : Route} (leads : route.port = some port)
    (endFails : Bool) (receives : List Receive) (answers : List Answer) :
    ReadyInputSound server answers (readStream port route endFails receives server answers) := by
  cases isOpen : (server.streams port).isOpen with
  | false =>
    rw [readStream_closed isOpen (sound.closed port isOpen)]
    exact ⟨sound, fun other => .of_spared (.refl _) answers other⟩
  | true =>
    have short := length_lt_of_wait (sound.waits port)
    have serving : Serving server port route :=
      ⟨leads, isOpen, by unfold streamBuffer; omega, sound.kept, sound.idle⟩
    have read := readStream_sound endFails receives serving answers
    cases result : readStream port route endFails receives server answers with
    | error fault =>
      rw [result] at read
      exact read
    | ok outcome =>
      obtain ⟨after, failed⟩ := outcome
      rw [result] at read
      obtain ⟨afterServing, served, ⟨rest, progress⟩, waits⟩ := read
      refine ⟨⟨afterServing.idle, afterServing.kept, served.inputFull.trans sound.notFull,
        fun other => ?_, fun other => ?_⟩, fun other => ?_⟩
      · by_cases own : other = port
        · rw [own]
          exact waits
        · exact (served.others other own).waits (sound.waits other)
      · by_cases own : other = port
        · rw [own, afterServing.isOpen]
          intro isClosed
          cases isClosed
        · exact (served.others other own).closed (sound.closed other)
      · by_cases own : other = port
        · subst own
          exact fun _ => .inr ⟨isOpen, route, rest, leads, progress⟩
        · exact .of_spared (served.others other own) answers other

theorem ReadyInputSound.sent {before after last : Server} {answers : List Answer} {failed : Bool}
    (read : ReadyInputSound before answers (.ok (after, failed))) (sent : Sent after last) :
    StepSound before answers (.ok last) :=
  ⟨read.1.sent sent, fun port => (read.2 port).spared (sent.streams port)⟩

theorem readReady_sound (sound : Sound server) (ready : Ready)
    (read : Server → List Receive → List Answer → Except Fault (Server × Bool)) (reads : ∀ receives,
      ReadyInputSound server ready.answers (read server receives ready.answers)) :
    ReadyInputSound server ready.answers (readReady server ready read) := by
  unfold readReady
  split
  · exact reads _
  · exact ⟨sound, fun port => .of_spared (.refl _) _ port⟩

theorem handleUart_sound (sound : Sound server) (ready : Ready) :
    StepSound server ready.answers (handleUart server ready) := by
  have read := readReady_sound sound ready readUart fun receives =>
    readStream_ready sound rfl false receives ready.answers
  unfold handleUart
  split
  · next equal =>
    rw [equal] at read
    exact read
  · next after failed equal =>
    rw [equal] at read
    have flushed := flushReady_sent after .uart failed ready.output
    simp only
    split
    · exact read.sent (flushed.trans (closeStream_sent ..))
    · exact read.sent flushed

theorem handleClient_sound (sound : Sound server) (slot : Slot) (generation : UInt32)
    (ready : Ready) :
    StepSound server ready.answers (handleClient server slot generation ready) := by
  unfold handleClient
  split
  · exact ⟨sound, fun port => .of_spared (.refl _) _ port⟩
  have read := readReady_sound sound ready (fun server => readClient server slot)
    fun receives => readStream_ready sound rfl true receives ready.answers
  split
  · next equal =>
    rw [equal] at read
    exact read
  · next after failed equal =>
    rw [equal] at read
    have flushed := flushReady_sent after (.client slot) failed ready.output
    simp only
    split
    · exact read.sent (flushed.trans (closeStream_sent ..))
    · exact read.sent flushed

/-- Every event keeps the state between events, or faults because a reply closed the stream of
its request. -/
theorem handle_sound (sound : Sound server) (event : Event) :
    StepSound server event.answers (handle server event) := by
  cases event with
  | datagrams arrived answers =>
    obtain ⟨after, spared⟩ := handleUdp_sound arrived sound answers
    exact ⟨after, fun port => .of_spared (spared port) answers port⟩
  | connections polled =>
    obtain ⟨after, streams⟩ := acceptClients_sound polled sound
    refine ⟨after, fun port isOpen => ?_⟩
    rcases streams port isOpen with fresh | ⟨wasOpen, same⟩
    · exact .inl fresh
    · exact .inr ⟨wasOpen, port.route, [], port.route_port, by rw [same]; exact .refl⟩
  | uart ready => exact handleUart_sound sound ready
  | client slot generation ready => exact handleClient_sound sound slot generation ready
  | reply reply =>
    have spared := emit_spared server reply
    exact ⟨sound.spared spared.streams (spared.active.trans sound.idle)
      (emit_replyClosed_idle sound.idle reply) spared.inputFull,
      fun port => .of_spared (spared.streams port) [] port⟩

/-! ### The accounting of the input -/

/-- The accounting holds up: no subtraction from an input length and no move of an input has
gone out of bounds, and every input fits its buffer. -/
def Accounted : Except Fault Server → Prop
  | .ok server => ∀ port, (server.streams port).inbound.input.length ≤ streamBuffer
  | .error _ => False

/-- What has happened until a run ended or faulted. -/
def historyOf : Except Fault Server → History
  | .ok server => server.history
  | .error (.underflow server _ _) => server.history
  | .error (.overrun server _) => server.history

/-- A run ends between events, or faults because a reply closed the stream of its request. -/
theorem run_sound (uart : Bool) (events : List Event) :
    Transition.Ends Sound Fault.ByReply (run (start uart) events) := by
  refine Transition.run_induct (fun _ => True) ?_ ?_ (Sound.start uart) (fun _ _ => trivial)
  · intro server event after _ sound handled
    have step := handle_sound sound event
    rw [handled] at step
    exact step.1
  · intro server event fault _ sound handled
    have step := handle_sound sound event
    rwa [handled] at step

/-- The accounting of the inputs holds up in exactly the runs in which no reply, emitted while a
request is being handled, closes the stream that the request came from. -/
theorem accounted_iff_no_reply_closes (uart : Bool) (events : List Event) :
    Accounted (run (start uart) events) ↔
      (historyOf (run (start uart) events)).replyClosed = false := by
  have sound := run_sound uart events
  cases outcome : run (start uart) events with
  | ok server =>
    rw [outcome] at sound
    refine ⟨fun _ => sound.kept, fun _ port => ?_⟩
    have short := length_lt_of_wait (sound.waits port)
    unfold streamBuffer
    omega
  | error fault =>
    rw [outcome] at sound
    cases fault with
    | underflow server minuend subtrahend =>
      obtain ⟨closed, -, -⟩ := sound
      simp [Accounted, historyOf, closed]
    | overrun server length => exact sound.elim

/-- A transport that fails at its first write. -/
def brokenNetwork : Network :=
  { transport := fun _ => { transfers := [.failed], rearmed := true }, datagramSent := true }

/-- A client connects and makes a request whose reply cannot be sent. -/
def failedReplyRun : List Event :=
  [.connections [true],
    .client ⟨0, tcpClients_pos⟩ 1
      { input := some [.bytes configurationRequest]
        output := none
        hungUp := false
        answers :=
          [{ replies := [{ packet := configurationRequest, network := brokenNetwork, now := 0 }]
             failure := none
             now := 0 }] }]

/-- The reply closes the client, and the loop subtracts the length of the packet from zero. -/
theorem not_accounted_after_failed_reply :
    ¬ Accounted (run (start false) failedReplyRun) ∧
      (match run (start false) failedReplyRun with
        | .error (.underflow _ minuend subtrahend) => (minuend, subtrahend) = (0, 10)
        | _ => False) := by
  have faulted : (match run (start false) failedReplyRun with
      | .error (.underflow _ minuend subtrahend) => decide ((minuend, subtrahend) = (0, 10))
      | _ => false) = true := by decide +kernel
  cases outcome : run (start false) failedReplyRun with
  | ok server =>
    rw [outcome] at faulted
    cases faulted
  | error fault =>
    refine ⟨id, ?_⟩
    cases fault with
    | underflow server minuend subtrahend =>
      rw [outcome] at faulted
      exact of_decide_eq_true faulted
    | overrun server length =>
      rw [outcome] at faulted
      cases faulted

end SiyiServer
