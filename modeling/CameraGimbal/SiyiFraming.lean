/-
This file proves that the SIYI server frames a byte stream by the greedy scan.

As long as the callback does not answer with a protocol error, the packets that
are dispatched from a stream are those of the scan of everything received on the
connection, however it was cut into reads. An answer with a protocol error is
taken for a malformed packet, and the packet is scanned again from its second
byte on.
-/

import CameraGimbal.SiyiStream

namespace SiyiServer

open Siyi Framing OutputQueue PendingTable Relation List

/-! ### Requests among the packets -/

/-- The request a packet of a stream makes: every packet but the keepalive of a TCP client is
one. -/
def requestOf (port : Port) (frame : Bytes) : Option Packet :=
  match parseOne frame with
  | .packet packet _ => if isKeepalive port.route packet then none else some packet
  | _ => none

variable {route : Route} {port : Port}

theorem isKeepalive_route (leads : route.port = some port) (packet : Packet) :
    isKeepalive port.route packet = isKeepalive route packet := by
  cases route with
  | udp address => cases leads
  | tcp slot generation =>
    cases leads
    rfl
  | uart =>
    cases leads
    rfl

theorem requestOf_take (leads : route.port = some port) {input : Bytes} {packet : Packet}
    {total : Nat} (parsed : parseOne input = .packet packet total) :
    requestOf port (input.take total) = if isKeepalive route packet then none else some packet := by
  obtain ⟨-, -, whole, -, enough, -⟩ := parseOne_packet parsed
  have head : parseOne (input.take total) = .packet packet total := by
    rw [whole, parseOne_take (by omega), ← whole, parsed]
  unfold requestOf
  rw [head]
  simp only [isKeepalive_route leads]

/-! ### A stream in step with the scan -/

/-- The incoming half of a stream is in step with the scan of everything received, and exactly
the requests among its packets have been handed to the callback. -/
structure Framed (port : Port) (inbound : Inbound) : Prop where
  inStep : InStep streamFormat inbound.received inbound.framed inbound.input
  requests : inbound.requests = inbound.framed.filterMap (requestOf port)

theorem Framed.fresh (port : Port) : Framed port .fresh :=
  ⟨.start, rfl⟩

def NoProtocolError (answers : List Answer) : Prop :=
  ∀ answer ∈ answers, answer.failure ≠ some .protocol

theorem NoProtocolError.head {answers : List Answer} (none : NoProtocolError answers) :
    (answers.headD .silent).failure ≠ some .protocol := by
  cases answers with
  | nil => simp [Answer.silent]
  | cons answer rest => exact none answer mem_cons_self

theorem NoProtocolError.tail {answers : List Answer} (none : NoProtocolError answers) :
    NoProtocolError answers.tail :=
  fun answer member => none answer (mem_of_mem_tail member)

section

variable (leads : route.port = some port) {before after : Inbound × List Answer}

include leads

theorem Framed.progress (step : Progress route before after) (framed : Framed port before.1)
    (none : NoProtocolError before.2) : Framed port after.1 ∧ NoProtocolError after.2 := by
  cases step with
  | skip inbound answers verdict =>
    exact ⟨⟨framed.inStep.skip verdict, framed.requests⟩, none⟩
  | keepalive inbound answers packet total parsed keepalive =>
    refine ⟨⟨framed.inStep.take (streamVerdict_of_packet parsed), ?_⟩, none⟩
    rw [filterMap_append, ← framed.requests, filterMap_cons,
      requestOf_take leads parsed, if_pos keepalive, filterMap_nil, append_nil]
  | request inbound answers packet total parsed request =>
    have succeeded := none.head
    refine ⟨⟨?_, ?_⟩, none.tail⟩
    · simp only [if_neg succeeded]
      exact framed.inStep.take (streamVerdict_of_packet parsed)
    · have handed : requestOf port (inbound.input.take total) = some packet := by
        rw [requestOf_take leads parsed, request]
        rfl
      rw [filterMap_append, ← framed.requests, filterMap_cons, handed, filterMap_nil]
  | receive inbound answers chunk =>
    exact ⟨⟨framed.inStep.receive chunk, framed.requests⟩, none⟩

theorem Framed.progresses
    (steps : ReflTransGen (Progress route) before after) (framed : Framed port before.1)
    (none : NoProtocolError before.2) : Framed port after.1 ∧ NoProtocolError after.2 := by
  induction steps with
  | refl => exact ⟨framed, none⟩
  | tail _ step hypothesis =>
    obtain ⟨framed', none'⟩ := hypothesis
    exact framed'.progress leads step none'

end

theorem Framed.advances {before after : Stream} {answers : List Answer}
    (advances : Advances answers port before after) (none : NoProtocolError answers)
    (framed : before.isOpen = true → Framed port before.inbound) (isOpen : after.isOpen = true) :
    Framed port after.inbound := by
  rcases advances isOpen with fresh | ⟨wasOpen, route, rest, leads, progress⟩
  · rw [fresh]
    exact .fresh port
  · exact (Framed.progresses leads progress (framed wasOpen) none).1

/-- Between events every open stream is in step. -/
def InStepAll (server : Server) : Prop :=
  Sound server ∧
    ∀ port, (server.streams port).isOpen = true → Framed port (server.streams port).inbound

theorem InStepAll.start (uart : Bool) : InStepAll (start uart) :=
  ⟨.start uart, fun port _ => by cases port <;> exact .fresh _⟩

theorem InStepAll.handle {before after : Server} {event : Event}
    (none : NoProtocolError event.answers) (inStep : InStepAll before)
    (handled : handle before event = .ok after) : InStepAll after := by
  obtain ⟨sound, framed⟩ := inStep
  have step := handle_sound sound event
  rw [handled] at step
  exact ⟨step.1, fun port => Framed.advances (step.2 port) none (framed port)⟩

/-- However the bytes of an open connection were cut into reads, the packets dispatched are
those of the greedy scan of everything received, the callback was handed exactly the requests
among them, and the bytes that wait are a suffix of the stream, too short to fill the buffer. -/
theorem stream_framed_greedily (uart : Bool) (events : List Event) (server : Server)
    (ran : run (start uart) events = .ok server)
    (none : ∀ event ∈ events, NoProtocolError event.answers)
    (port : Port) (isOpen : (server.streams port).isOpen = true) :
    let inbound := (server.streams port).inbound
    let scanned := scan streamFormat inbound.received
    inbound.framed = scanned.1 ∧
      inbound.requests = scanned.1.filterMap (requestOf port) ∧
      inbound.input = scanned.2 ∧
      inbound.input <:+ inbound.received ∧
      inbound.input.length < maxPacket ∧
      server.history.inputFull = false := by
  have ends : Transition.Ends InStepAll (fun _ => True) (run (start uart) events) :=
    Transition.run_induct (fun event => NoProtocolError event.answers)
      (fun _ _ _ => InStepAll.handle) (fun _ _ _ _ _ _ => trivial) (.start uart) none
  rw [ran] at ends
  obtain ⟨sound, framed⟩ := ends
  obtain ⟨inStep, requests⟩ := framed port isOpen
  have waits := sound.waits port
  have done := inStep.done waits
  simp only [done]
  refine ⟨trivial, requests, trivial, ?_, length_lt_of_wait waits, sound.notFull⟩
  have suffix : (scan streamFormat (server.streams port).inbound.received).2 <:+ _ := scan_suffix _
  rwa [done] at suffix

/-- A client connects and sends the configuration request in two reads, garbage between them
and before. -/
def splitRequestRun : List Event :=
  [.connections [true],
    .client ⟨0, tcpClients_pos⟩ 1
      { input := some
          [.bytes [0x00, 0x55, 0x55, 0x66, 0x01, 0x00], .interrupted,
            .bytes [0x00, 0x00, 0x00, 0x0a, 0x0f, 0x75, 0x55]]
        output := none
        hungUp := false
        answers := [] }]

theorem splitRequestRun_framed :
    ∃ server, run (start false) splitRequestRun = .ok server ∧
      (let inbound := (server.streams (.client ⟨0, by decide⟩)).inbound
       let scanned := scan streamFormat inbound.received
       inbound.framed = scanned.1 ∧
        inbound.requests = scanned.1.filterMap (requestOf (.client ⟨0, by decide⟩)) ∧
        inbound.input = scanned.2 ∧
        inbound.input <:+ inbound.received ∧
        inbound.input.length < maxPacket ∧
        server.history.inputFull = false) ∧
      (server.streams (.client ⟨0, by decide⟩)).inbound.framed = [configurationRequest] := by
  obtain ⟨server, ran, check⟩ := exists_of_endsWith (run (start false) splitRequestRun)
    (fun server =>
      (server.streams (.client ⟨0, by decide⟩)).isOpen &&
        (server.streams (.client ⟨0, by decide⟩)).inbound.framed == [configurationRequest])
    (by decide +kernel)
  obtain ⟨isOpen, framed⟩ := Bool.and_eq_true_iff.mp check
  refine ⟨server, ran, stream_framed_greedily false splitRequestRun server ran ?_ _ isOpen,
    eq_of_beq framed⟩
  intro event member
  simp only [splitRequestRun, List.mem_cons, List.not_mem_nil, or_false] at member
  rcases member with rfl | rfl <;> exact nofun

/-- The keepalive of the vendor's TCP service. -/
def keepalivePacket : Bytes :=
  [0x55, 0x66, 0x01, 0x01, 0x00, 0x00, 0x00, 0x00, 0x00, 0x59, 0x8b]

/-- A client connects and sends a keepalive. -/
def keepaliveRun : List Event :=
  [.connections [true],
    .client ⟨0, tcpClients_pos⟩ 1
      { input := some [.bytes keepalivePacket], output := none, hungUp := false, answers := [] }]

/-- A keepalive is a packet of the scan that the callback is not handed. -/
theorem keepalive_not_requested :
    ∃ server, run (start false) keepaliveRun = .ok server ∧
      (server.streams (.client ⟨0, by decide⟩)).isOpen = true ∧
      (scan streamFormat
        (server.streams (.client ⟨0, by decide⟩)).inbound.received).1 = [keepalivePacket] ∧
      (server.streams (.client ⟨0, by decide⟩)).inbound.requests = [] := by
  obtain ⟨server, ran, check⟩ := exists_of_endsWith (run (start false) keepaliveRun)
    (fun server =>
      let stream := server.streams (.client ⟨0, by decide⟩)
      stream.isOpen && stream.inbound.received == keepalivePacket &&
        stream.inbound.requests.isEmpty)
    (by decide +kernel)
  simp only [Bool.and_eq_true, beq_iff_eq, List.isEmpty_iff] at check
  obtain ⟨⟨isOpen, received⟩, requests⟩ := check
  refine ⟨server, ran, isOpen, ?_, requests⟩
  have whole : streamFormat.verdict keepalivePacket = .frame 11 := by decide +kernel
  have rest : streamFormat.verdict (keepalivePacket.drop 11) = .wait := by decide
  rw [received, scan_of_frame whole, scan_of_wait rest]
  rfl

/-! ### A packet is consumed whole -/

/-- A turn has dispatched the packet at the head of the input and removed exactly its bytes. -/
def ConsumedWhole (port : Port) (before : Inbound) (total : Nat) :
    Except Fault (Server × List Answer × Bool) → Prop
  | .ok (after, _, again) =>
    again = true ∧
      (after.streams port).inbound.framed = before.framed ++ [before.input.take total] ∧
      (after.streams port).inbound.input = before.input.drop total
  | .error _ => False

instance (port : Port) (before : Inbound) (total : Nat) :
    (outcome : Except Fault (Server × List Answer × Bool)) →
      Decidable (ConsumedWhole port before total outcome)
  | .ok (_, _, _) => inferInstanceAs (Decidable (_ ∧ _ ∧ _))
  | .error _ => inferInstanceAs (Decidable False)

/-- The stream of a request is still open after the replies the callback emits for it. -/
def OutlivesReplies (server : Server) (port : Port) (route : Route) (frame : Bytes)
    (packet : Packet) (replies : List Reply) : Prop :=
  ((replies.foldl emit (activate (noteFramed server route frame) route packet)).streams
    port).isOpen = true

theorem serve_stream {server : Server} (leads : route.port = some port)
    (isOpen : (server.streams port).isOpen = true) (packet : Packet) (answer : Answer) :
    let handled := (answer.replies.foldl emit (activate server route packet)).streams port
    let after := (serve server route packet answer).streams port
    (handled.isOpen = true ∧ after.inbound =
        { (server.streams port).inbound with
          requests := (server.streams port).inbound.requests ++ [packet] }) ∨
      (handled.isOpen = false ∧ after.inbound.input = []) := by
  obtain ⟨streams, -⟩ := serve_history server route packet answer
  have own := (emitAll_spared (activate server route packet) answer.replies).streams port
  rw [activate_streams server leads, setStream_self] at own
  simp only [streams]
  rcases own with ⟨sameOpen, sameInbound⟩ | ⟨-, isClosed, emptied⟩
  · exact .inl ⟨sameOpen.trans isOpen, sameInbound⟩
  · exact .inr ⟨isClosed, by rw [emptied]⟩

/-- At the head of a packet a turn of the loop dispatches it. -/
theorem streamStep_of_parsed {server : Server} {port : Port} {packet : Packet} {total : Nat}
    (parsed : parseOne (server.streams port).inbound.input = .packet packet total)
    (route : Route) (answers : List Answer) :
    streamStep server port route answers =
      match dispatchPacket server route
          ((server.streams port).inbound.input.take total) answers with
      | (after, some .protocol, answers) =>
        (removeFront after port 1).map fun after => (after, answers, true)
      | (after, _, answers) =>
        (removeFront after port total).map fun after => (after, answers, true) := by
  obtain ⟨first, second, whole, fits, inside, -⟩ := parseOne_packet parsed
  have least := minPacket_le_declaredTotal (server.streams port).inbound.input
  have start : scanStart (server.streams port).inbound.input = 0 := by
    unfold minPacket at least
    match found : (server.streams port).inbound.input with
    | [] => rfl
    | [_] => rfl
    | one :: two :: rest =>
      rw [found] at first second
      rw [scanStart, if_neg]
      exact not_or.mpr ⟨not_not.mpr first, not_not.mpr second⟩
  unfold streamStep frameStep
  rw [start]
  simp only [ne_eq, not_true_eq_false, if_false]
  rw [← whole, if_neg (by omega), if_neg (by omega)]
  exact if_neg (by omega)

/-- A packet at the head of the input is consumed whole exactly when it is a keepalive, or when
the callback does not answer it with a protocol error and none of its replies closes the
stream. -/
theorem consumed_whole_iff (server : Server) (port : Port) (route : Route)
    (answers : List Answer) (packet : Packet) (total : Nat)
    (leads : route.port = some port) (isOpen : (server.streams port).isOpen = true)
    (bounded : (server.streams port).inbound.input.length ≤ streamBuffer)
    (parsed : parseOne (server.streams port).inbound.input = .packet packet total) :
    ConsumedWhole port (server.streams port).inbound total (streamStep server port route answers) ↔
      isKeepalive route packet = true ∨
        ((answers.headD .silent).failure ≠ some .protocol ∧
          OutlivesReplies server port route ((server.streams port).inbound.input.take total)
            packet (answers.headD .silent).replies) := by
  obtain ⟨-, -, -, -, enough, -⟩ := parseOne_packet parsed
  have positive := parseOne_consumed_pos parsed
  rw [streamStep_of_parsed parsed, dispatchPacket_of_parsed parsed]
  have framedEq := noteFramed_eq server leads ((server.streams port).inbound.input.take total)
  have framedOpen : ((noteFramed server route
      ((server.streams port).inbound.input.take total)).streams port).isOpen = true := by
    rw [framedEq, setStream_self]
    exact isOpen
  have framedInbound : ((noteFramed server route
      ((server.streams port).inbound.input.take total)).streams port).inbound =
        { (server.streams port).inbound with
          framed := (server.streams port).inbound.framed ++
            [(server.streams port).inbound.input.take total] } := by
    rw [framedEq, setStream_self]
  by_cases keepalive : isKeepalive route packet = true
  · simp only [keepalive, if_true, true_or, iff_true]
    rw [removeFront_ok (by rw [framedInbound]; exact enough) (by rw [framedInbound]; exact bounded)]
    simp only [Except.map, ConsumedWhole, Server.setInput, setStream_self, framedInbound, and_self]
  · have outcome := serve_stream leads framedOpen packet (answers.headD .silent)
    simp only [framedInbound] at outcome
    simp only [keepalive, false_or, OutlivesReplies, if_false, Bool.false_eq_true]
    set after := serve (noteFramed server route
      ((server.streams port).inbound.input.take total)) route packet (answers.headD .silent)
    rcases outcome with ⟨outlives, inbound⟩ | ⟨closed, emptied⟩
    · have input : (after.streams port).inbound.input = (server.streams port).inbound.input := by
        rw [inbound]
      simp only [outlives, and_true]
      split
      · next equal =>
        obtain ⟨rfl, failed, rfl⟩ := triple_inj equal
        rw [removeFront_ok (by rw [input]; omega) (by rw [input]; exact bounded)]
        -- one byte has been removed, and a packet is longer than that
        have longer : 1 < total := by
          have least := minPacket_le_declaredTotal (server.streams port).inbound.input
          have := (parseOne_packet parsed).2.2.1
          unfold minPacket at least
          omega
        simp only [Except.map, ConsumedWhole, Server.setInput, setStream_self, input, failed,
          ne_eq, not_true_eq_false, iff_false, not_and]
        intro _ _ same
        have := congrArg List.length same
        simp only [List.length_drop] at this
        omega
      · next other equal =>
        obtain ⟨rfl, failed, rfl⟩ := triple_inj equal
        rw [removeFront_ok (by rw [input]; omega) (by rw [input]; exact bounded)]
        simp only [Except.map, ConsumedWhole, Server.setInput, setStream_self, inbound, and_self,
          failed, true_iff]
        exact other
    · simp only [closed, Bool.false_eq_true, and_false, iff_false]
      split
      · next equal =>
        obtain ⟨rfl, -, rfl⟩ := triple_inj equal
        rw [removeFront_emptied emptied one_pos]
        exact id
      · next equal =>
        obtain ⟨rfl, -, rfl⟩ := triple_inj equal
        rw [removeFront_emptied emptied positive]
        exact id

/-- The configuration request as it is parsed. -/
def configurationPacket : Packet where
  control := 1
  payloadLength := 0
  sequence := 0
  opcode := 0x0a
  payload := []
  raw := configurationRequest

/-- A server whose UART has received the configuration request. -/
def requestedServer : Server := (start true).setInput .uart configurationRequest

theorem consumed_whole_iff_configuration :
    ConsumedWhole .uart (requestedServer.streams .uart).inbound 10
        (streamStep requestedServer .uart .uart []) ↔
      isKeepalive .uart configurationPacket = true ∨
        ((([] : List Answer).headD .silent).failure ≠ some .protocol ∧
          OutlivesReplies requestedServer .uart .uart
            ((requestedServer.streams .uart).inbound.input.take 10) configurationPacket []) :=
  consumed_whole_iff requestedServer .uart .uart [] configurationPacket 10 rfl rfl
    (by decide) (by decide +kernel)

/-- A command that fails with a protocol error loses only the first byte of its packet: the rest
of it is scanned again. -/
theorem not_consumed_whole_on_protocol_error :
    ¬ ConsumedWhole .uart (requestedServer.streams .uart).inbound 10
      (streamStep requestedServer .uart .uart
        [{ replies := [], failure := some .protocol, now := 0 }]) := by
  decide +kernel

end SiyiServer
