/-
This file packages the induction over everything the SIYI server does.

An invariant of the server is kept by every event as soon as it is kept by the
few operations the event handlers are made of: bytes and packets of a stream,
serving a request, a reply from outside, flushing, closing and accepting.
-/

import CameraGimbal.SiyiSending

namespace SiyiServer

open Siyi OutputQueue PendingTable SiyiServer

/-- A client's route carries the generation of the connection its slot holds now. -/
def RouteCurrent (server : Server) : Route → Prop
  | .tcp slot generation => generation = server.generation slot
  | _ => True

theorem RouteCurrent.of_generation {before after : Server} {route : Route}
    (current : RouteCurrent before route) (same : after.generation = before.generation) :
    RouteCurrent after route := by
  cases route with
  | udp address => trivial
  | tcp slot generation => exact current.trans (congrFun same slot).symm
  | uart => trivial

/-- An invariant that the operations of the event handlers keep. -/
structure Preserved (Invariant : Server → Prop) : Prop where
  inbound : ∀ server port inbound,
    inbound.requests = (server.streams port).inbound.requests → Invariant server →
      Invariant (server.setStream port { server.streams port with inbound })
  inputFull : ∀ server, Invariant server → Invariant (noteInputFull server)
  serve : ∀ server route packet answer, RouteCurrent server route → Invariant server →
    Invariant (serve server route packet answer)
  emit : ∀ server reply, Invariant server → Invariant (emit server reply)
  flush : ∀ server port transport, (server.streams port).isOpen = true → Invariant server →
    Invariant (flushStream server port transport).1
  close : ∀ server port, Invariant server → Invariant (closeStream server port)
  openClient : ∀ server slot, (server.streams (.client slot)).isOpen = false →
    Invariant server → Invariant (openClient server slot)

theorem serve_generation (server : Server) (route : Route) (packet : Packet) (answer : Answer) :
    (serve server route packet answer).generation = server.generation := by
  have spared := emitAll_spared (activate server route packet) answer.replies
  have activated : (activate server route packet).generation = server.generation := by
    simp only [activate, noteRequest]
    split <;> rfl
  simp only [serve]
  split <;> exact spared.generation.trans activated

namespace Preserved

variable {Invariant : Server → Prop} (preserved : Preserved Invariant)
  {server after : Server} {port : Port} {route : Route}

include preserved

/-! ### Packets and bytes of a stream -/

theorem noteFramed (holds : Invariant server) (frame : Bytes) :
    Invariant (noteFramed server route frame) := by
  unfold SiyiServer.noteFramed
  split
  · exact holds
  · exact preserved.inbound _ _ _ rfl holds

theorem dispatchPacket (current : RouteCurrent server route) (holds : Invariant server)
    (packet : Bytes) (answers : List Answer) :
    Invariant (dispatchPacket server route packet answers).1 ∧
      RouteCurrent (SiyiServer.dispatchPacket server route packet answers).1 route := by
  have noted : (SiyiServer.noteFramed server route packet).generation = server.generation := by
    unfold SiyiServer.noteFramed
    split <;> rfl
  have framed : Invariant (SiyiServer.noteFramed server route packet) :=
    preserved.noteFramed holds packet
  have framedCurrent := current.of_generation noted
  unfold SiyiServer.dispatchPacket
  split
  · split
    · exact ⟨holds, current⟩
    split
    · exact ⟨framed, framedCurrent⟩
    · exact ⟨preserved.serve _ _ _ _ framedCurrent framed,
        framedCurrent.of_generation (serve_generation ..)⟩
  · exact ⟨holds, current⟩

theorem removeFront (current : RouteCurrent server route) (holds : Invariant server) {count : Nat}
    (removed : removeFront server port count = .ok after) :
    Invariant after ∧ RouteCurrent after route := by
  unfold SiyiServer.removeFront at removed
  simp only at removed
  split at removed
  · cases removed
  split at removed
  · cases removed
  · cases removed
    exact ⟨preserved.inbound _ _ _ rfl holds, current⟩

variable {answers rest : List Answer}

theorem removeFront_map (current : RouteCurrent server route) (holds : Invariant server)
    {count : Nat} {again : Bool}
    (removed : ((SiyiServer.removeFront server port count).map fun after =>
      (after, answers, true)) = .ok (after, rest, again)) :
    Invariant after ∧ RouteCurrent after route := by
  cases result : SiyiServer.removeFront server port count with
  | error fault =>
    rw [result] at removed
    cases removed
  | ok moved =>
    rw [result] at removed
    obtain ⟨rfl, -⟩ := Prod.mk.inj (Except.ok.inj removed)
    exact preserved.removeFront current holds result

theorem frameStep (current : RouteCurrent server route) (holds : Invariant server) {again : Bool}
    (stepped : frameStep server port route answers = .ok (after, rest, again)) :
    Invariant after ∧ RouteCurrent after route := by
  unfold SiyiServer.frameStep at stepped
  simp only at stepped
  split at stepped
  · obtain ⟨rfl, -⟩ := Prod.mk.inj (Except.ok.inj stepped)
    exact ⟨holds, current⟩
  split at stepped
  · exact preserved.removeFront_map current holds stepped
  split at stepped
  · obtain ⟨rfl, -⟩ := Prod.mk.inj (Except.ok.inj stepped)
    exact ⟨holds, current⟩
  have dispatched := preserved.dispatchPacket current holds
    ((server.streams port).inbound.input.take (declaredTotal (server.streams port).inbound.input))
    answers
  split at stepped <;>
  · next equal =>
    rw [equal] at dispatched
    exact preserved.removeFront_map dispatched.2 dispatched.1 stepped

theorem streamStep (current : RouteCurrent server route) (holds : Invariant server) {again : Bool}
    (stepped : streamStep server port route answers = .ok (after, rest, again)) :
    Invariant after ∧ RouteCurrent after route := by
  unfold SiyiServer.streamStep at stepped
  simp only at stepped
  split at stepped
  · split at stepped
    · next moved removed =>
      obtain ⟨movedHolds, movedCurrent⟩ := preserved.removeFront current holds removed
      exact preserved.frameStep movedCurrent movedHolds stepped
    · cases stepped
  · exact preserved.frameStep current holds stepped

theorem processLoop (turns : Nat) (current : RouteCurrent server route) (holds : Invariant server)
    (processed : processLoop port route turns server answers = .ok (after, rest)) :
    Invariant after ∧ RouteCurrent after route := by
  induction turns generalizing server answers with
  | zero =>
    obtain ⟨rfl, -⟩ := Prod.mk.inj (Except.ok.inj processed)
    exact ⟨holds, current⟩
  | succ turns hypothesis =>
    unfold processLoop at processed
    split at processed
    · obtain ⟨rfl, -⟩ := Prod.mk.inj (Except.ok.inj processed)
      exact ⟨holds, current⟩
    split at processed
    · next stepped =>
      obtain ⟨nextHolds, nextCurrent⟩ := preserved.streamStep current holds stepped
      exact hypothesis nextCurrent nextHolds processed
    · next stepped =>
      obtain ⟨rfl, -⟩ := Prod.mk.inj (Except.ok.inj processed)
      exact preserved.streamStep current holds stepped
    · cases processed

theorem readStream {endFails failed : Bool} (receives : List Receive)
    (current : RouteCurrent server route) (holds : Invariant server)
    (read : readStream port route endFails receives server answers = .ok (after, failed)) :
    Invariant after := by
  induction receives generalizing server answers with
  | nil =>
    unfold readStream processStream at read
    split at read
    · cases read
    next processed =>
    obtain ⟨nextHolds, -⟩ := preserved.processLoop _ current holds processed
    simp only at read
    split at read
    · obtain ⟨rfl, -⟩ := Prod.mk.inj (Except.ok.inj read)
      exact preserved.inputFull _ nextHolds
    split at read <;>
    · obtain ⟨rfl, -⟩ := Prod.mk.inj (Except.ok.inj read)
      exact nextHolds
  | cons receive later hypothesis =>
    unfold readStream processStream at read
    split at read
    · cases read
    next middle rest processed =>
    obtain ⟨nextHolds, nextCurrent⟩ := preserved.processLoop _ current holds processed
    simp only at read
    split at read
    · obtain ⟨rfl, -⟩ := Prod.mk.inj (Except.ok.inj read)
      exact preserved.inputFull _ nextHolds
    split at read
    · obtain ⟨rfl, -⟩ := Prod.mk.inj (Except.ok.inj read)
      exact nextHolds
    cases receive with
    | bytes chunk =>
      simp only at read
      split at read
      · obtain ⟨rfl, -⟩ := Prod.mk.inj (Except.ok.inj read)
        exact nextHolds
      · have received (taken : Bytes) : Invariant (receive middle port taken) :=
          preserved.inbound _ port _ rfl nextHolds
        have receivedCurrent (taken : Bytes) :
            RouteCurrent (receive middle port taken) route :=
          nextCurrent.of_generation rfl
        exact hypothesis (receivedCurrent _) (received _) read
    | interrupted => exact hypothesis nextCurrent nextHolds read
    | blocked =>
      obtain ⟨rfl, -⟩ := Prod.mk.inj (Except.ok.inj read)
      exact nextHolds
    | failed =>
      obtain ⟨rfl, -⟩ := Prod.mk.inj (Except.ok.inj read)
      exact nextHolds

/-! ### Events -/

theorem dispatchDatagram (address : Address) (fuel : Nat) (datagram : Bytes)
    (holds : Invariant server) (answers : List Answer) :
    Invariant (dispatchDatagram (.udp address) fuel datagram server answers).1 := by
  induction fuel generalizing datagram server answers with
  | zero => exact holds
  | succ fuel hypothesis =>
    unfold dispatchDatagram
    split
    · next consumed _ =>
      have current : RouteCurrent server (.udp address) := trivial
      exact hypothesis _ (preserved.dispatchPacket current holds _ _).1 _
    · exact holds

theorem handleUdp (arrived : List (Address × Bytes)) (holds : Invariant server)
    (answers : List Answer) : Invariant (handleUdp server answers arrived) := by
  induction arrived generalizing server answers with
  | nil => exact holds
  | cons arrival later hypothesis =>
    exact hypothesis (preserved.dispatchDatagram _ _ _ holds answers) _

theorem acceptClients (polled : List Bool) (holds : Invariant server) :
    Invariant (acceptClients server polled) := by
  induction polled generalizing server with
  | nil => exact holds
  | cons accepted later hypothesis =>
    unfold acceptClients
    split
    · exact hypothesis holds
    · next slot found =>
      have isClosed : (server.streams (.client slot)).isOpen = false := by
        simpa using List.find?_some found
      have opened := preserved.openClient server slot isClosed holds
      split
      · exact hypothesis opened
      · exact preserved.close _ _ opened

theorem flushReady (holds : Invariant server) (failed : Bool) (output : Option Transport) :
    Invariant (flushReady server port failed output).1 := by
  cases output with
  | none => exact holds
  | some transport =>
    simp only [SiyiServer.flushReady]
    split
    · next ready => exact preserved.flush _ _ _ (Bool.and_eq_true_iff.mp ready).2 holds
    · exact holds

omit preserved in
theorem readReady (holds : Invariant server) {ready : Ready} {failed : Bool}
    {read : Server → List Receive → List Answer → Except Fault (Server × Bool)}
    (reads : ∀ receives, read server receives ready.answers = .ok (after, failed) →
      Invariant after)
    (readied : readReady server ready read = .ok (after, failed)) : Invariant after := by
  unfold SiyiServer.readReady at readied
  split at readied
  · exact reads _ readied
  · obtain ⟨rfl, -⟩ := Prod.mk.inj (Except.ok.inj readied)
    exact holds

theorem handleUart (holds : Invariant server) {ready : Ready}
    (handled : handleUart server ready = .ok after) : Invariant after := by
  unfold SiyiServer.handleUart at handled
  split at handled
  · cases handled
  next readied =>
  have current : RouteCurrent server .uart := trivial
  have read := Preserved.readReady holds
    (fun receives => preserved.readStream receives current holds) readied
  simp only at handled
  split at handled <;> cases handled
  · exact preserved.close _ _ (preserved.flushReady read _ _)
  · exact preserved.flushReady read _ _

theorem handleClient (holds : Invariant server) {slot : Slot} {generation : UInt32}
    {ready : Ready} (handled : handleClient server slot generation ready = .ok after) :
    Invariant after := by
  unfold SiyiServer.handleClient at handled
  split at handled
  · cases handled
    exact holds
  split at handled
  · cases handled
  next readied =>
  have current : RouteCurrent server (.tcp slot (server.generation slot)) := rfl
  have read := Preserved.readReady holds
    (fun receives => preserved.readStream receives current holds) readied
  simp only at handled
  split at handled <;> cases handled
  · exact preserved.close _ _ (preserved.flushReady read _ _)
  · exact preserved.flushReady read _ _

/-- Every event keeps the invariant. -/
theorem handle (event : Event) (holds : Invariant server)
    (handled : handle server event = .ok after) : Invariant after := by
  cases event with
  | datagrams arrived answers =>
    cases handled
    exact preserved.handleUdp arrived holds answers
  | connections polled =>
    cases handled
    exact preserved.acceptClients polled holds
  | uart ready => exact preserved.handleUart holds handled
  | client slot generation ready => exact preserved.handleClient holds handled
  | reply reply =>
    cases handled
    exact preserved.emit server reply holds

/-- Every run keeps the invariant. -/
theorem run (holds : Invariant server) {events : List Event}
    (ran : run server events = .ok after) : Invariant after :=
  Transition.run_preserves (fun _ event _ => preserved.handle event) holds ran

end Preserved

end SiyiServer
