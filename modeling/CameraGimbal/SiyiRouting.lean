/-
This file proves that the SIYI server routes replies to those who asked.

A reply from outside a request goes down one route: that of the oldest pending
request of its opcode, or else that of the last requester of its opcode. Routes
of TCP clients carry the generation of their connection, so that a slot that has
been given to another client since is never mistaken for the requester.
-/

import Mathlib.Algebra.Group.Nat.Defs
import CameraGimbal.SiyiQueue

namespace SiyiServer

open Siyi OutputQueue PendingTable List Function Option

/-! ### A reply touches one route -/

/-- Only this stream has changed, and no datagram was sent. -/
structure OnlyStream (port : Port) (before after : Server) : Prop where
  others : ∀ other, other ≠ port → after.streams other = before.streams other
  datagrams : after.history.datagrams = before.history.datagrams

theorem OnlyStream.refl (port : Port) (server : Server) : OnlyStream port server server :=
  ⟨fun _ _ => rfl, rfl⟩

theorem OnlyStream.trans {port : Port} {first second third : Server}
    (before : OnlyStream port first second) (after : OnlyStream port second third) :
    OnlyStream port first third :=
  ⟨fun other different => (after.others other different).trans (before.others other different),
    after.datagrams.trans before.datagrams⟩

theorem OnlyStream.setStream (server : Server) (port : Port) (stream : Stream) :
    OnlyStream port server (server.setStream port stream) :=
  ⟨fun _ different => setStream_other server stream different, rfl⟩

theorem closeStream_only (server : Server) (port : Port) :
    OnlyStream port server (closeStream server port) := by
  unfold closeStream
  split
  · exact .setStream ..
  · exact .refl port server

theorem queueClient_only (server : Server) (slot : Slot) (packet : Bytes)
    (transport : Transport) :
    OnlyStream (.client slot) server (queueClient server slot packet transport).1 := by
  unfold queueClient
  split
  · exact .refl _ server
  · exact (OnlyStream.setStream ..).trans (.setStream ..)

theorem queueUart_only (server : Server) (packet : Bytes) (transport : Transport) :
    OnlyStream .uart server (queueUart server packet transport).1 := by
  unfold queueUart
  split
  · exact .refl _ server
  · next outbound _ =>
    have flushed : OnlyStream .uart server
        (flushUart (server.setOutbound .uart outbound) transport).1 :=
      (OnlyStream.setStream ..).trans (.setStream ..)
    split
    · next equal => rwa [equal] at flushed
    · next equal =>
      rw [equal] at flushed
      exact flushed.trans (closeStream_only ..)

/-- What a reply down a route may touch: the stream of the route, or the datagrams to its
address. -/
def OnlyTo (route : Route) (reply : Reply) (before after : Server) : Prop :=
  match route with
  | .udp address =>
    after.streams = before.streams ∧
      (after.history.datagrams = before.history.datagrams ∨
        after.history.datagrams = before.history.datagrams ++ [(address, reply.packet)])
  | .tcp slot _ => OnlyStream (.client slot) before after
  | .uart => OnlyStream .uart before after

theorem OnlyTo.refl (route : Route) (reply : Reply) (server : Server) :
    OnlyTo route reply server server := by
  cases route with
  | udp address => exact ⟨rfl, .inl rfl⟩
  | tcp slot generation => exact OnlyStream.refl _ server
  | uart => exact OnlyStream.refl _ server

variable {before after : Server} {route : Route} {middle : Server}

theorem OnlyTo.from {reply : Reply} (streams : middle.streams = before.streams)
    (datagrams : middle.history.datagrams = before.history.datagrams)
    (only : OnlyTo route reply middle after) : OnlyTo route reply before after := by
  cases route with
  | udp address => exact ⟨only.1.trans streams, by rw [← datagrams]; exact only.2⟩
  | tcp slot generation =>
    exact ⟨fun other different => by rw [only.others other different, streams],
      only.datagrams.trans datagrams⟩
  | uart =>
    exact ⟨fun other different => by rw [only.others other different, streams],
      only.datagrams.trans datagrams⟩

/-- A reply has been handed to the peer of a route, and to nobody else. A stream without room
for it, or that fails, does not accept it whole or is closed. -/
def Delivered (route : Route) (reply : Reply) (before after : Server) : Prop :=
  OnlyTo route reply before after ∧
    match route with
    | .udp address =>
      after.history.datagrams = before.history.datagrams ++ [(address, reply.packet)]
    | .tcp slot _ =>
      (after.streams (.client slot)).outbound.accepted =
        (before.streams (.client slot)).outbound.accepted ++
          acceptedBy (before.streams (.client slot))
            (.queue reply.packet (reply.network.transport (.client slot)))
    | .uart =>
      (after.streams .uart).outbound.accepted =
        (before.streams .uart).outbound.accepted ++
          acceptedBy (before.streams .uart)
            (.queue reply.packet (reply.network.transport .uart))

theorem OnlyTo.to {reply : Reply} (only : OnlyTo route reply before middle)
    (streams : after.streams = middle.streams)
    (datagrams : after.history.datagrams = middle.history.datagrams) :
    OnlyTo route reply before after := by
  cases route with
  | udp address => exact ⟨streams.trans only.1, by rw [datagrams]; exact only.2⟩
  | tcp slot generation =>
    exact ⟨fun other different => by rw [streams, only.others other different],
      datagrams.trans only.datagrams⟩
  | uart =>
    exact ⟨fun other different => by rw [streams, only.others other different],
      datagrams.trans only.datagrams⟩

theorem deliver_only (server : Server) (route : Route) (reply : Reply) :
    OnlyTo route reply server (deliver server route reply) := by
  cases route with
  | udp address =>
    unfold deliver sendRoute
    split_ifs
    · cases reply.network.datagramSent <;> exact ⟨rfl, .inr rfl⟩
    · exact .refl (.udp address) reply server
  | tcp slot generation =>
    have sent : OnlyStream (.client slot) server
        (sendRoute server (.tcp slot generation) reply.packet reply.network).1 := by
      unfold sendRoute
      split
      · exact queueClient_only ..
      · exact .refl _ server
    change OnlyStream (.client slot) server (deliver server (.tcp slot generation) reply)
    unfold deliver
    split
    · next equal => rwa [equal] at sent
    · next equal =>
      rw [equal] at sent
      exact sent.trans (closeStream_only ..)
  | uart =>
    have sent : OnlyStream .uart server (sendRoute server .uart reply.packet reply.network).1 := by
      unfold sendRoute
      split
      · exact queueUart_only ..
      · exact .refl _ server
    change OnlyStream .uart server (deliver server .uart reply)
    unfold deliver
    split <;> next equal => rwa [equal] at sent

variable {server : Server}

theorem deliver_delivered (valid : routeValid server route = true) (reply : Reply) :
    Delivered route reply server (deliver server route reply) := by
  refine ⟨deliver_only server route reply, ?_⟩
  cases route with
  | udp address =>
    unfold deliver sendRoute
    rw [if_pos valid]
    cases reply.network.datagramSent <;> rfl
  | tcp slot generation =>
    have isOpen : (server.streams (.client slot)).isOpen = true := (Bool.and_eq_true_iff.mp valid).1
    have accepted := queueCall_accepted server (.client slot)
      (.queue reply.packet (reply.network.transport (.client slot)))
    simp only [queueCall, isOpen, if_true] at accepted
    unfold deliver sendRoute
    rw [if_pos valid]
    simp only
    split
    · next equal => rwa [equal] at accepted
    · next equal =>
      rw [equal] at accepted
      exact (closeStream_accepted ..).trans accepted
  | uart =>
    have isOpen : (server.streams .uart).isOpen = true := valid
    have accepted := queueCall_accepted server .uart
      (.queue reply.packet (reply.network.transport .uart))
    simp only [queueCall, isOpen, if_true] at accepted
    unfold deliver sendRoute
    rw [if_pos valid]
    simp only
    split <;> next equal => rwa [equal] at accepted

/-! ### The route of a reply -/

def chosenRoute (server : Server) (opcode : UInt8) (now : Nat) : Option Route :=
  match (takePending server opcode now).2 with
  | some route => some route
  | none =>
    match server.last opcode with
    | some route => if routeValid server route then some route else none
    | none => none

theorem takePending_routeValid (server : Server) (opcode : UInt8) (now : Nat) :
    routeValid (takePending server opcode now).1 = routeValid server := by
  obtain ⟨spared, -, streams⟩ := takePending_spared server opcode now
  have udp : (takePending server opcode now).1.udpOpen = server.udpOpen := by
    unfold takePending
    split <;> rfl
  funext route
  cases route <;> simp only [routeValid, udp, streams, spared.generation]

theorem emitMatched_eq (server : Server) (opcode : UInt8) (reply : Reply) :
    emitMatched server opcode reply =
      match chosenRoute server opcode reply.now with
      | some route => deliver (takePending server opcode reply.now).1 route reply
      | none =>
        broadcastUnmatched (takePending server opcode reply.now).1 reply.packet reply.network := by
  have last := (takePending_spared server opcode reply.now).1.last
  have valid := takePending_routeValid server opcode reply.now
  unfold emitMatched chosenRoute
  split
  · next equal => rw [equal]
  · next taken equal =>
    rw [equal] at last valid ⊢
    rw [last, valid]
    cases server.last opcode with
    | none => rfl
    | some route => by_cases isValid : routeValid server route = true <;> simp [isValid]

variable {opcode : UInt8}

/-- The pending entry a reply is matched with is the oldest one that can be answered; its order
is recorded as answered. -/
theorem takePending_some {now : Nat} (taken : (takePending server opcode now).2 = some route) :
    ∃ index, (server.pending.entries index).route = route ∧
      server.pending.Matches opcode (routeValid server) now index ∧
      (∀ other, server.pending.Matches opcode (routeValid server) now other →
        (server.pending.entries index).order ≤ (server.pending.entries other).order) ∧
      (takePending server opcode now).1.pending = (server.pending.purge now).release index ∧
      (takePending server opcode now).1.history.answered =
        server.history.answered ++ [(server.pending.entries index).order] := by
  unfold takePending at taken ⊢
  split at taken
  · cases taken
  · next pending entry equal =>
    obtain ⟨index, rfl, fits, oldest, rfl⟩ := Table.take_eq_some equal
    cases taken
    exact ⟨index, rfl, fits, oldest, rfl, rfl⟩

theorem takePending_none {now : Nat} (taken : (takePending server opcode now).2 = none) :
    (∀ index, ¬ server.pending.Matches opcode (routeValid server) now index) ∧
      (takePending server opcode now).1.pending = server.pending.purge now ∧
      (takePending server opcode now).1.history.answered = server.history.answered := by
  unfold takePending at taken ⊢
  split at taken
  · next pending equal =>
    obtain ⟨nobody, rfl⟩ := Table.take_eq_none equal
    exact ⟨nobody, rfl, rfl⟩
  · cases taken

/-! ### Who asked -/

/-- The connection of a slot with this generation has not been opened yet or is over, or it is
open now and has made a request of this opcode. Generations start again after 2^32
connections. -/
def Asked (server : Server) (slot : Slot) (generation : UInt32) (opcode : UInt8) : Prop :=
  server.history.accepts slot < 2 ^ 32 →
    generation.toNat ≤ server.history.accepts slot ∧
      (generation = server.generation slot →
        ∃ request ∈ (server.streams (.client slot)).inbound.requests, request.opcode = opcode)

/-- What holds of the pending table and the orders that have been answered. -/
structure TableRouted (asked : Slot → UInt32 → UInt8 → Prop)
    (pending : Table UInt8 Route pendingRoutes) (answered : List Nat) : Prop where
  routes : ∀ index slot generation, (pending.entries index).used = true →
    (pending.entries index).route = .tcp slot generation →
      asked slot generation (pending.entries index).key
  once : answered.Nodup
  dated : ∀ order ∈ answered, order ≤ pending.newest
  gone : ∀ order ∈ answered, ∀ index, (pending.entries index).used = true →
    (pending.entries index).order ≠ order

namespace TableRouted

variable {asked : Slot → UInt32 → UInt8 → Prop}
  {pending : Table UInt8 Route pendingRoutes} {answered : List Nat}
  (table : TableRouted asked pending answered)

include table

theorem mono {wider : Slot → UInt32 → UInt8 → Prop}
    (weaker : ∀ slot generation opcode, asked slot generation opcode →
      wider slot generation opcode) : TableRouted wider pending answered :=
  ⟨fun index slot generation used route => weaker _ _ _ (table.routes index slot generation used
    route), table.once, table.dated, table.gone⟩

theorem purge (now : Nat) : TableRouted asked (pending.purge now) answered where
  routes index slot generation used route :=
    table.routes index slot generation (Bool.and_eq_true_iff.mp used).1 route
  once := table.once
  dated := table.dated
  gone order member index used := table.gone order member index (Bool.and_eq_true_iff.mp used).1

theorem answer {index : Fin pendingRoutes} (used : (pending.entries index).used = true) :
    TableRouted asked (pending.release index) (answered ++ [(pending.entries index).order]) where
  routes other slot generation usedOther route := by
    obtain ⟨-, same⟩ := Table.release_used usedOther
    rw [same] at usedOther route ⊢
    exact table.routes other slot generation usedOther route
  once := by
    refine nodup_append.mpr ⟨table.once, nodup_singleton _, ?_⟩
    intro order member other isNew same
    rw [mem_singleton.mp isNew] at same
    exact table.gone order member index used same.symm
  dated order member := by
    rcases mem_append.mp member with earlier | new
    · exact table.dated order earlier
    · rw [mem_singleton.mp new]
      exact pending.dated index used
  gone order member other usedOther := by
    obtain ⟨different, same⟩ := Table.release_used usedOther
    rw [same] at usedOther ⊢
    rcases mem_append.mp member with earlier | new
    · exact table.gone order earlier other usedOther
    · rw [mem_singleton.mp new]
      exact fun equal => different (pending.distinct other index usedOther used equal)

theorem replace (index : Fin pendingRoutes) (opcode : UInt8) (route : Route) (deadline : Nat)
    (requested : ∀ slot generation, route = .tcp slot generation → asked slot generation opcode) :
    TableRouted asked (pending.replace index opcode route deadline) answered where
  routes other slot generation used isRoute := by
    by_cases same : other = index
    · subst same
      simp only [Table.replace, update_self] at isRoute ⊢
      exact requested slot generation isRoute
    · simp only [Table.replace, update_of_ne same] at used isRoute ⊢
      exact table.routes other slot generation used isRoute
  once := table.once
  dated order member := (table.dated order member).trans (Nat.le_succ _)
  gone order member other used := by
    by_cases same : other = index
    · subst same
      have := table.dated order member
      simp only [Table.replace, update_self]
      omega
    · simp only [Table.replace, update_of_ne same] at used ⊢
      exact table.gone order member other used

end TableRouted

/-- The invariant of routing: every route of a client that the server remembers leads to a
connection that asked, and no request is answered twice. -/
structure Routed (server : Server) : Prop where
  idle : server.active = none
  generation : ∀ slot, server.history.accepts slot < 2 ^ 32 →
    (server.generation slot).toNat = server.history.accepts slot
  last : ∀ opcode slot generation, server.last opcode = some (.tcp slot generation) →
    Asked server slot generation opcode
  table : TableRouted (Asked server) server.pending server.history.answered

theorem Routed.start (uart : Bool) : Routed (start uart) where
  idle := rfl
  generation _ _ := rfl
  last _ _ _ none := by cases none
  table :=
    { routes := fun _ _ _ used => by cases used
      once := nodup_nil
      dated := fun _ none => by cases none
      gone := fun _ none => by cases none }

theorem Asked.mono {slot : Slot} {generation : UInt32}
    (accepts : after.history.accepts = before.history.accepts)
    (generations : after.generation = before.generation)
    (requests : (before.streams (.client slot)).inbound.requests ⊆
      (after.streams (.client slot)).inbound.requests)
    (asked : Asked before slot generation opcode) : Asked after slot generation opcode := by
  intro few
  rw [accepts] at few ⊢
  rw [generations]
  obtain ⟨opened, requested⟩ := asked few
  refine ⟨opened, fun current => ?_⟩
  obtain ⟨request, member, same⟩ := requested current
  exact ⟨request, requests member, same⟩

/-- The invariant of routing carries over to a state in which nobody has been forgotten. -/
theorem Routed.carry (routed : Routed before) (idle : after.active = none)
    (accepts : after.history.accepts = before.history.accepts)
    (generations : after.generation = before.generation) (last : after.last = before.last)
    (requests : ∀ slot, (before.streams (.client slot)).inbound.requests ⊆
      (after.streams (.client slot)).inbound.requests)
    (table : TableRouted (Asked before) after.pending after.history.answered) : Routed after where
  idle := idle
  generation slot few := by
    rw [generations, accepts]
    rw [accepts] at few
    exact routed.generation slot few
  last opcode slot generation remembered := by
    rw [last] at remembered
    exact (routed.last opcode slot generation remembered).mono accepts generations (requests slot)
  table := table.mono fun slot _ _ asked => asked.mono accepts generations (requests slot)

theorem Routed.spared (routed : Routed before) (spared : Spared before after)
    (table : TableRouted (Asked before) after.pending after.history.answered) : Routed after :=
  routed.carry (spared.active.trans routed.idle) spared.accepts spared.generation spared.last
    (fun slot => by rw [(spared.streams (.client slot)).requests]; exact List.Subset.refl _) table

/-! ### Every operation -/

theorem Routed.emitMatched (routed : Routed server) (opcode : UInt8) (reply : Reply) :
    Routed (emitMatched server opcode reply) := by
  have taken : TableRouted (Asked server) (takePending server opcode reply.now).1.pending
      (takePending server opcode reply.now).1.history.answered := by
    cases matched : (takePending server opcode reply.now).2 with
    | none =>
      obtain ⟨-, pending, answered⟩ := takePending_none matched
      rw [pending, answered]
      exact routed.table.purge reply.now
    | some route =>
      obtain ⟨index, -, fits, -, pending, answered⟩ := takePending_some matched
      have whole := Table.purge_live fits.1
      rw [pending, answered, ← whole]
      exact (routed.table.purge reply.now).answer ((Table.purge_used ..).mpr fits.1)
  refine routed.spared (emitMatched_spared server opcode reply).1 ?_
  have sent (after : Server) (sending : Sent (takePending server opcode reply.now).1 after) :
      TableRouted (Asked server) after.pending after.history.answered := by
    rw [sending.pending, sending.answered]
    exact taken
  rw [emitMatched_eq]
  split
  · exact sent _ (deliver_sent ..)
  · exact sent _ (broadcastUnmatched_sent ..)

theorem Routed.sent (routed : Routed before) (sent : Sent before after) : Routed after :=
  routed.spared sent.toSpared (by rw [sent.pending, sent.answered]; exact routed.table)

theorem Routed.emit (routed : Routed server) (reply : Reply) : Routed (emit server reply) := by
  unfold SiyiServer.emit
  rw [routed.idle]
  split
  · exact routed
  simp only
  split
  · split
    · exact routed.emitMatched ..
    · exact routed.sent (broadcastUnmatched_sent ..)
  · exact routed.sent (broadcastUnmatched_sent ..)

theorem emitAll_table (server : Server) (active : server.active = some route)
    (replies : List Reply) :
    (replies.foldl emit server).pending = server.pending ∧
      (replies.foldl emit server).history.answered = server.history.answered := by
  induction replies generalizing server with
  | nil => exact ⟨rfl, rfl⟩
  | cons reply rest hypothesis =>
    have spared := emit_spared server reply
    obtain ⟨pending, answered⟩ := hypothesis _ (spared.active.trans active)
    have first : (emit server reply).pending = server.pending ∧
        (emit server reply).history.answered = server.history.answered := by
      unfold emit
      split
      · exact ⟨rfl, rfl⟩
      · rw [active]
        have sent := deliver_sent { server with activeEmitted := true } route reply
        exact ⟨sent.pending, sent.answered⟩
    rw [foldl_cons]
    exact ⟨pending.trans first.1, answered.trans first.2⟩

theorem activate_asked (routed : Routed server) {slot : Slot} {generation : UInt32}
    (current : RouteCurrent server (.tcp slot generation)) (packet : Packet) :
    Asked (activate server (.tcp slot generation) packet) slot generation packet.opcode := by
  intro few
  refine ⟨?_, fun _ => ⟨packet, ?_, rfl⟩⟩
  · rw [show generation = server.generation slot from current, routed.generation slot few]
    exact le_rfl
  · simp [activate, noteRequest, Route.port]

theorem activate_requests (server : Server) (route : Route) (packet : Packet) (slot : Slot) :
    (server.streams (.client slot)).inbound.requests ⊆
      ((activate server route packet).streams (.client slot)).inbound.requests := by
  simp only [activate, noteRequest]
  split
  · exact List.Subset.refl _
  · next port leads =>
    by_cases same : Port.client slot = port
    · subst same
      rw [setStream_self]
      exact subset_append_left ..
    · rw [setStream_other server _ same]
      exact List.Subset.refl _

theorem Routed.serve (routed : Routed server) (current : RouteCurrent server route)
    (packet : Packet) (answer : Answer) : Routed (serve server route packet answer) := by
  have spared := emitAll_spared (activate server route packet) answer.replies
  obtain ⟨pending, answered⟩ := emitAll_table (activate server route packet) rfl answer.replies
  have activated : (activate server route packet).pending = server.pending ∧
      (activate server route packet).history = server.history ∧
      (activate server route packet).generation = server.generation := by
    simp only [activate, noteRequest]
    split <;> exact ⟨rfl, rfl, rfl⟩
  obtain ⟨samePending, sameHistory, sameGeneration⟩ := activated
  set handled := answer.replies.foldl SiyiServer.emit (activate server route packet)
  have requester (slot : Slot) (generation : UInt32) (isRoute : route = .tcp slot generation) :
      Asked handled slot generation packet.opcode := by
    subst isRoute
    refine (activate_asked routed current packet).mono spared.accepts spared.generation ?_
    rw [(spared.streams (.client slot)).requests]
    exact List.Subset.refl _
  have kept {slot : Slot} {generation : UInt32} {opcode : UInt8}
      (asked : Asked server slot generation opcode) : Asked handled slot generation opcode := by
    refine asked.mono (spared.accepts.trans (by rw [sameHistory]))
      (spared.generation.trans sameGeneration) ?_
    rw [(spared.streams (.client slot)).requests]
    exact activate_requests server route packet slot
  have table : TableRouted (Asked handled) handled.pending handled.history.answered := by
    rw [pending, answered, samePending, sameHistory]
    exact routed.table.mono fun _ _ _ => kept
  have idle : Routed { handled with active := none } := by
    refine ⟨rfl, fun slot few => ?_, fun opcode slot generation remembered => ?_, table⟩
    · have accepts : handled.history.accepts = server.history.accepts :=
        spared.accepts.trans (by rw [sameHistory])
      simp only [accepts] at few ⊢
      rw [spared.generation, sameGeneration]
      exact routed.generation slot few
    · have last : handled.last = update server.last packet.opcode (some route) := by
        rw [spared.last]
        rfl
      simp only [last] at remembered
      by_cases same : opcode = packet.opcode
      · subst same
        rw [update_self] at remembered
        exact requester slot generation (some.inj remembered)
      · rw [update_of_ne same] at remembered
        exact kept (routed.last opcode slot generation remembered)
  simp only [SiyiServer.serve]
  split
  · exact idle
  · obtain ⟨index, added, -⟩ := Table.add_spec handled.pending packet.opcode route answer.now
      pendingMs (by decide)
    refine idle.carry rfl rfl rfl rfl (fun _ => List.Subset.refl _) ?_
    change TableRouted _ (handled.pending.add packet.opcode route answer.now pendingMs) _
    rw [added]
    exact (table.purge answer.now).replace index packet.opcode route _ requester

theorem Routed.openClient (routed : Routed server) (slot : Slot) :
    Routed (openClient server slot) := by
  have own : (SiyiServer.openClient server slot).history.accepts slot =
      server.history.accepts slot + 1 := by
    simp only [SiyiServer.openClient, update_self]
  have others (other : Slot) (different : other ≠ slot) :
      (SiyiServer.openClient server slot).history.accepts other = server.history.accepts other ∧
        (SiyiServer.openClient server slot).generation other = server.generation other ∧
        (SiyiServer.openClient server slot).streams (.client other) =
          server.streams (.client other) := by
    refine ⟨update_of_ne different .., update_of_ne different .., ?_⟩
    exact setStream_other server _ (by simpa using different)
  -- below 2^32 connections the generation counts them
  have counts (few : server.history.accepts slot + 1 < 2 ^ 32) :
      ((SiyiServer.openClient server slot).generation slot).toNat =
        server.history.accepts slot + 1 := by
    have before := routed.generation slot (by omega)
    have next : (server.generation slot + 1).toNat = server.history.accepts slot + 1 := by
      rw [UInt32.toNat_add, before]
      exact Nat.mod_eq_of_lt few
    have nonzero : server.generation slot + 1 ≠ 0 := by
      intro zero
      rw [zero] at next
      exact absurd next (by simp)
    simp only [SiyiServer.openClient, update_self, if_neg nonzero, next]
  have kept {other : Slot} {generation : UInt32} {opcode : UInt8}
      (asked : Asked server other generation opcode) :
      Asked (SiyiServer.openClient server slot) other generation opcode := by
    by_cases same : other = slot
    · subst same
      intro few
      rw [own] at few ⊢
      obtain ⟨opened, -⟩ := asked (by omega)
      refine ⟨by omega, fun current => ?_⟩
      have := counts few
      rw [← current] at this
      omega
    · obtain ⟨accepts, generations, stream⟩ := others other same
      intro few
      rw [accepts] at few ⊢
      rw [generations, stream]
      exact asked few
  refine ⟨routed.idle, fun other few => ?_, fun opcode other generation remembered =>
    kept (routed.last opcode other generation remembered),
    routed.table.mono fun _ _ _ => kept⟩
  by_cases same : other = slot
  · subst same
    rw [own] at few ⊢
    exact counts few
  · obtain ⟨accepts, generations, -⟩ := others other same
    rw [accepts] at few ⊢
    rw [generations]
    exact routed.generation other few

theorem Routed.preserved : Preserved Routed where
  inbound server port inbound same routed := by
    refine routed.carry routed.idle rfl rfl rfl (fun slot => ?_) routed.table
    by_cases own : Port.client slot = port
    · subst own
      rw [setStream_self, same]
      exact List.Subset.refl _
    · rw [setStream_other server _ own]
      exact List.Subset.refl _
  inputFull _ routed := ⟨routed.idle, routed.generation, routed.last, routed.table⟩
  serve _ _ packet answer current routed := routed.serve current packet answer
  emit _ reply routed := routed.emit reply
  flush _ _ _ _ routed := routed.sent (flushStream_sent ..)
  close _ _ routed := routed.sent (closeStream_sent ..)
  openClient _ slot _ routed := routed.openClient slot

/-! ### Faithful routing -/

/-- A reply that can answer a pending request is handed to the oldest requester alone, and that
request is recorded as answered. -/
def AnswersOldest (server : Server) : Prop :=
  ∀ reply parsed, parseOne reply.packet = .packet parsed reply.packet.length →
    (∃ index, server.pending.Matches parsed.opcode (routeValid server) reply.now index) →
    ∃ index, server.pending.Matches parsed.opcode (routeValid server) reply.now index ∧
      (∀ other, server.pending.Matches parsed.opcode (routeValid server) reply.now other →
        (server.pending.entries index).order ≤ (server.pending.entries other).order) ∧
      Delivered (server.pending.entries index).route reply server (emit server reply) ∧
      (emit server reply).history.answered =
        server.history.answered ++ [(server.pending.entries index).order]

/-- No request is answered twice: an entry leaves the table when it is answered, and the
entries of the table have orders of their own. -/
def AnswersOnce (server : Server) : Prop :=
  server.history.answered.Nodup ∧
    (∀ order ∈ server.history.answered, ∀ index,
      (server.pending.entries index).used = true →
        (server.pending.entries index).order ≠ order) ∧
    ∀ first second, (server.pending.entries first).used = true →
      (server.pending.entries second).used = true →
      (server.pending.entries first).order = (server.pending.entries second).order →
        first = second

/-- A reply from outside a request that goes down a client's route reaches a connection that
has made a request of its opcode, and nobody else. -/
def AnswersRequester (server : Server) : Prop :=
  ∀ reply parsed slot generation,
    parseOne reply.packet = .packet parsed reply.packet.length →
    chosenRoute server parsed.opcode reply.now = some (.tcp slot generation) →
    Delivered (.tcp slot generation) reply server (emit server reply) ∧
      (server.streams (.client slot)).isOpen = true ∧
      generation = server.generation slot ∧
      ∃ request ∈ (server.streams (.client slot)).inbound.requests,
        request.opcode = parsed.opcode

/-- While a request of a connection is handled, its replies touch that connection alone. -/
def AnswersActive (server : Server) : Prop :=
  ∀ route packet (replies : List Reply) reply,
    let handling := replies.foldl emit (activate server route packet)
    OnlyTo route reply handling (emit handling reply)

/-- A request that is left pending takes a free or expired place, or that of the oldest one
when all places are taken. -/
def ReplacesOldest (server : Server) : Prop :=
  ∀ opcode route now, ∃ index,
    (addPending server opcode route now).pending =
        (server.pending.purge now).replace index opcode route (now + pendingMs) ∧
      (¬ server.pending.Live now index ∨
        (∀ other, server.pending.Live now other) ∧
          ∀ other, (server.pending.entries index).order ≤ (server.pending.entries other).order)

theorem Delivered.from {reply : Reply} (streams : middle.streams = before.streams)
    (datagrams : middle.history.datagrams = before.history.datagrams)
    (delivered : Delivered route reply middle after) : Delivered route reply before after := by
  obtain ⟨only, accepted⟩ := delivered
  exact ⟨only.from streams datagrams, by rwa [streams, datagrams] at accepted⟩

theorem emit_chosen (idle : server.active = none) {reply : Reply} {parsed : Packet}
    (whole : parseOne reply.packet = .packet parsed reply.packet.length)
    (chosen : chosenRoute server parsed.opcode reply.now = some route)
    (valid : routeValid server route = true) :
    Delivered route reply server (emit server reply) ∧
      (emit server reply).history.answered =
        (takePending server parsed.opcode reply.now).1.history.answered := by
  have nonempty : reply.packet ≠ [] := by
    intro empty
    rw [empty] at whole
    cases whole
  have emitted : emit server reply =
      deliver (takePending server parsed.opcode reply.now).1 route reply := by
    unfold emit
    rw [if_neg nonempty, idle, whole]
    simp only [if_true]
    rw [emitMatched_eq, chosen]
  obtain ⟨-, -, streams⟩ := takePending_spared server parsed.opcode reply.now
  have datagrams : (takePending server parsed.opcode reply.now).1.history.datagrams =
      server.history.datagrams := by
    unfold takePending
    split <;> rfl
  have delivered := deliver_delivered
    ((congrFun (takePending_routeValid server parsed.opcode reply.now) route).trans valid) reply
  rw [emitted]
  exact ⟨delivered.from streams datagrams, (deliver_sent ..).answered⟩

theorem Routed.answersOldest (routed : Routed server) : AnswersOldest server := by
  rintro reply parsed whole ⟨candidate, possible⟩
  cases matched : (takePending server parsed.opcode reply.now).2 with
  | none => exact absurd possible ((takePending_none matched).1 candidate)
  | some route =>
    obtain ⟨index, isRoute, fits, oldest, -, answered⟩ := takePending_some matched
    have chosen : chosenRoute server parsed.opcode reply.now = some route := by
      rw [chosenRoute, matched]
    obtain ⟨delivered, recorded⟩ := emit_chosen routed.idle whole chosen (isRoute ▸ fits.2.2)
    exact ⟨index, fits, oldest, isRoute ▸ delivered, recorded.trans answered⟩

theorem Routed.answersOnce (routed : Routed server) : AnswersOnce server :=
  ⟨routed.table.once, routed.table.gone, server.pending.distinct⟩

theorem Routed.chosen (routed : Routed server) {now : Nat}
    (chosen : chosenRoute server opcode now = some route) :
    routeValid server route = true ∧
      ∀ slot generation, route = .tcp slot generation → Asked server slot generation opcode := by
  unfold chosenRoute at chosen
  split at chosen
  · next matched =>
    cases chosen
    obtain ⟨index, rfl, ⟨⟨used, -⟩, sameKey, valid⟩, -⟩ := takePending_some matched
    refine ⟨valid, fun slot generation isRoute => ?_⟩
    rw [← sameKey]
    exact routed.table.routes index slot generation used isRoute
  · split at chosen
    · next remembered =>
      split at chosen
      · next valid =>
        cases chosen
        exact ⟨valid, fun slot generation isRoute =>
          routed.last opcode slot generation (isRoute ▸ remembered)⟩
      · cases chosen
    · cases chosen

theorem Routed.answersRequester (routed : Routed server)
    (few : ∀ slot, server.history.accepts slot < 2 ^ 32) : AnswersRequester server := by
  intro reply parsed slot generation whole chosen
  obtain ⟨valid, asked⟩ := routed.chosen chosen
  obtain ⟨isOpen, current⟩ := Bool.and_eq_true_iff.mp valid
  have sameGeneration : generation = server.generation slot := (eq_of_beq current).symm
  exact ⟨(emit_chosen routed.idle whole chosen valid).1, isOpen, sameGeneration,
    (asked slot generation rfl (few slot)).2 sameGeneration⟩

theorem answersActive (server : Server) : AnswersActive server := by
  intro route packet replies reply handling
  have active : handling.active = some route :=
    (emitAll_spared (activate server route packet) replies).active
  unfold emit
  split
  · exact .refl route reply handling
  · rw [active]
    set started : Server := { handling with activeEmitted := true } with startedEq
    have streams : started.streams = handling.streams := by rw [startedEq]
    have datagrams : started.history.datagrams = handling.history.datagrams := by rw [startedEq]
    exact ((deliver_only started route reply).from streams datagrams).to rfl rfl

theorem replacesOldest (server : Server) : ReplacesOldest server :=
  fun opcode route now => server.pending.add_spec opcode route now pendingMs (by decide)

/-- In every reachable state, replies are routed faithfully: a reply from outside a request
answers the oldest request it can answer, and each request at most once; down a client's route
it reaches a connection that has asked; replies to the request being handled reach its
connection alone; and a full table replaces its oldest entry. -/
theorem replies_routed_faithfully (uart : Bool) (events : List Event) (server : Server)
    (ran : run (start uart) events = .ok server)
    (few : ∀ slot, server.history.accepts slot < 2 ^ 32) :
    AnswersOldest server ∧ AnswersOnce server ∧ AnswersRequester server ∧
      AnswersActive server ∧ ReplacesOldest server := by
  have routed : Routed server := Routed.preserved.run (.start uart) ran
  exact ⟨routed.answersOldest, routed.answersOnce, routed.answersRequester few,
    answersActive server, replacesOldest server⟩

/-- A feedback packet: opcode 0x0b with one byte of payload. -/
def feedbackPacket : Bytes :=
  [0x55, 0x66, 0x01, 0x01, 0x00, 0x00, 0x00, 0x0b, 0x00, 0xa3, 0x57]

/-- A transport that takes everything. -/
def openNetwork : Network :=
  { transport := fun _ => { transfers := [.sent 4096], rearmed := true }, datagramSent := true }

/-- A client connects and makes a request that is answered later, by a reply from outside. -/
def pendingRun : List Event :=
  [.connections [true],
    .client ⟨0, tcpClients_pos⟩ 1
      { input := some [.bytes configurationRequest], output := none, hungUp := false,
        answers := [] },
    .reply { packet := configurationRequest, network := openNetwork, now := 100 }]

theorem replies_routed_faithfully_pending :
    ∃ server, run (start false) pendingRun = .ok server ∧
      AnswersOldest server ∧ AnswersOnce server ∧ AnswersRequester server ∧
      AnswersActive server ∧ ReplacesOldest server := by
  obtain ⟨server, ran, check⟩ := exists_of_endsWith (run (start false) pendingRun)
    (fun server => decide (∀ slot, server.history.accepts slot < 2 ^ 32)) (by decide +kernel)
  exact ⟨server, ran,
    replies_routed_faithfully false pendingRun server ran (of_decide_eq_true check)⟩

/-- A client connects and makes a request that the callback answers with a feedback packet. -/
def feedbackRun : List Event :=
  [.connections [true],
    .client ⟨0, by decide⟩ 1
      { input := some [.bytes configurationRequest]
        output := none
        hungUp := false
        answers :=
          [{ replies := [{ packet := feedbackPacket, network := openNetwork, now := 0 }]
             failure := none
             now := 0 }] }]

/-- A reply to a request reaches its connection whatever its opcode, here one the connection
has never asked for. -/
theorem feedback_reaches_other_opcode :
    ∃ server, run (start false) feedbackRun = .ok server ∧
      (let stream := server.streams (.client ⟨0, by decide⟩)
       stream.isOpen = true ∧ stream.outbound.written = feedbackPacket ∧
        (∃ parsed, parseOne feedbackPacket = .packet parsed feedbackPacket.length ∧
          ∀ request ∈ stream.inbound.requests, request.opcode ≠ parsed.opcode)) := by
  obtain ⟨server, ran, check⟩ := exists_of_endsWith (run (start false) feedbackRun)
    (fun server =>
      let stream := server.streams (.client ⟨0, by decide⟩)
      stream.isOpen && stream.outbound.written == feedbackPacket &&
        stream.inbound.requests.all fun request => request.opcode != 0x0b)
    (by decide +kernel)
  simp only [Bool.and_eq_true, beq_iff_eq, List.all_eq_true, bne_iff_ne] at check
  obtain ⟨⟨isOpen, written⟩, others⟩ := check
  refine ⟨server, ran, isOpen, written,
    { control := 1, payloadLength := 1, sequence := 0, opcode := 0x0b, payload := [0],
      raw := feedbackPacket }, by decide +kernel, others⟩

end SiyiServer
