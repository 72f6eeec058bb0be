/-
This file proves that a route to a slot of the MAVLink server never outlives the
connection it was recorded for.

Sending opens and closes no client, whatever fails; a client is closed together with
the lists and the flight controller behind it. So in every run a recorded route leads
to the connection it was recorded for, and nothing that was addressed to one
connection is sent to another that was given the same slot.
-/

import CameraGimbal.MavlinkServer

namespace MavlinkServer

open MavlinkLink OutputQueue List Function

variable {Message Status : Type}

/-! ### What sending leaves alone -/

/-- From one state of the link to the next no client was opened or closed, no list changed and no
system id was learned; the route of the flight controller may have been forgotten. -/
structure Keeps (before after : MavlinkLink.Server Message Status) : Prop where
  opened : ∀ slot, (after.clients slot).isOpen = (before.clients slot).isOpen
  lists : after.extLists = before.extLists
  flightController : after.flightControllerRoute = before.flightControllerRoute ∨
    after.flightControllerRoute = none
  systemId : after.systemId = before.systemId

variable (link : MavlinkLink.Server Message Status)

theorem Keeps.refl : Keeps link link :=
  ⟨fun _ => rfl, rfl, .inl rfl, rfl⟩

theorem Keeps.trans {first second third : MavlinkLink.Server Message Status}
    (keeps : Keeps first second) (goesOn : Keeps second third) : Keeps first third where
  opened := fun slot => (goesOn.opened slot).trans (keeps.opened slot)
  lists := goesOn.lists.trans keeps.lists
  flightController := by
    rcases goesOn.flightController with same | forgotten
    · rw [same]
      exact keeps.flightController
    · exact .inr forgotten
  systemId := goesOn.systemId.trans keeps.systemId

variable {link : MavlinkLink.Server Message Status}

theorem flushUart_keeps {after : MavlinkLink.Server Message Status} {transport : Transport}
    {succeeded : Bool} (equal : flushUart link transport = (after, succeeded)) :
    Keeps link after := by
  have flushes : Keeps link (flushUart link transport).1 := ⟨fun _ => rfl, rfl, .inl rfl, rfl⟩
  rwa [equal] at flushes

section

variable (link : MavlinkLink.Server Message Status)

theorem disableUart_keeps : Keeps link (disableUart link) := by
  unfold disableUart
  split
  · refine ⟨fun _ => rfl, rfl, ?_, rfl⟩
    split
    · exact .inr rfl
    · exact .inl rfl
  · exact .refl link

theorem sendTcp_keeps (slot : Slot)
    (frame : Bytes) (transfers : List Transfer) :
    Keeps link (sendTcp link slot frame transfers).1 := by
  refine ⟨fun other => ?_, rfl, .inl rfl, rfl⟩
  simp only [sendTcp]
  by_cases same : other = slot
  · rw [same, update_self]
  · rw [update_of_ne same]

theorem queueUart_keeps (frame : Bytes)
    (transport : Transport) : Keeps link (queueUart link frame transport).1 := by
  unfold queueUart
  simp only
  split
  · exact ⟨fun _ => rfl, rfl, .inl rfl, rfl⟩
  · next channel pushed =>
    have kept {queued flushed : MavlinkLink.Server Message Status} {succeeded : Bool}
        (equal : flushUart queued transport = (flushed, succeeded)) (same : Keeps link queued) :
        Keeps link flushed := by
      have flushes : Keeps queued (flushUart queued transport).1 :=
        ⟨fun _ => rfl, rfl, .inl rfl, rfl⟩
      rw [equal] at flushes
      exact same.trans flushes
    split
    · next equal => exact kept equal ⟨fun _ => rfl, rfl, .inl rfl, rfl⟩
    · next equal =>
      exact (kept equal ⟨fun _ => rfl, rfl, .inl rfl, rfl⟩).trans (disableUart_keeps _)

theorem sendRoute_keeps (route : Route)
    (frame : Bytes) (network : Network) :
    Keeps link (sendRoute link route frame network).1 := by
  unfold sendRoute
  split
  · cases route with
    | tcp client => exact sendTcp_keeps ..
    | udp address => exact ⟨fun _ => rfl, rfl, .inl rfl, rfl⟩
    | uart => exact queueUart_keeps ..
    | proxy => exact queueUart_keeps ..
  · exact .refl link

end

variable (codec : Codec Message Status)

theorem sendMessage_keeps (route : Route)
    (message : Message) (network : Network) :
    Keeps link (sendMessage codec link route message network).1 := by
  have stamped : Keeps link (restamp codec link message).1 := by
    unfold restamp
    split <;> exact ⟨fun _ => rfl, rfl, .inl rfl, rfl⟩
  unfold sendMessage
  split
  · exact .refl link
  simp only
  split
  · exact stamped.trans ⟨fun _ => rfl, rfl, .inl rfl, rfl⟩
  split
  · exact stamped
  · exact stamped.trans (sendRoute_keeps ..)

theorem broadcastMessage_induct {Holds : MavlinkLink.Server Message Status → Prop}
    {network : Network} (sent : ∀ link route message, Holds link →
      Holds (sendMessage codec link route message network).1) (message : Message)
    (holds : Holds link) : Holds (broadcastMessage codec link message network) := by
  unfold broadcastMessage
  simp only
  set proxied := if link.support then sendMessage codec link .proxy message network
    else (link, message) with proxiedEq
  have toProxy : Holds proxied.1 := by
    rw [proxiedEq]
    split
    · exact sent _ _ _ holds
    · exact holds
  set clients := (finRange mavlinkClients).foldl (broadcastClient codec network) proxied
  have toClients : Holds clients.1 := by
    refine foldlRecOn (motive := fun state : MavlinkLink.Server Message Status × Message =>
      Holds state.1) _ _ toProxy fun state reached slot _ => ?_
    unfold broadcastClient
    split
    · exact sent _ _ _ reached
    · exact reached
  have toUart (peers : MavlinkLink.Server Message Status × Message) (reached : Holds peers.1) :
      Holds (if peers.1.uart.isOpen then
        (sendMessage codec peers.1 .uart peers.2 network).1 else peers.1) := by
    split
    · exact sent _ _ _ reached
    · exact reached
  cases clients.1.lastUdp with
  | some address => exact toUart _ (sent _ _ _ toClients)
  | none => exact toUart _ toClients

theorem broadcastMessage_keeps (message : Message)
    (network : Network) : Keeps link (broadcastMessage codec link message network) :=
  broadcastMessage_induct codec (fun _ _ _ keeps => keeps.trans (sendMessage_keeps ..)) message
    (.refl link)

/-- From one state of the server to the next something was sent, and nothing else happened. -/
structure Sends (before after : Server Message Status) : Prop where
  link : Keeps before.link after.link
  lists : after.lists = before.lists
  connection : after.connection = before.connection
  listConnection : after.listConnection = before.listConnection
  flightControllerConnection :
    after.flightControllerConnection = before.flightControllerConnection
  cameraComponentId : after.cameraComponentId = before.cameraComponentId

variable (server : Server Message Status)

theorem Sends.refl : Sends server server :=
  ⟨.refl server.link, rfl, rfl, rfl, rfl, rfl⟩

variable {first second third : Server Message Status}

theorem Sends.trans (sends : Sends first second) (goesOn : Sends second third) :
    Sends first third :=
  ⟨sends.link.trans goesOn.link, goesOn.lists.trans sends.lists,
    goesOn.connection.trans sends.connection,
    goesOn.listConnection.trans sends.listConnection,
    goesOn.flightControllerConnection.trans sends.flightControllerConnection,
    goesOn.cameraComponentId.trans sends.cameraComponentId⟩

theorem Sends.setLink (keeps : Keeps server.link link) :
    Sends server { server with link := link } :=
  ⟨keeps, rfl, rfl, rfl, rfl, rfl⟩

variable (server : Server Message Status) (destination : Destination)

theorem note_sends : Sends server (note server destination) := by
  unfold note
  split
  · split
    · exact ⟨.refl server.link, rfl, rfl, rfl, rfl, rfl⟩
    · exact .refl server
  · exact .refl server

theorem deliver_sends (message : Message) (network : Network) :
    Sends server (deliver codec server destination message network) :=
  (note_sends server destination).trans (.setLink _ (sendMessage_keeps ..))

theorem forward_sends (frame : Bytes) (network : Network) :
    Sends server (forward server destination frame network) :=
  (note_sends server destination).trans (.setLink _ (sendRoute_keeps ..))

theorem broadcast_sends (sent : Message × Network) :
    Sends server (broadcast codec server sent) :=
  .setLink server (broadcastMessage_keeps ..)

theorem respond_sends
    (response : Response Message) : Sends server (respond codec destination server response) := by
  cases response with
  | reply message network => exact deliver_sends ..
  | broadcast message network => exact broadcast_sends ..

theorem sendExtParameter_sends (table : ParameterTable) (server : Server Message Status)
    (destination : Destination) (index : Nat) (report : Nat → Option Message) (network : Network) :
    Sends server (sendExtParameter codec table server destination index report network) := by
  unfold sendExtParameter
  split
  · split
    · exact deliver_sends ..
    · exact .refl server
  · exact .refl server

/-! ### Routes that lead where they were recorded -/

/-- A destination on a TCP route names the connection that occupies its slot. -/
def Current : Prop :=
  ∀ client, destination.route = .tcp client →
    (server.link.clients client).isOpen = true ∧ server.connection client = destination.connection

/-- Every recorded route is current, and whatever was sent down a TCP route reached the
connection it was addressed to. -/
structure Routed (server : Server Message Status) : Prop where
  lists : ∀ slot, (server.link.extLists slot).active = true →
    Current server ⟨(server.link.extLists slot).route, server.listConnection slot⟩
  flightController : ∀ route, server.link.flightControllerRoute = some route →
    Current server ⟨route, server.flightControllerConnection⟩
  deliveries : ∀ delivery ∈ server.deliveries, delivery.reached = delivery.addressedTo

/-- From one state of the server to the next the same connections are there. -/
structure SameConnections (before after : Server Message Status) : Prop where
  opened : ∀ slot, (after.link.clients slot).isOpen = (before.link.clients slot).isOpen
  connection : after.connection = before.connection

variable {before after : Server Message Status} {destination : Destination}

theorem SameConnections.current (same : SameConnections before after)
    (current : Current before destination) : Current after destination := by
  intro client leads
  rw [same.opened, same.connection]
  exact current client leads

theorem SameConnections.refl :
    SameConnections server server := ⟨fun _ => rfl, rfl⟩

theorem SameConnections.trans (same : SameConnections first second)
    (goesOn : SameConnections second third) : SameConnections first third :=
  ⟨fun slot => (goesOn.opened slot).trans (same.opened slot),
    goesOn.connection.trans same.connection⟩

/-- A step that keeps the routes current and the connections where they are. -/
structure Stays (before after : Server Message Status) : Prop where
  same : SameConnections before after
  routed : Routed after

theorem Stays.trans (stays : Stays first second) (goesOn : Stays second third) :
    Stays first third :=
  ⟨stays.same.trans goesOn.same, goesOn.routed⟩

theorem Sends.same (sends : Sends before after) : SameConnections before after :=
  ⟨sends.link.opened, sends.connection⟩

theorem Routed.sends (routed : Routed before) (sends : Sends before after)
    (reached : ∀ delivery ∈ after.deliveries, delivery.reached = delivery.addressedTo) :
    Stays before after := by
  refine ⟨sends.same, ⟨fun slot active => ?_, fun route leads => ?_, reached⟩⟩
  · rw [sends.link.lists] at active ⊢
    rw [sends.listConnection]
    exact sends.same.current (routed.lists slot active)
  · rw [sends.flightControllerConnection]
    rcases sends.link.flightController with kept | forgotten
    · exact sends.same.current (routed.flightController route (kept ▸ leads))
    · rw [forgotten] at leads
      cases leads

variable {server : Server Message Status}

theorem Routed.note (routed : Routed server) (current : Current server destination) :
    ∀ delivery ∈ (note server destination).deliveries, delivery.reached = delivery.addressedTo := by
  unfold MavlinkServer.note
  split
  · next client leads =>
    split
    · exact forall_mem_append.mpr ⟨routed.deliveries,
        forall_mem_singleton.mpr (current client leads).2⟩
    · exact routed.deliveries
  · exact routed.deliveries

theorem Routed.deliver (routed : Routed server) (current : Current server destination)
    (message : Message) (network : Network) :
    Stays server (deliver codec server destination message network) :=
  routed.sends (deliver_sends ..) (routed.note current)

theorem Routed.forward (routed : Routed server) (current : Current server destination)
    (frame : Bytes) (network : Network) :
    Stays server (forward server destination frame network) :=
  routed.sends (forward_sends ..) (routed.note current)

theorem Routed.broadcast (routed : Routed server) (sent : Message × Network) :
    Stays server (broadcast codec server sent) :=
  routed.sends (broadcast_sends ..) routed.deliveries

theorem Routed.respond (routed : Routed server) (current : Current server destination)
    (response : Response Message) : Stays server (respond codec destination server response) := by
  cases response with
  | reply message network => exact routed.deliver codec current message network
  | broadcast message network => exact routed.broadcast codec (message, network)

theorem Routed.sendExtParameter (table : ParameterTable) (routed : Routed server)
    (current : Current server destination) (index : Nat) (report : Nat → Option Message)
    (network : Network) :
    Stays server (sendExtParameter codec table server destination index report network) := by
  unfold MavlinkServer.sendExtParameter
  split
  · split
    · exact routed.deliver codec current ..
    · exact ⟨.refl server, routed⟩
  · exact ⟨.refl server, routed⟩

/-! ### Recording routes -/

theorem Routed.requestList (routed : Routed server) (current : Current server destination)
    (requester : Requester) : Stays server (requestList server destination requester) := by
  unfold MavlinkServer.requestList
  split
  · next list found =>
    refine ⟨⟨fun _ => rfl, rfl⟩, ⟨fun slot active => ?_, routed.flightController,
      routed.deliveries⟩⟩
    by_cases own : slot = list
    · simp only [own, update_self]
      exact current
    · simp only [update_of_ne own] at active ⊢
      exact routed.lists slot active
  · exact ⟨.refl server, routed⟩

theorem Routed.stepList (table : ParameterTable) (routed : Routed server)
    (steps : Slot → ListStep Message) (slot : Slot) :
    Stays server (stepList codec table steps server slot) := by
  unfold MavlinkServer.stepList
  simp only
  split
  · next active =>
    have current := routed.lists slot active
    have sends := sendExtParameter_sends codec table server
      ⟨(server.link.extLists slot).route, server.listConnection slot⟩ (server.lists slot).next
      (steps slot).report (steps slot).network
    have stays := routed.sendExtParameter codec table current (server.lists slot).next
      (steps slot).report (steps slot).network
    refine ⟨⟨stays.same.opened, stays.same.connection⟩, ⟨fun other busy => ?_,
      stays.routed.flightController, stays.routed.deliveries⟩⟩
    by_cases own : other = slot
    · simp only [own, update_self, sends.listConnection]
      exact stays.same.current current
    · simp only [update_of_ne own] at busy ⊢
      exact stays.routed.lists other busy
  · exact ⟨.refl server, routed⟩

theorem Routed.discoverAutopilot (routed : Routed server) (incoming : Incoming) :
    Stays server (discoverAutopilot server incoming) := by
  unfold MavlinkServer.discoverAutopilot
  split
  · split
    · exact ⟨⟨fun _ => rfl, rfl⟩, routed.lists, routed.flightController, routed.deliveries⟩
    · exact ⟨.refl server, routed⟩
  · exact ⟨.refl server, routed⟩

theorem Stays.foldl {Element : Type}
    {step : Server Message Status → Element → Server Message Status}
    (stays : ∀ server element, Routed server → Current server destination →
      Stays server (step server element)) (elements : List Element) (routed : Routed server)
    (current : Current server destination) : Stays server (elements.foldl step server) := by
  induction elements generalizing server with
  | nil => exact ⟨.refl server, routed⟩
  | cons element rest hypothesis =>
    have first := stays server element routed current
    exact first.trans (hypothesis first.routed (first.same.current current))

theorem Routed.processMessage (routed : Routed server) (current : Current server destination)
    (received : Received Message) :
    Stays server (processMessage codec server destination received) := by
  have discovered := routed.discoverAutopilot received.incoming
  have stillCurrent := discovered.same.current current
  unfold MavlinkServer.processMessage
  simp only
  split
  · exact discovered
  split
  · split
    · exact discovered.trans (discovered.routed.requestList stillCurrent _)
    · exact discovered
  · exact discovered.trans (.foldl (fun server response isRouted isCurrent =>
      isRouted.respond codec isCurrent response) received.responses discovered.routed stillCurrent)

theorem Routed.feed (routed : Routed server) (current : Current server destination)
    (received : Received Message) : Stays server (feed codec destination server received) := by
  have processed := routed.processMessage codec current received
  unfold MavlinkServer.feed
  simp only
  split
  · split
    · refine ⟨⟨processed.same.opened, processed.same.connection⟩, processed.routed.lists, ?_,
        processed.routed.deliveries⟩
      intro route leads
      cases leads
      exact processed.same.current current
    · exact processed
  · exact processed

/-! ### Connections that come and go -/

theorem Routed.close (routed : Routed server) (slot : Slot) : Routed (close server slot) := by
  unfold MavlinkServer.close
  split
  · next isOpen =>
    unfold closeClient
    rw [if_pos isOpen]
    have elsewhere {destination : Destination} (current : Current server destination)
        (other : destination.route ≠ .tcp slot) :
        ∀ client, destination.route = .tcp client →
          (update server.link.clients slot
            { server.link.clients slot with isOpen := false } client).isOpen = true ∧
          server.connection client = destination.connection := by
      intro client leads
      have different : client ≠ slot := fun same => other (same ▸ leads)
      rw [update_of_ne different]
      exact current client leads
    refine ⟨fun list active => ?_, fun route leads => ?_, routed.deliveries⟩
    · simp only at active ⊢
      split at active
      · cases active
      · next other =>
        rw [if_neg other]
        exact elsewhere (routed.lists list active) other
    · simp only at leads
      split at leads
      · cases leads
      · next other =>
        exact elsewhere (routed.flightController route leads) fun same =>
          other (leads.trans (congrArg some same))
  · exact routed

theorem Routed.open (routed : Routed server) {slot : Slot}
    (free : (server.link.clients slot).isOpen = false) (client : Client)
    (accepted connection : Nat) :
    Routed
      { server with
        link := { server.link with clients := update server.link.clients slot client }
        accepted := accepted
        connection := update server.connection slot connection } := by
  have elsewhere {destination : Destination} (current : Current server destination) :
      ∀ other, destination.route = .tcp other →
        (update server.link.clients slot client other).isOpen = true ∧
        update server.connection slot connection other = destination.connection := by
    intro other leads
    obtain ⟨isOpen, same⟩ := current other leads
    have different : other ≠ slot := by
      rintro rfl
      rw [free] at isOpen
      cases isOpen
    rw [update_of_ne different, update_of_ne different]
    exact ⟨isOpen, same⟩
  exact ⟨fun list active => elsewhere (routed.lists list active),
    fun route leads => elsewhere (routed.flightController route leads), routed.deliveries⟩

theorem Routed.accept (routed : Routed server) (polled : Bool) (camera gimbal : Message × Network) :
    Routed (accept codec server polled camera gimbal) := by
  unfold MavlinkServer.accept acceptClient
  cases found : (finRange mavlinkClients).find? fun slot =>
      !(server.link.clients slot).isOpen with
  | none => exact routed
  | some slot =>
    have free : (server.link.clients slot).isOpen = false := by
      have isFree := find?_some found
      rwa [Bool.not_eq_true'] at isFree
    have opened := routed.open free { isOpen := true, offered := [], written := [] }
      (server.accepted + 1) server.accepted
    simp only [if_true]
    split
    · have current : Current
          { server with
            link :=
              { server.link with
                clients := update server.link.clients slot
                  { isOpen := true, offered := [], written := [] } }
            accepted := server.accepted + 1
            connection := update server.connection slot server.accepted }
          ⟨.tcp slot, server.accepted⟩ := by
        intro client leads
        cases leads
        simp only [update_self, and_self]
      have greeted := opened.deliver codec current camera.1 camera.2
      exact (greeted.routed.deliver codec (greeted.same.current current) gimbal.1 gimbal.2).routed
    · exact opened.close slot

theorem Routed.handleProxied (routed : Routed server) (proxied : Proxied Message) :
    Routed (handleProxied codec server proxied) := by
  have forwarded (isForwarded : Server Message Status) (isRouted : Routed isForwarded) :
      Routed (MavlinkServer.processMessage codec isForwarded ⟨.proxy, 0⟩ proxied.received) := by
    have current : Current isForwarded ⟨.proxy, 0⟩ := nofun
    exact (isRouted.processMessage codec current proxied.received).routed
  unfold MavlinkServer.handleProxied
  split
  · next route leads =>
    split
    · exact forwarded _ routed
    · exact forwarded _
        (routed.forward (routed.flightController route leads) proxied.frame proxied.network).routed
  · exact forwarded _ routed

variable (table : ParameterTable)

theorem Routed.periodic (routed : Routed server) (work : Periodic Message) :
    Routed (periodic codec table server work) := by
  have handled : Routed (work.proxied.foldl (MavlinkServer.handleProxied codec) server) :=
    foldlRecOn _ _ routed fun _ isRouted proxied _ => isRouted.handleProxied codec proxied
  have broadcasts (sent : List (Message × Network)) (state : Server Message Status)
      (isRouted : Routed state) : Routed (sent.foldl (MavlinkServer.broadcast codec) state) :=
    foldlRecOn _ _ isRouted fun _ stillRouted message _ =>
      (stillRouted.broadcast codec message).routed
  have served : Routed (serveLists codec table
      (work.before.foldl (MavlinkServer.broadcast codec)
        (work.proxied.foldl (MavlinkServer.handleProxied codec) server)) work.lists) :=
    foldlRecOn (finRange mavlinkClients)
      (MavlinkServer.stepList codec table work.lists) (broadcasts work.before _ handled)
      fun _ isRouted slot _ => (isRouted.stepList codec table work.lists slot).routed
  exact broadcasts work.after _ served

theorem Routed.handle (routed : Routed server) (event : Event Message) :
    Routed (handle codec table server event) := by
  have fed {destination : Destination} {state : Server Message Status} (isRouted : Routed state)
      (current : Current state destination) (received : List (Received Message)) :
      Routed (received.foldl (MavlinkServer.feed codec destination) state) :=
    (Stays.foldl (fun _ message stillRouted isCurrent => stillRouted.feed codec isCurrent message)
      received isRouted current).routed
  cases event with
  | accept polled camera gimbal => exact routed.accept codec polled camera gimbal
  | hangUp slot => exact routed.close slot
  | read slot received ends =>
    simp only [MavlinkServer.handle]
    split
    · next isOpen =>
      have current : Current server ⟨.tcp slot, server.connection slot⟩ := by
        intro client leads
        cases leads
        exact ⟨isOpen, rfl⟩
      split
      · exact (fed routed current received).close slot
      · exact fed routed current received
    · exact routed
  | readUdp address received =>
    simp only [MavlinkServer.handle]
    split
    · have heard : Routed { server with link := { server.link with lastUdp := some address } } :=
        ⟨routed.lists, routed.flightController, routed.deliveries⟩
      have current : Current
          { server with link := { server.link with lastUdp := some address } }
          ⟨.udp address, 0⟩ := nofun
      exact fed heard current received
    · exact routed
  | readUart received failed =>
    simp only [MavlinkServer.handle]
    split
    · have current : Current server ⟨.uart, 0⟩ := nofun
      have isFed := fed routed current received
      split
      · exact (isFed.sends (.setLink _ (disableUart_keeps _)) isFed.deliveries).routed
      · exact isFed
    · exact routed
  | writable transport =>
    simp only [MavlinkServer.handle]
    split
    · split
      · next equal =>
        exact (routed.sends (.setLink _ (flushUart_keeps equal)) routed.deliveries).routed
      · next equal =>
        have keeps := (flushUart_keeps equal).trans (disableUart_keeps _)
        exact (routed.sends (.setLink _ keeps) routed.deliveries).routed
    · exact routed
  | uartFailed =>
    exact (routed.sends (.setLink _ (disableUart_keeps _)) routed.deliveries).routed
  | periodic work => exact routed.periodic codec table work

theorem Routed.start (support uart : Bool) (systemId cameraComponentId : UInt8) (status : Status) :
    Routed (start support uart systemId cameraComponentId status : Server Message Status) :=
  ⟨nofun, nofun, nofun⟩

/-- In every run the slot of a recorded route is occupied by the connection that the route was
recorded for, and what was addressed to a connection reached no other one. -/
theorem routes_current (support uart : Bool) (systemId cameraComponentId : UInt8)
    (status : Status) (events : List (Event Message)) :
    let server := run codec table (start support uart systemId cameraComponentId status) events
    (∀ list client, (server.link.extLists list).active = true →
        (server.link.extLists list).route = .tcp client →
        (server.link.clients client).isOpen = true ∧
          server.connection client = server.listConnection list) ∧
      (∀ client, server.link.flightControllerRoute = some (.tcp client) →
        (server.link.clients client).isOpen = true ∧
          server.connection client = server.flightControllerConnection) ∧
      ∀ delivery ∈ server.deliveries, delivery.reached = delivery.addressedTo := by
  have routed : Routed
      (run codec table (start support uart systemId cameraComponentId status) events) :=
    List.foldlRecOn _ _ (.start support uart systemId cameraComponentId status)
      fun _ isRouted event _ => isRouted.handle codec table event
  exact ⟨fun list client active => routed.lists list active client,
    fun client leads => routed.flightController _ leads client rfl, routed.deliveries⟩

end MavlinkServer
