/-
This file proves that the identity of the MAVLink server is latched. The autopilot is the sender of
the first heartbeat that qualifies, the system id is the configured one or else that of the
autopilot, and neither changes again. As long as there is no system id, nothing but frames of others
leaves the server. What is taken from telemetry is sent by the autopilot, as long as nobody sends
as system and component zero before the autopilot is known.
-/

import CameraGimbal.MavlinkIdentity
import CameraGimbal.MavlinkRoutes
import CameraGimbal.Transition

namespace MavlinkIdentity

open MavlinkLink MavlinkServer OutputQueue Vehicle Transition List Function

variable {Message Status : Type}

/-! ### Silence -/

/-- Everything that the link has sent is one of these frames. -/
structure Silent (frames : List Bytes) (link : MavlinkLink.Server Message Status) :
    Prop where
  proxied : link.proxied = []
  datagrams : ∀ sent ∈ link.datagrams, sent.2 ∈ frames
  clients : ∀ slot, ∀ frame ∈ (link.clients slot).offered, frame ∈ frames
  uart : ∀ frame ∈ link.uart.offered, frame ∈ frames

/-- From one state of the link to the next the system id stays, and without one only some of these
frames are sent. -/
structure LinkQuiet (frames : List Bytes)
    (before after : MavlinkLink.Server Message Status) : Prop where
  systemId : after.systemId = before.systemId
  silent : before.systemId = 0 → Silent frames before → Silent frames after

variable {frames : List (Bytes)} (link : MavlinkLink.Server Message Status)

theorem LinkQuiet.refl : LinkQuiet frames link link :=
  ⟨rfl, fun _ silent => silent⟩

theorem LinkQuiet.trans {first second third : MavlinkLink.Server Message Status}
    (quiet : LinkQuiet frames first second) (goesOn : LinkQuiet frames second third) :
    LinkQuiet frames first third :=
  ⟨goesOn.systemId.trans quiet.systemId, fun unknown silent =>
    goesOn.silent (quiet.systemId.trans unknown) (quiet.silent unknown silent)⟩

theorem flushUart_quiet {link after : MavlinkLink.Server Message Status} {transport : Transport}
    {done : Bool} (equal : MavlinkLink.flushUart link transport = (after, done)) :
    LinkQuiet frames link after := by
  obtain ⟨rfl, -⟩ := Prod.mk.inj equal
  exact ⟨rfl, fun _ silent => ⟨silent.proxied, silent.datagrams, silent.clients, silent.uart⟩⟩

theorem disableUart_quiet :
    LinkQuiet frames link (MavlinkLink.disableUart link) := by
  unfold MavlinkLink.disableUart
  split
  · exact ⟨rfl, fun _ silent => ⟨silent.proxied, silent.datagrams, silent.clients, silent.uart⟩⟩
  · exact .refl link

theorem sendRoute_quiet (route : Route)
    {frame : Bytes} (isFrame : frame ∈ frames) (network : Network) :
    LinkQuiet frames link (sendRoute link route frame network).1 := by
  have queued : LinkQuiet frames link (queueUart link frame network.uart).1 := by
    have offered : LinkQuiet frames link
        { link with uart := { link.uart with offered := link.uart.offered ++ [frame] } } := by
      exact ⟨rfl, fun _ silent => ⟨silent.proxied, silent.datagrams, silent.clients,
        forall_mem_append.mpr ⟨silent.uart, forall_mem_singleton.mpr isFrame⟩⟩⟩
    unfold queueUart
    simp only
    split
    · exact offered
    · have pushed (channel : Channel UInt8 uartOutput) : LinkQuiet frames link
          { link with
            uart :=
              { link.uart with offered := link.uart.offered ++ [frame], channel := channel } } :=
        ⟨rfl, fun unknown silent =>
          have kept := offered.silent unknown silent
          ⟨kept.proxied, kept.datagrams, kept.clients, kept.uart⟩⟩
      split
      · next equal => exact (pushed _).trans (flushUart_quiet equal)
      · next equal => exact ((pushed _).trans (flushUart_quiet equal)).trans (disableUart_quiet _)
  unfold sendRoute
  split
  · split
    · refine ⟨rfl, fun _ silent => ⟨silent.proxied, fun sent member => ?_, silent.clients,
        silent.uart⟩⟩
      rcases mem_append.mp member with earlier | last
      · exact silent.datagrams sent earlier
      · rwa [mem_singleton.mp last]
    · next client _ =>
      refine ⟨rfl, fun _ silent => ⟨silent.proxied, silent.datagrams, fun slot other member => ?_,
        silent.uart⟩⟩
      simp only [sendTcp] at member
      by_cases own : slot = client
      · subst own
        rw [update_self] at member
        rcases mem_append.mp member with earlier | last
        · exact silent.clients slot other earlier
        · rwa [mem_singleton.mp last]
      · rw [update_of_ne own] at member
        exact silent.clients slot other member
    · exact queued
  · exact .refl link

variable (codec : Codec Message Status)

variable (link : MavlinkLink.Server Message Status) (route : Route) (message : Message)
  (network : Network)

theorem sendMessage_quiet :
    LinkQuiet frames link (sendMessage codec link route message network).1 := by
  refine ⟨(sendMessage_keeps ..).systemId, fun unknown silent => ?_⟩
  unfold sendMessage
  rwa [if_pos unknown]

theorem broadcastMessage_quiet (message : Message)
    (network : Network) : LinkQuiet frames link (broadcastMessage codec link message network) :=
  broadcastMessage_induct codec (fun _ _ _ quiet => quiet.trans (sendMessage_quiet ..)) message
    (.refl link)

/-- From one state of the connections to the next the identity stays, and without a system id only
some of these frames are sent. -/
structure Quiet (frames : List Bytes) (before after : MavlinkServer.Server Message Status) :
    Prop where
  link : LinkQuiet frames before.link after.link
  system : after.autopilotSystemId = before.autopilotSystemId
  component : after.autopilotComponentId = before.autopilotComponentId

theorem Quiet.refl (server : MavlinkServer.Server Message Status) : Quiet frames server server :=
  ⟨.refl server.link, rfl, rfl⟩

variable {first second third : MavlinkServer.Server Message Status}

theorem Quiet.trans (quiet : Quiet frames first second) (goesOn : Quiet frames second third) :
    Quiet frames first third :=
  ⟨quiet.link.trans goesOn.link, goesOn.system.trans quiet.system,
    goesOn.component.trans quiet.component⟩

variable (server : MavlinkServer.Server Message Status)

theorem Quiet.setLink
    {link : MavlinkLink.Server Message Status} (quiet : LinkQuiet frames server.link link) :
    Quiet frames server { server with link := link } :=
  ⟨quiet, rfl, rfl⟩

theorem LinkQuiet.of_eq {before after : MavlinkLink.Server Message Status}
    (systemId : after.systemId = before.systemId) (proxied : after.proxied = before.proxied)
    (datagrams : after.datagrams = before.datagrams)
    (clients : ∀ slot, (after.clients slot).offered = (before.clients slot).offered)
    (uart : after.uart.offered = before.uart.offered) : LinkQuiet frames before after := by
  refine ⟨systemId, fun _ silent => ⟨?_, ?_, ?_, ?_⟩⟩
  · rw [proxied]
    exact silent.proxied
  · rw [datagrams]
    exact silent.datagrams
  · intro slot
    rw [clients]
    exact silent.clients slot
  · rw [uart]
    exact silent.uart

/-! ### Steps of the connections -/

variable (destination : Destination)

theorem note_quiet : Quiet frames server (note server destination) := by
  unfold note
  split
  · split
    · exact ⟨.refl server.link, rfl, rfl⟩
    · exact .refl server
  · exact .refl server

theorem deliver_quiet (message : Message) (network : Network) :
    Quiet frames server (deliver codec server destination message network) :=
  (note_quiet server destination).trans (.setLink _ (sendMessage_quiet ..))

theorem forward_quiet {frame : Bytes} (isFrame : frame ∈ frames) (network : Network) :
    Quiet frames server (forward server destination frame network) :=
  (note_quiet server destination).trans (.setLink _ (sendRoute_quiet _ _ isFrame network))

theorem broadcast_quiet
    (sent : Message × Network) : Quiet frames server (broadcast codec server sent) :=
  .setLink server (broadcastMessage_quiet ..)

theorem respond_quiet (response : Response Message) :
    Quiet frames server (respond codec destination server response) := by
  cases response with
  | reply message network => exact deliver_quiet ..
  | broadcast message network => exact broadcast_quiet ..

theorem Quiet.foldl {Element : Type}
    {step : MavlinkServer.Server Message Status → Element → MavlinkServer.Server Message Status}
    (elements : List Element) (server : MavlinkServer.Server Message Status)
    (quiet : ∀ server, ∀ element ∈ elements, Quiet frames server (step server element)) :
    Quiet frames server (elements.foldl step server) :=
  foldlRecOn _ _ (.refl server) fun _ reached element member =>
    reached.trans (quiet _ element member)

theorem requestList_quiet (requester : Requester) :
    Quiet frames server (requestList server destination requester) := by
  unfold requestList
  split
  · exact ⟨.of_eq rfl rfl rfl (fun _ => rfl) rfl, rfl, rfl⟩
  · exact ⟨.refl server.link, rfl, rfl⟩

theorem stepList_quiet (table : ParameterTable) (steps : Slot → ListStep Message)
    (server : MavlinkServer.Server Message Status) (slot : Slot) :
    Quiet frames server (stepList codec table steps server slot) := by
  have sent (state : MavlinkServer.Server Message Status) (destination : Destination)
      (index : Nat) (report : Nat → Option Message) (network : Network) : Quiet frames state
        (sendExtParameter codec table state destination index report network) := by
    unfold sendExtParameter
    split
    · split
      · exact deliver_quiet ..
      · exact .refl state
    · exact .refl state
  unfold stepList
  simp only
  split
  · have reported := sent server
      { route := (server.link.extLists slot).route, connection := server.listConnection slot }
      (server.lists slot).next (steps slot).report (steps slot).network
    exact ⟨reported.link.trans (.of_eq rfl rfl rfl (fun _ => rfl) rfl), reported.system,
      reported.component⟩
  · exact .refl server

theorem close_quiet (slot : Slot) :
    Quiet frames server (close server slot) := by
  unfold close
  split
  · next isOpen =>
    have closed : LinkQuiet frames server.link (closeClient server.link slot) := by
      unfold closeClient
      rw [if_pos isOpen]
      refine .of_eq rfl rfl rfl (fun other => ?_) rfl
      by_cases own : other = slot
      · rw [own]
        simp only [update_self]
      · simp only [update_of_ne own]
    exact ⟨closed, rfl, rfl⟩
  · exact .refl server

theorem accept_quiet (polled : Bool)
    (camera gimbal : Message × Network) :
    Quiet frames server (accept codec server polled camera gimbal) := by
  unfold accept
  split
  · exact .refl server
  · next slot found =>
    simp only [acceptClient, found, if_true]
    have opened : Quiet frames server
        { server with
          link :=
            { server.link with
              clients := update server.link.clients slot
                { isOpen := true, offered := [], written := [] } }
          accepted := server.accepted + 1
          connection := update server.connection slot server.accepted } := by
      refine ⟨⟨rfl, fun _ silent => ⟨silent.proxied, silent.datagrams, ?_, silent.uart⟩⟩, rfl, rfl⟩
      intro other
      by_cases own : other = slot
      · rw [own]
        simp only [update_self]
        exact nofun
      · simp only [update_of_ne own]
        exact silent.clients other
    split
    · exact (opened.trans (deliver_quiet ..)).trans (deliver_quiet ..)
    · exact opened.trans (close_quiet ..)

theorem periodic_quiet (table : ParameterTable) (server : MavlinkServer.Server Message Status)
    (before : List (Message × Network)) (lists : Slot → ListStep Message)
    (after : List (Message × Network)) :
    Quiet frames server (periodic codec table server { proxied := [], before, lists, after }) := by
  have served (state : MavlinkServer.Server Message Status) :
      Quiet frames state (serveLists codec table state lists) := by
    have stepped : Quiet frames state
        ((finRange mavlinkClients).foldl (stepList codec table lists) state) :=
      .foldl _ state fun _ slot _ => stepList_quiet codec table lists _ slot
    exact ⟨stepped.link, stepped.system, stepped.component⟩
  have broadcasts (sent : List (Message × Network))
      (state : MavlinkServer.Server Message Status) :
      Quiet frames state (sent.foldl (broadcast codec) state) :=
    .foldl _ state fun _ message _ => broadcast_quiet codec _ message
  exact ((broadcasts before server).trans (served _)).trans (broadcasts after _)

/-! ### The identity -/

/-- Who the server is, and whom it takes for the autopilot. -/
structure Identity where
  systemId : UInt8
  autopilot : Requester
  deriving DecidableEq

def nobody : Requester := { system := 0, component := 0 }

/-- A heartbeat that shows the autopilot: long enough to say so, from a system with an id, of
neither a ground station nor a component without an autopilot. -/
def isAutopilot (incoming : Incoming) : Bool :=
  match incoming.content with
  | .heartbeat length type autopilot =>
    6 ≤ length && incoming.sender.system != 0 && type != typeGcs && autopilot != autopilotInvalid
  | _ => false

/-- What a message does to the identity: the first autopilot is latched. -/
def Identity.hear (identity : Identity) (incoming : Incoming) : Identity :=
  if isAutopilot incoming ∧ identity.autopilot.system = 0 then
    { autopilot := incoming.sender
      systemId :=
        if identity.systemId = 0 then incoming.sender.system else identity.systemId }
  else identity

open Identity

theorem Identity.hear_systemId {identity : Identity} (known : identity.systemId ≠ 0)
    (incoming : Incoming) : (identity.hear incoming).systemId = identity.systemId := by
  unfold hear
  by_cases latches : isAutopilot incoming ∧ identity.autopilot.system = 0
  · rw [if_pos latches]
    exact if_neg known
  · rw [if_neg latches]

theorem Identity.hear_autopilot {identity : Identity} (known : identity.autopilot.system ≠ 0)
    (incoming : Incoming) : identity.hear incoming = identity := by
  unfold hear
  rw [if_neg fun latches => known latches.2]

theorem Identity.foldl_hear (identity : Identity) (heard : List Incoming) :
    (identity.systemId ≠ 0 → (heard.foldl hear identity).systemId = identity.systemId) ∧
      (identity.autopilot.system ≠ 0 →
        (heard.foldl hear identity).autopilot = identity.autopilot) := by
  induction heard generalizing identity with
  | nil => exact ⟨fun _ => rfl, fun _ => rfl⟩
  | cons incoming rest hypothesis =>
    obtain ⟨system, autopilot⟩ := hypothesis (identity.hear incoming)
    constructor
    · intro known
      have same := hear_systemId known incoming
      rw [← same]
      exact system (same.symm ▸ known)
    · intro known
      have same := hear_autopilot known incoming
      rw [same] at autopilot
      rw [foldl_cons, same]
      exact autopilot known

/-- The identity that a configured system id and the messages make. -/
def identified (configured : UInt8) (heard : List Incoming) : Identity :=
  match heard.find? isAutopilot with
  | some incoming =>
    { autopilot := incoming.sender
      systemId := if configured = 0 then incoming.sender.system else configured }
  | none => { autopilot := nobody, systemId := configured }

variable {incoming : Incoming}

theorem system_of_isAutopilot (shows : isAutopilot incoming = true) :
    incoming.sender.system ≠ 0 := by
  unfold isAutopilot at shows
  split at shows
  · simp only [Bool.and_eq_true, bne_iff_ne] at shows
    exact shows.1.1.2
  · cases shows

variable (configured : UInt8) (heard : List Incoming)

theorem foldl_hear_eq :
    heard.foldl hear { systemId := configured, autopilot := nobody } =
      identified configured heard := by
  induction heard using reverseRecOn with
  | nil => rfl
  | append_singleton earlier incoming hypothesis =>
    rw [foldl_append, hypothesis, foldl_cons, foldl_nil]
    unfold identified
    rw [find?_append]
    cases found : earlier.find? isAutopilot with
    | some first =>
      exact hear_autopilot (system_of_isAutopilot (find?_some found)) incoming
    | none =>
      cases shows : isAutopilot incoming with
      | true => simp [hear, shows, nobody]
      | false => simp [hear, shows]

theorem autopilot_cases :
    (identified configured heard).autopilot.system ≠ 0 ∨
      (identified configured heard).autopilot = nobody := by
  unfold identified
  split
  · next found => exact .inl (system_of_isAutopilot (find?_some found))
  · exact .inr rfl

/-- The identity in a state of the connections. -/
def identity (server : MavlinkServer.Server Message Status) : Identity where
  systemId := server.link.systemId
  autopilot :=
    { system := server.autopilotSystemId, component := server.autopilotComponentId }

theorem Quiet.identity {before after : MavlinkServer.Server Message Status}
    (quiet : Quiet frames before after) : identity after = identity before := by
  unfold MavlinkIdentity.identity
  rw [quiet.link.systemId, quiet.system, quiet.component]

variable (server : MavlinkServer.Server Message Status)

theorem identity_discoverAutopilot (incoming : Incoming) :
    identity (discoverAutopilot server incoming) = (identity server).hear incoming := by
  unfold discoverAutopilot hear isAutopilot
  cases incoming.content with
  | heartbeat length type autopilot =>
    simp only [Bool.and_eq_true, decide_eq_true_eq, bne_iff_ne, and_assoc]
    split
    · next latches => exact (if_pos latches).symm
    · next stays => exact (if_neg stays).symm
  | extRequestList targetSystem targetComponent => rfl
  | other => rfl

/-- From one state of the connections to the next a message was heard, and without a system id in
the end only some of these frames are sent. -/
structure Hears (frames : List Bytes) (incoming : Incoming)
    (before after : MavlinkServer.Server Message Status) : Prop where
  identity : identity after = (identity before).hear incoming
  silent : after.link.systemId = 0 → Silent frames before.link → Silent frames after.link

theorem discoverAutopilot_hears
    (incoming : Incoming) : Hears frames incoming server (discoverAutopilot server incoming) := by
  refine ⟨identity_discoverAutopilot server incoming, fun _ silent => ?_⟩
  unfold discoverAutopilot
  split
  · split
    · exact ⟨silent.proxied, silent.datagrams, silent.clients, silent.uart⟩
    · exact silent
  · exact silent

theorem Hears.trans (hears : Hears frames incoming first second)
    (quiet : Quiet frames second third) : Hears frames incoming first third :=
  ⟨quiet.identity.trans hears.identity, fun unknown silent =>
    have still : second.link.systemId = 0 := quiet.link.systemId.symm.trans unknown
    quiet.link.silent still (hears.silent still silent)⟩

theorem Quiet.hears (quiet : Quiet frames first second)
    (hears : Hears frames incoming second third) : Hears frames incoming first third := by
  refine ⟨hears.identity.trans (congrArg (hear · incoming) quiet.identity),
    fun unknown silent => hears.silent unknown (quiet.link.silent ?_ silent)⟩
  -- a system id that is missing in the end was missing before
  by_contra known
  have kept := @hear_systemId (MavlinkIdentity.identity second)
    (fun zero => known (quiet.link.systemId.symm.trans zero)) incoming
  rw [← hears.identity] at kept
  have zero : second.link.systemId = 0 := kept.symm.trans unknown
  exact known (quiet.link.systemId.symm.trans zero)

theorem processMessage_hears (destination : Destination) (received : Received Message) :
    Hears frames received.incoming server
      (MavlinkServer.processMessage codec server destination received) := by
  have discovered : Hears frames received.incoming server _ :=
    discoverAutopilot_hears server received.incoming
  unfold MavlinkServer.processMessage
  simp only
  split
  · exact discovered
  split
  · split
    · exact discovered.trans (requestList_quiet ..)
    · exact discovered
  · exact discovered.trans (.foldl _ _ fun _ response _ => respond_quiet codec _ _ response)

theorem feed_hears (destination : Destination) (server : MavlinkServer.Server Message Status)
    (received : Received Message) :
    Hears frames received.incoming server
      (MavlinkServer.feed codec destination server received) := by
  have processed : Hears frames received.incoming server _ :=
    processMessage_hears codec server destination received
  unfold MavlinkServer.feed
  simp only
  split
  · split
    · exact processed.trans ⟨.of_eq rfl rfl rfl (fun _ => rfl) rfl, rfl, rfl⟩
    · exact processed
  · exact processed

theorem handleProxied_hears {proxied : Proxied Message} (isFrame : proxied.frame ∈ frames) :
    Hears frames proxied.received.incoming server
      (MavlinkServer.handleProxied codec server proxied) := by
  unfold MavlinkServer.handleProxied
  split
  · split
    · exact processMessage_hears ..
    · exact (forward_quiet server _ isFrame proxied.network).hears (processMessage_hears ..)
  · exact processMessage_hears ..

/-! ### Messages -/

variable (trigonometry : Trigonometry) {configured : UInt8}

/-- What holds of the server between messages: its identity is the one that the messages make, it
has been silent until then, and what it knows of the vehicle is what was taken from senders that it
took for the autopilot. -/
structure Sound (configured : UInt8) (frames : List Bytes)
    (server : Server Message Status) : Prop where
  identity : identity server.base = identified configured server.heard
  silent : server.systemId = 0 → Silent frames server.base.link
  vehicle : server.vehicle = (server.taken.map Entry.datum).foldl State.take State.empty
  senders : ∀ entry ∈ server.taken, entry.sender = entry.autopilot
  autopilots : ∀ entry ∈ server.taken, entry.autopilot.system ≠ 0 →
    entry.autopilot = server.autopilot

/-- Everything was taken when the autopilot was known. -/
def Attributed (server : Server Message Status) : Prop :=
  ∀ entry ∈ server.taken, entry.autopilot.system ≠ 0

/-- Telemetry from system and component zero that a handler takes something from, at a server that
has a system id but knows no autopilot. -/
def Forged (server : Server Message Status) : Report Message → Prop
  | .telemetry sender message clocks =>
    server.systemId ≠ 0 ∧ server.autopilot.system = 0 ∧ sender = nobody ∧
      telemetryData trigonometry
        (fun system component => targetMatches server.base system component gimbalComponentId)
        server.vehicle clocks message ≠ []
  | .other _ => False

theorem identified_concat (incoming : Incoming) :
    identified configured (heard ++ [incoming]) = (identified configured heard).hear incoming := by
  rw [← foldl_hear_eq, ← foldl_hear_eq, foldl_append]
  rfl

variable {server : Server Message Status}

theorem Sound.autopilot_cases (sound : Sound configured frames server) :
    server.autopilot.system ≠ 0 ∨ server.autopilot = nobody := by
  have same : server.autopilot = (identified configured server.heard).autopilot :=
    congrArg autopilot sound.identity
  rw [same]
  exact MavlinkIdentity.autopilot_cases configured server.heard

theorem Sound.quiet (sound : Sound configured frames server)
    {base : MavlinkServer.Server Message Status} (quiet : Quiet frames server.base base) :
    Sound configured frames { server with base := base } where
  identity := quiet.identity.trans sound.identity
  silent unknown :=
    have still : server.systemId = 0 := quiet.link.systemId.symm.trans unknown
    quiet.link.silent still (sound.silent still)
  vehicle := sound.vehicle
  senders := sound.senders
  autopilots entry member known :=
    (sound.autopilots entry member known).trans (congrArg autopilot quiet.identity).symm

theorem Sound.hears (sound : Sound configured frames server)
    {base : MavlinkServer.Server Message Status} (hears : Hears frames incoming server.base base) :
    Sound configured frames { server with base := base, heard := server.heard ++ [incoming] } where
  identity := by
    rw [identified_concat, ← sound.identity]
    exact hears.identity
  silent unknown := by
    refine hears.silent unknown (sound.silent ?_)
    by_contra known
    have kept := @hear_systemId (MavlinkIdentity.identity server.base) known incoming
    rw [← hears.identity] at kept
    exact known (kept.symm.trans unknown)
  vehicle := sound.vehicle
  senders := sound.senders
  autopilots entry member known := by
    have same := sound.autopilots entry member known
    have latched : (MavlinkIdentity.identity server.base).autopilot.system ≠ 0 := by
      rw [same] at known
      exact known
    have kept := hear_autopilot latched incoming
    rw [← hears.identity] at kept
    exact same.trans (congrArg autopilot kept).symm

variable {report : Report Message}

theorem sender_of_data {datum : Datum} (member : datum ∈ data trigonometry server report) :
    report.received.incoming.sender = server.autopilot := by
  cases report with
  | telemetry sender message clocks =>
    simp only [data, handleTelemetry] at member
    split at member
    · cases member
    · next isAutopilot => exact not_not.mp isAutopilot
  | other received => cases member

theorem Sound.takeTelemetry (sound : Sound configured frames server) (report : Report Message) :
    Sound configured frames (takeTelemetry trigonometry server report) := by
  unfold MavlinkIdentity.takeTelemetry
  split
  · exact sound
  refine ⟨sound.identity, sound.silent, ?_, ?_, ?_⟩
  · have data : ((MavlinkIdentity.data trigonometry server report).map fun datum =>
        ({ sender := report.received.incoming.sender
           autopilot := server.autopilot
           datum } : Entry)).map Entry.datum = MavlinkIdentity.data trigonometry server report := by
      rw [map_map]
      exact map_id _
    simp only [map_append, foldl_append, data, ← sound.vehicle]
  · intro entry member
    rcases mem_append.mp member with earlier | new
    · exact sound.senders entry earlier
    · obtain ⟨datum, taken, rfl⟩ := mem_map.mp new
      exact sender_of_data trigonometry taken
  · intro entry member known
    rcases mem_append.mp member with earlier | new
    · exact sound.autopilots entry earlier known
    · obtain ⟨datum, -, rfl⟩ := mem_map.mp new
      rfl

variable {step : MavlinkServer.Server Message Status → Received Message →
  MavlinkServer.Server Message Status}

theorem Sound.handleReport (sound : Sound configured frames server)
    (hears : Hears frames report.received.incoming server.base (step server.base report.received)) :
    Sound configured frames (handleReport trigonometry step server report) :=
  (sound.hears hears).takeTelemetry trigonometry report

theorem Hears.telemetry {sender : Requester} {message : Telemetry} {clocks : Clocks}
    {before after : MavlinkServer.Server Message Status} (hears : Hears frames
      (Report.telemetry sender message clocks : Report Message).received.incoming before after) :
    MavlinkIdentity.identity after = MavlinkIdentity.identity before :=
  hears.identity.trans (if_neg fun shows => Bool.false_ne_true shows.1)

theorem data_eq (server : Server Message Status) {base : MavlinkServer.Server Message Status}
    (same : identity base = identity server.base) (heard : List Incoming)
    (report : Report Message) :
    data trigonometry { server with base, heard } report = data trigonometry server report := by
  cases report with
  | other received => rfl
  | telemetry sender message clocks =>
    have autopilot : { server with base, heard }.autopilot = server.autopilot :=
      congrArg autopilot same
    have systemId : base.link.systemId = server.base.link.systemId := congrArg systemId same
    unfold data targetMatches
    rw [autopilot, systemId]

/-- What a message adds to what was taken. -/
def entries (server : Server Message Status) (report : Report Message) : List Entry :=
  if server.systemId = 0 then []
  else (data trigonometry server report).map fun datum =>
    { sender := report.received.incoming.sender, autopilot := server.autopilot, datum }

theorem takeTelemetry_taken (server : Server Message Status) (report : Report Message) :
    (takeTelemetry trigonometry server report).taken =
      server.taken ++ entries trigonometry server report := by
  unfold takeTelemetry entries
  split
  · exact (append_nil _).symm
  · rfl

theorem handleReport_taken
    (hears : Hears frames report.received.incoming server.base (step server.base report.received)) :
    (handleReport trigonometry step server report).taken =
      server.taken ++ entries trigonometry server report := by
  refine (takeTelemetry_taken ..).trans (congrArg (server.taken ++ ·) ?_)
  cases report with
  | other received =>
    unfold entries
    simp only [data, map_nil, ite_self]
  | telemetry sender message clocks =>
    have same := hears.telemetry
    have taken := data_eq trigonometry server same
      (server.heard ++ [{ sender, content := .other }]) (.telemetry sender message clocks)
    unfold entries
    rw [← taken]
    have systemId := congrArg systemId same
    have autopilot := congrArg autopilot same
    simp only [MavlinkIdentity.identity] at systemId autopilot
    simp only [Server.systemId, Server.autopilot, systemId, autopilot]
    rfl

theorem attributed_handleReport (sound : Sound configured frames server)
    (hears : Hears frames report.received.incoming server.base (step server.base report.received)) :
    Attributed (handleReport trigonometry step server report) ↔
      Attributed server ∧ ¬ Forged trigonometry server report := by
  unfold Attributed
  rw [handleReport_taken trigonometry hears]
  cases report with
  | other received =>
    have none : entries trigonometry server (Report.other received) = [] := by
      unfold entries
      simp only [data, map_nil, ite_self]
    rw [none, append_nil]
    exact ⟨fun attributed => ⟨attributed, id⟩, And.left⟩
  | telemetry sender message clocks =>
    constructor
    · intro attributed
      refine ⟨fun entry member => attributed entry (mem_append_left _ member), ?_⟩
      rintro ⟨known, unlatched, rfl, some⟩
      have isNobody := sound.autopilot_cases.resolve_left (not_not_intro unlatched)
      have accepted : data trigonometry server (.telemetry nobody message clocks) ≠ [] := by
        simp only [data, handleTelemetry, isNobody, ne_eq, not_true_eq_false, if_false]
        exact some
      obtain ⟨datum, member⟩ := exists_mem_of_ne_nil _ accepted
      have isEntry : { sender := nobody, autopilot := server.autopilot, datum } ∈
          entries trigonometry server (.telemetry nobody message clocks) := by
        unfold entries
        rw [if_neg known]
        exact mem_map_of_mem member
      exact attributed _ (mem_append_right _ isEntry) unlatched
    · rintro ⟨attributed, genuine⟩ entry member
      rcases mem_append.mp member with earlier | new
      · exact attributed entry earlier
      unfold entries at new
      split at new
      · cases new
      next known =>
      obtain ⟨datum, taken, rfl⟩ := mem_map.mp new
      intro unlatched
      have isNobody := sound.autopilot_cases.resolve_left (not_not_intro unlatched)
      have isSender : sender = server.autopilot := sender_of_data trigonometry taken
      refine genuine ⟨known, unlatched, isSender.trans isNobody, fun none => ?_⟩
      simp only [data, handleTelemetry, isSender, none, ne_eq, not_true_eq_false, if_false,
        not_mem_nil] at taken

/-! ### Runs -/

variable (table : ParameterTable)

/-- The frames of others that an event forwards to the flight controller. -/
def Event.forwarded : Event Message → List Bytes
  | .periodic relayed _ _ _ => relayed.map Relayed.frame
  | _ => []

/-- Every message of an event is allowed in the state it is handled in. -/
def Throughout (Allowed : Server Message Status → Report Message → Prop)
    (server : Server Message Status) : Event Message → Prop
  | .read slot reports _ =>
    (server.base.link.clients slot).isOpen = true →
      Along (feed codec trigonometry
          { route := .tcp slot, connection := server.base.connection slot }) Allowed server reports
  | .readUdp address reports =>
    server.base.link.udpOpen = true →
      Along (feed codec trigonometry { route := .udp address, connection := 0 }) Allowed
        { server with
          base :=
            { server.base with link := { server.base.link with lastUdp := some address } } }
        reports
  | .readUart reports _ =>
    server.base.link.uart.isOpen = true →
      Along (feed codec trigonometry { route := .uart, connection := 0 }) Allowed server reports
  | .periodic relayed _ _ _ =>
    Along (handleProxied codec trigonometry)
      (fun state message => Allowed state message.report) server relayed
  | _ => True

/-- No message of an event is forged. -/
def Genuine : Server Message Status → Event Message → Prop :=
  Throughout codec trigonometry fun state report => ¬ Forged trigonometry state report

section

variable {Holds : Server Message Status → Prop}
  {Allowed : Server Message Status → Report Message → Prop}

theorem throughout_of_all (all : ∀ state report, Allowed state report)
    (server : Server Message Status) (event : Event Message) :
    Throughout codec trigonometry Allowed server event := by
  cases event with
  | read slot reports ends => exact fun _ => along_of_all all _ _
  | readUdp address reports => exact fun _ => along_of_all all _ _
  | readUart reports failed => exact fun _ => along_of_all all _ _
  | periodic relayed before lists after => exact along_of_all (fun _ _ => all _ _) _ _
  | _ => trivial

/-- What the connections leave alone and every allowed message keeps holds after an event. -/
theorem handle_keeps
    (quiet : ∀ server base, Holds server → Holds { server with base := base })
    (keeps : ∀ frames step server report,
      Hears frames report.received.incoming server.base (step server.base report.received) →
        Allowed server report → Holds server → Holds (handleReport trigonometry step server report))
    {server : Server Message Status} (holds : Holds server) {event : Event Message}
    (allowed : Throughout codec trigonometry Allowed server event) :
    Holds (handle codec trigonometry table server event) := by
  have fed (destination : Destination) {state : Server Message Status} (holds : Holds state)
      {reports : List (Report Message)}
      (along : Along (feed codec trigonometry destination) Allowed state reports) :
      Holds (reports.foldl (feed codec trigonometry destination) state) :=
    foldl_keeps (fun state report allowed holds =>
      keeps [] _ state report (feed_hears ..) allowed holds) holds along
  cases event with
  | accept polled camera gimbal => exact quiet _ _ holds
  | hangUp slot => exact quiet _ _ holds
  | writable transport => exact quiet _ _ holds
  | uartFailed => exact quiet _ _ holds
  | read slot reports ends =>
    simp only [handle]
    split
    · next isOpen =>
      have fed := fed _ holds (allowed isOpen)
      split
      · exact quiet _ _ fed
      · exact fed
    · exact holds
  | readUdp address reports =>
    simp only [handle]
    split
    · next isOpen => exact fed _ (quiet _ _ holds) (allowed isOpen)
    · exact holds
  | readUart reports failed =>
    simp only [handle]
    split
    · next isOpen =>
      have fed := fed _ holds (allowed isOpen)
      split
      · exact quiet _ _ fed
      · exact fed
    · exact holds
  | periodic relayed before lists after =>
    refine quiet _ _ (foldl_keeps (fun state message allowed holds => ?_) holds allowed)
    refine keeps [message.frame] _ state message.report ?_ allowed holds
    exact @handleProxied_hears _ _ _ codec state.base
      { frame := message.frame
        network := message.network
        received := message.report.received } (mem_singleton_self _)

end

theorem foldl_feed (destination : Destination) (sound : Sound configured frames server)
    (reports : List (Report Message)) :
    Sound configured frames (reports.foldl (feed codec trigonometry destination) server) ∧
      (Attributed (reports.foldl (feed codec trigonometry destination) server) ↔
        Attributed server ∧ Along (feed codec trigonometry destination)
          (fun state report => ¬ Forged trigonometry state report) server reports) :=
  foldl_iff
    (fun _ _ _ sound => sound.handleReport trigonometry (feed_hears ..))
    (fun _ _ _ sound => attributed_handleReport trigonometry sound (feed_hears ..)) sound

theorem foldl_handleProxied (sound : Sound configured frames server)
    {relayed : List (Relayed Message)} (areFrames : ∀ message ∈ relayed, message.frame ∈ frames) :
    Sound configured frames (relayed.foldl (handleProxied codec trigonometry) server) ∧
      (Attributed (relayed.foldl (handleProxied codec trigonometry) server) ↔
        Attributed server ∧ Along (handleProxied codec trigonometry)
          (fun state message => ¬ Forged trigonometry state message.report) server relayed) := by
  have hears (state : Server Message Status) {message : Relayed Message}
      (member : message ∈ relayed) : Hears frames message.report.received.incoming state.base
        (MavlinkServer.handleProxied codec state.base
          { frame := message.frame
            network := message.network
            received := message.report.received }) :=
    @handleProxied_hears _ _ _ codec state.base
      { frame := message.frame
        network := message.network
        received := message.report.received } (areFrames message member)
  exact foldl_iff
    (fun state _ member sound => sound.handleReport trigonometry (hears state member))
    (fun state _ member sound => attributed_handleReport trigonometry sound (hears state member))
    sound

theorem handle_spec (sound : Sound configured frames server) {event : Event Message}
    (areFrames : ∀ frame ∈ event.forwarded, frame ∈ frames) :
    Sound configured frames (handle codec trigonometry table server event) ∧
      (Attributed (handle codec trigonometry table server event) ↔
        Attributed server ∧ Genuine codec trigonometry server event) := by
  have same {base : MavlinkServer.Server Message Status} (quiet : Quiet frames server.base base) :
      Sound configured frames { server with base := base } ∧
        (Attributed { server with base := base } ↔ Attributed server ∧ True) :=
    ⟨sound.quiet quiet, (iff_of_eq (and_true _)).symm⟩
  cases event with
  | accept polled camera gimbal => exact same (accept_quiet codec _ polled camera gimbal)
  | hangUp slot => exact same (close_quiet _ slot)
  | writable transport =>
    refine same ?_
    simp only [Event.base, MavlinkServer.handle]
    split
    · split
      · next equal => exact .setLink _ (flushUart_quiet equal)
      · next equal => exact .setLink _ ((flushUart_quiet equal).trans (disableUart_quiet _))
    · exact .refl _
  | uartFailed => exact same (.setLink _ (disableUart_quiet _))
  | read slot reports ends =>
    simp only [handle, Genuine, Throughout]
    split
    · next isOpen =>
      obtain ⟨fed, exact⟩ := foldl_feed codec trigonometry
        { route := .tcp slot, connection := server.base.connection slot } sound reports
      rw [imp_iff_right isOpen]
      split
      · exact ⟨fed.quiet (close_quiet _ slot), exact⟩
      · exact ⟨fed, exact⟩
    · next shut => exact ⟨sound, by simp [shut]⟩
  | readUdp address reports =>
    simp only [handle, Genuine, Throughout]
    split
    · next isOpen =>
      have heard : Sound configured frames
          { server with
            base :=
              { server.base with
                link := { server.base.link with lastUdp := some address } } } :=
        sound.quiet (.setLink _ (.of_eq rfl rfl rfl (fun _ => rfl) rfl))
      rw [imp_iff_right isOpen]
      exact foldl_feed codec trigonometry { route := .udp address, connection := 0 } heard reports
    · next shut => exact ⟨sound, by simp [shut]⟩
  | readUart reports failed =>
    simp only [handle, Genuine, Throughout]
    split
    · next isOpen =>
      obtain ⟨fed, exact⟩ :=
        foldl_feed codec trigonometry { route := .uart, connection := 0 } sound reports
      rw [imp_iff_right isOpen]
      split
      · exact ⟨fed.quiet (.setLink _ (disableUart_quiet _)), exact⟩
      · exact ⟨fed, exact⟩
    · next shut => exact ⟨sound, by simp [shut]⟩
  | periodic relayed before lists after =>
    obtain ⟨handled, exact⟩ := foldl_handleProxied codec trigonometry sound
      fun message member => areFrames message.frame (mem_map_of_mem member)
    exact ⟨handled.quiet (periodic_quiet codec table _ before lists after), exact⟩

theorem Sound.start (support uart : Bool) (cameraComponentId : UInt8) (status : Status) :
    Sound configured frames
      (start support uart configured cameraComponentId status : Server Message Status) where
  identity := rfl
  silent _ := ⟨rfl, nofun, nofun, nofun⟩
  vehicle := rfl
  senders := nofun
  autopilots := nofun

theorem handle_heard (server : Server Message Status) (event : Event Message) :
    server.heard <+: (handle codec trigonometry table server event).heard := by
  refine @handle_keeps _ _ codec trigonometry table
    (fun state => server.heard <+: state.heard) (fun _ _ => True) (fun _ _ kept => kept)
    (fun _ _ state report _ _ kept => kept.trans ?_) server prefix_rfl event
    (throughout_of_all codec trigonometry (fun _ _ => trivial) server event)
  unfold handleReport takeTelemetry
  split
  · exact prefix_append _ _
  · exact prefix_append _ _

/-- What holds after every run. -/
theorem run_spec (support uart : Bool) (configured cameraComponentId : UInt8) (status : Status)
    (events : List (Event Message)) :
    Sound configured (events.flatMap Event.forwarded)
        (run codec trigonometry table (start support uart configured cameraComponentId status)
          events) ∧
      (Attributed
          (run codec trigonometry table (start support uart configured cameraComponentId status)
            events) ↔
        Along (handle codec trigonometry table) (Genuine codec trigonometry)
          (start support uart configured cameraComponentId status) events) := by
  have inFrames (event : Event Message) (member : event ∈ events) :
      ∀ frame ∈ event.forwarded, frame ∈ events.flatMap Event.forwarded :=
    fun frame forwarded => mem_flatMap.mpr ⟨event, member, forwarded⟩
  obtain ⟨sound, exact⟩ := foldl_iff
    (fun _ event member sound =>
      (handle_spec codec trigonometry table sound (inFrames event member)).1)
    (fun _ event member sound =>
      (handle_spec codec trigonometry table sound (inFrames event member)).2)
    (Sound.start support uart cameraComponentId status)
  have none : Attributed
      (start support uart configured cameraComponentId status : Server Message Status) := nofun
  exact ⟨sound, exact.trans (and_iff_right none)⟩

/-- The identity is latched: without a system id nothing but frames of others has left the server,
and a system id stays; the autopilot is the sender of the first heartbeat that shows one, and stays;
and all that is known of the vehicle was sent by it when it was known, exactly when no telemetry was
forged. -/
theorem identity_latched (support uart : Bool) (configured cameraComponentId : UInt8)
    (status : Status) (earlier later : List (Event Message)) :
    let begun := start support uart configured cameraComponentId status
    let server := run codec trigonometry table begun earlier
    let after := run codec trigonometry table begun (earlier ++ later)
    (server.systemId = 0 → Silent (earlier.flatMap Event.forwarded) server.base.link) ∧
      (server.systemId ≠ 0 → after.systemId = server.systemId) ∧
      server.autopilot = ((server.heard.find? isAutopilot).map Incoming.sender).getD nobody ∧
      (server.autopilot.system ≠ 0 → after.autopilot = server.autopilot) ∧
      server.vehicle = (server.taken.map Entry.datum).foldl State.take State.empty ∧
      ((∀ entry ∈ server.taken, entry.sender = server.autopilot ∧
          entry.autopilot = server.autopilot ∧ server.autopilot.system ≠ 0) ↔
        Along (handle codec trigonometry table) (Genuine codec trigonometry) begun earlier) := by
  intro begun server after
  obtain ⟨sound, exact⟩ := run_spec codec trigonometry table support uart configured
    cameraComponentId status earlier
  have soundAfter := (run_spec codec trigonometry table support uart configured
    cameraComponentId status (earlier ++ later)).1
  obtain ⟨more, isMore⟩ : server.heard <+: after.heard := by
    have split : after = run codec trigonometry table server later := List.foldl_append
    rw [split]
    exact List.foldlRecOn (motive := fun next => server.heard <+: Server.heard next) _ _
      List.prefix_rfl fun _ reached event _ => reached.trans (handle_heard ..)
  have goesOn : identity after.base = more.foldl Identity.hear (identity server.base) := by
    rw [soundAfter.identity, sound.identity, ← foldl_hear_eq, ← foldl_hear_eq,
      ← List.foldl_append, isMore]
  obtain ⟨systemId, autopilot⟩ := Identity.foldl_hear (identity server.base) more
  rw [← goesOn] at systemId autopilot
  refine ⟨sound.silent, systemId, ?_, autopilot, sound.vehicle, ?_⟩
  · have same : server.autopilot = (identified configured server.heard).autopilot :=
      congrArg Identity.autopilot sound.identity
    rw [same]
    unfold identified
    cases server.heard.find? isAutopilot with
    | some incoming => rfl
    | none => rfl
  · rw [← exact]
    constructor
    · intro attributed entry member
      obtain ⟨-, isAutopilot, known⟩ := attributed entry member
      rwa [isAutopilot]
    · intro attributed entry member
      have isAutopilot := sound.autopilots entry member (attributed entry member)
      refine ⟨(sound.senders entry member).trans isAutopilot, isAutopilot, ?_⟩
      rw [← isAutopilot]
      exact attributed entry member

/-- A codec, functions and a table for a run in which nothing is sent and no angle is needed. -/
def silentCodec : Codec Unit Unit where
  component _ := 100
  restamp _ _ := ((), ())
  toWire _ := []

def flat : Trigonometry where
  atan2f _ _ := 0
  asinf _ := 0
  cosf _ := 1
  sinf _ := 0

def oneParameter : ParameterTable := { count := 1, nonempty := Nat.one_pos }

/-- A server whose system id is configured as one receives a position from system and component
zero before any heartbeat. -/
def afterForgery : Server Unit Unit :=
  run silentCodec flat oneParameter (start false true 1 100 ())
    [.readUart
      [.telemetry nobody
        (.globalPosition
          { lat := 350000000
            lon := 1490000000
            alt := 0
            relativeAlt := 0
            vx := 0
            vy := 0
            vz := 0
            hdg := 0 })
        { monotonicMs := 1000, realtime := none, settable := false }] false]

/-- That position is taken although no autopilot is known. -/
theorem position_forged :
    afterForgery.vehicle.position.isSome = true ∧ afterForgery.autopilot = nobody ∧
      ¬ ∀ entry ∈ afterForgery.taken, entry.sender = afterForgery.autopilot ∧
        entry.autopilot = afterForgery.autopilot ∧ afterForgery.autopilot.system ≠ 0 := by
  decide

end MavlinkIdentity
