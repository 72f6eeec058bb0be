/-
This file proves that the extended parameter lists of the MAVLink server are a table
of jobs: every request, closure and periodic step does to the lists what the
operation of that name does to the table.

The operations, and what the lists attempt, are read off the events of a run. Every
attempt is one message on the route the list was asked on, when there is a message for
the parameter, and the lists send nothing else. So a list that is started attempts every
parameter once, in order and on that route, and no requester's list is touched by what
another one does.
-/

import CameraGimbal.JobTable
import CameraGimbal.MavlinkRoutes

namespace MavlinkServer

open MavlinkLink OutputQueue JobTable List Function

variable {Message Status : Type}

/-! ### The lists as a table of jobs -/

/-- The parameter lists of a server. -/
def entries (server : Server Message Status) : Table mavlinkClients Requester Route :=
  fun slot =>
    { active := (server.link.extLists slot).active
      key := (server.lists slot).requester
      route := (server.link.extLists slot).route
      next := (server.lists slot).next }

variable (server : Server Message Status)

theorem findList_eq (requester : Requester)
    (slots : List Slot) (list : Option Slot) :
    findList server requester slots list =
      match slots.find? fun slot =>
          (entries server slot).active && decide ((entries server slot).key = requester) with
      | some own => some own
      | none => list.or (slots.find? fun slot => !(entries server slot).active) := by
  induction slots generalizing list with
  | nil => cases list <;> rfl
  | cons slot rest hypothesis =>
    unfold findList
    simp only [find?_cons]
    by_cases own : (server.link.extLists slot).active = true ∧
        (server.lists slot).requester = requester
    · have found : ((entries server slot).active &&
          decide ((entries server slot).key = requester)) = true := by
        simp only [entries, own, decide_true, Bool.and_self]
      rw [if_pos own, found]
    · have passed : ((entries server slot).active &&
          decide ((entries server slot).key = requester)) = false := by
        refine Bool.eq_false_iff.mpr fun both => own ?_
        obtain ⟨busy, mine⟩ := (Bool.and_eq_true _ _).mp both
        exact ⟨busy, of_decide_eq_true mine⟩
      rw [if_neg own, passed, hypothesis]
      cases active : (server.link.extLists slot).active with
      | true =>
        have busy : (!(entries server slot).active) = false := by simp only [entries, active]; rfl
        rw [if_neg (fun idle => Bool.noConfusion idle.1), busy]
      | false =>
        have idle : (!(entries server slot).active) = true := by simp only [entries, active]; rfl
        rw [idle]
        cases list with
        | none => rfl
        | some earlier => rfl

theorem findList_entryFor (requester : Requester) :
    findList server requester (finRange mavlinkClients) none =
      entryFor (entries server) requester := by
  rw [findList_eq]
  unfold entryFor
  cases (finRange mavlinkClients).find? fun slot =>
      (entries server slot).active && decide ((entries server slot).key = requester) with
  | some own => rfl
  | none => exact Option.none_or

/-! ### What the events ask of the lists -/

/-- What the steps of a run give, one after another. -/
def trace {State Element Output : Type} (step : State → Element → State)
    (output : State → Element → List Output) : State → List Element → List Output
  | _, [] => []
  | state, element :: later =>
    output state element ++ trace step output (step state element) later

/-- A request for the list that is addressed to the camera starts one. -/
def requestOperations (route : Route) (server : Server Message Status)
    (received : Received Message) : List (Operation Requester Route) :=
  match received.incoming.content with
  | .extRequestList system component =>
    if server.link.systemId ≠ 0 ∧ (system = 0 ∨ system = server.link.systemId) ∧
        (component = 0 ∨ component = server.cameraComponentId) then
      [.request received.incoming.sender route]
    else []
  | _ => []

/-- A client that is open is closed. -/
def closeOperations (server : Server Message Status) (slot : Slot) :
    List (Operation Requester Route) :=
  if (server.link.clients slot).isOpen then [.close (.tcp slot)] else []

variable (codec : Codec Message Status)

/-- The requests among messages from a transport. -/
def feedOperations (destination : Destination) :
    Server Message Status → List (Received Message) → List (Operation Requester Route) :=
  trace (feed codec destination) (requestOperations destination.route)

/-- What an event asks of the lists: a request that is heard, a client that is closed, or a turn
in a periodic step. -/
def eventOperations (server : Server Message Status) :
    Event Message → List (Operation Requester Route)
  | .accept polled _ _ =>
    if polled then []
    else
      match (List.finRange mavlinkClients).find? fun slot =>
          !(server.link.clients slot).isOpen with
      | some slot => [.close (.tcp slot)]
      | none => []
  | .hangUp slot => closeOperations server slot
  | .read slot received ends =>
    if (server.link.clients slot).isOpen then
      let destination := { route := .tcp slot, connection := server.connection slot }
      feedOperations codec destination server received ++
        if ends then closeOperations (received.foldl (feed codec destination) server) slot else []
    else []
  | .readUdp address received =>
    if server.link.udpOpen then
      feedOperations codec { route := .udp address, connection := 0 }
        { server with link := { server.link with lastUdp := some address } } received
    else []
  | .readUart received _ =>
    if server.link.uart.isOpen then
      feedOperations codec { route := .uart, connection := 0 } server received
    else []
  | .writable _ | .uartFailed => []
  | .periodic work =>
    trace (handleProxied codec) (fun server proxied =>
        requestOperations .proxy server proxied.received) server work.proxied ++ [.turn]

/-- The server when a periodic step comes to the lists. -/
def ready (server : Server Message Status) (work : Periodic Message) : Server Message Status :=
  work.before.foldl (broadcast codec) (work.proxied.foldl (handleProxied codec) server)

variable (table : ParameterTable)

/-- What a list attempts in a turn, with the message that reports the parameter, when there is
such a parameter and its value can be read. -/
def offer (server : Server Message Status) (steps : Slot → ListStep Message) (slot : Slot) :
    Option (Attempt Requester Route × Option (Message × Network)) :=
  (entries server slot).attempt.map fun attempt =>
    (attempt, if attempt.index < table.count then
      ((steps slot).report attempt.index).map (·, (steps slot).network) else none)

/-- What the lists attempt in an event. -/
def eventOffers (server : Server Message Status) :
    Event Message → List (Attempt Requester Route × Option (Message × Network))
  | .periodic work =>
    (List.finRange mavlinkClients).filterMap (offer table (ready codec server work) work.lists)
  | _ => []

/-- One message on the route of the attempt, if there is one for the parameter. -/
def sends : Attempt Requester Route × Option (Message × Network) →
    List (MavlinkLink.Event Message)
  | (attempt, some (message, network)) => [.message attempt.route message network]
  | (_, none) => []

/-- A periodic step serves the lists between its broadcasts, and serving them changes the link by
what they offer, one message after another, and by nothing else. -/
def Serves (server : Server Message Status) (work : Periodic Message) : Prop :=
  ∃ served : Server Message Status,
    handle codec table server (.periodic work) = work.after.foldl (broadcast codec) served ∧
      { served.link with extLists := (ready codec server work).link.extLists } =
        MavlinkLink.run codec (ready codec server work).link
          ((eventOffers codec table server (.periodic work)).flatMap sends)

/-! ### Steps of the server are operations on the table -/

variable {table}

variable (table) in
/-- From one state of the server to the next the lists have changed by these operations and no
others, and these are the attempts made for them. -/
structure Follows (before : Server Message Status) (operations : List (Operation Requester Route))
    (attempts : List (Attempt Requester Route)) (after : Server Message Status) : Prop where
  replays : ∀ earlier, replay table.count (entries before, earlier) operations =
    (entries after, earlier ++ attempts)

theorem Follows.of_same {before after : Server Message Status}
    (same : entries after = entries before) : Follows table before [] [] after where
  replays earlier := by
    rw [same, append_nil]
    rfl

theorem Follows.refl : Follows table server [] [] server :=
  .of_same rfl

theorem Follows.trans {first second third : Server Message Status}
    {operations later : List (Operation Requester Route)}
    {attempts laterAttempts : List (Attempt Requester Route)}
    (follows : Follows table first operations attempts second)
    (goesOn : Follows table second later laterAttempts third) :
    Follows table first (operations ++ later) (attempts ++ laterAttempts) third where
  replays earlier := by
    rw [← append_assoc, ← goesOn.replays (earlier ++ attempts), ← follows.replays earlier]
    exact foldl_append

theorem Sends.follows {before after : Server Message Status} (sends : Sends before after) :
    Follows table before [] [] after := by
  refine .of_same ?_
  unfold entries
  rw [sends.link.lists, sends.lists]

/-- Steps that follow their operations do so one after another. -/
theorem Follows.foldl {Element : Type}
    {step : Server Message Status → Element → Server Message Status}
    {operations : Server Message Status → Element → List (Operation Requester Route)}
    {attempts : Server Message Status → Element → List (Attempt Requester Route)}
    (follows : ∀ server element,
      Follows table server (operations server element) (attempts server element)
        (step server element))
    (elements : List Element) (server : Server Message Status) :
    Follows table server (trace step operations server elements)
      (trace step attempts server elements) (elements.foldl step server) := by
  induction elements generalizing server with
  | nil => exact .refl server
  | cons element later hypothesis =>
    exact (follows server element).trans (hypothesis (step server element))

theorem trace_nil {State Element Output : Type} (step : State → Element → State) (state : State)
    (elements : List Element) : trace step (fun _ _ => ([] : List Output)) state elements = [] := by
  induction elements generalizing state with
  | nil => rfl
  | cons element later hypothesis => exact hypothesis (step state element)

section

variable {Element : Type} {step : Server Message Status → Element → Server Message Status}

theorem Follows.foldl_attemptless
    {operations : Server Message Status → Element → List (Operation Requester Route)}
    (follows : ∀ server element,
      Follows table server (operations server element) [] (step server element))
    (elements : List Element) (server : Server Message Status) :
    Follows table server (trace step operations server elements) []
      (elements.foldl step server) := by
  have all := Follows.foldl follows elements server
  rwa [trace_nil] at all

theorem Follows.foldl_quiet
    (follows : ∀ server element, Follows table server [] [] (step server element))
    (elements : List Element) (server : Server Message Status) :
    Follows table server [] [] (elements.foldl step server) := by
  have all := Follows.foldl_attemptless follows elements server
  rwa [trace_nil] at all

end

theorem requestList_follows (destination : Destination)
    (requester : Requester) :
    Follows table server [.request requester destination.route] []
      (requestList server destination requester) := by
  refine ⟨fun earlier => ?_⟩
  show (request (entries server) requester destination.route, earlier) = _
  unfold requestList
  rw [findList_entryFor, append_nil]
  cases found : entryFor (entries server) requester with
  | none => rw [request_of_none found]
  | some list =>
    rw [request_of_some found]
    refine Prod.ext ?_ rfl
    funext slot
    by_cases own : slot = list
    · simp only [own, entries, update_self]
    · simp only [entries, update_of_ne own]

theorem close_follows (slot : Slot) :
    Follows table server (closeOperations server slot) [] (close server slot) := by
  unfold MavlinkServer.close closeOperations
  split
  · next isOpen =>
    refine ⟨fun earlier => Prod.ext ?_ (append_nil _).symm⟩
    funext entry
    unfold closeClient
    rw [if_pos isOpen]
    show JobTable.close (entries server) (.tcp slot) entry = _
    unfold JobTable.close
    by_cases onRoute : (entries server entry).route = .tcp slot
    · have listRoute : (server.link.extLists entry).route = .tcp slot := onRoute
      rw [if_pos onRoute]
      simp only [entries, if_pos listRoute]
    · have listRoute : (server.link.extLists entry).route ≠ .tcp slot := onRoute
      rw [if_neg onRoute]
      simp only [entries, if_neg listRoute]
  · exact .refl server

/-! ### Sending does not depend on the lists -/

section

variable (link : MavlinkLink.Server Message Status) (lists : Slot → ExtParameterList)

theorem disableUart_lists :
    disableUart { link with extLists := lists } = { disableUart link with extLists := lists } := by
  unfold disableUart
  split <;> rfl

theorem queueUart_lists (frame : Bytes) (transport : Transport) :
    queueUart { link with extLists := lists } frame transport =
      ({ (queueUart link frame transport).1 with extLists := lists },
        (queueUart link frame transport).2) := by
  unfold queueUart flushUart
  dsimp only
  split
  · rfl
  · next channel _ =>
    obtain ⟨channel, _ | _⟩ := channel.flush transport
    · rfl
    · exact congrArg (·, false) (disableUart_lists
        { link with
          uart := { link.uart with channel, offered := link.uart.offered ++ [frame] } } lists)

theorem sendRoute_lists (route : Route) (frame : Bytes) (network : Network) :
    (sendRoute { link with extLists := lists } route frame network).1 =
      { (sendRoute link route frame network).1 with extLists := lists } := by
  unfold sendRoute
  have valid : routeValid { link with extLists := lists } route = routeValid link route := by
    cases route <;> rfl
  rw [valid]
  split
  · cases route with
    | tcp client => rfl
    | udp address => rfl
    | uart => exact congrArg Prod.fst (queueUart_lists link lists frame network.uart)
    | proxy => exact congrArg Prod.fst (queueUart_lists link lists frame network.uart)
  · rfl

theorem sendMessage_lists (route : Route) (message : Message) (network : Network) :
    (sendMessage codec { link with extLists := lists } route message network).1 =
      { (sendMessage codec link route message network).1 with extLists := lists } := by
  have stamped : restamp codec { link with extLists := lists } message =
      ({ (restamp codec link message).1 with extLists := lists },
        (restamp codec link message).2) := by
    unfold restamp
    split <;> rfl
  unfold sendMessage
  split
  · rfl
  rw [stamped]
  dsimp only
  split
  · rfl
  split
  · rfl
  · exact sendRoute_lists _ lists route _ network

end

/-! ### A turn of the lists -/

/-- Noting a delivery does not change the link. -/
theorem note_link (destination : Destination) :
    (note server destination).link = server.link := by
  unfold note
  split
  · split <;> rfl
  · rfl

/-- The step of one list: its entry advances, and the link changes by the message it offers. -/
theorem stepList_spec (steps : Slot → ListStep Message) (server : Server Message Status)
    (slot : Slot) (lists : Slot → ExtParameterList) :
    let after := stepList codec table steps server slot
    entries after = update (entries server) slot ((entries server slot).advance table.count) ∧
      { after.link with extLists := lists } =
        MavlinkLink.run codec { server.link with extLists := lists }
          ((offer table server steps slot).toList.flatMap sends) := by
  unfold stepList
  simp only
  split
  · next active =>
    have kept := sendExtParameter_sends codec table server
      ⟨(server.link.extLists slot).route, server.listConnection slot⟩ (server.lists slot).next
      (steps slot).report (steps slot).network
    have advanced : (entries server slot).advance table.count =
        { active := decide ((server.lists slot).next + 1 < table.count)
          key := (server.lists slot).requester
          route := (server.link.extLists slot).route
          next := (server.lists slot).next + 1 } := if_pos active
    have attempt : (entries server slot).attempt = some
        { key := (server.lists slot).requester
          route := (server.link.extLists slot).route
          index := (server.lists slot).next } := if_pos active
    refine ⟨?_, ?_⟩
    · funext other
      rw [advanced]
      by_cases own : other = slot
      · simp only [own, entries, update_self]
      · simp only [entries, update_of_ne own, kept.link.lists, kept.lists]
    · rw [offer, attempt]
      unfold sendExtParameter
      dsimp only [Option.map_some]
      by_cases exists' : (server.lists slot).next < table.count
      · rw [if_pos exists', if_pos exists']
        cases (steps slot).report (server.lists slot).next with
        | none => rfl
        | some message =>
          have sent := sendMessage_lists codec server.link lists
            (server.link.extLists slot).route message (steps slot).network
          refine Eq.trans ?_ sent.symm
          simp only [deliver, note_link]
      · rw [if_neg exists', if_neg exists']
        rfl
  · next idle =>
    have unchanged : (entries server slot).advance table.count = entries server slot := if_neg idle
    have nothing : offer table server steps slot = none := by
      rw [offer, show (entries server slot).attempt = none from if_neg idle]
      rfl
    rw [unchanged, nothing, update_eq_self]
    exact ⟨rfl, rfl⟩

theorem offer_congr {server after : Server Message Status} {slot : Slot}
    (same : entries after slot = entries server slot) (steps : Slot → ListStep Message) :
    offer table after steps slot = offer table server steps slot := by
  unfold offer
  rw [same]

/-- The steps of several lists. -/
theorem stepLists_spec (steps : Slot → ListStep Message) (slots : List Slot)
    (once : slots.Nodup) (server : Server Message Status) (lists : Slot → ExtParameterList) :
    let after := slots.foldl (stepList codec table steps) server
    (∀ slot, entries after slot =
        if slot ∈ slots then (entries server slot).advance table.count else entries server slot) ∧
      { after.link with extLists := lists } =
        MavlinkLink.run codec { server.link with extLists := lists }
          ((slots.filterMap (offer table server steps)).flatMap sends) := by
  induction slots generalizing server with
  | nil => exact ⟨fun slot => (if_neg not_mem_nil).symm, rfl⟩
  | cons slot rest hypothesis =>
    obtain ⟨fresh, restOnce⟩ := nodup_cons.mp once
    obtain ⟨own, sent⟩ := @stepList_spec _ _ codec table steps server slot lists
    obtain ⟨others, laterSent⟩ := hypothesis restOnce (stepList codec table steps server slot)
    have unchanged (other : Slot) (different : other ≠ slot) :
        entries (stepList codec table steps server slot) other = entries server other := by
      rw [own, update_of_ne different]
    rw [foldl_cons]
    refine ⟨fun other => ?_, ?_⟩
    · rw [others]
      by_cases same : other = slot
      · rw [same, if_neg fresh, if_pos mem_cons_self, own, update_self]
      · rw [unchanged other same]
        simp only [mem_cons, same, false_or]
    · have sameOffers :
          rest.filterMap (offer table (stepList codec table steps server slot) steps) =
            rest.filterMap (offer table server steps) :=
        filterMap_congr fun other member =>
          offer_congr (unchanged other fun same => fresh (same ▸ member)) steps
      rw [laterSent, sent, sameOffers, filterMap_cons]
      cases offer table server steps slot with
      | none => rfl
      | some offered =>
        rw [flatMap_cons, Option.toList_some, flatMap_singleton]
        exact foldl_append.symm

variable (server : Server Message Status)

theorem serveLists_follows (steps : Slot → ListStep Message) :
    Follows table server [.turn]
      (((finRange mavlinkClients).filterMap (offer table server steps)).map Prod.fst)
      (serveLists codec table server steps) := by
  obtain ⟨served, -⟩ := @stepLists_spec _ _ codec table steps
    (finRange mavlinkClients) (nodup_finRange mavlinkClients) server server.link.extLists
  have attempted : ((finRange mavlinkClients).filterMap (offer table server steps)).map
      Prod.fst = attempts (entries server) := by
    rw [map_filterMap]
    refine filterMap_congr fun slot _ => ?_
    unfold offer
    rw [Option.map_map]
    exact Option.map_id'
  rw [attempted]
  refine ⟨fun earlier => Prod.ext ?_ rfl⟩
  funext slot
  exact ((served slot).trans (if_pos (mem_finRange slot))).symm

/-- Each attempt of a turn is one message on its route, when there is a message for it. -/
theorem serves (work : Periodic Message) : Serves codec table server work :=
  ⟨serveLists codec table (ready codec server work) work.lists, rfl,
    (stepLists_spec codec work.lists _ (nodup_finRange mavlinkClients) _ _).2⟩

/-! ### Events are operations on the table -/

theorem discoverAutopilot_follows (incoming : Incoming) :
    Follows table server [] [] (discoverAutopilot server incoming) := by
  unfold discoverAutopilot
  split
  · split
    · exact .of_same rfl
    · exact .refl server
  · exact .refl server

theorem processMessage_follows (destination : Destination) (received : Received Message) :
    Follows table server (requestOperations destination.route server received) []
      (processMessage codec server destination received) := by
  have discovered : Follows table server [] [] (discoverAutopilot server received.incoming) :=
    discoverAutopilot_follows server received.incoming
  unfold processMessage requestOperations
  cases isRequest : received.incoming.content with
  | extRequestList system component =>
    have same : discoverAutopilot server received.incoming = server := by
      unfold discoverAutopilot
      rw [isRequest]
    simp only [same]
    by_cases known : server.link.systemId = 0
    · rw [if_pos known, if_neg (fun heard => heard.1 known)]
      exact .refl server
    · rw [if_neg known]
      have addressed : targetMatches server system component server.cameraComponentId = true ↔
          (system = 0 ∨ system = server.link.systemId) ∧
            (component = 0 ∨ component = server.cameraComponentId) := by
        simp only [targetMatches, Bool.and_eq_true, Bool.or_eq_true, beq_iff_eq]
      by_cases isAddressed : targetMatches server system component server.cameraComponentId = true
      · rw [if_pos isAddressed, if_pos ⟨known, addressed.mp isAddressed⟩]
        exact requestList_follows ..
      · rw [if_neg isAddressed, if_neg (fun heard => isAddressed (addressed.mpr heard.2))]
        exact .refl server
  | heartbeat length type autopilot =>
    dsimp only
    split
    · exact discovered
    · exact discovered.trans (.foldl_quiet (fun _ _ => (respond_sends ..).follows) _ _)
  | other =>
    dsimp only
    split
    · exact discovered
    · exact discovered.trans (.foldl_quiet (fun _ _ => (respond_sends ..).follows) _ _)

theorem feed_follows (destination : Destination) (server : Server Message Status)
    (received : Received Message) :
    Follows table server (requestOperations destination.route server received) []
      (feed codec destination server received) := by
  have processed : Follows table server (requestOperations destination.route server received) []
      (processMessage codec server destination received) :=
    processMessage_follows codec server destination received
  unfold feed
  simp only
  split
  · split
    · exact ⟨processed.replays⟩
    · exact processed
  · exact processed

theorem accept_follows (polled : Bool) (camera gimbal : Message × Network) :
    Follows table server (eventOperations codec server (.accept polled camera gimbal)) []
      (accept codec server polled camera gimbal) := by
  have sameLists : (acceptClient server.link true).extLists = server.link.extLists := by
    unfold acceptClient
    split
    · rfl
    · rfl
  unfold MavlinkServer.accept eventOperations
  cases found : (finRange mavlinkClients).find? fun slot =>
      !(server.link.clients slot).isOpen with
  | none =>
    dsimp only
    rw [ite_self]
    exact .refl server
  | some slot =>
    have isOpen : ((acceptClient server.link true).clients slot).isOpen = true := by
      unfold acceptClient
      rw [found]
      simp only [if_true, update_self]
    dsimp only
    generalize acceptClient server.link true = link at sameLists isOpen
    have opened : Follows table server [] []
        { server with
          link
          accepted := server.accepted + 1
          connection := update server.connection slot server.accepted } := by
      refine .of_same ?_
      unfold entries
      rw [sameLists]
    split
    · exact opened.trans ((deliver_sends ..).trans (deliver_sends ..)).follows
    · have closed := opened.trans (close_follows _ slot)
      unfold closeOperations at closed
      rw [if_pos isOpen] at closed
      exact closed

theorem handleProxied_follows (proxied : Proxied Message) :
    Follows table server (requestOperations .proxy server proxied.received) []
      (handleProxied codec server proxied) := by
  unfold handleProxied
  split
  · next route _ =>
    split
    · exact processMessage_follows codec server ⟨.proxy, 0⟩ proxied.received
    · have forwarded := forward_sends server ⟨route, server.flightControllerConnection⟩
        proxied.frame proxied.network
      have processed := forwarded.follows.trans (@processMessage_follows _ _ codec table _
        ⟨.proxy, 0⟩ proxied.received)
      unfold requestOperations at processed ⊢
      rw [forwarded.link.systemId, forwarded.cameraComponentId] at processed
      exact processed
  · exact processMessage_follows codec server ⟨.proxy, 0⟩ proxied.received

theorem periodic_follows (work : Periodic Message) :
    Follows table server (eventOperations codec server (.periodic work))
      ((eventOffers codec table server (.periodic work)).map Prod.fst)
      (periodic codec table server work) := by
  have broadcasts (sent : List (Message × Network)) (state : Server Message Status) :
      Follows table state [] [] (sent.foldl (broadcast codec) state) :=
    .foldl_quiet (fun _ _ => (broadcast_sends ..).follows) sent state
  have all := ((@Follows.foldl_attemptless _ _ table _ _ _ (handleProxied_follows codec)
    work.proxied server).trans (broadcasts work.before _)).trans
      ((serveLists_follows codec _ work.lists).trans (broadcasts work.after _))
  simp only [append_nil, nil_append] at all
  exact all

theorem handle_follows (event : Event Message) :
    Follows table server (eventOperations codec server event)
      ((eventOffers codec table server event).map Prod.fst) (handle codec table server event) := by
  have fed (destination : Destination) (received : List (Received Message))
      (state : Server Message Status) :
      Follows table state (feedOperations codec destination state received) []
        (received.foldl (feed codec destination) state) :=
    .foldl_attemptless (feed_follows codec destination) received state
  cases event with
  | accept polled camera gimbal => exact accept_follows ..
  | hangUp slot => exact close_follows server slot
  | read slot received ends =>
    simp only [handle, eventOperations]
    split
    · cases ends with
      | true =>
        exact (fed ⟨.tcp slot, server.connection slot⟩ received server).trans (close_follows _ slot)
      | false => exact (fed ⟨.tcp slot, server.connection slot⟩ received server).trans (.refl _)
    · exact .refl server
  | readUdp address received =>
    simp only [handle, eventOperations]
    split
    · have heard : Follows table server [] []
          { server with link := { server.link with lastUdp := some address } } := .of_same rfl
      exact ⟨(heard.trans (fed ⟨.udp address, 0⟩ received _)).replays⟩
    · exact .refl server
  | readUart received failed =>
    simp only [handle, eventOperations]
    split
    · have all := fed { route := .uart, connection := 0 } received server
      split
      · have disabled := all.trans (Sends.setLink _ (disableUart_keeps _)).follows
        rwa [append_nil] at disabled
      · exact all
    · exact .refl server
  | writable transport =>
    simp only [handle]
    split
    · split
      · next equal => exact (Sends.setLink _ (flushUart_keeps equal)).follows
      · next equal =>
        exact (Sends.setLink _ ((flushUart_keeps equal).trans (disableUart_keeps _))).follows
    · exact .refl server
  | uartFailed => exact (Sends.setLink _ (disableUart_keeps _)).follows
  | periodic work => exact periodic_follows ..

/-! ### Parameter lists over whole runs -/

/-- No list is active before anyone has connected. -/
def noLists : Table mavlinkClients Requester Route :=
  fun slot => { active := false, key := ⟨0, 0⟩, route := .tcp slot, next := 0 }

variable (table)

/-- The table of lists, and the attempts, after operations from the start. -/
def replayed (operations : List (Operation Requester Route)) :
    Table mavlinkClients Requester Route × List (Attempt Requester Route) :=
  replay table.count (noLists, []) operations

theorem replayed_distinct (operations : List (Operation Requester Route)) :
    Distinct (replayed table operations).1 :=
  Distinct.replay (noLists, []) (nofun) operations

/-- What the events of a run ask of the lists. -/
def operations (events : List (Event Message)) : List (Operation Requester Route) :=
  trace (handle codec table) (eventOperations codec) server events

/-- What the lists attempt in a run. -/
def attempted (events : List (Event Message)) : List (Attempt Requester Route) :=
  trace (handle codec table) (fun server event =>
    (eventOffers codec table server event).map Prod.fst) server events

variable (support uart : Bool) (systemId cameraComponentId : UInt8) (status : Status)

theorem run_replayed (events : List (Event Message)) :
    let initial := start support uart systemId cameraComponentId status
    replayed table (operations codec table initial events) =
      (entries (run codec table initial events), attempted codec table initial events) := by
  intro initial
  exact (Follows.foldl (handle_follows codec) events initial).replays []

/-- In every run the lists are the table of jobs that its requests, closures and periodic steps
make, with one active list for a requester and no more than there are entries. What the lists
attempt in a periodic step is sent, one message on the route of each for which there is one.
A list that was started, and neither asked for again nor closed, has attempted every parameter
once, in order and on the route it was asked on, one in a periodic step, and is then inactive;
the attempt of a parameter whose value cannot be read sends nothing.
A requester that asks again starts its own list at zero, and the lists of others and on other
routes are left alone. -/
theorem lists_complete_and_isolated (events : List (Event Message)) :
    let initial := start support uart systemId cameraComponentId status
    let server := run codec table initial events
    let operations := operations codec table initial events
    let attempted := attempted codec table initial events
    replayed table operations = (entries server, attempted) ∧
      (∀ work, Serves codec table server work) ∧
      Distinct (entries server) ∧
      ((List.finRange mavlinkClients).countP fun slot => (entries server slot).active) ≤
        mavlinkClients ∧
      (∀ before requester route after entry,
        operations = before ++ .request requester route :: after →
        entryFor (replayed table before).1 requester = some entry →
        Undisturbed requester route after →
        (∃ new, attempted = (replayed table before).2 ++ new ∧
          new.filter (fun attempt => decide (attempt.key = requester)) =
            (List.range (min (turns after) table.count)).map fun index =>
              { key := requester, route := route, index := index }) ∧
        (turns after < table.count → ∃ own, entries server own =
          { active := true, key := requester, route := route, next := turns after }) ∧
        (table.count ≤ turns after → ∀ other, (entries server other).active = true →
          (entries server other).key ≠ requester)) ∧
      ∀ before, before <+: operations →
        let now := (replayed table before).1
        (∀ requester route entry, (now entry).active = true → (now entry).key = requester →
          request now requester route entry =
            { active := true, key := requester, route := route, next := 0 }) ∧
        (∀ requester route entry, (now entry).active = true → (now entry).key ≠ requester →
          request now requester route entry = now entry) ∧
        ∀ route entry, (now entry).route ≠ route → JobTable.close now route entry = now entry := by
  have isReplayed := run_replayed codec table support uart systemId cameraComponentId status events
  simp only at isReplayed ⊢
  have serving := fun work => @serves _ _ codec table
    (run codec table (start support uart systemId cameraComponentId status) events) work
  generalize run codec table (start support uart systemId cameraComponentId status) events =
    server at isReplayed serving ⊢
  generalize operations codec table (start support uart systemId cameraComponentId status) events =
    operations at isReplayed ⊢
  have distinct : Distinct (entries server) := by
    have all := replayed_distinct table operations
    rwa [isReplayed] at all
  refine ⟨isReplayed, serving, distinct, ?_, ?_, ?_⟩
  · refine List.countP_le_length.trans ?_
    rw [List.length_finRange]
  · intro before requester route after entry logged found undisturbed
    have split : replayed table operations =
        replay table.count (request (replayed table before).1 requester route,
          (replayed table before).2) after := by
      rw [logged]
      exact List.foldl_append
    have isServed := served table.nonempty (replayed_distinct table before)
      (replayed table before).2 found undisturbed
    rw [← split, isReplayed] at isServed
    exact isServed
  · intro before _
    have isDistinct := replayed_distinct table before
    refine ⟨fun requester route entry busy own => ?_,
      fun requester route entry busy other => request_other route busy other,
      fun route entry other => close_other other⟩
    rw [request_of_some (entryFor_own isDistinct busy own), Function.update_self]

end MavlinkServer
