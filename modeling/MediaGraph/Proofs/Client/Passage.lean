import MediaGraph.Proofs.Client.Linking
import MediaGraph.Proofs.Client.Readiness
import MediaGraph.Proofs.Client.Retries
import MediaGraph.Proofs.Server.Assignment
import MediaGraph.Proofs.Server.Hosting

/-!
# Barriers that go through

A barrier fails if the client is closed, if its connection is gone or if it is told a node id that
is no number. As long as none of this is so (`Client.Fit`), one barrier goes through after the
other: what a client asks for while it waits only adds properties of ports to what it is told.
-/

namespace MediaGraph

namespace Server

variable {id : ConnectionId} {before after server : Server}

/-- No port has a node id that is no number, and the connection will be told of none. -/
structure Legible (id : ConnectionId) (server : Server) : Prop where
  ports : ∀ object props, server.portProperties? object = some props →
    (Port.ofProperties object props).nodeId?.isOk
  told : ∀ connection, server.connections.get? id = some connection →
    ∀ object props, .info object props ∈ connection.inbox →
      (Port.ofProperties object props).nodeId?.isOk

/-- Whether an event tells no node id that is no number. -/
def isReadable : Event → Bool
  | .info object props => (Port.ofProperties object props).nodeId?.isOk
  | _ => true

instance (id : ConnectionId) (server : Server) : Decidable (server.Legible id) :=
  decidable_of_iff ((∀ port ∈ server.portObjects, (Port.ofProperties port.1 port.2).nodeId?.isOk) ∧
      ∀ connection ∈ server.connections.get? id, ∀ event ∈ connection.inbox, isReadable event) <| by
    constructor
    · rintro ⟨ports, told⟩
      refine ⟨fun object props isPort => ?_, fun connection connected object props member => ?_⟩
      · exact ports (object, props)
          (mem_portObjects_iff.2 (portProperties?_eq_some_iff.1 isPort))
      · exact told connection connected _ member
    · rintro ⟨ports, told⟩
      refine ⟨fun port member => ?_, fun connection connected event member => ?_⟩
      · exact ports port.1 port.2 (portProperties?_eq_some_iff.2 (mem_portObjects_iff.1 member))
      · cases event with
        | info object props => exact told connection connected object props member
        | _ => rfl

/-- Nothing is told anew but the properties of ports that are there. -/
theorem Legible.of_told (legible : before.Legible id)
    (ports : ∀ object props, after.portProperties? object = some props →
      before.portProperties? object = some props)
    (told : ∀ later, after.connections.get? id = some later →
      ∃ connection, before.connections.get? id = some connection ∧
        ∀ object props, .info object props ∈ later.inbox →
          .info object props ∈ connection.inbox ∨ before.portProperties? object = some props) :
    after.Legible id where
  ports object props isPort := legible.ports object props (ports object props isPort)
  told later isLater object props member := by
    rcases told later isLater with ⟨connection, connected, news⟩
    rcases news object props member with old | isPort
    · exact legible.told connection connected object props old
    · exact legible.ports object props isPort

/-- A connection that is arranged anew is told no more than what it was told, or of ports. -/
theorem Legible.setConnection (legible : server.Legible id) {connection later : Connection}
    (connected : server.connections.get? id = some connection)
    (news : ∀ object props, .info object props ∈ later.inbox →
      .info object props ∈ connection.inbox ∨ server.portProperties? object = some props) :
    (server.setConnection id later).Legible id := by
  apply legible.of_told
  · exact fun _ _ isPort => isPort
  · intro last isLast
    simp only [Server.setConnection, Table.get?_insert, if_true, Option.some.injEq] at isLast
    exact ⟨connection, connected, isLast ▸ news⟩

theorem Legible.removeObject (legible : server.Legible id) (object : ObjectId) :
    (server.removeObject object).Legible id := by
  simp only [Server.removeObject]
  split
  · apply legible.of_told
    · intro other props isPort
      rcases portProperties?_eq_some_iff.1 isPort with ⟨found, present, rest⟩
      simp only [broadcast, Table.get?_erase, Option.ite_none_left_eq_some] at present
      exact portProperties?_eq_some_iff.2 ⟨found, present.2, rest⟩
    · intro later isLater
      simp only [broadcast, Table.get?_mapValues, Option.map_eq_some_iff] at isLater
      rcases isLater with ⟨connection, connected, rfl⟩
      refine ⟨connection, connected, fun other props member => .inl ?_⟩
      split at member
      · simpa [Connection.send] using member
      · exact member
  · exact legible

/-- What is told of a port that is newly listened to are its present properties. -/
theorem Legible.subscribeInfo (legible : server.Legible id) (proxy : ProxyId) :
    (server.subscribeInfo id proxy).Legible id := by
  simp only [Server.subscribeInfo]
  split
  case h_1 => exact legible
  case h_2 connection connected =>
    split
    case h_1 => exact legible
    case h_2 bound isBound =>
      split
      case h_1 => exact legible
      case h_2 object present =>
        split
        case isFalse => exact legible
        case isTrue isPort =>
          refine legible.setConnection connected fun other props member => ?_
          rcases List.mem_append.1 member with old | isNew
          · exact .inl old
          · cases List.mem_singleton.1 isNew
            exact .inr (portProperties?_eq_some_iff.2 ⟨object, present, isPort, rfl⟩)

theorem Legible.destroyProxy (legible : server.Legible id) (proxy : ProxyId) :
    (server.destroyProxy id proxy).Legible id := by
  simp only [Server.destroyProxy]
  split
  case h_1 => exact legible
  case h_2 connection connected =>
    split
    case h_1 => exact legible
    case h_2 bound isBound =>
      have released : (server.setConnection id
          { connection with proxies := connection.proxies.erase proxy }).Legible id :=
        legible.setConnection connected fun _ _ member => .inl member
      split
      · exact released.removeObject bound.object
      · exact released

theorem Legible.answer (legible : server.Legible id) {request : Request}
    (calm : request.isWaiting || request.isBinding) :
    (Server.answer id request server).2.Legible id := by
  cases request with
  | drive timeout =>
      simp only [Server.answer, drive]
      split
      case h_1 connection _ _ connected =>
        exact legible.setConnection connected (by simp)
      case h_2 => exact ⟨legible.ports, legible.told⟩
      case h_3 => exact legible
  | sync sequence =>
      simp only [Server.answer, sync]
      split
      case h_1 => exact legible
      case h_2 connection connected =>
        have sent : (server.setConnection id (connection.send [.done sequence])).Legible id :=
          legible.setConnection connected fun object props member =>
            .inl (by simpa [Connection.send] using member)
        exact ⟨sent.ports, sent.told⟩
  | bindObject object kind =>
      simp only [Server.answer, bindObject]
      split
      case h_1 connection found connected present =>
        split
        · exact legible.setConnection connected fun _ _ member => .inl member
        · exact legible
      case h_2 => exact legible
  | subscribeInfo proxy => exact legible.subscribeInfo proxy
  | destroyProxy proxy => exact legible.destroyProxy proxy
  | _ => cases calm

/-- What a client asks for while it waits lets the next barrier go through, too. -/
structure Admits (id : ConnectionId) (before after : Server) : Prop where
  remains : Remains id before after
  lasts : Lasts id before after
  nodes : ∀ token, after.node? id token = before.node? id token
  legible : before.Legible id → after.Legible id

theorem Admits.nodeId? (admits : Admits id before after) (token : NodeToken) :
    after.nodeId? id token = before.nodeId? id token := by
  rw [Server.nodeId?, admits.nodes, Server.nodeId?]

theorem Admits.few (admits : Admits id before after) (few : after.HasHandles id) :
    before.HasHandles id :=
  admits.lasts.few admits.remains few

theorem remains_answer (server : Server) (id : ConnectionId) {request : Request}
    (calm : request.isWaiting || request.isBinding) :
    Remains id server (Server.answer id request server).2 := by
  cases request with
  | drive timeout =>
      intro connected
      rcases Option.isSome_iff_exists.1 connected with ⟨connection, found⟩
      simp [Server.answer, drive, found, setConnection]
  | sync sequence =>
      intro connected
      rcases Option.isSome_iff_exists.1 connected with ⟨connection, found⟩
      simp [Server.answer, sync, found, setConnection]
  | bindObject object kind => exact remains_bindObject id server object kind
  | subscribeInfo proxy => exact remains_subscribeInfo server proxy
  | destroyProxy proxy => exact remains_destroyProxy server proxy
  | _ => cases calm

end Server

namespace Client

variable {id : ConnectionId} {client after : Client Server} {server changed : Server}

theorem calm_admits (id : ConnectionId) : Calm id (Server.Admits id) where
  refl server := ⟨fun connected => connected, .refl id server, fun _ => rfl,
    fun legible => legible⟩
  trans start rest := ⟨fun connected => rest.remains (start.remains connected),
    start.lasts.trans rest.lasts, fun token => (rest.nodes token).trans (start.nodes token),
    fun legible => rest.legible (start.legible legible)⟩
  asking request server calm := ⟨Server.remains_answer server id calm,
    (Server.serves_lasts id).answer server request, Server.node?_answer server id calm,
    fun legible => legible.answer calm⟩

section Waiting

variable {σ : Type} {holds : Client σ → σ → Bool} {client between after : Client σ}
  {world middle changed : σ} {attempts limit : Nat}

theorem synchronizeUntil_succ (undone : holds client world = false)
    (ran : synchronize client world = (.ok (), between, middle))
    (rest : synchronizeUntil holds limit between middle = (.ok attempts, after, changed)) :
    synchronizeUntil holds (limit + 1) client world = (.ok (attempts + 1), after, changed) := by
  rw [synchronizeUntil_of_undone undone, Call.bind_of_ok _ ran, Call.bind_of_ok _ rest]
  rfl

end Waiting

/-- The client gets through barriers on its connection. -/
structure Fit (id : ConnectionId) (client : Client Server) (server : Server) : Prop where
  healthy : client.Healthy
  opened : client.transport = some (Server.transport id)
  connected : (server.connections.get? id).isSome
  legible : server.Legible id

namespace Fit

variable (fit : client.Fit id server)

include fit

theorem holder : client.Connected id := fun _ opened =>
  Option.some.inj (opened.symm.trans fit.opened)

/-- Nothing that is told is rejected, so a barrier goes through. -/
theorem synchronize_eq_ok :
    ∃ after changed, synchronize client server = (.ok (), after, changed) := by
  rcases Option.isSome_iff_exists.1 fit.connected with ⟨connection, connected⟩
  rcases delivered : deliverAll (Server.transport id)
    (connection.inbox ++ [.done client.barrier.next])
    { client.waiting with barrier := client.waiting.barrier.recordIteration }
    ((server.sync id client.barrier.next).2.drive id).2 with ⟨failure, after, changed⟩
  have ran := synchronize_of_connected fit.opened fit.healthy.clean connected delivered
  cases failure with
  | none => exact ⟨_, changed, ran⟩
  | some malformed =>
      rcases malformed with ⟨port, value⟩
      rcases (deliverAll_eq_some_iff (by exact fit.healthy.attentive)).1 delivered with
        ⟨early, event, late, split, -, -, props, rfl, rfl, named, unread⟩
      -- What has been rejected is not the acknowledgement, so the connection was told of it before.
      have member : .info port props ∈ connection.inbox := by
        have isEvent : Event.info port props ∈
            connection.inbox ++ [.done client.barrier.next] := by simp [split]
        simpa using isEvent
      have readable := fit.legible.told connection connected port props member
      have unreadable : (Port.ofProperties port props).nodeId? =
          .error ⟨port, props.text Key.nodeId⟩ :=
        Port.nodeId?_eq_error_iff.2 ⟨rfl, named, unread⟩
      rw [unreadable] at readable
      cases readable

/-- What the client does until a barrier is through does not keep it from the next one. -/
theorem of_synchronize (ran : synchronize client server = (.ok (), after, changed)) :
    after.Fit id changed ∧ Server.Admits id server changed := by
  have kept := (looping_on (calm_admits id)).synchronize.always client server fit.holder
  have transport := looping_transport.synchronize.always client server
  have ending := Call.ends_synchronize client server fit.healthy
  rw [ran] at kept transport ending
  exact ⟨⟨ending.healthy_of_ok, transport.trans fit.opened, kept.2.remains fit.connected,
    kept.2.legible fit.legible⟩, kept.2⟩

theorem endpointNodeId_eq {endpoint : Endpoint} {node : ObjectId}
    (given : server.nodeId? id endpoint.token = some node) (real : node ≠ unassigned) :
    endpointNodeId endpoint client server = some node := by
  have assigned : server.assignedId id endpoint.token = node := by
    rw [Server.nodeId?] at given
    rw [Server.assignedId, given, Option.getD_some]
  simp only [endpointNodeId, fit.opened, Server.transport, assigned, real, if_false]

theorem endpointReady_iff {endpoint : Endpoint} {node : ObjectId}
    (given : server.nodeId? id endpoint.token = some node) (real : node ≠ unassigned) :
    endpointReady endpoint client server ↔
      endpoint.expectedCounts.1 ≤ (client.graph.portCounts node).1 ∧
        endpoint.expectedCounts.2 ≤ (client.graph.portCounts node).2 := by
  simp only [endpointReady, fit.endpointNodeId_eq given real, Bool.and_eq_true, decide_eq_true_eq]

/-- However long the client waits, it gets through. -/
theorem synchronizeUntil_eq_ok (holds : Client Server → Server → Bool) (limit : Nat) :
    ∃ attempts after changed,
      synchronizeUntil holds limit client server = (.ok attempts, after, changed) := by
  induction limit generalizing client server with
  | zero => exact ⟨0, client, server, rfl⟩
  | succ limit ih =>
      cases done : holds client server with
      | true => exact ⟨0, client, server, synchronizeUntil_of_holds done _⟩
      | false =>
          rcases fit.synchronize_eq_ok with ⟨between, middle, ran⟩
          rcases ih (fit.of_synchronize ran).1 with ⟨attempts, after, changed, rest⟩
          exact ⟨attempts + 1, after, changed, synchronizeUntil_succ done ran rest⟩

theorem admits_synchronizeUntil {holds : Client Server → Server → Bool} {attempts limit : Nat}
    (ran : synchronizeUntil holds limit client server = (.ok attempts, after, changed)) :
    Server.Admits id server changed := by
  have looping := looping_on (calm_admits id)
  have kept := ((Call.composable_within looping.toComposes).synchronizeUntil
    looping.synchronize holds limit).always client server fit.holder
  rw [ran] at kept
  exact kept.2

/-- An endpoint whose node has an id is waited for until the graph shows its ports. -/
theorem waitForEndpoint_eq_ok {endpoint : Endpoint} {node : ObjectId}
    (given : endpointNodeId endpoint client server = some node) :
    ∃ attempts after changed,
      synchronizeUntil (endpointReady endpoint) client.config.syncRetryLimit.toNat client server =
        (.ok attempts, after, changed) ∧
      waitForEndpoint endpoint client server =
        (.ok { nodeId := some node
               ready := endpointReady endpoint after changed
               syncAttempts := attempts }, after, changed) := by
  rcases fit.synchronizeUntil_eq_ok (endpointReady endpoint) client.config.syncRetryLimit.toNat
    with ⟨attempts, after, changed, ran⟩
  refine ⟨attempts, after, changed, ran, ?_⟩
  have known : synchronizeUntil
      (fun client server => (endpointNodeId endpoint client server).isSome)
      client.config.syncRetryLimit.toNat client server = (.ok 0, client, server) :=
    synchronizeUntil_of_holds (by simp [given]) _
  rw [waitForEndpoint, Call.bind_of_ok _ (Call.check_of_healthy fit.healthy.clean server)]
  simp only [Call.client, Call.reads, bind, Call.bind, known, given, ran, pure, Nat.zero_add]

end Fit

end Client

end MediaGraph
