import MediaGraph.Proofs.Client.Endpoints
import MediaGraph.Proofs.Client.Observers
import MediaGraph.Proofs.Graph.Register
import Mathlib.Data.List.Perm.Subperm

/-!
# What an endpoint that is ready has to show

An endpoint is ready when the graph shows at its node as many inputs and as many outputs as it has.
It does not say which ones. The graph is behind, so it may still show a port that the endpoint has
removed, and anybody can announce a port under the node. Such a record makes up for a port of the
endpoint that the graph does not show yet, and nothing else does: no port is shown by two records,
because the ids of the records differ. So in each direction the graph lacks no more ports of a ready
endpoint than it has records that show none of them (`Client.ready_accounted`), and if there are no
such records, it lacks none.
-/

namespace MediaGraph

/-! ## Ports and the records that show them -/

/-- The records at a node in a direction. -/
def Graph.recordsAt (graph : Graph) (node : ObjectId) (direction : Direction) : List Port :=
  graph.allPorts.filter (·.isAt node direction)

/-- The graph has the object that shows the port, under a node and in the port's direction. -/
def OfferedPort.ShownIn (port : OfferedPort) (graph : Graph) (node : ObjectId) : Prop :=
  ∃ record ∈ graph.recordsAt node port.direction, port.published = some record.id

instance (port : OfferedPort) (graph : Graph) (node : ObjectId) :
    Decidable (port.ShownIn graph node) :=
  inferInstanceAs (Decidable (∃ record ∈ graph.recordsAt node port.direction, _))

namespace OfferedNode

def portsOf (offered : OfferedNode) (direction : Direction) : List OfferedPort :=
  offered.ports.filter (·.direction = direction)

/-- The ports of a direction that the graph lacks. -/
def missing (offered : OfferedNode) (graph : Graph) (node : ObjectId) (direction : Direction) :
    List OfferedPort :=
  (offered.portsOf direction).filter fun port => ¬port.ShownIn graph node

/-- The records at the node in a direction that show none of its ports of that direction. -/
def strangers (offered : OfferedNode) (graph : Graph) (node : ObjectId) (direction : Direction) :
    List Port :=
  (graph.recordsAt node direction).filter fun record =>
    ¬∃ port ∈ offered.portsOf direction, port.published = some record.id

variable {offered : OfferedNode} {graph : Graph} {node : ObjectId} {direction : Direction}

/-- Every record that is no stranger shows a port of its own. -/
theorem length_recordsAt_le (filed : graph.WellFiled) (offered : OfferedNode) (node : ObjectId)
    (direction : Direction) :
    (graph.recordsAt node direction).length ≤
      (offered.strangers graph node direction).length +
        ((offered.portsOf direction).filter fun port => port.ShownIn graph node).length := by
  let isOwn : Port → Bool := fun record =>
    ∃ port ∈ offered.portsOf direction, port.published = some record.id
  let own := (graph.recordsAt node direction).filter isOwn
  let shown := (offered.portsOf direction).filter fun port => port.ShownIn graph node
  have once : (own.map (·.id)).Nodup :=
    filed.unique.sublist ((List.filter_sublist.trans List.filter_sublist).map _)
  have within : own.map (·.id) ⊆ shown.filterMap (·.published) := by
    intro object member
    rcases List.mem_map.1 member with ⟨record, isOwn, rfl⟩
    rcases List.mem_filter.1 isOwn with ⟨present, shows⟩
    rcases of_decide_eq_true shows with ⟨port, isPort, published⟩
    have same : port.direction = direction := by simpa using (List.mem_filter.1 isPort).2
    have isShown : port.ShownIn graph node := ⟨record, same ▸ present, published⟩
    exact List.mem_filterMap.2 ⟨port, List.mem_filter.2 ⟨isPort, by simpa using isShown⟩, published⟩
  calc (graph.recordsAt node direction).length
    _ = own.length + (offered.strangers graph node direction).length := by
        rw [List.length_eq_length_filter_add isOwn]
        simp only [own, strangers, isOwn, decide_not]
    _ = (own.map (·.id)).length + (offered.strangers graph node direction).length := by
        rw [List.length_map]
    _ ≤ (shown.filterMap (·.published)).length + (offered.strangers graph node direction).length :=
        Nat.add_le_add_right (List.subperm_of_subset once within).length_le _
    _ ≤ shown.length + (offered.strangers graph node direction).length :=
        Nat.add_le_add_right (List.length_filterMap_le _ _) _
    _ = _ := Nat.add_comm _ _

/-- If there are as many records as ports, strangers make up for what is missing. -/
theorem length_missing_le (filed : graph.WellFiled)
    (enough : (offered.portsOf direction).length ≤ (graph.recordsAt node direction).length) :
    (offered.missing graph node direction).length ≤
      (offered.strangers graph node direction).length := by
  have records := length_recordsAt_le filed offered node direction
  have ports := (offered.portsOf direction).length_eq_length_filter_add fun port =>
    port.ShownIn graph node
  simp only [← decide_not] at ports
  simp only [missing]
  omega

end OfferedNode

/-- The graph accounts for the ports of an endpoint, whose node the server has given an id. -/
structure Endpoint.Accounted (endpoint : Endpoint) (graph : Graph) (offered : OfferedNode)
    (node : ObjectId) : Prop where
  pictures : endpoint.Pictures offered
  assigned : offered.nodeId = some node
  /-- Each port that the graph lacks is made up for by a record that shows none. -/
  missing : ∀ direction, (offered.missing graph node direction).length ≤
    (offered.strangers graph node direction).length
  /-- If the graph has no other records at the node, it shows all ports. -/
  shown : (∀ direction, offered.strangers graph node direction = []) → ∀ port ∈ endpoint.ports,
    ∃ shown ∈ offered.ports, shown.label = port.label ∧ shown.ShownIn graph node

namespace Endpoint

variable {endpoint : Endpoint} {offered : OfferedNode} {graph : Graph} {node : ObjectId}

theorem expectedCounts_eq (pictures : endpoint.Pictures offered) :
    endpoint.expectedCounts =
      ((offered.portsOf .input).length, (offered.portsOf .output).length) := by
  have counts : ∀ direction, endpoint.ports.countP (·.direction = direction) =
      (offered.portsOf direction).length := by
    intro direction
    have labels := congrArg (List.countP fun label => label.2.1 = direction) pictures.ports
    rw [List.countP_map, List.countP_map] at labels
    rw [OfferedNode.portsOf, ← List.countP_eq_length_filter]
    exact labels.symm
  rw [expectedCounts_eq_countP, counts, counts]

theorem Pictures.accounted (pictures : endpoint.Pictures offered)
    (assigned : offered.nodeId = some node) (filed : graph.WellFiled)
    (inputs : endpoint.expectedCounts.1 ≤ (graph.portCounts node).1)
    (outputs : endpoint.expectedCounts.2 ≤ (graph.portCounts node).2) :
    endpoint.Accounted graph offered node := by
  rw [expectedCounts_eq pictures, filed.portCounts_eq, List.countP_eq_length_filter] at inputs
  rw [expectedCounts_eq pictures, filed.portCounts_eq, List.countP_eq_length_filter,
    List.countP_eq_length_filter] at outputs
  have missing : ∀ direction, (offered.missing graph node direction).length ≤
      (offered.strangers graph node direction).length := by
    intro direction
    apply OfferedNode.length_missing_le filed
    cases direction with
    | input => exact inputs
    | output => exact outputs
  refine ⟨pictures, assigned, missing, fun none port member => ?_⟩
  have labelled := List.mem_map_of_mem (f := LocalPort.label) member
  rw [← pictures.ports] at labelled
  rcases List.mem_map.1 labelled with ⟨shown, isPort, same⟩
  have nothing : offered.missing graph node shown.direction = [] := by
    have fewer := missing shown.direction
    rw [none] at fewer
    exact List.eq_nil_of_length_eq_zero (Nat.le_zero.1 fewer)
  refine ⟨shown, isPort, same, ?_⟩
  by_contra hidden
  have member : shown ∈ offered.missing graph node shown.direction := by
    simp [OfferedNode.missing, OfferedNode.portsOf, isPort, hidden]
  rw [nothing] at member
  cases member

end Endpoint

/-! ## The graph of a client in a session -/

namespace Session

variable {id : ConnectionId} {Permits : List Endpoint → Invocation → Prop}
  {client : Client Server} {server : Server} {held : List Endpoint}

theorem atRest (session : Session id Permits client server held) : client.AtRest := by
  induction session with
  | @opened steps config observers client server _ ran =>
      rcases Client.heard_of_connect Server.backend config observers (Server.run {} steps) with
        ⟨-, last, -, rest, -, opened⟩
      rw [ran] at opened
      exact opened ▸ rest
  | meanwhile _ _ _ ih => exact ih
  | @call client server _ invocation _ _ ih =>
      exact ((Client.follows_invocation invocation).always client server ih).1

end Session

namespace Client

/-! ## Waiting -/

section Waiting

variable {σ : Type} {endpoint : Endpoint} {client after : Client σ} {world changed : σ}
  {publication : Publication}

/-- The node is known before the wait for the ports begins, and readiness is read off at its end. -/
theorem ready_of_waitForEndpoint
    (waited : waitForEndpoint endpoint client world = (.ok publication, after, changed))
    (ready : publication.ready) :
    endpointReady endpoint after changed ∧ ∃ node limit showing between middle,
      publication.nodeId = some node ∧ endpointNodeId endpoint between middle = some node ∧
      synchronizeUntil (endpointReady endpoint) limit between middle =
        (.ok showing, after, changed) := by
  simp only [waitForEndpoint, Call.bind_eq_ok_iff] at waited
  rcases waited with ⟨-, _, _, -, keeper, _, _, -, assigning, between, middle, -, waited⟩
  rcases waited with ⟨assigned, _, _, ⟨⟩, waited⟩
  cases found : endpointNodeId endpoint between middle with
  | none =>
      rw [found] at waited
      cases waited
      cases ready
  | some node =>
      simp only [found, Call.bind_eq_ok_iff] at waited
      rcases waited with ⟨showing, next, final, repeated, isReady, _, _, ⟨⟩, ⟨⟩⟩
      exact ⟨ready, node, _, showing, between, middle, rfl, found, repeated⟩

/-- Publishing ends with a wait for what is published. -/
theorem waited_of_publish {name : String} {inputs outputs : Nat}
    (published : publish name inputs outputs client world =
      (.ok (publication, endpoint), after, changed)) :
    ∃ between middle,
      waitForEndpoint endpoint between middle = (.ok publication, after, changed) := by
  simp only [publish, Call.bind_eq_ok_iff] at published
  rcases published with ⟨-, _, _, -, -, _, _, -, -, _, _, -, created, keeper, between, -, raised⟩
  rcases ran : bringUp created (generatedPorts inputs outputs) keeper between with
    ⟨reason | value, next, final⟩
  · simp only [Call.onHalt, ran] at raised
    cases raised
  · simp only [Call.onHalt, ran] at raised
    cases raised
    simp only [bringUp, Call.bind_eq_ok_iff] at ran
    rcases ran with ⟨_, _, _, -, active, _, _, -, found, _, _, waited, ⟨⟩⟩
    exact ⟨_, _, waited⟩

/-- The event loop never lets go of the transport. -/
theorem looping_transport :
    Call.Looping fun before after : Client σ × σ => after.1.transport = before.1.transport where
  refl _ := rfl
  trans start rest := rest.trans start
  driving _ _ _ _ _ := rfl
  syncing _ _ _ _ _ := rfl
  batch client world transport events _ := (frame_of_applyBatch transport events client world).1
  barrier _ _ _ := rfl
  poison _ _ _ := rfl

end Waiting

/-! ## Readiness -/

variable {id : ConnectionId} {client after : Client Server} {server changed : Server}
  {held : List Endpoint} {endpoint : Endpoint} {node : ObjectId}

theorem node?_of_endpointNodeId (connected : client.Connected id)
    (assigned : endpointNodeId endpoint client server = some node) :
    ∃ offered, server.node? id endpoint.token = some offered ∧ offered.nodeId = some node := by
  cases opened : client.transport with
  | none => simp [endpointNodeId, opened] at assigned
  | some transport =>
      simp only [endpointNodeId, opened, connected transport opened] at assigned
      split at assigned
      case isTrue => cases assigned
      case isFalse real =>
        cases given : (server.node? id endpoint.token).bind (·.nodeId) with
        | none => simp [Server.transport, Server.assignedId, given] at real
        | some other =>
            simp only [Server.transport, Server.assignedId, given, Option.getD_some,
              Option.some.injEq] at assigned
            exact assigned ▸ Option.bind_eq_some_iff.1 given

/-- While a client waits for the ports of an endpoint, the id of its node stays as it is. -/
theorem endpointNodeId_of_synchronizeUntil (endpoint : Endpoint)
    {holds : Client Server → Server → Bool} {limit attempts : Nat} (connected : after.Connected id)
    (waited : synchronizeUntil holds limit client server = (.ok attempts, after, changed)) :
    endpointNodeId endpoint after changed = endpointNodeId endpoint client server := by
  have transport : after.transport = client.transport := by
    have kept := ((Call.composable_within looping_transport.toComposes).synchronizeUntil
      looping_transport.synchronize holds limit).always client server
    rwa [waited] at kept
  have formerly : client.Connected id := fun other opened => connected other (transport ▸ opened)
  have looping := looping_on (calm_nodes id)
  have nodes := (((Call.composable_within looping.toComposes).synchronizeUntil
    looping.synchronize holds limit).always client server formerly).2
  rw [waited] at nodes
  cases opened : client.transport with
  | none => simp only [endpointNodeId, transport, opened]
  | some own =>
      simp only [endpointNodeId, transport, opened, formerly own opened, Server.transport,
        Server.assignedId, nodes]

/-- The graph accounts for an endpoint of the client, whose node has an id. -/
def Accounts (id : ConnectionId) (client : Client Server) (server : Server) (endpoint : Endpoint)
    (node : ObjectId) : Prop :=
  endpointNodeId endpoint client server = some node ∧
    ∃ offered, server.node? id endpoint.token = some offered ∧
      endpoint.Accounted client.graph offered node

end Client

namespace Session

variable {id : ConnectionId} {client : Client Server} {server : Server} {held : List Endpoint}
  {endpoint : Endpoint}

theorem accounts_of_ready (session : Session id Invocation.KeepsTo client server held)
    (member : endpoint ∈ held)
    (few : server.HasHandles id) (ready : Client.endpointReady endpoint client server) :
    ∃ node, client.Accounts id server endpoint node := by
  cases assigned : Client.endpointNodeId endpoint client server with
  | none => simp [Client.endpointReady, assigned] at ready
  | some node =>
      simp only [Client.endpointReady, assigned, Bool.and_eq_true, decide_eq_true_eq] at ready
      rcases Client.node?_of_endpointNodeId session.connected.1 assigned with
        ⟨offered, found, isNode⟩
      rcases Option.bind_eq_some_iff.1 found with ⟨connection, connected, -⟩
      rcases session.pictured connected (few connection connected) member with
        ⟨shown, isShown, pictures⟩
      cases found.symm.trans isShown
      exact ⟨node, assigned, offered, found,
        pictures.accounted isNode session.atRest.filed ready.1 ready.2⟩

/-- What a wait finds ready is accounted for when it is over. -/
theorem accounts_of_waited (session : Session id Invocation.KeepsTo client server held)
    (member : endpoint ∈ held) (few : server.HasHandles id) {before : Client Server}
    {former : Server} {publication : Publication}
    (waited : Client.waitForEndpoint endpoint before former = (.ok publication, client, server))
    (ready : publication.ready) :
    ∃ node, publication.nodeId = some node ∧ client.Accounts id server endpoint node := by
  rcases Client.ready_of_waitForEndpoint waited ready with
    ⟨isReady, node, limit, showing, between, middle, isNode, assigned, repeated⟩
  rcases session.accounts_of_ready member few isReady with ⟨final, accounts⟩
  have same := Client.endpointNodeId_of_synchronizeUntil endpoint session.connected.1 repeated
  rw [accounts.1, assigned] at same
  cases same
  exact ⟨node, isNode, accounts⟩

end Session

namespace Client

variable {id : ConnectionId} {client : Client Server} {server : Server} {held : List Endpoint}

/--
Whenever an endpoint in hand is found ready, its node has an id, and in each direction the graph
lacks no more of its ports than it has other records at the node. If it has none of these, it shows
every port of the endpoint, with the object that was published for it. This is so for an endpoint
that has just been waited for, or that has just been published, as for any other.
-/
theorem ready_accounted (session : Session id Invocation.KeepsTo client server held) :
    (∀ endpoint ∈ held, server.HasHandles id → endpointReady endpoint client server →
      ∃ node, client.Accounts id server endpoint node) ∧
    (∀ endpoint ∈ held, ∀ publication after changed, changed.HasHandles id →
      waitForEndpoint endpoint client server = (.ok publication, after, changed) →
      publication.ready → ∃ node, publication.nodeId = some node ∧
        after.Accounts id changed endpoint node) ∧
    ∀ name inputs outputs publication endpoint after changed, changed.HasHandles id →
      publish name inputs outputs client server = (.ok (publication, endpoint), after, changed) →
      publication.ready → ∃ node, publication.nodeId = some node ∧
        after.Accounts id changed endpoint node := by
  refine ⟨fun endpoint member few ready => session.accounts_of_ready member few ready, ?_, ?_⟩
  · intro endpoint member publication after changed few waited ready
    have later := session.call (.waitForEndpoint endpoint) fun _ same => by
      cases same
      exact member
    simp only [Invocation.call, Invocation.hands, Call.state_withoutLink, waited] at later
    exact later.accounts_of_waited member few waited ready
  · intro name inputs outputs publication endpoint after changed few published ready
    have later := session.call (.publish name inputs outputs) fun _ same => by cases same
    simp only [Invocation.call, Invocation.hands, Call.state_withoutLink, published] at later
    rcases waited_of_publish published with ⟨between, middle, waited⟩
    exact later.accounts_of_waited (by simp) few waited ready

/-- The first publication on a server: whether it is ready, its ports, the handles given out. -/
def firstPublication? : Option (Bool × Nat × Option Nat) :=
  match connect Server.backend .standard [] (Server.run {} []) with
  | (.ok client, server) =>
    match publish "synth" 1 1 client server with
    | (.ok (publication, endpoint), _, changed) =>
      some (publication.ready, endpoint.ports.length,
        (changed.connections.get? 1).map (·.handles))
    | _ => none
  | _ => none

/-- Two ports are published, and both are shown. -/
theorem ready_accounted_publishing :
    ∃ client server publication endpoint after changed node,
      Session 1 Invocation.KeepsTo client server [] ∧ changed.HasHandles 1 ∧
        publish "synth" 1 1 client server = (.ok (publication, endpoint), after, changed) ∧
        publication.ready ∧ endpoint.ports.length = 2 ∧ publication.nodeId = some node ∧
        after.Accounts 1 changed endpoint node := by
  have probed : firstPublication? = some (true, 2, some 5) := by decide +kernel
  simp only [firstPublication?] at probed
  rcases ran : connect Server.backend .standard [] (Server.run {} []) with
    ⟨refusal | client, server⟩
  · simp only [ran] at probed
    cases probed
  · simp only [ran] at probed
    have session : Session 1 Invocation.KeepsTo client server [] := .opened rfl ran
    rcases published : publish "synth" 1 1 client server with
      ⟨reason | ⟨publication, endpoint⟩, after, changed⟩
    · simp only [published] at probed
      cases probed
    · simp only [published, Option.some.injEq, Prod.mk.injEq] at probed
      rcases probed with ⟨ready, two, count⟩
      have few : changed.HasHandles 1 := by
        intro connection connected
        rw [connected, Option.map_some, Option.some.injEq] at count
        rw [count]
        decide
      rcases (ready_accounted session).2.2 "synth" 1 1 publication endpoint after changed few
        published ready with ⟨node, isNode, accounts⟩
      exact ⟨client, server, publication, endpoint, after, changed, node, session, few, published,
        ready, two, isNode, accounts⟩

/-- A port of the endpoint is published, and the graph does not show it under the node. -/
def Lacks (id : ConnectionId) (client : Client Server) (server : Server) (endpoint : Endpoint) :
    Prop :=
  ∃ offered ∈ server.node? id endpoint.token, ∃ node ∈ offered.nodeId, ∃ port ∈ offered.ports,
    port.published.isSome ∧ ¬port.ShownIn client.graph node

instance (id : ConnectionId) (client : Client Server) (server : Server) (endpoint : Endpoint) :
    Decidable (client.Lacks id server endpoint) :=
  inferInstanceAs (Decidable (∃ offered ∈ server.node? id endpoint.token, _))

/-- A port is published, and another one is put in its place. -/
def replacing : List Invocation :=
  let first : LocalPort := { token := 2, name := "midi_in_1", direction := .input }
  [.publish "synth" 1 0,
    .removePort { token := 1, name := "synth", ports := [first], active := true } 2,
    .addPort { token := 1, name := "synth", active := true } "again" .input]

/-- What the endpoint is then. -/
def replaced : Endpoint where
  token := 1
  name := "synth"
  ports := [{ token := 4, name := "again", direction := .input }]
  active := true

/-- The graph still shows the port that has been removed, which makes up for the new one. -/
theorem ready_without_port :
    ∃ client server, Session 1 Invocation.KeepsTo client server [replaced] ∧ server.HasHandles 1 ∧
      endpointReady replaced client server ∧ client.Lacks 1 server replaced := by
  have probed : ((connect Server.backend .standard [] (Server.run {} [])).1.toOption.bind
      fun client => (follow? client
        (connect Server.backend .standard [] (Server.run {} [])).2 [] replacing).map
          fun state => (state.2.2, (state.2.1.connections.get? 1).map (·.handles),
            endpointReady replaced state.1 state.2.1,
            decide (state.1.Lacks 1 state.2.1 replaced))) =
      some ([replaced], some 4, true, true) := by
    decide +kernel
  rcases ran : connect Server.backend .standard [] (Server.run {} []) with
    ⟨refusal | client, server⟩
  · simp [ran, Except.toOption] at probed
  · simp only [ran, Except.toOption, Option.bind_some, Option.map_eq_some_iff, Prod.mk.injEq,
      Prod.exists, decide_eq_true_eq] at probed
    rcases probed with ⟨final, last, held, followed, rfl, ⟨connection, connected, count⟩, ready,
      lacks⟩
    refine ⟨final, last, session_of_follow (.opened rfl ran) followed, ?_, ready, lacks⟩
    intro other isOther
    cases connected.symm.trans isOther
    rw [count]
    decide

end Client

end MediaGraph
