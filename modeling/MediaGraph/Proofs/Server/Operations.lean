import MediaGraph.Proofs.Server.Objects

/-!
# What the operations of a server are made of

However many ways there are to change the objects of a server, they come down to three: an object
is inserted, removed, or given other properties. Everything else that happens on the way keeps the
objects and concerns the nodes that connections offer, or ends a connection.

A relation that holds across these few changes is carried through every operation that is made of
them (`Server.Carries`), at whoever's request the operation is done. If it also holds when a
connection rearranges its own record, it holds across every request of that connection
(`Server.Serves`). The requests that are about this record and nothing else all come down to a few
changes, too (`Server.Arranges`).
-/

namespace MediaGraph

/-- What can be done to a server from the outside. -/
inductive Injection where
  | addObject (kind : ObjectKind) (props : Properties)
  | addObjectAt (id : ObjectId) (kind : ObjectKind) (props : Properties)
  | replaceProperties (id : ObjectId) (props : Properties)
  | takeObject (id : ObjectId)
  | assignPending
  | disconnectAll
  | setPolicy (change : Policy → Policy)

namespace Server

def inject (server : Server) : Injection → Server
  | .addObject kind props => (server.addObject kind props).2
  | .addObjectAt id kind props => (server.addObjectAt id kind props).2
  | .replaceProperties id props => (server.replaceProperties id props).2
  | .takeObject id => (server.takeObject id).2
  | .assignPending => server.assignPending
  | .disconnectAll => server.disconnectAll
  | .setPolicy change => server.setPolicy change

/-- The objects stay, and connections keep all but the nodes that they offer, or end. -/
structure Keeps (before after : Server) : Prop where
  objects : after.objects = before.objects
  last : before.lastConnection ≤ after.lastConnection
  nodes : ∀ id later, after.connections.get? id = some later →
    ∃ connection, before.connections.get? id = some connection ∧
      connection.handles ≤ later.handles ∧
      later = { connection with nodes := later.nodes, handles := later.handles }

/-- Whoever an object is to belong to is connected. -/
def Hosts (server : Server) (object : Object) : Prop :=
  ∀ owner, object.owner = some owner → (server.connections.get? owner).isSome

/-- A relation between servers that holds across whatever operations are made of. -/
structure Carries (Related : Server → Server → Prop) : Prop where
  trans : ∀ {before middle after}, Related before middle → Related middle after →
    Related before after
  keeps : ∀ {before after}, Keeps before after → Related before after
  insertObject : ∀ {server : Server} {object} id, server.Hosts object →
    Related server (server.insertObject id object)
  removeObject : ∀ server id, Related server (server.removeObject id)
  rewrite : ∀ {server : Server} {id object} props, server.objects.get? id = some object →
    Related server
      (({ server with objects := server.objects.insert id { object with props } } :
        Server).sendInfo id)

variable {before after server : Server}

theorem Keeps.of_connections (objects : after.objects = before.objects)
    (last : before.lastConnection ≤ after.lastConnection)
    (connections : ∀ id later, after.connections.get? id = some later →
      before.connections.get? id = some later) : Keeps before after where
  objects := objects
  last := last
  nodes id later present := ⟨later, connections id later present, Nat.le_refl _, rfl⟩

theorem Keeps.refl (server : Server) : Keeps server server :=
  .of_connections rfl (Nat.le_refl _) fun _ _ present => present

theorem keeps_setConnection {id : ConnectionId} {connection later : Connection}
    (connected : server.connections.get? id = some connection)
    (more : connection.handles ≤ later.handles)
    (same : later = { connection with nodes := later.nodes, handles := later.handles }) :
    Keeps server (server.setConnection id later) where
  objects := rfl
  last := Nat.le_refl _
  nodes other present found := by
    simp only [setConnection, Table.get?_insert] at found
    split at found
    case isTrue isOther =>
      subst isOther
      cases found
      exact ⟨connection, connected, more, same⟩
    case isFalse => exact ⟨present, found, Nat.le_refl _, rfl⟩

theorem keeps_updateNode (server : Server) (id : ConnectionId) (token : NodeToken)
    (change : OfferedNode → OfferedNode) : Keeps server (server.updateNode id token change) where
  objects := rfl
  last := Nat.le_refl _
  nodes other later present := by
    simp only [updateNode, Table.get?_modify] at present
    split at present
    · rcases Option.map_eq_some_iff.1 present with ⟨connection, found, rfl⟩
      exact ⟨connection, found, Nat.le_refl _, rfl⟩
    · exact ⟨later, present, Nat.le_refl _, rfl⟩

/-! ## Owners -/

variable {kind : ObjectKind} {props : Properties}

theorem hosts_unowned : server.Hosts { kind, props, owner := none } := by
  intro owner owned
  cases owned

theorem hosts_of_connected {id : ConnectionId} (connected : (server.connections.get? id).isSome) :
    server.Hosts { kind, props, owner := some id } := by
  intro owner owned
  cases owned
  exact connected

@[simp]
theorem isSome_insertObject (id : ConnectionId) (server : Server) (object : ObjectId)
    (added : Object) :
    ((server.insertObject object added).connections.get? id).isSome =
      (server.connections.get? id).isSome := by
  simp only [insertObject]
  split <;> split <;> simp [broadcast]

@[simp]
theorem isSome_updateNode (id other : ConnectionId) (server : Server) (token : NodeToken)
    (change : OfferedNode → OfferedNode) :
    ((server.updateNode other token change).connections.get? id).isSome =
      (server.connections.get? id).isSome := by
  simp only [updateNode, Table.get?_modify]
  split <;> simp

@[simp]
theorem isSome_createObject (id : ConnectionId) (server : Server) (added : Object) :
    ((server.createObject added).2.connections.get? id).isSome =
      (server.connections.get? id).isSome := by
  simp [Server.createObject, allocateId]

theorem isSome_of_node? {id : ConnectionId} {token : NodeToken} {node : OfferedNode}
    (offered : server.node? id token = some node) : (server.connections.get? id).isSome := by
  rcases Option.bind_eq_some_iff.1 offered with ⟨connection, connected, -⟩
  simp [connected]

namespace Carries

variable {Related : Server → Server → Prop} (carries : Carries Related)

include carries

theorem refl (server : Server) : Related server server := carries.keeps (.refl server)

theorem foldl {α : Type} {step : Server → α → Server}
    (each : ∀ server item, Related server (step server item)) (items : List α)
    (server : Server) : Related server (items.foldl step server) := by
  induction items generalizing server with
  | nil => exact carries.refl server
  | cons item rest ih => exact carries.trans (each server item) (ih (step server item))

/-! ## Objects -/

theorem createObject (server : Server) {object : Object} (hosts : server.Hosts object) :
    Related server (server.createObject object).2 := by
  have allocated : Keeps server server.allocateId.2 :=
    .of_connections rfl (Nat.le_refl _) fun _ _ present => present
  have stillHosts : server.allocateId.2.Hosts object := hosts
  exact carries.trans (carries.keeps allocated) (carries.insertObject _ stillHosts)

theorem removeObjects (server : Server) (ids : List ObjectId) :
    Related server (server.removeObjects ids) :=
  carries.foldl carries.removeObject ids server

theorem extendObject (server : Server) (id : ObjectId) (props : Properties) :
    Related server (server.extendObject id props) := by
  simp only [Server.extendObject]
  split
  case h_1 => exact carries.refl server
  case h_2 object present => exact carries.rewrite (object.props.extend props) present

/-! ## Offered nodes -/

variable (server : Server) (id : ConnectionId)

theorem updateNode (token : NodeToken) (change : OfferedNode → OfferedNode) :
    Related server (server.updateNode id token change) :=
  carries.keeps (keeps_updateNode server id token change)

theorem foldl_publishPort (token : NodeToken) (entries : List (Nat × Properties))
    (connected : (server.connections.get? id).isSome) :
    Related server (entries.foldl (publishPort id token) server) := by
  induction entries generalizing server with
  | nil => exact carries.refl server
  | cons entry rest ih =>
      refine carries.trans ?_ (ih _ (by simp [publishPort, connected]))
      apply carries.trans (carries.createObject server (hosts_of_connected connected))
      exact carries.updateNode _ _ _ _

theorem publishPorts (token : NodeToken) : Related server (server.publishPorts id token) := by
  simp only [Server.publishPorts]
  split
  · split
    case h_1 node offered =>
      exact carries.foldl_publishPort server id token _ (isSome_of_node? offered)
    case h_2 => exact carries.refl server
  · exact carries.refl server

theorem assignNode (token : NodeToken) : Related server (server.assignNode id token) := by
  simp only [Server.assignNode]
  split
  · split
    case h_1 node offered =>
      split
      · apply carries.trans (carries.createObject server
          (hosts_of_connected (isSome_of_node? offered)))
        exact carries.trans (carries.updateNode _ _ _ _) (carries.publishPorts _ _ _)
      · exact carries.refl server
    case h_2 => exact carries.refl server
  · exact carries.refl server

theorem createNode (props : Properties) : Related server (server.createNode id props).2 := by
  simp only [Server.createNode]
  split
  case h_1 => exact carries.refl server
  case h_2 connection connected =>
    exact carries.keeps (keeps_setConnection connected (Nat.le_succ _) rfl)

theorem addPort (node : NodeToken) (direction : Direction) (props : Properties) :
    Related server (server.addPort id node direction props).2 := by
  simp only [Server.addPort]
  split
  case h_1 => exact carries.refl server
  case h_2 connection connected =>
    have counted : Related server (server.setConnection id connection.takeHandle.2) :=
      carries.keeps (keeps_setConnection connected (Nat.le_succ _) rfl)
    split
    case h_1 => exact counted
    case h_2 =>
      apply carries.trans counted
      exact carries.trans (carries.updateNode _ _ _ _) (carries.publishPorts _ _ _)

theorem updatePort (node : NodeToken) (port : PortToken) (props : Properties) :
    Related server (server.updatePort id node port props) := by
  simp only [Server.updatePort]
  split
  case h_1 => exact carries.refl server
  case h_2 =>
    split
    case h_1 => exact carries.refl server
    case h_2 =>
      split
      case h_1 => exact carries.updateNode _ _ _ _
      case h_2 => exact carries.trans (carries.updateNode _ _ _ _) (carries.extendObject _ _ _)

theorem removePort (node : NodeToken) (port : PortToken) :
    Related server (server.removePort id node port) := by
  simp only [Server.removePort]
  split
  case h_1 => exact carries.refl server
  case h_2 =>
    split
    case h_1 => exact carries.refl server
    case h_2 => exact carries.trans (carries.updateNode _ _ _ _) (carries.removeObjects _ _)

theorem activateNode (node : NodeToken) : Related server (server.activateNode id node).2 := by
  simp only [Server.activateNode]
  split
  case h_1 => exact carries.refl server
  case h_2 =>
    split
    case h_1 => exact carries.refl server
    case h_2 => exact carries.trans (carries.updateNode _ _ _ _) (carries.assignNode _ _ _)

theorem destroyNode (token : NodeToken) : Related server (server.destroyNode id token) := by
  simp only [Server.destroyNode]
  split
  case h_1 => exact carries.refl server
  case h_2 connection connected =>
    split
    case h_1 => exact carries.refl server
    case h_2 =>
      refine carries.trans ?_ (carries.removeObjects _ _)
      exact carries.keeps (keeps_setConnection connected (Nat.le_refl _) rfl)

/-! ## Connections that end -/

theorem dropConnection : Related server (server.dropConnection id) := by
  simp only [Server.dropConnection]
  split
  case h_1 => exact carries.refl server
  case h_2 connection connected =>
    generalize remaining : connection.nodes.keys.foldl
      (fun server node => server.destroyNode id node) server = left
    have destroyed : Related server left := by
      rw [← remaining]
      exact carries.foldl (fun server node => carries.destroyNode server id node) _ server
    apply carries.trans destroyed
    apply carries.trans (carries.removeObjects left (left.ownedObjects id))
    split
    case h_1 => exact carries.refl _
    case h_2 =>
      apply carries.keeps
      refine .of_connections rfl (Nat.le_refl _) fun other later present => ?_
      simp only [Table.get?_erase, Option.ite_none_left_eq_some] at present
      exact present.2

theorem disconnect : Related server (server.disconnect id) := by
  refine carries.trans (carries.dropConnection server id) (carries.keeps ?_)
  exact .of_connections rfl (Nat.le_refl _) fun _ _ present => present

/-! ## Administration -/

theorem inject (injection : Injection) : Related server (server.inject injection) := by
  cases injection with
  | addObject kind props => exact carries.createObject server hosts_unowned
  | addObjectAt object kind props =>
      simp only [Server.inject, addObjectAt]
      split
      · exact carries.refl server
      · exact carries.insertObject object hosts_unowned
  | replaceProperties object props =>
      simp only [Server.inject, replaceProperties]
      split
      case h_1 => exact carries.refl server
      case h_2 former present =>
        split
        · exact carries.rewrite props present
        · exact carries.refl server
  | takeObject object => exact carries.removeObject server object
  | assignPending =>
      exact carries.foldl (fun server (node : ConnectionId × NodeToken) =>
        carries.assignNode server node.1 node.2) server.offeredNodes server
  | disconnectAll => exact carries.foldl carries.dropConnection _ server
  | setPolicy change =>
      apply carries.keeps
      exact .of_connections rfl (Nat.le_refl _) fun _ _ present => present

end Carries

/-! ## Requests about the record of a connection -/

end Server

/-- The requests about nothing but what the server has on record for the connection. -/
def Request.isOnRecord : Request → Bool
  | subscribeGlobals | unsubscribeGlobals | bindObject .. | subscribeInfo _ | sync _ | drive _ =>
    true
  | _ => false

namespace Server

/--
All that such a request can come to: the connection has another record, in which it offers the same
nodes, or what was left for a dropped connection has been fetched.
-/
inductive Arranges (id : ConnectionId) (server : Server) : Server → Prop where
  | unchanged : Arranges id server server
  | arranged {connection later : Connection} (syncs : Nat) :
      server.connections.get? id = some connection → connection.handles ≤ later.handles →
      later.nodes = connection.nodes →
      Arranges id server { server.setConnection id later with syncRequests := syncs }
  | fetched : server.connections.get? id = none →
      Arranges id server { server with undelivered := server.undelivered.insert id [] }

theorem arranges_answer (server : Server) (id : ConnectionId) {request : Request}
    (onRecord : request.isOnRecord) : Arranges id server (answer id request server).2 := by
  have arranged : ∀ {connection later : Connection},
      server.connections.get? id = some connection → connection.handles ≤ later.handles →
      later.nodes = connection.nodes → Arranges id server (server.setConnection id later) :=
    fun connected more nodes => .arranged server.syncRequests connected more nodes
  cases request with
  | subscribeGlobals | unsubscribeGlobals =>
      simp only [answer, subscribeGlobals, unsubscribeGlobals]
      split
      case h_1 => exact .unchanged
      case h_2 connected => exact arranged connected (Nat.le_refl _) rfl
  | bindObject object kind =>
      simp only [answer, bindObject]
      split
      case h_1 connected _ =>
        split
        · exact arranged connected (Nat.le_succ _) rfl
        · exact .unchanged
      case h_2 => exact .unchanged
  | subscribeInfo proxy =>
      simp only [answer, subscribeInfo]
      split
      case h_1 => exact .unchanged
      case h_2 connected =>
        split
        · exact .unchanged
        · split
          · exact .unchanged
          · split
            · exact arranged connected (Nat.le_refl _) rfl
            · exact .unchanged
  | sync sequence =>
      simp only [answer, sync]
      split
      case h_1 => exact .unchanged
      case h_2 connected => exact .arranged _ connected (Nat.le_refl _) rfl
  | drive timeout =>
      simp only [answer, drive]
      split
      case h_1 connected => exact arranged connected (Nat.le_refl _) rfl
      case h_2 gone _ => exact .fetched gone
      case h_3 => exact .unchanged
  | _ => cases onRecord

namespace Arranges

variable {id : ConnectionId} {server after : Server} (arranges : Arranges id server after)

include arranges

theorem objects : after.objects = server.objects := by
  cases arranges <;> rfl

theorem nextId : after.nextId = server.nextId := by
  cases arranges <;> rfl

/-- All nodes are as they were. -/
theorem node? (other : ConnectionId) (token : NodeToken) :
    after.node? other token = server.node? other token := by
  cases arranges with
  | unchanged | fetched _ => rfl
  | arranged syncs connected more nodes => exact node?_setConnection connected nodes

end Arranges

/-! ## Requests -/

/--
A relation that holds across whatever a connection asks for: the connection may also rearrange its
own record, but it does not forget handles.
-/
structure Serves (id : ConnectionId) (Related : Server → Server → Prop) : Prop
    extends Carries Related where
  arrange : ∀ {server : Server} {connection later}, server.connections.get? id = some connection →
    connection.handles ≤ later.handles → Related server (server.setConnection id later)

namespace Serves

variable {id : ConnectionId} {Related : Server → Server → Prop} (serves : Serves id Related)

include serves

theorem destroyProxy (server : Server) (proxy : ProxyId) :
    Related server (server.destroyProxy id proxy) := by
  simp only [Server.destroyProxy]
  split
  case h_1 => exact serves.refl server
  case h_2 connection connected =>
    split
    case h_1 => exact serves.refl server
    case h_2 =>
      have returned : Related server (server.setConnection id
          { connection with proxies := connection.proxies.erase proxy }) :=
        serves.arrange connected (Nat.le_refl _)
      split
      · exact serves.trans returned (serves.removeObject _ _)
      · exact returned

theorem createByFactory (server : Server) (factory : String) (kind : ObjectKind)
    (props : Properties) : Related server (server.createByFactory id factory kind props).2 := by
  simp only [Server.createByFactory]
  split
  case isFalse => exact serves.refl server
  case isTrue guard =>
    simp only [createLink]
    split
    case isFalse => exact serves.refl server
    case isTrue =>
      have created : Related server
          (server.createObject { kind := .link, props, owner := some id }).2 :=
        serves.createObject server (hosts_of_connected guard.2.2)
      split
      case h_1 => exact created
      case h_2 connection connected =>
        exact serves.trans created (serves.arrange connected (Nat.le_succ _))

theorem arranges {server after : Server} (arranges : Arranges id server after) :
    Related server after := by
  have same : ∀ {before after : Server}, after.objects = before.objects →
      after.lastConnection = before.lastConnection → after.connections = before.connections →
      Related before after := fun objects last connections =>
    serves.keeps (.of_connections objects (Nat.le_of_eq last.symm) fun _ _ present =>
      connections ▸ present)
  cases arranges with
  | unchanged => exact serves.refl server
  | arranged syncs connected more nodes =>
      exact serves.trans (serves.arrange connected more) (same rfl rfl rfl)
  | fetched => exact same rfl rfl rfl

theorem answer (server : Server) (request : Request) :
    Related server (answer id request server).2 := by
  cases request with
  | subscribeGlobals | unsubscribeGlobals | bindObject | subscribeInfo | sync | drive =>
      exact serves.arranges (arranges_answer server id rfl)
  | destroyProxy proxy => exact serves.destroyProxy server proxy
  | createObject factory kind props => exact serves.createByFactory server factory kind props
  | createNode props => exact serves.createNode server id props
  | addPort node direction props => exact serves.addPort server id node direction props
  | updatePort node port props => exact serves.updatePort server id node port props
  | removePort node port => exact serves.removePort server id node port
  | activateNode node => exact serves.activateNode server id node
  | destroyNode node => exact serves.destroyNode server id node
  | disconnect => exact serves.disconnect server id

end Serves

/-- A relation between servers that holds across all requests of a connection, and many of them. -/
structure Spans (id : ConnectionId) (Related : Server → Server → Prop) : Prop where
  refl : ∀ server, Related server server
  trans : ∀ {before middle after}, Related before middle → Related middle after →
    Related before after
  answer : ∀ server request, Related server (answer id request server).2

theorem Serves.spans {id : ConnectionId} {Related : Server → Server → Prop}
    (serves : Serves id Related) : Spans id Related :=
  ⟨serves.refl, serves.trans, serves.answer⟩

theorem Spans.foldl {id : ConnectionId} {Related : Server → Server → Prop}
    (spans : Spans id Related) {α : Type} (request : α → Request) (items : List α)
    (server : Server) :
    Related server (items.foldl (fun server item => (Server.answer id (request item) server).2)
      server) := by
  induction items generalizing server with
  | nil => exact spans.refl server
  | cons item rest ih => exact spans.trans (spans.answer server (request item)) (ih _)

end Server

end MediaGraph
