import MediaGraph.Proofs.Server.Departure

/-!
# How nodes get their ids

A node gets its id when the server assigns it, and nothing else that happens to the node touches it.
What the server does to nodes, apart from those that come and go, is written down as the list of ids
that it gives (`Server.Assigns`): a node that is given one has had none, and whoever listens to the
server is told of one more node object for each entry of the list, and of no other
(`Server.Hears`, `Server.Tends`).

A node that is in order (`OfferedNode.Orderly`) has an id only if it is active, and shown ports only
if it has an id.
-/

namespace MediaGraph

/-- The id of a new node object that an event tells of. -/
def Event.node? : Event → Option ObjectId
  | global id .node => some id
  | _ => none

/-- The requests that begin and end nothing, give no ids and fetch nothing. -/
def Request.isSteady : Request → Bool
  | subscribeGlobals | unsubscribeGlobals | createNode _ | activateNode _ | destroyNode _ | drive _
  | disconnect => false
  | _ => true

namespace OfferedNode

/-- Only an active node has an id, and only a node with an id has shown ports. -/
structure Orderly (node : OfferedNode) : Prop where
  inactive : node.active = false → node.nodeId = none
  hidden : node.nodeId = none → ∀ port ∈ node.ports, port.published = none

/-- What may become of a node: it keeps the id that it has, and stays in order. -/
structure Grows (node later : OfferedNode) : Prop where
  given : ∀ object, node.nodeId = some object → later.nodeId = some object
  orderly : node.Orderly → later.Orderly

theorem Grows.refl (node : OfferedNode) : node.Grows node := ⟨fun _ given => given, id⟩

theorem Grows.trans {first second third : OfferedNode} (start : first.Grows second)
    (rest : second.Grows third) : first.Grows third :=
  ⟨fun object given => rest.given object (start.given object given),
    fun orderly => rest.orderly (start.orderly orderly)⟩

/-- Ports may be added, changed and removed, as long as a node without an id shows none. -/
theorem grows_ports {node : OfferedNode} {ports : List OfferedPort}
    (hidden : node.nodeId = none → (∀ port ∈ node.ports, port.published = none) →
      ∀ port ∈ ports, port.published = none) : node.Grows { node with ports } :=
  ⟨fun _ given => given, fun orderly =>
    ⟨orderly.inactive, fun unassigned => hidden unassigned (orderly.hidden unassigned)⟩⟩

theorem grows_activate (node : OfferedNode) : node.Grows { node with active := true } :=
  ⟨fun _ given => given, fun orderly => ⟨nofun, orderly.hidden⟩⟩

theorem grows_assign {node : OfferedNode} (active : node.active) (unassigned : node.nodeId = none)
    (object : ObjectId) : node.Grows { node with nodeId := some object } := by
  refine ⟨fun other given => ?_, fun _ => ⟨fun inactive => ?_, nofun⟩⟩
  · rw [unassigned] at given
    cases given
  · rw [active] at inactive
    cases inactive

/-- Only the published ids of ports matter to order. -/
theorem unpublished_modify {ports : List OfferedPort} {change : OfferedPort → OfferedPort}
    (same : ∀ port, (change port).published = port.published) (position : Nat)
    (unpublished : ∀ port ∈ ports, port.published = none) :
    ∀ port ∈ ports.modify position change, port.published = none := by
  intro port member
  rcases List.getElem?_of_mem member with ⟨index, found⟩
  rw [List.getElem?_modify] at found
  rcases Option.map_eq_some_iff.1 found with ⟨former, isFormer, rfl⟩
  have former_unpublished := unpublished former (List.mem_of_getElem? isFormer)
  split
  · rw [same, former_unpublished]
  · exact former_unpublished

end OfferedNode

namespace Server

/-! ## Nodes and the operations of a server -/

/-- The id that a node has been given. -/
def nodeId? (server : Server) (id : ConnectionId) (token : NodeToken) : Option ObjectId :=
  (server.node? id token).bind (·.nodeId)

theorem nodeId?_of_node? {server : Server} {id : ConnectionId} {token : NodeToken}
    {node : OfferedNode} (offered : server.node? id token = some node) :
    server.nodeId? id token = node.nodeId := by
  simp [nodeId?, offered]

theorem nodeId?_eq_some_iff {server : Server} {id : ConnectionId} {token : NodeToken}
    {object : ObjectId} : server.nodeId? id token = some object ↔
      ∃ node, server.node? id token = some node ∧ node.nodeId = some object :=
  Option.bind_eq_some_iff

section Nodes

variable (server : Server) (id other : ConnectionId) (token node : NodeToken)

@[simp]
theorem node?_insertObject (object : ObjectId) (added : Object) :
    (server.insertObject object added).node? id token = server.node? id token := by
  have fresh : ∀ {server : Server}, server.objects.contains object = false →
      (server.insertObject object added).node? id token = server.node? id token := by
    intro server absent
    rw [insertObject_of_absent absent, node?_broadcast]
    rfl
  cases present : server.objects.contains object with
  | true =>
      rw [insertObject_of_contains present, fresh (by simp [Table.contains]), node?_removeObject]
  | false => exact fresh present

@[simp]
theorem node?_createObject (added : Object) :
    (server.createObject added).2.node? id token = server.node? id token := by
  simp only [createObject, node?_insertObject]
  rfl

@[simp]
theorem node?_sendInfo (object : ObjectId) :
    (server.sendInfo object).node? id token = server.node? id token := by
  simp only [sendInfo]
  split
  · rfl
  · simp only [node?, Table.get?_mapValues]
    cases server.connections.get? id <;> rfl

theorem node?_updateNode (change : OfferedNode → OfferedNode) :
    (server.updateNode other node change).node? id token =
      if id = other ∧ token = node then (server.node? id token).map change
      else server.node? id token := by
  simp only [node?, updateNode, Table.get?_modify]
  by_cases own : id = other
  · subst own
    simp only [if_true, true_and]
    cases server.connections.get? id with
    | none => simp
    | some connection =>
        simp only [Option.map_some, Option.bind_some, Table.get?_modify]
  · simp [own]

end Nodes

/-! ## What is given -/

/-- The object that a node has been given as its id. -/
structure Assignment where
  connection : ConnectionId
  token : NodeToken
  object : ObjectId
  deriving DecidableEq

def Assignment.node (entry : Assignment) : ConnectionId × NodeToken :=
  (entry.connection, entry.token)

/-- The nodes stay, and those that are listed are given ids that had none. -/
structure Assigns (made : List Assignment) (before after : Server) : Prop where
  kept : ∀ id token node, before.node? id token = some node →
    ∃ later, after.node? id token = some later ∧ node.Grows later
  origin : ∀ id token, (after.node? id token).isSome → (before.node? id token).isSome
  once : (made.map Assignment.node).Nodup
  given : ∀ entry ∈ made, before.nodeId? entry.connection entry.token = none ∧
    after.nodeId? entry.connection entry.token = some entry.object
  all : ∀ id token object, before.nodeId? id token = none →
    after.nodeId? id token = some object → ⟨id, token, object⟩ ∈ made

variable {id : ConnectionId} {token : NodeToken} {before middle after server : Server}
  {made first second : List Assignment}

theorem Assigns.nodeId? (assigns : Assigns made before after) {object : ObjectId}
    (given : before.nodeId? id token = some object) : after.nodeId? id token = some object := by
  rcases nodeId?_eq_some_iff.1 given with ⟨node, offered, isGiven⟩
  rcases assigns.kept id token node offered with ⟨later, isLater, grows⟩
  exact nodeId?_eq_some_iff.2 ⟨later, isLater, grows.given object isGiven⟩

/-- A node that is given an id is there before. -/
theorem Assigns.present (assigns : Assigns made before after) {entry : Assignment}
    (member : entry ∈ made) : (before.node? entry.connection entry.token).isSome := by
  apply assigns.origin
  rcases nodeId?_eq_some_iff.1 (assigns.given entry member).2 with ⟨later, isLater, -⟩
  simp [isLater]

theorem assigns_of_nodes (same : ∀ id token, after.node? id token = before.node? id token) :
    Assigns [] before after where
  kept id token node offered := ⟨node, by rw [same, offered], .refl node⟩
  origin id token present := by rwa [same] at present
  once := .nil
  given := by simp
  all id token object unassigned given := by
    rw [nodeId?, same, ← nodeId?, unassigned] at given
    cases given

theorem Assigns.trans (start : Assigns first before middle) (rest : Assigns second middle after) :
    Assigns (first ++ second) before after where
  kept id token node offered := by
    rcases start.kept id token node offered with ⟨between, isBetween, early⟩
    rcases rest.kept id token between isBetween with ⟨later, isLater, late⟩
    exact ⟨later, isLater, early.trans late⟩
  origin id token present := start.origin id token (rest.origin id token present)
  once := by
    rw [List.map_append, List.nodup_append]
    refine ⟨start.once, rest.once, fun node early other late => ?_⟩
    rcases List.mem_map.1 early with ⟨entry, isEarly, rfl⟩
    rcases List.mem_map.1 late with ⟨again, isLate, rfl⟩
    -- What has an id in between is not given one any more.
    intro same
    rcases Prod.mk.inj same with ⟨sameConnection, sameToken⟩
    have already := (start.given entry isEarly).2
    rw [sameConnection, sameToken, (rest.given again isLate).1] at already
    cases already
  given entry member := by
    rcases List.mem_append.1 member with early | late
    · exact ⟨(start.given entry early).1, rest.nodeId? (start.given entry early).2⟩
    · refine ⟨?_, (rest.given entry late).2⟩
      rw [Option.eq_none_iff_forall_ne_some]
      intro object given
      have still := start.nodeId? given
      rw [(rest.given entry late).1] at still
      cases still
  all id token object unassigned given := by
    cases between : middle.nodeId? id token with
    | none => exact List.mem_append_right first (rest.all id token object between given)
    | some other =>
        cases given.symm.trans (rest.nodeId? between)
        exact List.mem_append_left second (start.all id token object unassigned between)

theorem assigns_updateNode {change : OfferedNode → OfferedNode}
    (grows : ∀ node, server.node? id token = some node → node.Grows (change node))
    (same : ∀ node, (change node).nodeId = node.nodeId) :
    Assigns [] server (server.updateNode id token change) where
  kept other present node offered := by
    rw [node?_updateNode]
    split
    case isTrue isNode =>
      rcases isNode with ⟨rfl, rfl⟩
      exact ⟨change node, by rw [offered]; rfl, grows node offered⟩
    case isFalse => exact ⟨node, offered, .refl node⟩
  origin other present isPresent := by
    rw [node?_updateNode] at isPresent
    split at isPresent
    · rwa [Option.isSome_map] at isPresent
    · exact isPresent
  once := .nil
  given := by simp
  all other present object unassigned given := by
    have kept : (server.updateNode id token change).nodeId? other present =
        server.nodeId? other present := by
      rw [Server.nodeId?, Server.nodeId?, node?_updateNode]
      split
      · cases server.node? other present with
        | none => rfl
        | some node => exact same node
      · rfl
    rw [kept, unassigned] at given
    cases given

/-- An active node without an id may be given one. -/
theorem assigns_assign {node : OfferedNode} (offered : server.node? id token = some node)
    (active : node.active) (unassigned : node.nodeId = none) (object : ObjectId) :
    Assigns [⟨id, token, object⟩] server
      (server.updateNode id token fun node => { node with nodeId := some object }) where
  kept other present former isFormer := by
    rw [node?_updateNode]
    split
    case isTrue isNode =>
      rcases isNode with ⟨rfl, rfl⟩
      cases offered.symm.trans isFormer
      exact ⟨_, by rw [offered]; rfl, OfferedNode.grows_assign active unassigned object⟩
    case isFalse => exact ⟨former, isFormer, .refl former⟩
  origin other present isPresent := by
    rw [node?_updateNode] at isPresent
    split at isPresent
    · rwa [Option.isSome_map] at isPresent
    · exact isPresent
  once := by simp
  given entry member := by
    rw [List.mem_singleton.1 member]
    refine ⟨(nodeId?_of_node? offered).trans unassigned, ?_⟩
    simp [nodeId?, node?_updateNode, offered]
  all other present object' unassigned' given := by
    rw [nodeId?, node?_updateNode] at given
    split at given
    case isTrue isNode =>
      rcases isNode with ⟨rfl, rfl⟩
      rw [offered] at given
      cases given
      exact List.mem_singleton_self _
    case isFalse =>
      rw [← nodeId?, unassigned'] at given
      cases given

/-! ## What is told -/

/-- A subscriber that is still there is one still, and has been told of these node objects. -/
def Learns (ear : ConnectionId) (handed : List Event) (objects : List ObjectId)
    (before after : Server) : Prop :=
  ∀ later, after.connections.get? ear = some later →
    ∃ connection, before.connections.get? ear = some connection ∧
      (connection.subscribed → later.subscribed ∧
        ∃ news, handed ++ later.inbox = connection.inbox ++ news ∧
          news.filterMap Event.node? = objects)

variable {ear : ConnectionId} {early late : List ObjectId}

theorem Learns.trans {handed further : List Event} (start : Learns ear handed early before middle)
    (rest : Learns ear further late middle after) :
    Learns ear (handed ++ further) (early ++ late) before after := by
  intro later isLater
  rcases rest later isLater with ⟨between, isBetween, second⟩
  rcases start between isBetween with ⟨connection, connected, first⟩
  refine ⟨connection, connected, fun subscribed => ?_⟩
  rcases first subscribed with ⟨still, news, inbox, rfl⟩
  rcases second still with ⟨atLast, more, laterInbox, rfl⟩
  refine ⟨atLast, news ++ more, ?_, List.filterMap_append⟩
  rw [List.append_assoc, laterInbox, ← List.append_assoc, inbox, List.append_assoc]

/-- A connection may be sent events as long as none of them is about a new node object. -/
theorem learns_of_sent
    (sent : ∀ later, after.connections.get? ear = some later →
      ∃ connection news, before.connections.get? ear = some connection ∧
        later.subscribed = connection.subscribed ∧ later.inbox = connection.inbox ++ news ∧
        news.filterMap Event.node? = []) : Learns ear [] [] before after := by
  intro later isLater
  rcases sent later isLater with ⟨connection, news, connected, subscribed, inbox, none⟩
  exact ⟨connection, connected, fun was => ⟨subscribed.trans was, news, inbox, none⟩⟩

theorem learns_of_same
    (same : after.connections.get? ear = before.connections.get? ear) :
    Learns ear [] [] before after :=
  learns_of_sent fun later isLater => ⟨later, [], same ▸ isLater, rfl, by simp, rfl⟩

theorem Broadcasts.learns {news : List Event} (broadcasts : Broadcasts news before after) :
    Learns ear [] (news.filterMap Event.node?) before after := by
  intro later isLater
  rw [broadcasts.sent] at isLater
  rcases Option.map_eq_some_iff.1 isLater with ⟨connection, connected, rfl⟩
  refine ⟨connection, connected, fun subscribed => ?_⟩
  simp only [subscribed, if_true]
  exact ⟨subscribed, news, rfl, rfl⟩

theorem learns_setConnection {connection later : Connection} (news : List Event)
    (connected : server.connections.get? id = some connection)
    (subscribed : later.subscribed = connection.subscribed)
    (inbox : later.inbox = connection.inbox ++ news) (silent : news.filterMap Event.node? = []) :
    Learns ear [] [] server (server.setConnection id later) := by
  apply learns_of_sent
  intro present isPresent
  simp only [setConnection, Table.get?_insert] at isPresent
  split at isPresent
  case isTrue isEar =>
    subst isEar
    cases isPresent
    exact ⟨connection, news, connected, subscribed, inbox, silent⟩
  case isFalse => exact ⟨present, [], isPresent, rfl, by simp, rfl⟩

theorem learns_updateNode (server : Server) (id : ConnectionId) (token : NodeToken)
    (change : OfferedNode → OfferedNode) :
    Learns ear [] [] server (server.updateNode id token change) := by
  apply learns_of_sent
  intro later isLater
  simp only [updateNode, Table.get?_modify] at isLater
  split at isLater
  · rcases Option.map_eq_some_iff.1 isLater with ⟨connection, connected, rfl⟩
    exact ⟨connection, [], connected, rfl, by simp, rfl⟩
  · exact ⟨later, [], isLater, rfl, by simp, rfl⟩

theorem Sheds.learns {gone : List ObjectId} (sheds : Sheds id gone before after)
    (apart : ear ≠ id) : Learns ear [] [] before after := by
  apply learns_of_sent
  intro later isLater
  rw [sheds.others ear apart] at isLater
  rcases Option.map_eq_some_iff.1 isLater with ⟨connection, connected, rfl⟩
  refine ⟨connection, _, connected, connection.subscribed_told gone, connection.inbox_told gone, ?_⟩
  split
  · simp [Event.node?, List.filterMap_map, Function.comp_def]
  · rfl

theorem Clears.learns {gone : List ObjectId} (clears : Clears id gone before after)
    (connected : (before.connections.get? id).isSome) : Learns ear [] [] before after := by
  by_cases own : ear = id
  · subst own
    apply learns_of_sent
    intro later isLater
    rcases Option.isSome_iff_exists.1 connected with ⟨connection, found⟩
    rcases clears.own connection found with ⟨present, isPresent, subscribed, inbox⟩
    cases isPresent.symm.trans isLater
    refine ⟨connection, _, found, subscribed, inbox.trans (connection.inbox_told gone), ?_⟩
    split
    · simp [Event.node?, List.filterMap_map, Function.comp_def]
    · rfl
  · exact clears.toSheds.learns own

/-! ## What is added -/

/-- The node objects that are there were there before, or are listed. -/
def Adds (objects : List ObjectId) (before after : Server) : Prop :=
  ∀ object, after.kind? object = some .node →
    before.kind? object = some .node ∨ object ∈ objects

theorem Adds.trans (start : Adds early before middle) (rest : Adds late middle after) :
    Adds (early ++ late) before after := by
  intro object isNode
  rcases rest object isNode with between | new
  · rcases start object between with former | new
    · exact .inl former
    · exact .inr (List.mem_append_left late new)
  · exact .inr (List.mem_append_right early new)

theorem adds_of_kinds (same : ∀ object, after.kind? object = before.kind? object) :
    Adds [] before after := fun object isNode => .inl (same object ▸ isNode)

theorem adds_of_objects (same : after.objects = before.objects) : Adds [] before after :=
  adds_of_kinds fun object => by rw [kind?, kind?, same]

theorem Sheds.adds {gone : List ObjectId} (sheds : Sheds id gone before after) :
    Adds [] before after := by
  intro object isNode
  rw [kind?, sheds.objects] at isNode
  split at isNode
  · cases isNode
  · exact .inl isNode

/-! ## The operations of a server -/

/-- Nodes are given ids, and node objects are added, of which all subscribers are told. -/
structure Tends (made : List Assignment) (objects : List ObjectId) (before after : Server) :
    Prop extends Assigns made before after where
  learns : ∀ ear, Learns ear [] objects before after
  adds : Adds objects before after

theorem Tends.trans (start : Tends first early before middle)
    (rest : Tends second late middle after) :
    Tends (first ++ second) (early ++ late) before after where
  toAssigns := start.toAssigns.trans rest.toAssigns
  learns ear := (start.learns ear).trans (rest.learns ear)
  adds := start.adds.trans rest.adds

theorem tends_of_same (connections : after.connections = before.connections)
    (objects : after.objects = before.objects) : Tends [] [] before after where
  toAssigns := assigns_of_nodes fun id token => by rw [node?, connections, ← node?]
  learns ear := learns_of_same (by rw [connections])
  adds := adds_of_objects objects

theorem tends_setConnection {connection later : Connection} (news : List Event)
    (connected : server.connections.get? id = some connection)
    (nodes : later.nodes = connection.nodes)
    (subscribed : later.subscribed = connection.subscribed)
    (inbox : later.inbox = connection.inbox ++ news) (silent : news.filterMap Event.node? = []) :
    Tends [] [] server (server.setConnection id later) where
  toAssigns := assigns_of_nodes fun _ _ => node?_setConnection connected nodes
  learns _ := learns_setConnection news connected subscribed inbox silent
  adds := adds_of_objects rfl

theorem tends_updateNode {change : OfferedNode → OfferedNode}
    (grows : ∀ node, server.node? id token = some node → node.Grows (change node))
    (same : ∀ node, (change node).nodeId = node.nodeId) :
    Tends [] [] server (server.updateNode id token change) where
  toAssigns := assigns_updateNode grows same
  learns _ := learns_updateNode server id token change
  adds := adds_of_objects rfl

theorem tends_removeObject (server : Server) (object : ObjectId) :
    Tends [] [] server (server.removeObject object) where
  toAssigns := assigns_of_nodes fun _ _ => node?_removeObject server object _ _
  learns ear := by
    cases present : server.objects.contains object with
    | true => exact (broadcasts_removeObject present).learns
    | false =>
        rw [removeObject_of_absent present]
        exact learns_of_same rfl
  adds other isNode := by
    rw [kind?, get?_removeObject] at isNode
    split at isNode
    · cases isNode
    · exact .inl isNode

theorem tends_removeObjects (server : Server) (objects : List ObjectId) :
    Tends [] [] server (server.removeObjects objects) := by
  induction objects generalizing server with
  | nil => exact tends_of_same rfl rfl
  | cons object rest ih => exact (tends_removeObject server object).trans (ih _)

/-- The node objects among new objects. -/
def nodeObjects (id : ObjectId) (kind : ObjectKind) : List ObjectId :=
  if kind = .node then [id] else []

theorem tends_insertObject (server : Server) (object : ObjectId) (added : Object) :
    Tends [] (nodeObjects object added.kind) server (server.insertObject object added) where
  toAssigns := assigns_of_nodes fun _ _ => node?_insertObject server _ _ object added
  learns ear := by
    have heard : [Event.global object added.kind].filterMap Event.node? =
        nodeObjects object added.kind := by
      cases added.kind <;> rfl
    rw [← heard]
    cases present : server.objects.contains object with
    | true =>
        have absent : (server.removeObject object).objects.contains object = false := by
          simp [Table.contains]
        rw [insertObject_of_contains present]
        exact ((tends_removeObject server object).learns ear).trans
          (broadcasts_insertObject absent added).learns
    | false => exact (broadcasts_insertObject present added).learns
  adds other isNode := by
    rw [kind?, get?_insertObject] at isNode
    split at isNode
    case isTrue isNew =>
      rw [Option.map_some, Option.some.injEq] at isNode
      simp [nodeObjects, isNode, isNew]
    case isFalse => exact .inl isNode

theorem tends_createObject (server : Server) (added : Object) :
    Tends [] (nodeObjects server.allocateId.1 added.kind) server
      (server.createObject added).2 := by
  have allocated : Tends [] [] server server.allocateId.2 := tends_of_same rfl rfl
  exact allocated.trans (tends_insertObject server.allocateId.2 server.allocateId.1 added)

theorem tends_rewrite {object : ObjectId} {former : Object}
    (present : server.objects.get? object = some former) (props : Properties) :
    Tends [] [] server
      (({ server with objects := server.objects.insert object { former with props } } :
        Server).sendInfo object) where
  toAssigns := assigns_of_nodes fun _ _ => by
    rw [node?_sendInfo]
    rfl
  learns ear := by
    apply learns_of_sent
    intro later isLater
    simp only [sendInfo, Table.get?_insert, if_true, Table.get?_mapValues] at isLater
    rcases Option.map_eq_some_iff.1 isLater with ⟨connection, connected, rfl⟩
    refine ⟨connection, _, connected, rfl, rfl, ?_⟩
    simp [List.filterMap_replicate, Event.node?]
  adds := adds_of_kinds fun other => by
    rw [kind?, kind?, objects_sendInfo, Table.get?_insert]
    split
    case isTrue same => rw [same, present, Option.map_some, Option.map_some]
    case isFalse => rfl

theorem tends_extendObject (server : Server) (object : ObjectId) (props : Properties) :
    Tends [] [] server (server.extendObject object props) := by
  simp only [extendObject]
  split
  · exact tends_of_same rfl rfl
  case h_2 present => exact tends_rewrite present _

/-! ## Showing nodes -/

/-- Ports are published of nodes that have an id. -/
theorem tends_publishPort (assigned : (server.nodeId? id token).isSome)
    (entry : Nat × Properties) : Tends [] [] server (publishPort id token server entry) := by
  have created := tends_createObject server
    { kind := .port, props := entry.2, owner := some id }
  apply created.trans
  apply tends_updateNode
  · intro node offered
    rw [node?_createObject] at offered
    apply OfferedNode.grows_ports
    intro unassigned
    rw [nodeId?_of_node? offered, unassigned] at assigned
    cases assigned
  · exact fun _ => rfl

theorem Assigns.isSome (assigns : Assigns made before after)
    (assigned : (before.nodeId? id token).isSome) : (after.nodeId? id token).isSome := by
  rcases Option.isSome_iff_exists.1 assigned with ⟨object, given⟩
  simp [assigns.nodeId? given]

theorem tends_publishPorts (server : Server) (id : ConnectionId) (token : NodeToken) :
    Tends [] [] server (server.publishPorts id token) := by
  have walk : ∀ (entries : List (Nat × Properties)) {server : Server},
      (server.nodeId? id token).isSome →
      Tends [] [] server (entries.foldl (publishPort id token) server) := by
    intro entries
    induction entries with
    | nil => exact fun _ => tends_of_same rfl rfl
    | cons entry rest ih =>
        intro server assigned
        have published := tends_publishPort assigned entry
        exact published.trans (ih (published.isSome assigned))
  simp only [publishPorts]
  split
  · split
    case h_1 node offered =>
      cases given : node.nodeId with
      | none =>
          rw [OfferedNode.hiddenPorts, given]
          exact tends_of_same rfl rfl
      | some object => exact walk _ (by simp [nodeId?_of_node? offered, given])
    case h_2 => exact tends_of_same rfl rfl
  · exact tends_of_same rfl rfl

/-- Whether the server gives a node an id when it is asked to assign it. -/
def Due (server : Server) (id : ConnectionId) (token : NodeToken) : Prop :=
  server.policy.assignNodeIds ∧
    ∃ node, server.node? id token = some node ∧ node.active ∧ node.nodeId = none

/-- The server once it has given a node its id, before it publishes the ports. -/
def given (server : Server) (id : ConnectionId) (token : NodeToken) (node : OfferedNode) :
    Server :=
  (server.createObject { kind := .node, props := node.props, owner := some id }).2.updateNode id
    token fun node => { node with nodeId := some server.allocateId.1 }

theorem assignNode_of_due {node : OfferedNode} (allowed : server.policy.assignNodeIds)
    (offered : server.node? id token = some node) (active : node.active)
    (unassigned : node.nodeId = none) :
    server.assignNode id token = (server.given id token node).publishPorts id token := by
  simp only [assignNode, allowed, if_true, offered, active, unassigned, Option.isNone_none,
    Bool.and_self]
  rfl

theorem assignNode_of_not_due (settled : ¬server.Due id token) :
    server.assignNode id token = server := by
  simp only [assignNode]
  split
  case isTrue allowed =>
    split
    case h_1 node offered =>
      split
      case isTrue due =>
        rw [Bool.and_eq_true, Option.isNone_iff_eq_none] at due
        exact absurd ⟨allowed, node, offered, due⟩ settled
      case isFalse => rfl
    case h_2 => rfl
  case isFalse => rfl

theorem tends_given {node : OfferedNode} (offered : server.node? id token = some node)
    (active : node.active) (unassigned : node.nodeId = none) :
    Tends [⟨id, token, server.allocateId.1⟩] [server.allocateId.1] server
      (server.given id token node) := by
  have created := tends_createObject server
    { kind := .node, props := node.props, owner := some id }
  have still : (server.createObject
      { kind := .node, props := node.props, owner := some id }).2.node? id token = some node := by
    rw [node?_createObject, offered]
  have assigned : Tends [⟨id, token, server.allocateId.1⟩] [] _ (server.given id token node) :=
    { toAssigns := assigns_assign still active unassigned server.allocateId.1
      learns := fun _ => learns_updateNode _ id token _
      adds := adds_of_objects rfl }
  exact created.trans assigned

/-- Whoever is given an id, each new node object is told once. -/
def Attends (before after : Server) : Prop :=
  ∃ made, Tends made (made.map Assignment.object) before after

theorem Tends.attends (tends : Tends [] [] before after) : Attends before after := ⟨[], tends⟩

theorem Attends.refl (server : Server) : Attends server server := ⟨[], tends_of_same rfl rfl⟩

theorem Attends.trans (start : Attends before middle) (rest : Attends middle after) :
    Attends before after := by
  rcases start with ⟨first, start⟩
  rcases rest with ⟨second, rest⟩
  exact ⟨first ++ second, by simpa using start.trans rest⟩

theorem attends_assignNode (server : Server) (id : ConnectionId) (token : NodeToken) :
    Attends server (server.assignNode id token) := by
  by_cases due : server.Due id token
  · rcases due with ⟨allowed, node, offered, active, unassigned⟩
    rw [assignNode_of_due allowed offered active unassigned]
    exact Attends.trans ⟨_, tends_given offered active unassigned⟩
      (tends_publishPorts _ id token).attends
  · rw [assignNode_of_not_due due]
    exact .refl server

theorem attends_assignPending (server : Server) : Attends server server.assignPending := by
  simp only [assignPending]
  generalize server.offeredNodes = nodes
  induction nodes generalizing server with
  | nil => exact .refl server
  | cons node rest ih => exact (attends_assignNode server node.1 node.2).trans (ih _)

/-! ## Requests -/

theorem tends_addPort (server : Server) (id : ConnectionId) (node : NodeToken)
    (direction : Direction) (props : Properties) :
    Tends [] [] server (server.addPort id node direction props).2 := by
  simp only [addPort]
  split
  case h_1 => exact tends_of_same rfl rfl
  case h_2 connection connected =>
    have counted : Tends [] [] server (server.setConnection id connection.takeHandle.2) :=
      tends_setConnection [] connected rfl rfl (by simp [Connection.takeHandle]) rfl
    split
    case h_1 => exact counted
    case h_2 =>
      have added : Tends [] [] (server.setConnection id connection.takeHandle.2)
          ((server.setConnection id connection.takeHandle.2).updateNode id node fun offered =>
            { offered with ports := offered.ports ++
              [{ token := connection.takeHandle.1, direction, props, published := none }] }) := by
        refine tends_updateNode (fun offered _ => OfferedNode.grows_ports ?_) fun _ => rfl
        intro _ unpublished port member
        rcases List.mem_append.1 member with former | new
        · exact unpublished port former
        · rw [List.mem_singleton.1 new]
      exact (counted.trans added).trans (tends_publishPorts _ id node)

theorem tends_updatePort (server : Server) (id : ConnectionId) (node : NodeToken)
    (port : PortToken) (props : Properties) :
    Tends [] [] server (server.updatePort id node port props) := by
  simp only [updatePort]
  split
  case h_1 => exact tends_of_same rfl rfl
  case h_2 offered isOffered =>
    split
    case h_1 => exact tends_of_same rfl rfl
    case h_2 =>
      have written : Tends [] [] server (server.updateNode id node fun present =>
          { present with
            ports := present.ports.modify (offered.ports.findIdx (·.token = port)) fun port =>
              { port with props := port.props.extend props } }) := by
        refine tends_updateNode (fun _ _ => OfferedNode.grows_ports fun _ unpublished => ?_)
          fun _ => rfl
        apply OfferedNode.unpublished_modify _ _ unpublished
        exact fun _ => rfl
      split
      case h_1 => exact written
      case h_2 => exact written.trans (tends_extendObject _ _ _)

theorem tends_removePort (server : Server) (id : ConnectionId) (node : NodeToken)
    (port : PortToken) : Tends [] [] server (server.removePort id node port) := by
  simp only [removePort]
  split
  case h_1 => exact tends_of_same rfl rfl
  case h_2 =>
    split
    case h_1 => exact tends_of_same rfl rfl
    case h_2 =>
      have removed : Tends [] [] server (server.updateNode id node fun present =>
          { present with ports := present.ports.eraseP (·.token = port) }) := by
        refine tends_updateNode (fun _ _ => OfferedNode.grows_ports fun _ unpublished => ?_)
          fun _ => rfl
        exact fun port member => unpublished port (List.mem_of_mem_eraseP member)
      exact removed.trans (tends_removeObjects _ _)

theorem tends_destroyProxy (server : Server) (id : ConnectionId) (proxy : ProxyId) :
    Tends [] [] server (server.destroyProxy id proxy) := by
  simp only [destroyProxy]
  split
  case h_1 => exact tends_of_same rfl rfl
  case h_2 connection connected =>
    split
    case h_1 => exact tends_of_same rfl rfl
    case h_2 bound _ =>
      have returned : Tends [] [] server (server.setConnection id
          { connection with proxies := connection.proxies.erase proxy }) :=
        tends_setConnection [] connected rfl rfl (by simp) rfl
      split
      · exact returned.trans (tends_removeObject _ _)
      · exact returned

theorem tends_createByFactory (server : Server) (id : ConnectionId) (factory : String)
    (kind : ObjectKind) (props : Properties) :
    Tends [] [] server (server.createByFactory id factory kind props).2 := by
  simp only [createByFactory, createLink]
  split
  · split
    · have created : Tends [] [] server
          (server.createObject { kind := .link, props, owner := some id }).2 :=
        tends_createObject server { kind := .link, props, owner := some id }
      split
      case h_1 => exact created
      case h_2 connection connected =>
        apply created.trans
        exact tends_setConnection [] connected rfl rfl (by simp [Connection.takeHandle]) rfl
    · exact tends_of_same rfl rfl
  · exact tends_of_same rfl rfl

/-- No node is given an id by a steady request, and nobody is told of a node object. -/
theorem tends_answer (server : Server) (id : ConnectionId) {request : Request}
    (steady : request.isSteady) : Tends [] [] server (answer id request server).2 := by
  cases request with
  | bindObject =>
      simp only [answer, bindObject]
      split
      case h_1 connected _ =>
        split
        · exact tends_setConnection [] connected rfl rfl (by simp [Connection.takeHandle]) rfl
        · exact tends_of_same rfl rfl
      case h_2 => exact tends_of_same rfl rfl
  | subscribeInfo =>
      simp only [answer, subscribeInfo]
      split
      case h_1 => exact tends_of_same rfl rfl
      case h_2 connected =>
        split
        · exact tends_of_same rfl rfl
        · split
          · exact tends_of_same rfl rfl
          · split
            · exact tends_setConnection [_] connected rfl rfl rfl rfl
            · exact tends_of_same rfl rfl
  | destroyProxy proxy => exact tends_destroyProxy server id proxy
  | sync sequence =>
      simp only [answer, sync]
      split
      case h_1 => exact tends_of_same rfl rfl
      case h_2 connection connected =>
        have acknowledged : Tends [] [] server
            (server.setConnection id (connection.send [.done sequence])) :=
          tends_setConnection [.done sequence] connected rfl rfl rfl rfl
        exact acknowledged.trans (tends_of_same rfl rfl)
  | createObject factory kind props => exact tends_createByFactory server id factory kind props
  | addPort node direction props => exact tends_addPort server id node direction props
  | updatePort node port props => exact tends_updatePort server id node port props
  | removePort node port => exact tends_removePort server id node port
  | subscribeGlobals | unsubscribeGlobals | createNode | activateNode | destroyNode | drive
  | disconnect => cases steady

theorem attends_activateNode (server : Server) (id : ConnectionId) (node : NodeToken) :
    Attends server (server.activateNode id node).2 := by
  simp only [activateNode]
  split
  · exact .refl server
  · split
    · exact .refl server
    · have activated : Tends [] [] server
          (server.updateNode id node fun offered => { offered with active := true }) :=
        tends_updateNode (fun offered _ => offered.grows_activate) fun _ => rfl
      exact activated.attends.trans (attends_assignNode _ id node)

end Server

end MediaGraph
