import MediaGraph.Proofs.Client.Invocation
import MediaGraph.Proofs.Server.Bystanders
import MediaGraph.Proofs.Table

/-!
# The nodes that a connection offers

Nodes and ports are changed by the requests of their own connection only, and each of these requests
changes them in one way: it adds or removes a node, adds, changes or removes a port of a node, or
makes a node active. All that the server does besides is to have them shown by objects. So what a
connection offers (`Connection.offers`) is a function of its requests.

`Server.Reoffers` says of two states how what is offered in the second follows from what is offered
in the first, as long as the connection lasts.
-/

namespace MediaGraph

/-- The nodes of a connection as its client offers them. -/
def Connection.offers (connection : Connection) : Table NodeToken OfferedNode :=
  connection.nodes.mapValues fun _ => OfferedNode.offer

namespace OfferedNode

def addPort (port : OfferedPort) (node : OfferedNode) : OfferedNode :=
  { node with ports := node.ports ++ [port] }

def updatePort (token : PortToken) (props : Properties) (node : OfferedNode) : OfferedNode :=
  { node with ports := node.ports.modify (node.ports.findIdx (·.token = token)) fun port =>
      { port with props := port.props.extend props } }

def removePort (token : PortToken) (node : OfferedNode) : OfferedNode :=
  { node with ports := node.ports.eraseP (·.token = token) }

def activate (node : OfferedNode) : OfferedNode := { node with active := true }

/-! ## What a change of a node does to the offer -/

theorem offer_addPort {port : OfferedPort} (unpublished : port.published = none)
    (node : OfferedNode) : (node.addPort port).offer = node.offer.addPort port := by
  have same : port.offer = port := by simp [OfferedPort.offer, ← unpublished]
  simp [offer, addPort, same]

theorem offer_updatePort (token : PortToken) (props : Properties) (node : OfferedNode) :
    (node.updatePort token props).offer = node.offer.updatePort token props := by
  have position : (node.ports.map OfferedPort.offer).findIdx (·.token = token) =
      node.ports.findIdx (·.token = token) := by
    rw [List.findIdx_map]
    rfl
  simp only [offer, updatePort, OfferedNode.mk.injEq, and_true, true_and, position]
  apply map_modify
  intro port
  rfl

theorem offer_removePort (token : PortToken) (node : OfferedNode) :
    (node.removePort token).offer = node.offer.removePort token := by
  simp only [offer, removePort, OfferedNode.mk.injEq, and_true, true_and]
  rw [List.eraseP_map]
  rfl

/-! ## Ports that are not there -/

theorem updatePort_of_absent {token : PortToken} {node : OfferedNode}
    (absent : node.ports.find? (·.token = token) = none) (props : Properties) :
    node.updatePort token props = node := by
  have beyond : node.ports.findIdx (·.token = token) = node.ports.length :=
    List.findIdx_eq_length_of_false fun port member => by
      simpa using List.find?_eq_none.1 absent port member
  have ports : (node.updatePort token props).ports = node.ports := by
    apply List.ext_getElem?
    intro other
    simp only [updatePort, beyond, List.getElem?_modify]
    split
    case isTrue same =>
      subst same
      simp
    case isFalse => simp
  simp only [updatePort] at ports ⊢
  rw [ports]

theorem removePort_of_absent {token : PortToken} {node : OfferedNode}
    (absent : node.ports.find? (·.token = token) = none) : node.removePort token = node := by
  have kept : node.ports.eraseP (·.token = token) = node.ports :=
    List.eraseP_of_forall_not fun port member => List.find?_eq_none.1 absent port member
  simp only [removePort, kept]

end OfferedNode

namespace Server

/-- If the connection is still there, it was there before, and it offers what its offers became. -/
def Reoffers (id : ConnectionId)
    (change : Table NodeToken OfferedNode → Table NodeToken OfferedNode)
    (before after : Server) : Prop :=
  ∀ later, after.connections.get? id = some later →
    ∃ connection, before.connections.get? id = some connection ∧
      connection.handles ≤ later.handles ∧ later.offers = change connection.offers

variable {id : ConnectionId} {before middle after server : Server}
  {change first second : Table NodeToken OfferedNode → Table NodeToken OfferedNode}

theorem Reoffers.trans (start : Reoffers id first before middle)
    (rest : Reoffers id second middle after) :
    Reoffers id (fun offers => second (first offers)) before after := by
  intro later isLater
  rcases rest later isLater with ⟨between, isBetween, more, changed⟩
  rcases start between isBetween with ⟨connection, connected, fewer, former⟩
  exact ⟨connection, connected, Nat.le_trans fewer more, changed.trans (congrArg second former)⟩

theorem Reoffers.refl (id : ConnectionId) (server : Server) :
    Reoffers id (fun offers => offers) server server :=
  fun later isLater => ⟨later, isLater, Nat.le_refl _, rfl⟩

theorem Intact.reoffers (intact : Intact id before after) :
    Reoffers id (fun offers => offers) before after := by
  intro later isLater
  rcases intact later isLater with ⟨connection, connected, same⟩
  have handles : later.record.handles = connection.record.handles := by rw [same]
  have nodes : later.record.nodes = connection.record.nodes := by rw [same]
  exact ⟨connection, connected, Nat.le_of_eq handles.symm, nodes⟩

/-- What others see to afterwards changes nothing about the offers. -/
theorem Reoffers.then_intact (start : Reoffers id change before middle)
    (rest : Intact id middle after) : Reoffers id change before after :=
  start.trans rest.reoffers

theorem reoffers_setConnection {connection later : Connection}
    (connected : server.connections.get? id = some connection)
    (more : connection.handles ≤ later.handles) (offers : later.offers = change connection.offers) :
    Reoffers id change server (server.setConnection id later) := by
  intro present isPresent
  simp only [setConnection, Table.get?_insert, if_true, Option.some.injEq] at isPresent
  subst isPresent
  exact ⟨connection, connected, more, offers⟩

theorem reoffers_updateNode {token : NodeToken} {rewrite shown : OfferedNode → OfferedNode}
    (same : ∀ node, server.node? id token = some node → (rewrite node).offer = shown node.offer) :
    Reoffers id (·.modify token shown) server (server.updateNode id token rewrite) := by
  intro later isLater
  simp only [updateNode, Table.get?_modify, if_true, Option.map_eq_some_iff] at isLater
  rcases isLater with ⟨connection, connected, rfl⟩
  refine ⟨connection, connected, Nat.le_refl _, ?_⟩
  apply Table.mapValues_modify
  intro node found
  apply same
  simp [node?, connected, found]

/-- A change that comes to nothing for the node that is there is none. -/
theorem reoffers_of_unchanged {token : NodeToken} {shown : OfferedNode → OfferedNode}
    (unchanged : ∀ node, server.node? id token = some node → shown node.offer = node.offer) :
    Reoffers id (·.modify token shown) server server := by
  intro later isLater
  refine ⟨later, isLater, Nat.le_refl _, ?_⟩
  apply Table.ext_get?
  intro other
  simp only [Table.get?_modify]
  split
  case isTrue same =>
    subst same
    simp only [Connection.offers, Table.get?_mapValues, Option.map_map]
    cases found : later.nodes.get? other with
    | none => rfl
    | some node =>
        have present : server.node? id other = some node := by
          simp [node?, isLater, found]
        simp [unchanged node present]
  case isFalse => rfl

theorem isSome_offers {connection : Connection} (token : NodeToken) :
    (connection.offers.get? token).isSome = (connection.nodes.get? token).isSome := by
  simp [Connection.offers]

/-! ## Requests that are not about nodes -/

theorem reoffers_createByFactory (server : Server) (id : ConnectionId) (factory : String)
    (kind : ObjectKind) (props : Properties) :
    Reoffers id (fun offers => offers) server
      (server.createByFactory id factory kind props).2 := by
  simp only [createByFactory, createLink]
  split
  · split
    · have created : Intact id server
          (server.createObject { kind := .link, props, owner := some id }).2 :=
        (bystands_intact id).createObject server trivial
      split
      · exact created.reoffers
      case h_2 connection connected =>
        exact created.reoffers.trans
          (reoffers_setConnection connected (Nat.le_succ _) rfl)
    · exact .refl id server
  · exact .refl id server

theorem reoffers_destroyProxy (server : Server) (id : ConnectionId) (proxy : ProxyId) :
    Reoffers id (fun offers => offers) server (server.destroyProxy id proxy) := by
  simp only [destroyProxy]
  split
  case h_1 => exact .refl id server
  case h_2 connection connected =>
    split
    case h_1 => exact .refl id server
    case h_2 bound _ =>
      have returned : Reoffers id (fun offers => offers) server (server.setConnection id
          { connection with proxies := connection.proxies.erase proxy }) :=
        reoffers_setConnection connected (Nat.le_refl _) rfl
      split
      · exact returned.then_intact ((bystands_intact id).removeObject _ _)
      · exact returned

theorem Arranges.reoffers (arranges : Arranges id server after) :
    Reoffers id (fun offers => offers) server after := by
  cases arranges with
  | unchanged => exact .refl id _
  | @arranged connection later syncs connected more nodes =>
      have rearranged : Reoffers id (fun offers => offers) server (server.setConnection id later) :=
        reoffers_setConnection connected more (by simp only [Connection.offers, nodes])
      exact rearranged
  | fetched => exact fun later isLater => ⟨later, isLater, Nat.le_refl _, rfl⟩

/-- Only the requests about nodes change what is offered. -/
theorem reoffers_answer (server : Server) (id : ConnectionId) {request : Request}
    (others : request.isPlain = false) :
    Reoffers id (fun offers => offers) server (answer id request server).2 := by
  cases request with
  | subscribeGlobals | unsubscribeGlobals | bindObject | subscribeInfo | sync | drive =>
      exact (arranges_answer server id rfl).reoffers
  | destroyProxy proxy => exact reoffers_destroyProxy server id proxy
  | createObject factory kind props => exact reoffers_createByFactory server id factory kind props
  | disconnect =>
      have gone : (answer id .disconnect server).2.connections.get? id = none :=
        get?_disconnect server id
      intro later isLater
      rw [gone] at isLater
      cases isLater
  | createNode | addPort | updatePort | removePort | activateNode | destroyNode => cases others

/-! ## Requests about nodes -/

/-- A new node is under a handle that had not been given out before. -/
theorem createNode_spec (server : Server) (id : ConnectionId) (props : Properties) :
    match server.createNode id props with
    | (some token, after) =>
      Reoffers id (·.insert token { props, ports := [], active := false, nodeId := none })
          server after ∧
        ∀ connection later, server.connections.get? id = some connection →
          after.connections.get? id = some later → later.handles < UInt32.size →
          connection.handles < token.toNat ∧ token.toNat ≤ later.handles
    | (none, after) => after = server := by
  simp only [createNode]
  cases connected : server.connections.get? id with
  | none => rfl
  | some connection =>
      refine ⟨reoffers_setConnection connected (Nat.le_succ _) ?_, ?_⟩
      · exact Table.mapValues_insert _ _ _ _
      · intro former later same isLater few
        cases same
        simp only [setConnection, Table.get?_insert, if_true, Option.some.injEq] at isLater
        subst isLater
        have handle : connection.takeHandle.1.toNat = connection.handles + 1 :=
          Connection.toNat_takeHandle few
        rw [handle]
        exact ⟨Nat.lt_succ_self _, Nat.le_refl _⟩

/-- A port goes to the end of its node. If there is no such node, only a handle is used up. -/
theorem addPort_spec (server : Server) (id : ConnectionId) (node : NodeToken)
    (direction : Direction) (props : Properties) :
    match server.addPort id node direction props with
    | (some token, after) =>
      Reoffers id (·.modify node (.addPort { token, direction, props, published := none }))
        server after
    | (none, after) =>
      Reoffers id (fun offers => offers) server after ∧
        after.node? id node = server.node? id node := by
  simp only [addPort]
  cases connected : server.connections.get? id with
  | none => exact ⟨.refl id server, rfl⟩
  | some connection =>
      have counted : Reoffers id (fun offers => offers) server
          (server.setConnection id connection.takeHandle.2) :=
        reoffers_setConnection connected (Nat.le_succ _) rfl
      cases found : connection.takeHandle.2.nodes.get? node with
      | none =>
          simp only [found]
          refine ⟨counted, ?_⟩
          simp [node?, setConnection, connected, Connection.takeHandle]
      | some offered =>
          simp only [found]
          refine (counted.trans (reoffers_updateNode fun node _ => ?_)).then_intact
            ((bystands_intact id).publishPorts _ id node)
          exact OfferedNode.offer_addPort rfl node

theorem updatePort_spec (server : Server) (id : ConnectionId) (node : NodeToken)
    (port : PortToken) (props : Properties) :
    Reoffers id (·.modify node (.updatePort port props)) server
      (server.updatePort id node port props) := by
  simp only [updatePort]
  split
  case h_1 missing =>
    exact reoffers_of_unchanged fun present found => by simp [missing] at found
  case h_2 offered isOffered =>
    split
    case h_1 missing =>
      apply reoffers_of_unchanged
      intro present isPresent
      cases isOffered.symm.trans isPresent
      rw [← OfferedNode.offer_updatePort, OfferedNode.updatePort_of_absent missing]
    case h_2 shown _ =>
      have written : Reoffers id (·.modify node (.updatePort port props)) server
          (server.updateNode id node fun present =>
            { present with
              ports := present.ports.modify (offered.ports.findIdx (·.token = port)) fun port =>
                { port with props := port.props.extend props } }) := by
        apply reoffers_updateNode
        intro present isPresent
        cases isOffered.symm.trans isPresent
        exact offered.offer_updatePort port props
      split
      · exact written
      · exact written.then_intact ((bystands_intact id).extendObject props fun _ _ => trivial)

theorem removePort_spec (server : Server) (id : ConnectionId) (node : NodeToken)
    (port : PortToken) :
    Reoffers id (·.modify node (.removePort port)) server (server.removePort id node port) := by
  simp only [removePort]
  split
  case h_1 missing =>
    exact reoffers_of_unchanged fun present found => by simp [missing] at found
  case h_2 offered isOffered =>
    split
    case h_1 missing =>
      apply reoffers_of_unchanged
      intro present isPresent
      cases isOffered.symm.trans isPresent
      rw [← OfferedNode.offer_removePort, OfferedNode.removePort_of_absent missing]
    case h_2 shown _ =>
      have removed : Reoffers id (·.modify node (.removePort port)) server
          (server.updateNode id node fun present =>
            { present with ports := present.ports.eraseP (·.token = port) }) :=
        reoffers_updateNode fun present _ => present.offer_removePort port
      exact removed.then_intact ((bystands_intact id).removeObjects _ _)

theorem activateNode_spec (server : Server) (id : ConnectionId) (node : NodeToken) :
    match server.activateNode id node with
    | (.ok (), after) => Reoffers id (·.modify node .activate) server after
    | (.error _, after) => after = server := by
  simp only [activateNode]
  cases connected : server.connections.get? id with
  | none => rfl
  | some connection =>
      cases found : connection.nodes.get? node with
      | none => simp only [found]
      | some offered =>
          simp only [found]
          have activated : Reoffers id (·.modify node .activate) server
              (server.updateNode id node fun present => { present with active := true }) :=
            reoffers_updateNode fun _ _ => rfl
          exact activated.then_intact ((bystands_intact id).assignNode _ id node)

theorem destroyNode_spec (server : Server) (id : ConnectionId) (node : NodeToken) :
    Reoffers id (·.erase node) server (server.destroyNode id node) := by
  simp only [destroyNode]
  split
  case h_1 missing =>
    intro later isLater
    rw [missing] at isLater
    cases isLater
  case h_2 connection connected =>
    split
    case h_1 missing =>
      intro later isLater
      cases connected.symm.trans isLater
      refine ⟨connection, connected, Nat.le_refl _, ?_⟩
      refine (Table.erase_of_absent ?_).symm
      simp [Connection.offers, missing]
    case h_2 offered _ =>
      have erased : Reoffers id (·.erase node) server
          (server.setConnection id { connection with nodes := connection.nodes.erase node }) :=
        reoffers_setConnection connected (Nat.le_refl _) (Table.mapValues_erase _ _ _)
      exact erased.then_intact ((bystands_intact id).removeObjects _ _)

/-- A request about a node that lets it be changes this node, if any. -/
theorem reoffers_of_attends {node : NodeToken} {request : Request}
    (attends : request.Attends node) (server : Server) (id : ConnectionId) :
    ∃ change, Reoffers id (·.modify node change) server (answer id request server).2 := by
  have idle : ∀ {after}, Reoffers id (fun offers => offers) server after →
      ∃ change, Reoffers id (·.modify node change) server after := by
    intro after same
    refine ⟨fun offered => offered, ?_⟩
    exact same.trans (reoffers_of_unchanged fun _ _ => rfl)
  cases attends with
  | addPort direction props =>
      have spec := addPort_spec server id node direction props
      simp only [answer]
      generalize server.addPort id node direction props = result at spec ⊢
      rcases result with ⟨_ | token, after⟩
      · exact idle spec.1
      · exact ⟨_, spec⟩
  | updatePort port props => exact ⟨_, updatePort_spec server id node port props⟩
  | removePort port => exact ⟨_, removePort_spec server id node port⟩
  | activateNode =>
      have spec := activateNode_spec server id node
      simp only [answer]
      generalize server.activateNode id node = result at spec ⊢
      rcases result with ⟨failure | ⟨⟩, after⟩
      · exact idle (spec ▸ .refl id server)
      · exact ⟨_, spec⟩

end Server

end MediaGraph
