import MediaGraph.Proofs.Server.Isolation
import MediaGraph.Proofs.Server.Proxies
import MediaGraph.Proofs.Server.Stream

/-!
# What happens to a connection without its doing

Whatever else happens to a server, a connection's record is its own: its handles and what they are
bound to, its subscription, and the nodes as it offers them. Others can do three things to it. They
change objects, of which it may be told; they have its nodes shown by objects; and they drop it.

`Carries` cannot say so, since it counts the offered nodes and what a dropped connection has left
unfetched among the things that may change. `Bystands` asks of a relation about one connection that
it holds across changes elsewhere and across these three, and takes it from there to every step that
is not a request of the connection (`Bystands.perform`). The relation may be particular about the
kinds of the objects that are made or written on; then it holds across the steps that deal with such
objects only (`Step.Meets`).
-/

namespace MediaGraph

/-- A port as its client offers it, whatever object shows it. -/
def OfferedPort.offer (port : OfferedPort) : OfferedPort := { port with published := none }

/-- A node as its client offers it, whatever objects show it. -/
def OfferedNode.offer (node : OfferedNode) : OfferedNode :=
  { node with ports := node.ports.map OfferedPort.offer, nodeId := none }

/-- A change in a list shows as a change in what the list shows. -/
theorem map_modify {α β : Type} {shown : α → β} {change : α → α} {changed : β → β}
    (same : ∀ item, shown (change item) = changed (shown item)) (list : List α) (position : Nat) :
    (list.modify position change).map shown = (list.map shown).modify position changed := by
  apply List.ext_getElem?
  intro other
  simp only [List.getElem?_map, List.getElem?_modify]
  split
  · cases list[other]? <;> simp [same]
  · cases list[other]? <;> rfl

/-- Setting what shows a port leaves the ports as they are offered. -/
theorem OfferedPort.offers_modify (ports : List OfferedPort) (position : Nat)
    (published : Option ObjectId) :
    (ports.modify position fun port => { port with published }).map offer = ports.map offer := by
  have kept : (ports.modify position fun port => { port with published }).map offer =
      (ports.map offer).modify position id := by
    apply map_modify
    intro port
    rfl
  rw [kept, List.modify_id]

namespace Server

/-- All objects that a step makes or writes on are of certain kinds. -/
def Step.Meets (kinds : ObjectKind → Prop) (server : Server) : Step → Prop
  | .inject (.addObject kind _) => kinds kind
  | .inject (.addObjectAt _ kind _) => kinds kind
  | .ask _ (.createObject ..) => kinds .link
  | .ask id (.updatePort node port _) => ∀ object ∈ server.publishedBy id node port, ∀ found,
      server.objects.get? object = some found → kinds found.kind
  | _ => True

/-- Any step makes and writes on objects of any kind. -/
theorem Step.meets_any (server : Server) (step : Step) : step.Meets (fun _ => True) server := by
  unfold Step.Meets
  split <;> simp

/--
A relation about a connection that holds across all that others do to objects of certain kinds.
Nodes are shown by objects of their own kinds, so these have to be among them.
-/
structure Bystands (id : ConnectionId) (kinds : ObjectKind → Prop)
    (Related : Server → Server → Prop) : Prop where
  port : kinds .port
  node : kinds .node
  trans : ∀ {before middle after}, Related before middle → Related middle after →
    Related before after
  /-- Neither the objects nor anything of the connection changes. -/
  apart : ∀ {before after : Server}, after.objects = before.objects →
    after.connections.get? id = before.connections.get? id →
    after.undelivered.get? id = before.undelivered.get? id → Related before after
  insertObject : ∀ {added : Object}, kinds added.kind → ∀ server object,
    Related server (server.insertObject object added)
  removeObject : ∀ server object, Related server (server.removeObject object)
  rewrite : ∀ {server : Server} {object former} props, server.objects.get? object = some former →
    kinds former.kind → Related server
      (({ server with objects := server.objects.insert object { former with props } } :
        Server).sendInfo object)
  shows : ∀ server token (change : OfferedNode → OfferedNode),
    (∀ node, (change node).offer = node.offer) → Related server (server.updateNode id token change)
  dropped : ∀ server, Related server (server.dropConnection id)

namespace Bystands

variable {id : ConnectionId} {kinds : ObjectKind → Prop} {Related : Server → Server → Prop}
  (bystands : Bystands id kinds Related)

include bystands

theorem refl (server : Server) : Related server server := bystands.apart rfl rfl rfl

theorem foldl {α : Type} {step : Server → α → Server}
    (each : ∀ server item, Related server (step server item)) (items : List α)
    (server : Server) : Related server (items.foldl step server) := by
  induction items generalizing server with
  | nil => exact bystands.refl server
  | cons item rest ih => exact bystands.trans (each server item) (ih (step server item))

/-! ## Objects and what shows them -/

theorem createObject (server : Server) {kind : ObjectKind} {props : Properties}
    {owner : Option ConnectionId} (meets : kinds kind) :
    Related server (server.createObject { kind, props, owner }).2 := by
  have allocated : Related server server.allocateId.2 := bystands.apart rfl rfl rfl
  exact bystands.trans allocated (bystands.insertObject meets _ _)

theorem removeObjects (server : Server) (ids : List ObjectId) :
    Related server (server.removeObjects ids) :=
  bystands.foldl bystands.removeObject ids server

theorem extendObject {server : Server} {object : ObjectId} (props : Properties)
    (meets : ∀ found, server.objects.get? object = some found → kinds found.kind) :
    Related server (server.extendObject object props) := by
  simp only [Server.extendObject]
  split
  case h_1 => exact bystands.refl server
  case h_2 former present =>
    exact bystands.rewrite (former.props.extend props) present (meets former present)

theorem updateNode_of_ne {other : ConnectionId} (elsewhere : id ≠ other) (server : Server)
    (token : NodeToken) (change : OfferedNode → OfferedNode) :
    Related server (server.updateNode other token change) :=
  bystands.apart rfl (by simp [updateNode, elsewhere]) rfl

/-- Nodes of anybody may be shown. -/
theorem showNode (server : Server) (other : ConnectionId) (token : NodeToken)
    {change : OfferedNode → OfferedNode} (same : ∀ node, (change node).offer = node.offer) :
    Related server (server.updateNode other token change) := by
  by_cases own : id = other
  · rw [← own]
    exact bystands.shows server token change same
  · exact bystands.updateNode_of_ne own server token change

theorem publishPorts (server : Server) (other : ConnectionId) (token : NodeToken) :
    Related server (server.publishPorts other token) := by
  have each : ∀ server (entry : Nat × Properties),
      Related server (publishPort other token server entry) := by
    intro server entry
    apply bystands.trans (bystands.createObject server bystands.port)
    apply bystands.showNode
    intro node
    simp [OfferedNode.offer, OfferedPort.offers_modify]
  simp only [Server.publishPorts]
  split
  · split
    case h_1 => exact bystands.foldl each _ server
    case h_2 => exact bystands.refl server
  · exact bystands.refl server

theorem assignNode (server : Server) (other : ConnectionId) (token : NodeToken) :
    Related server (server.assignNode other token) := by
  simp only [Server.assignNode]
  split
  · split
    case h_1 =>
      split
      · apply bystands.trans (bystands.createObject server bystands.node)
        refine bystands.trans (bystands.showNode _ _ _ ?_) (bystands.publishPorts _ _ _)
        exact fun node => rfl
      · exact bystands.refl server
    case h_2 => exact bystands.refl server
  · exact bystands.refl server

/-! ## Requests of another connection -/

variable {other : ConnectionId} (elsewhere : id ≠ other)

include elsewhere

theorem arrange (server : Server) (connection : Connection) :
    Related server (server.setConnection other connection) :=
  bystands.apart rfl (by simp [setConnection, elsewhere]) rfl

theorem arranges {server after : Server} (arranges : Arranges other server after) :
    Related server after := by
  cases arranges with
  | unchanged => exact bystands.refl server
  | arranged => exact bystands.apart rfl (by simp [setConnection, elsewhere]) rfl
  | fetched => exact bystands.apart rfl rfl (by simp [elsewhere])

theorem destroyProxy (server : Server) (proxy : ProxyId) :
    Related server (server.destroyProxy other proxy) := by
  simp only [Server.destroyProxy]
  split
  case h_1 => exact bystands.refl server
  case h_2 =>
    split
    case h_1 => exact bystands.refl server
    case h_2 =>
      have returned := bystands.arrange elsewhere server
      split
      · exact bystands.trans (returned _) (bystands.removeObject _ _)
      · exact returned _

theorem createByFactory (server : Server) (factory : String) (kind : ObjectKind)
    (props : Properties) (meets : kinds .link) :
    Related server (server.createByFactory other factory kind props).2 := by
  simp only [Server.createByFactory, createLink]
  split
  · split
    · have created : Related server
          (server.createObject { kind := .link, props, owner := some other }).2 :=
        bystands.createObject server meets
      split
      · exact created
      · exact bystands.trans created (bystands.arrange elsewhere _ _)
    · exact bystands.refl server
  · exact bystands.refl server

theorem addPort (server : Server) (node : NodeToken) (direction : Direction)
    (props : Properties) : Related server (server.addPort other node direction props).2 := by
  simp only [Server.addPort]
  split
  · exact bystands.refl server
  · have counted := bystands.arrange elsewhere server
    split
    · exact counted _
    · apply bystands.trans (counted _)
      exact bystands.trans (bystands.updateNode_of_ne elsewhere _ _ _) (bystands.publishPorts _ _ _)

theorem updatePort {server : Server} {node : NodeToken} {port : PortToken} (props : Properties)
    (meets : (Step.ask other (.updatePort node port props)).Meets kinds server) :
    Related server (server.updatePort other node port props) := by
  simp only [Server.updatePort]
  split
  case h_1 => exact bystands.refl server
  case h_2 offered isOffered =>
    split
    case h_1 => exact bystands.refl server
    case h_2 shown isShown =>
      have written := bystands.updateNode_of_ne elsewhere server node
      split
      case h_1 => exact written _
      case h_2 object published =>
        refine bystands.trans (written _) (bystands.extendObject props ?_)
        exact meets object (by simp [publishedBy, isOffered, isShown, published])

theorem removePort (server : Server) (node : NodeToken) (port : PortToken) :
    Related server (server.removePort other node port) := by
  simp only [Server.removePort]
  split
  · exact bystands.refl server
  · split
    · exact bystands.refl server
    · exact bystands.trans (bystands.updateNode_of_ne elsewhere _ _ _) (bystands.removeObjects _ _)

theorem destroyNode (server : Server) (node : NodeToken) :
    Related server (server.destroyNode other node) := by
  simp only [Server.destroyNode]
  split
  · exact bystands.refl server
  · split
    · exact bystands.refl server
    · exact bystands.trans (bystands.arrange elsewhere _ _) (bystands.removeObjects _ _)

theorem dropConnection (server : Server) : Related server (server.dropConnection other) := by
  simp only [Server.dropConnection]
  split
  case h_1 => exact bystands.refl server
  case h_2 connection _ =>
    generalize remaining : connection.nodes.keys.foldl
      (fun server node => server.destroyNode other node) server = left
    have destroyed : Related server left := by
      rw [← remaining]
      exact bystands.foldl (bystands.destroyNode elsewhere) _ server
    apply bystands.trans destroyed
    apply bystands.trans (bystands.removeObjects left (left.ownedObjects other))
    split
    · exact bystands.refl _
    · exact bystands.apart rfl (by simp [elsewhere]) (by simp [elsewhere])

theorem answer {server : Server} {request : Request}
    (meets : (Step.ask other request).Meets kinds server) :
    Related server (answer other request server).2 := by
  cases request with
  | subscribeGlobals | unsubscribeGlobals | bindObject | subscribeInfo | sync | drive =>
      exact bystands.arranges elsewhere (arranges_answer server other rfl)
  | createNode =>
      simp only [Server.answer, createNode]
      split
      · exact bystands.refl server
      · exact bystands.arrange elsewhere server _
  | destroyProxy proxy => exact bystands.destroyProxy elsewhere server proxy
  | createObject factory kind props => exact bystands.createByFactory elsewhere server _ _ _ meets
  | addPort node direction props => exact bystands.addPort elsewhere server node direction props
  | updatePort node port props => exact bystands.updatePort elsewhere props meets
  | removePort node port => exact bystands.removePort elsewhere server node port
  | activateNode node =>
      simp only [Server.answer, activateNode]
      split
      · exact bystands.refl server
      · split
        · exact bystands.refl server
        · apply bystands.trans (bystands.updateNode_of_ne elsewhere _ _ _)
          exact bystands.assignNode _ _ _
  | destroyNode node => exact bystands.destroyNode elsewhere server node
  | disconnect =>
      apply bystands.trans (bystands.dropConnection elsewhere server)
      exact bystands.apart rfl rfl (by simp [Server.answer, disconnect, elsewhere])

end Bystands

namespace Bystands

variable {id : ConnectionId} {kinds : ObjectKind → Prop} {Related : Server → Server → Prop}
  (bystands : Bystands id kinds Related)

include bystands

/-! ## Steps -/

theorem dropAny (server : Server) (other : ConnectionId) :
    Related server (server.dropConnection other) := by
  by_cases own : id = other
  · rw [← own]
    exact bystands.dropped server
  · exact bystands.dropConnection own server

theorem inject {server : Server} {injection : Injection}
    (meets : (Step.inject injection).Meets kinds server) :
    Related server (server.inject injection) := by
  cases injection with
  | addObject kind props => exact bystands.createObject server meets
  | addObjectAt object kind props =>
      simp only [Server.inject, addObjectAt]
      split
      · exact bystands.refl server
      · refine bystands.insertObject ?_ server object
        exact meets
  | replaceProperties object props =>
      simp only [Server.inject, replaceProperties]
      split
      case h_1 => exact bystands.refl server
      case h_2 former present =>
        split
        case isTrue isPort => exact bystands.rewrite props present (isPort ▸ bystands.port)
        case isFalse => exact bystands.refl server
  | takeObject object => exact bystands.removeObject server object
  | assignPending =>
      exact bystands.foldl (fun server (node : ConnectionId × NodeToken) =>
        bystands.assignNode server node.1 node.2) server.offeredNodes server
  | disconnectAll => exact bystands.foldl bystands.dropAny server.connections.keys server
  | setPolicy change => exact bystands.apart rfl rfl rfl

/-- The relation holds across every step but a request of the connection itself. -/
theorem perform {server : Server} {step : Step} (issued : id ≤ server.lastConnection)
    (foreign : ∀ request, step ≠ .ask id request) (meets : step.Meets kinds server) :
    Related server (server.perform step) := by
  cases step with
  | setUp | takeDown => exact bystands.apart rfl rfl rfl
  | inject injection => exact bystands.inject meets
  | connect config =>
      simp only [Server.perform, connect]
      split
      · exact bystands.refl server
      · have isNew : id ≠ server.lastConnection + 1 := Nat.ne_of_lt (Nat.lt_succ_of_le issued)
        exact bystands.apart rfl (by simp [setConnection, isNew]) rfl
  | ask other request =>
      have elsewhere : id ≠ other := by
        rintro rfl
        exact foreign request rfl
      exact bystands.answer elsewhere meets

end Bystands

/-! ## The record of a connection -/

theorem dropped_dropConnection (server : Server) (id : ConnectionId) :
    (server.dropConnection id).connections.get? id = none := get?_disconnect server id

theorem dropConnection_of_absent {server : Server} {id : ConnectionId}
    (absent : server.connections.get? id = none) : server.dropConnection id = server := by
  simp [dropConnection, absent]

end Server

namespace Connection

/-- What a connection is by its own doing: all but its inbox and what shows its nodes. -/
def record (connection : Connection) : Connection :=
  { connection with inbox := [], nodes := connection.nodes.mapValues fun _ node => node.offer }

end Connection

namespace Server

/-- If the connection is still there, it was there before, with the same record. -/
def Intact (id : ConnectionId) (before after : Server) : Prop :=
  ∀ later, after.connections.get? id = some later →
    ∃ connection, before.connections.get? id = some connection ∧
      later.record = connection.record

variable {id : ConnectionId} {before after server : Server}

theorem intact_of_map (change : Connection → Connection)
    (connections : after.connections.get? id = (before.connections.get? id).map change)
    (same : ∀ connection, (change connection).record = connection.record) :
    Intact id before after := by
  intro later present
  rw [connections] at present
  rcases Option.map_eq_some_iff.1 present with ⟨connection, found, rfl⟩
  exact ⟨connection, found, same connection⟩

theorem Broadcasts.intact {news : List Event} (broadcasts : Broadcasts news before after) :
    Intact id before after := by
  apply intact_of_map _ (broadcasts.sent id)
  intro connection
  split <;> rfl

theorem intact_of_dropped (dropped : after.connections.get? id = none) :
    Intact id before after := by
  intro later present
  rw [dropped] at present
  cases present

theorem bystands_intact (id : ConnectionId) : Bystands id (fun _ => True) (Intact id) where
  port := trivial
  node := trivial
  trans start rest later present := by
    rcases rest later present with ⟨between, betweenPresent, second⟩
    rcases start between betweenPresent with ⟨connection, found, first⟩
    exact ⟨connection, found, second.trans first⟩
  apart _ connections _ later present := ⟨later, connections ▸ present, rfl⟩
  insertObject {added} _ server object := by
    cases present : server.objects.contains object with
    | true =>
        intro later isLater
        rw [insertObject_of_contains present] at isLater
        have absent : (server.removeObject object).objects.contains object = false := by
          simp [Table.contains]
        rcases (broadcasts_insertObject absent added).intact later isLater with
          ⟨between, isBetween, second⟩
        rcases (broadcasts_removeObject present).intact between isBetween with
          ⟨connection, found, first⟩
        exact ⟨connection, found, second.trans first⟩
    | false => exact (broadcasts_insertObject present added).intact
  removeObject server object := by
    cases present : server.objects.contains object with
    | true => exact (broadcasts_removeObject present).intact
    | false =>
        rw [removeObject_of_absent present]
        exact fun later isLater => ⟨later, isLater, rfl⟩
  rewrite {server object former} props present _ := by
    apply intact_of_map fun connection => connection.send
      (List.replicate (connection.listeners object) (.info object props))
    · simp [sendInfo]
    · exact fun connection => rfl
  shows server token change same := by
    apply intact_of_map fun connection =>
      { connection with nodes := connection.nodes.modify token change }
    · simp [updateNode]
    · intro connection
      simp only [Connection.record, Connection.mk.injEq, true_and, and_true]
      apply Table.ext_get?
      intro other
      by_cases shown : other = token
      · simp [shown, Function.comp_def, same]
      · simp [shown]
  dropped server := intact_of_dropped (dropped_dropConnection server id)

end Server

end MediaGraph
