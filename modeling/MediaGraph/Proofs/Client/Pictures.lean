import MediaGraph.Proofs.Client.Books
import MediaGraph.Proofs.Server.Offers

/-!
# Endpoints and the nodes behind them

An endpoint and its node are two records of the same thing, one in the hands of the client's holder
and one on the server. Names are what the two are least alike in: an endpoint has the name of a port
as such, and the node has it among the properties of the port, which a new name is written over.

The endpoint pictures the node if both have the same ports in the same order, under the same names,
and both are active or not (`Endpoint.Pictures`). Each way to change an endpoint has a counterpart
that changes the node, so that the one pictures the other still.
-/

namespace MediaGraph

/-- What the holder of an endpoint knows of a port. -/
def OfferedPort.label (port : OfferedPort) : PortToken × Direction × Option String :=
  (port.token, port.direction, port.props.get? Key.portName)

def LocalPort.label (port : LocalPort) : PortToken × Direction × Option String :=
  (port.token, port.direction, some port.name)

/-- The endpoint has the ports of the node as they are, and is active like the node. -/
structure Endpoint.Pictures (endpoint : Endpoint) (node : OfferedNode) : Prop where
  ports : node.ports.map OfferedPort.label = endpoint.ports.map LocalPort.label
  active : node.active = endpoint.active

namespace Endpoint

variable {endpoint : Endpoint} {node : OfferedNode}

/-- What is no input is an output. -/
theorem expectedCounts_eq_countP (endpoint : Endpoint) :
    endpoint.expectedCounts = (endpoint.ports.countP (·.direction = .input),
      endpoint.ports.countP (·.direction = .output)) := by
  have others : endpoint.ports.countP (fun port => !decide (port.direction = .input)) =
      endpoint.ports.countP (·.direction = .output) := by
    apply List.countP_congr
    intro port _
    cases port.direction <;> simp
  have whole := endpoint.ports.length_eq_countP_add_countP (·.direction = .input)
  simp only [Bool.not_eq_true, decide_eq_false_iff_not, decide_not, others] at whole
  simp only [expectedCounts, whole, Nat.add_sub_cancel_left]

/-- What shows a node is nothing to its endpoint. -/
theorem pictures_offer_iff : endpoint.Pictures node.offer ↔ endpoint.Pictures node := by
  have ports : node.offer.ports.map OfferedPort.label = node.ports.map OfferedPort.label := by
    simp [OfferedNode.offer, OfferedPort.offer, OfferedPort.label]
  exact ⟨fun pictures => ⟨ports ▸ pictures.ports, pictures.active⟩,
    fun pictures => ⟨ports.trans pictures.ports, pictures.active⟩⟩

theorem pictures_new (token : NodeToken) (name : String) (props : Properties) :
    ({ token, name } : Endpoint).Pictures
      { props, ports := [], active := false, nodeId := none } :=
  ⟨rfl, rfl⟩

namespace Pictures

variable (pictures : endpoint.Pictures node)

include pictures

theorem addPort (token : PortToken) {name : String} (direction : Direction) {props : Properties}
    (named : props.get? Key.portName = some name) :
    ({ endpoint with ports := endpoint.ports ++ [{ token, name, direction }] } : Endpoint).Pictures
      (node.addPort { token, direction, props, published := none }) where
  ports := by
    simp only [OfferedNode.addPort, List.map_append, pictures.ports, List.map_cons, List.map_nil,
      OfferedPort.label, LocalPort.label, named]
  active := pictures.active

/-- Both sides find a port in the same place. -/
theorem position (token : PortToken) :
    node.ports.findIdx (·.token = token) = endpoint.ports.findIdx (·.token = token) := by
  have labels := congrArg (List.findIdx fun label => label.1 = token) pictures.ports
  rw [List.findIdx_map, List.findIdx_map] at labels
  exact labels

theorem renamePort (token : PortToken) (name : String) :
    (endpoint.renamePort token name).Pictures
      (node.updatePort token (.ofList [(Key.portName, name)])) where
  ports := by
    have written : ∀ props : Properties,
        (props.extend (.ofList [(Key.portName, name)])).get? Key.portName = some name := by
      intro props
      exact (Table.get?_insert _ _ _ _).trans (if_pos rfl)
    have offered : ∀ position, (node.ports.modify position fun port =>
          { port with props := port.props.extend (.ofList [(Key.portName, name)]) }).map
            OfferedPort.label =
        (node.ports.map OfferedPort.label).modify position fun label =>
          (label.1, label.2.1, some name) := by
      apply map_modify
      intro port
      simp only [OfferedPort.label, written]
    have known : ∀ position, (endpoint.ports.modify position fun port =>
          { port with name }).map LocalPort.label =
        (endpoint.ports.map LocalPort.label).modify position fun label =>
          (label.1, label.2.1, some name) := by
      apply map_modify
      intro port
      rfl
    simp only [OfferedNode.updatePort, Endpoint.renamePort, pictures.position, offered, known,
      pictures.ports]
  active := pictures.active

theorem removePort (token : PortToken) :
    (endpoint.removePort token).Pictures (node.removePort token) where
  ports := by
    have labels := congrArg (List.eraseP fun label => label.1 = token) pictures.ports
    rw [List.eraseP_map, List.eraseP_map] at labels
    exact labels
  active := pictures.active

theorem activate : ({ endpoint with active := true } : Endpoint).Pictures node.activate :=
  ⟨pictures.ports, rfl⟩

end Pictures

end Endpoint

/-! ## What a connection shows, and what it leaves alone -/

namespace Server

variable {id : ConnectionId} {token : NodeToken} {before middle after server : Server}
  {change : Table NodeToken OfferedNode → Table NodeToken OfferedNode} {endpoint : Endpoint}

/-- The connection offers all other nodes as before. -/
def Spares (id : ConnectionId) (token : NodeToken) (before after : Server) : Prop :=
  ∀ later, after.connections.get? id = some later →
    ∃ connection, before.connections.get? id = some connection ∧
      connection.handles ≤ later.handles ∧
      ∀ other, other ≠ token → later.offers.get? other = connection.offers.get? other

theorem Spares.refl (id : ConnectionId) (token : NodeToken) (server : Server) :
    Spares id token server server :=
  fun later isLater => ⟨later, isLater, Nat.le_refl _, fun _ _ => rfl⟩

theorem Spares.trans (start : Spares id token before middle) (rest : Spares id token middle after) :
    Spares id token before after := by
  intro later isLater
  rcases rest later isLater with ⟨between, isBetween, more, kept⟩
  rcases start between isBetween with ⟨connection, connected, fewer, former⟩
  exact ⟨connection, connected, Nat.le_trans fewer more,
    fun other apart => (kept other apart).trans (former other apart)⟩

theorem Reoffers.spares (reoffers : Reoffers id change before after)
    (others : ∀ offers other, other ≠ token →
      (change offers).get? other = offers.get? other) : Spares id token before after := by
  intro later isLater
  rcases reoffers later isLater with ⟨connection, connected, more, offers⟩
  exact ⟨connection, connected, more, fun other apart => by rw [offers, others _ _ apart]⟩

/-- As long as the connection lasts, it offers a node that the endpoint pictures. -/
def Shows (id : ConnectionId) (endpoint : Endpoint) (server : Server) : Prop :=
  ∀ connection, server.connections.get? id = some connection →
    ∃ node, connection.offers.get? endpoint.token = some node ∧ endpoint.Pictures node

theorem Shows.of_same (shows : Shows id endpoint before)
    (same : Reoffers id (fun offers => offers) before after) : Shows id endpoint after := by
  intro later isLater
  rcases same later isLater with ⟨connection, connected, -, offers⟩
  rw [offers]
  exact shows connection connected

/-- The requests with which a client waits and keeps up its subscription let all nodes be. -/
theorem node?_answer (server : Server) (id : ConnectionId) {request : Request}
    (calm : request.isWaiting || request.isBinding) (token : NodeToken) :
    (answer id request server).2.node? id token = server.node? id token := by
  cases request with
  | drive | sync | bindObject | subscribeInfo => exact (arranges_answer server id rfl).node? id token
  | destroyProxy proxy => exact node?_destroyProxy server id proxy
  | _ => cases calm

end Server

end MediaGraph
