import MediaGraph.Proofs.Client.Mirrored
import MediaGraph.Proofs.Client.Pictures
import MediaGraph.Proofs.Client.Publishing
import MediaGraph.Proofs.Server.Unveiling

/-!
# How an endpoint is put together

Before a client waits for an endpoint that it publishes, it creates the node, adds the ports one by
one and activates the node (`Client.assemble`). Nothing is shown until the node is active. Then all
of it is shown at once, the ports in the order in which they were added (`Client.assemble_ok`).
-/

namespace MediaGraph

/-- The properties that a port of an endpoint is offered with. -/
def offeredProperties (name : String) : Properties :=
  .ofList [(Key.format, midiFormat), (Key.portName, name)]

/-- The properties that it is shown with under the id of its node. -/
def shownPort (given : ObjectId) (index : Nat) (port : String × Direction) : Properties :=
  (((offeredProperties port.1).insert Key.nodeId (Text.decimal given.toNat)).insert
    Key.portDirection port.2.property).insert Key.portIndex (Text.decimal index)

theorem record_shownPort (object given : ObjectId) (index : Nat) (port : String × Direction) :
    (Port.ofProperties object (shownPort given index port)).name = port.1 ∧
      (Port.ofProperties object (shownPort given index port)).direction = port.2 ∧
      (Port.ofProperties object (shownPort given index port)).place? =
        .ok (some ⟨⟨.software, .midi⟩, given⟩) := by
  have isMidi : MediaKind.ofFormat? midiFormat = some .midi := by decide +kernel
  have shown : ∀ key, (shownPort given index port).get? key =
      if key = Key.portIndex then some (Text.decimal index)
      else if key = Key.portDirection then some port.2.property
      else if key = Key.nodeId then some (Text.decimal given.toNat)
      else if key = Key.portName then some port.1
      else if key = Key.format then some midiFormat
      else none := by
    intro key
    simp [shownPort, offeredProperties, Table.ofList, Table.insertMany]
  have written : Text.decimal given.toNat ≠ "" := by simp [Text.decimal, Nat.toDigits_ne_nil]
  have owner : (Port.ofProperties object (shownPort given index port)).nodeId? =
      .ok (some given) := by
    simp [Port.nodeId?, Port.ofProperties, Properties.text, shown, Key.nodeId, Key.portDirection,
      Key.portIndex, written, Text.readWord?_decimal]
  refine ⟨?_, ?_, Port.place?_eq_some_iff.2 ⟨owner, ?_⟩⟩
  · simp [Port.ofProperties, Properties.text, shown, Key.portName, Key.nodeId, Key.portDirection,
      Key.portIndex]
  · simp [Port.ofProperties, Properties.text, shown, Key.portDirection, Key.portIndex]
  · simp [Port.category?, Port.kind?, Port.origin, Port.ofProperties, Properties.text,
      Properties.flag, shown, Key.format, Key.portPhysical, Key.portName, Key.nodeId,
      Key.portDirection, Key.portIndex, isMidi]

/-! ## On the server -/

/-- An endpoint and its node have got these ports, and nothing of them is shown. -/
structure Assembled (id : ConnectionId) (endpoint : Endpoint) (ports : List (String × Direction))
    (server : Server) : Prop where
  inactive : endpoint.active = false
  directions : endpoint.ports.map (·.direction) = ports.map (·.2)
  offered : ∃ node, server.node? id endpoint.token = some node ∧ node.Hidden ∧
    node.ports.map (fun port => (port.props, port.direction)) =
      ports.map fun port => (offeredProperties port.1, port.2)

theorem OfferedNode.faces_eq {node : OfferedNode} {ports : List (String × Direction)}
    (same : node.ports.map (fun port => (port.props, port.direction)) =
      ports.map fun port => (offeredProperties port.1, port.2)) (given : ObjectId) :
    node.faces given = ports.mapIdx (shownPort given) := by
  apply List.ext_getElem?
  intro index
  have here := congrArg (fun list => list[index]?) same
  simp only [List.getElem?_map] at here
  simp only [faces, List.getElem?_mapIdx]
  generalize node.ports[index]? = offered at here ⊢
  generalize ports[index]? = asked at here ⊢
  rcases offered with _ | offered <;> rcases asked with _ | asked
  · rfl
  · cases here
  · cases here
  · simp only [Option.map_some, Option.some.injEq, Prod.mk.injEq] at here
    simp only [Option.map_some, OfferedPort.shownProperties, here.1, here.2]
    rfl

namespace Client

variable {σ : Type} {id : ConnectionId} {client : Client Server} {server changed : Server}
  {endpoint : Endpoint} {name : String} {ports : List (String × Direction)}

/-- What is done for an endpoint that is published before it is waited for. -/
def assemble (name : String) (ports : List (String × Direction)) : Call σ Endpoint := do
  let endpoint ← createEndpoint name
  let endpoint ← addPorts endpoint ports
  activate endpoint

theorem holds_assemble {Holds : ∀ {α : Type}, Call σ α → Prop} (ordinary : Call.Ordinary Holds)
    (name : String) (ports : List (String × Direction)) :
    Holds (assemble name ports : Call σ Endpoint) := by
  apply ordinary.bind (ordinary.createEndpoint name)
  intro endpoint
  apply (ordinary.attends endpoint.token).addPorts_bind rfl
  intro added same
  exact (ordinary.attends endpoint.token).activate same

/-- Publishing is putting an endpoint together and waiting for it. -/
theorem publish_of_waited {client between after : Client σ} {world middle changed : σ}
    {inputs outputs : Nat} {publication : Publication}
    (able : client.CanPublish name inputs outputs)
    (assembled : assemble name (generatedPorts inputs outputs) client world =
      (.ok endpoint, between, middle))
    (waited : waitForEndpoint endpoint between middle = (.ok publication, after, changed)) :
    publish name inputs outputs client world = (.ok (publication, endpoint), after, changed) := by
  have valid := publishable_iff.2 able.publishable
  simp only [assemble, Call.bind_eq_ok_iff] at assembled
  rcases assembled with ⟨created, keeper, begun, creating, added, next, extended, adding, raised⟩
  have brought : bringUp created (generatedPorts inputs outputs) keeper begun =
      (.ok (publication, endpoint), after, changed) := by
    rw [bringUp, Call.bind_of_ok _ adding, Call.bind_of_ok _ raised, Call.bind_of_ok _ waited]
    rfl
  rw [publish, Call.bind_of_ok _ (Call.check_of_healthy able.healthy world)]
  simp only [Call.client, bind, Call.bind, valid, Call.require, pure, creating, Call.onHalt,
    brought]

/-- A port is added, and the node has it too. -/
theorem assembled_addPort (opened : client.transport = some (Server.transport id))
    (healthy : client.poison = none) (assembled : Assembled id endpoint ports server)
    (valid : validatePortName client.config endpoint.name name = .ok ()) (direction : Direction) :
    ∃ token added changed, addPort endpoint name direction client server =
        (.ok (token, added), client, changed) ∧
      added.token = endpoint.token ∧ added.name = endpoint.name ∧
      Server.Unveils id [] server changed ∧
      Assembled id added (ports ++ [(name, direction)]) changed := by
  rcases assembled.offered with ⟨node, offered, hidden, same⟩
  rcases Server.addPort_of_unassigned offered hidden.unassigned direction (offeredProperties name)
    with ⟨token, changed, answered, unveils, isNode⟩
  have asked := addPort_of_valid healthy opened valid direction server
  have granted : (Server.transport id).answer (.addPort endpoint.token direction
      (.ofList [(Key.format, midiFormat), (Key.portName, name)])) server =
        (some token, changed) := answered
  rw [granted] at asked
  refine ⟨token, _, changed, asked, rfl, rfl, unveils, assembled.inactive, ?_, _, isNode, ?_, ?_⟩
  · simp [assembled.directions]
  · refine ⟨hidden.unassigned, fun port member => ?_⟩
    rcases List.mem_append.1 member with former | isNew
    · exact hidden.unpublished port former
    · rw [List.mem_singleton.1 isNew]
  · simp [OfferedNode.addPort, same]

theorem assembled_addPorts (opened : client.transport = some (Server.transport id))
    (healthy : client.poison = none) (assembled : Assembled id endpoint ports server)
    {further : List (String × Direction)}
    (valid : ∀ port ∈ further, validatePortName client.config endpoint.name port.1 = .ok ()) :
    ∃ added changed, addPorts endpoint further client server = (.ok added, client, changed) ∧
      added.token = endpoint.token ∧ Server.Unveils id [] server changed ∧
      Assembled id added (ports ++ further) changed := by
  induction further generalizing endpoint ports server with
  | nil =>
      refine ⟨endpoint, server, rfl, rfl, ?_, by rwa [List.append_nil]⟩
      exact Server.unveils_of_nodes rfl rfl fun connection connected =>
        ⟨connection, connected, rfl, rfl⟩
  | cons port rest ih =>
      rcases port with ⟨name, direction⟩
      rw [List.forall_mem_cons] at valid
      rcases assembled_addPort opened healthy assembled valid.1 direction with
        ⟨token, extended, between, asked, sameToken, sameName, first, assembledThen⟩
      rcases ih assembledThen (by rw [sameName]; exact valid.2) with
        ⟨added, changed, ran, stillToken, others, final⟩
      refine ⟨added, changed, ?_, stillToken.trans sameToken, first.trans others,
        by simpa using final⟩
      rw [addPorts, Call.bind_of_ok _ asked]
      exact ran

theorem activate_of_answered (opened : client.transport = some (Server.transport id))
    (healthy : client.poison = none) (inactive : endpoint.active = false)
    (answered : server.activateNode id endpoint.token = (.ok (), changed)) :
    activate endpoint client server = (.ok { endpoint with active := true }, client, changed) := by
  have granted : (Server.transport id).answer (.activateNode endpoint.token) server =
      (.ok (), changed) := answered
  rw [activate, Call.bind_of_ok _ (Call.check_of_healthy healthy server), inactive]
  simp only [Bool.false_eq_true, if_false]
  rw [Call.bind_of_ok _ (Call.request_of_open opened _ server), granted]
  rfl

/-- An endpoint with these ports has been brought to light, the node before the ports. -/
structure Brought (id : ConnectionId) (ports : List (String × Direction)) (endpoint : Endpoint)
    (given : ObjectId) (props : Properties) (added : List (ObjectId × Object))
    (before after : Server) : Prop where
  directions : endpoint.ports.map (·.direction) = ports.map (·.2)
  isGiven : after.nodeId? id endpoint.token = some given
  real : given ≠ unassigned
  unveils : Server.Unveils id ((given, { kind := .node, props, owner := some id }) :: added)
    before after
  ports : added.map (·.2) = ports.mapIdx fun index port =>
    { kind := .port, props := shownPort given index port, owner := some id }

/-- The records that port objects are shown as. -/
def recordsOf (added : List (ObjectId × Object)) : List Port :=
  added.map fun entry => .ofProperties entry.1 entry.2.props

namespace Brought

variable {given : ObjectId} {props : Properties} {added : List (ObjectId × Object)}
  (brought : Brought id ports endpoint given props added server changed)

include brought

theorem added_at (index : Nat) : (added[index]?).map (·.2) = (ports[index]?).map fun port =>
    { kind := .port, props := shownPort given index port, owner := some id } := by
  have here := congrArg (fun list => list[index]?) brought.ports
  simpa only [List.getElem?_map, List.getElem?_mapIdx] using here

theorem eq_of_mem {entry : ObjectId × Object} (member : entry ∈ added) :
    ∃ index port, entry.2 =
      { kind := .port, props := shownPort given index port, owner := some id } := by
  rcases List.getElem?_of_mem member with ⟨index, found⟩
  have here := brought.added_at index
  rw [found, Option.map_some] at here
  rcases Option.map_eq_some_iff.1 here.symm with ⟨port, -, same⟩
  exact ⟨index, port, same.symm⟩

/-- The records of the ports have their names and directions, in the same order. -/
theorem labels :
    (recordsOf added).map (fun record => (record.name, record.direction)) = ports := by
  apply List.ext_getElem?
  intro index
  have here := brought.added_at index
  simp only [recordsOf, List.getElem?_map]
  generalize added[index]? = entry at here ⊢
  generalize ports[index]? = port at here ⊢
  rcases entry with _ | entry <;> rcases port with _ | port
  · rfl
  · cases here
  · cases here
  · simp only [Option.map_some, Option.some.injEq] at here
    rcases record_shownPort entry.1 given index port with ⟨name, direction, -⟩
    simp only [Option.map_some, here, name, direction]

theorem placed {entry : ObjectId × Object} (member : entry ∈ added) :
    (Port.ofProperties entry.1 entry.2.props).place? =
      .ok (some ⟨⟨.software, .midi⟩, given⟩) := by
  rcases brought.eq_of_mem member with ⟨index, port, same⟩
  rw [same]
  exact (record_shownPort entry.1 given index port).2.2

theorem expectedCounts : endpoint.expectedCounts =
    (ports.countP (·.2 = .input), ports.countP (·.2 = .output)) := by
  have counts : ∀ direction, endpoint.ports.countP (·.direction = direction) =
      ports.countP (·.2 = direction) := by
    intro direction
    have same := congrArg (List.countP (· = direction)) brought.directions
    rw [List.countP_map, List.countP_map] at same
    exact same
  rw [Endpoint.expectedCounts_eq_countP, counts, counts]

end Brought

/-- All ports of an endpoint are shown at once when it is activated. -/
theorem assemble_ok (opened : client.transport = some (Server.transport id))
    (healthy : client.poison = none)
    (valid : validateAll client.config name ports = .ok ())
    (connected : (server.connections.get? id).isSome) (assigns : server.policy.assignNodeIds)
    (publishes : server.policy.publishLocalPorts) (free : server.Free (ports.length + 1)) :
    ∃ endpoint given props added changed, assemble name ports client server =
        (.ok endpoint, { client with localNodes := client.localNodes ++ [endpoint.token] },
          changed) ∧
      Brought id ports endpoint given props added server changed := by
  rcases Option.isSome_iff_exists.1 connected with ⟨connection, isConnected⟩
  rcases validateAll_eq_ok_iff.1 valid with ⟨named, portsNamed⟩
  rcases createEndpoint_cases name client server with
    ⟨poisoned | invalid | closed, -⟩ | ⟨transport, isTransport, created⟩
  · simp [healthy] at poisoned
  · exact absurd named invalid
  · simp [opened] at closed
  · cases opened.symm.trans isTransport
    rcases Server.createNode_of_connected isConnected (nodeProperties client.config name) with
      ⟨token, begun, answered, first, isNode⟩
    rw [show (Server.transport id).answer (.createNode (nodeProperties client.config name)) server =
      (some token, begun) from answered] at created
    simp only at created
    let keeper : Client Server := { client with localNodes := client.localNodes ++ [token] }
    have bare : Assembled id { token, name } [] begun :=
      ⟨rfl, rfl, _, isNode, ⟨rfl, by simp⟩, rfl⟩
    have stillOpened : keeper.transport = some (Server.transport id) := opened
    have stillHealthy : keeper.poison = none := healthy
    rcases assembled_addPorts stillOpened stillHealthy bare portsNamed with
      ⟨added, extended, adding, sameToken, second, assembled⟩
    rcases assembled.offered with ⟨node, offered, hidden, same⟩
    have early : Server.Unveils id [] server extended := first.trans second
    have count : node.ports.length = ports.length := by
      have lengths := congrArg List.length same
      rwa [List.length_map, List.length_map, List.nil_append] at lengths
    rcases Server.activateNode_of_hidden offered hidden (by rwa [early.policy])
      (by rwa [early.policy]) (count ▸ free.of_nothing early) with
      ⟨given, shown, changed, activated, real, isGiven, third, objects⟩
    refine ⟨{ added with active := true }, given, node.props, shown, changed, ?_, ?_⟩
    · have raised := activate_of_answered stillOpened stillHealthy assembled.inactive activated
      rw [assemble, Call.bind_of_ok _ created, Call.bind_of_ok _ adding, raised]
      simp only [keeper, sameToken]
    · refine ⟨assembled.directions, isGiven, real, early.trans third, ?_⟩
      rw [objects, OfferedNode.faces_eq same]
      simp only [List.nil_append, List.mapIdx_eq_zipIdx_map, List.map_map]
      rfl

end Client

end MediaGraph
