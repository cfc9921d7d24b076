import MediaGraph.Proofs.Properties
import MediaGraph.Proofs.Server.Pending
import MediaGraph.Proofs.Server.Isolation

/-!
# The numbers of shown ports

The object that shows a port numbers it among the ports of its node: its index is the position that
the port has in the list when it is published. A port that is added goes to the end of the list, so
positions stay what they are as long as ports are taken from the end, and then no two ports that
are shown have the same index (`Server.port_indices_distinct`). When a port is taken from the front,
those behind it move up while their indices stay, and the next port that is added is given an index
that is in use (`Server.not_distinct_after_removal`).

What else may happen to the objects is as little as can be asked for: nobody else acts on those that
show the ports of the node (`Server.Step.Gentle`).
-/

namespace MediaGraph

theorem Text.decimal_injective {first second : Nat}
    (same : Text.decimal first = Text.decimal second) : first = second := by
  have digits : Nat.toDigits 10 first = Nat.toDigits 10 second := by
    simpa [Text.decimal] using congrArg String.toList same
  calc
    first = Nat.ofDigitChars 10 (Nat.toDigits 10 first) 0 := Nat.ofDigitChars_ten_toDigits.symm
    _ = Nat.ofDigitChars 10 (Nat.toDigits 10 second) 0 := by rw [digits]
    _ = second := Nat.ofDigitChars_ten_toDigits

/-- The ports that are listed behind one. -/
def OfferedNode.behind (port : PortToken) (node : OfferedNode) : List OfferedPort :=
  node.ports.drop (node.ports.findIdx (·.token = port) + 1)

namespace Server

variable {id other : ConnectionId} {token node : NodeToken} {before middle after server : Server}

/-! ## Positions -/

/-- The index that the object of a port has for it. -/
def portIndex? (server : Server) (port : OfferedPort) : Option String :=
  port.published.bind fun object => (server.properties? object).bind (·.get? Key.portIndex)

/-- The ports that are shown have objects of the connection's, with their positions for indices. -/
def Places (server : Server) (id : ConnectionId) (ports : List OfferedPort) : Prop :=
  ∀ position port object, ports[position]? = some port → port.published = some object →
    ∃ found, server.objects.get? object = some found ∧ found.kind = .port ∧
      found.owner = some id ∧ found.props.get? Key.portIndex = some (Text.decimal position)

def PlacesAt (server : Server) (id : ConnectionId) (token : NodeToken) : Prop :=
  ∀ node, server.node? id token = some node → server.Places id node.ports

/-- The objects of these ports are as they were, as far as they are the connection's. -/
def KeepsShown (id : ConnectionId) (ports : List OfferedPort) (before after : Server) : Prop :=
  ∀ port ∈ ports, ∀ object found, port.published = some object →
    before.objects.get? object = some found → found.owner = some id →
    after.objects.get? object = some found

theorem Places.of_kept {ports : List OfferedPort} (places : before.Places id ports)
    (keeps : KeepsShown id ports before after) : after.Places id ports := by
  intro position port object isPort published
  rcases places position port object isPort published with
    ⟨found, present, isPortObject, owned, index⟩
  have kept := keeps port (List.mem_of_getElem? isPort) object found published present owned
  exact ⟨found, kept, isPortObject, owned, index⟩

/-- Ports with different positions have different indices. -/
theorem Places.distinct {ports : List OfferedPort} (places : server.Places id ports) :
    ports.Pairwise fun first second => first.published.isSome → second.published.isSome →
      server.portIndex? first ≠ server.portIndex? second := by
  have index : ∀ position port, ports[position]? = some port → port.published.isSome →
      server.portIndex? port = some (Text.decimal position) := by
    intro position port isPort shown
    rcases Option.isSome_iff_exists.1 shown with ⟨object, published⟩
    rcases places position port object isPort published with ⟨found, present, -, -, isIndex⟩
    simp [portIndex?, published, properties?, present, isIndex]
  rw [List.pairwise_iff_getElem]
  intro first second firstBound secondBound order firstShown secondShown same
  rw [index first _ (List.getElem?_eq_getElem firstBound) firstShown,
    index second _ (List.getElem?_eq_getElem secondBound) secondShown] at same
  exact absurd (Text.decimal_injective (Option.some.inj same)) (Nat.ne_of_lt order)

/-! ## Publishing -/

theorem PlacesAt.publishPorts (places : server.PlacesAt id token)
    (room : (server.publishPorts id token).Room) :
    (server.publishPorts id token).PlacesAt id token := by
  simp only [Server.publishPorts] at room ⊢
  split
  case isFalse => exact places
  case isTrue allowed =>
    rw [if_pos allowed] at room
    split
    case h_2 => exact places
    case h_1 offered present =>
      rw [present] at room
      cases isGiven : offered.nodeId with
      | none =>
          have nothing : offered.hiddenPorts = [] := by simp [OfferedNode.hiddenPorts, isGiven]
          rwa [nothing]
      | some given =>
          rcases publishes_foldl offered.hiddenPorts present room with ⟨later, isLater, publishes⟩
          have furnishes := furnishes_publish server id token offered.hiddenPorts
          intro found isFound position port object isPort published
          cases isLater.symm.trans isFound
          rcases publishes.ports position port isPort with
            ⟨isFormer, -⟩ | ⟨props, shown, listed, isShown, present⟩
          · have kept := (places offered present).of_kept fun _ _ object found _ present _ =>
              furnishes.kept room object found present
            exact kept position port object isFormer published
          · cases published.symm.trans isShown
            rcases (mem_hiddenPorts isGiven).1 listed with ⟨former, -, -, rfl⟩
            exact ⟨_, present, rfl, rfl, by simp [OfferedPort.shownProperties]⟩

theorem PlacesAt.given (places : server.PlacesAt id token) {offered : OfferedNode}
    (room : (server.given id token offered).Room) :
    (server.given id token offered).PlacesAt id token := by
  intro later isLater
  rw [node?_given, if_pos ⟨rfl, rfl⟩] at isLater
  rcases Option.map_eq_some_iff.1 isLater with ⟨node, present, rfl⟩
  apply (places node present).of_kept
  exact fun _ _ object found _ present _ =>
    (furnishes_given server id token offered).kept room object found present

theorem PlacesAt.assignNode (places : server.PlacesAt id token)
    (room : (server.assignNode other node).Room) :
    (server.assignNode other node).PlacesAt id token := by
  by_cases due : server.Due other node
  case neg => rwa [assignNode_of_not_due due]
  case pos =>
    by_cases own : (id, token) = (other, node)
    · cases own
      rcases due with ⟨allowed, offered, present, active, unassigned⟩
      rw [assignNode_of_due allowed present active unassigned] at room ⊢
      have before := (furnishes_publishPorts (server.given id token offered) id token).room room
      exact (places.given before).publishPorts room
    · intro later isLater
      rw [node?_assignNode server other node own] at isLater
      apply (places later isLater).of_kept
      exact fun _ _ object found _ present _ =>
        (furnishes_assignNode server other node).kept room object found present

theorem PlacesAt.assignAll (places : server.PlacesAt id token)
    {nodes : List (ConnectionId × NodeToken)} (room : (server.assignAll nodes).Room) :
    (server.assignAll nodes).PlacesAt id token := by
  induction nodes generalizing server with
  | nil => exact places
  | cons node rest ih =>
      rw [assignAll_cons] at room ⊢
      have between := (furnishes_assignAll (server.assignNode node.1 node.2) rest).room room
      exact ih (places.assignNode between) room

/-! ## The node's own requests -/

theorem node?_extendObject (server : Server) (object : ObjectId) (props : Properties) :
    (server.extendObject object props).node? id token = server.node? id token := by
  simp only [extendObject]
  split
  · rfl
  · rw [node?_sendInfo]
    rfl

theorem node?_updatePort (server : Server) (other : ConnectionId) (node : NodeToken)
    (port : PortToken) (props : Properties) :
    (server.updatePort other node port props).node? id token =
      if id = other ∧ token = node then (server.node? id token).map (.updatePort port props)
      else server.node? id token := by
  cases present : server.node? other node with
  | none =>
      have same : server.updatePort other node port props = server := by
        simp [updatePort, present]
      rw [same]
      split
      case isTrue own => rw [own.1, own.2, present, Option.map_none]
      case isFalse => rfl
  | some offered =>
      cases isFound : offered.ports.find? (·.token = port) with
      | none =>
          have same : server.updatePort other node port props = server := by
            simp [updatePort, present, isFound]
          rw [same]
          split
          case isTrue own =>
            rw [own.1, own.2, present, Option.map_some, OfferedNode.updatePort_of_absent isFound]
          case isFalse => rfl
      | some found =>
          have written : (server.updatePort other node port props).node? id token =
              (server.updateNode other node fun former =>
                { former with
                  ports := former.ports.modify (offered.ports.findIdx (·.token = port)) fun port =>
                    { port with props := port.props.extend props } }).node? id token := by
            simp only [updatePort, present, isFound]
            split
            · rfl
            · rw [node?_extendObject]
          rw [written, node?_updateNode]
          split
          case isTrue own =>
            rw [own.1, own.2, present]
            rfl
          case isFalse => rfl

theorem node?_removePort (server : Server) (other : ConnectionId) (node : NodeToken)
    (port : PortToken) :
    (server.removePort other node port).node? id token =
      if id = other ∧ token = node then (server.node? id token).map (.removePort port)
      else server.node? id token := by
  cases present : server.node? other node with
  | none =>
      have same : server.removePort other node port = server := by
        simp [removePort, present]
      rw [same]
      split
      case isTrue own => rw [own.1, own.2, present, Option.map_none]
      case isFalse => rfl
  | some offered =>
      cases isFound : offered.ports.find? (·.token = port) with
      | none =>
          have same : server.removePort other node port = server := by
            simp [removePort, present, isFound]
          rw [same]
          split
          case isTrue own =>
            rw [own.1, own.2, present, Option.map_some, OfferedNode.removePort_of_absent isFound]
          case isFalse => rfl
      | some found =>
          simp only [removePort, present, isFound, node?_removeObjects, node?_updateNode]
          rfl

/-- An update does not touch the indices, if it does not claim to. -/
theorem PlacesAt.updatePort (places : server.PlacesAt id token) (port : PortToken)
    {props : Properties} (names : props.get? Key.portIndex = none) :
    (server.updatePort id token port props).PlacesAt id token := by
  intro later isLater position shown object isPort published
  rw [node?_updatePort, if_pos ⟨rfl, rfl⟩] at isLater
  rcases Option.map_eq_some_iff.1 isLater with ⟨offered, present, rfl⟩
  simp only [OfferedNode.updatePort, List.getElem?_modify] at isPort
  rcases Option.map_eq_some_iff.1 isPort with ⟨former, isFormer, same⟩
  have stillPublished : former.published = some object := by
    rw [← published, ← same]
    split <;> rfl
  rcases places offered present position former object isFormer stillPublished with
    ⟨found, isThere, isPortObject, owned, index⟩
  rw [get?_updatePort, isThere]
  split
  · refine ⟨_, rfl, isPortObject, owned, ?_⟩
    rw [Properties.get?_extend, names, Option.none_or, index]
  · exact ⟨found, rfl, isPortObject, owned, index⟩

/-- The other ports keep their positions, if none is shown that stands behind the removed one. -/
theorem getElem?_removePort {offered : OfferedNode} {port : PortToken}
    (last : ∀ hidden ∈ offered.behind port, hidden.published = none)
    {position : Nat} {shown : OfferedPort} {object : ObjectId}
    (isPort : (offered.removePort port).ports[position]? = some shown)
    (published : shown.published = some object) :
    offered.ports[position]? = some shown ∧
      position ≠ offered.ports.findIdx (·.token = port) := by
  simp only [OfferedNode.removePort, List.eraseP_eq_eraseIdx] at isPort
  split at isPort
  case h_1 absent =>
    rw [List.findIdx?_eq_none_iff] at absent
    have beyond := List.findIdx_eq_length_of_false absent
    rw [beyond]
    exact ⟨isPort, Nat.ne_of_lt (List.getElem?_eq_some_iff.1 isPort).1⟩
  case h_2 index found =>
    rw [List.findIdx?_eq_some_iff_findIdx_eq] at found
    rw [found.2]
    rw [List.getElem?_eraseIdx] at isPort
    split at isPort
    case isTrue before => exact ⟨isPort, Nat.ne_of_lt before⟩
    case isFalse upTo =>
      have isBehind : shown ∈ offered.behind port := by
        apply List.mem_of_getElem? (i := position - index)
        rw [OfferedNode.behind, found.2, List.getElem?_drop, ← isPort]
        congr 1
        omega
      rw [last shown isBehind] at published
      cases published

theorem PlacesAt.removePort (places : server.PlacesAt id token) {port : PortToken}
    (last : ∀ node, server.node? id token = some node →
      ∀ hidden ∈ node.behind port, hidden.published = none) :
    (server.removePort id token port).PlacesAt id token := by
  intro later isLater position shown object isPort published
  rw [node?_removePort, if_pos ⟨rfl, rfl⟩] at isLater
  rcases Option.map_eq_some_iff.1 isLater with ⟨offered, present, rfl⟩
  rcases getElem?_removePort (last offered present) isPort published with ⟨isFormer, apart⟩
  rcases places offered present position shown object isFormer published with
    ⟨found, isThere, isPortObject, owned, index⟩
  refine ⟨found, ?_, isPortObject, owned, index⟩
  rw [get?_removePort, if_neg, isThere]
  -- The object of the port that goes has another index.
  intro removed
  simp only [publishedBy, present, Option.bind_some, List.find?_eq_getElem?_findIdx] at removed
  split at removed
  case h_1 gone isGone =>
    rcases places offered present _ gone object isGone (by simpa using removed) with
      ⟨same, isSame, -, -, otherIndex⟩
    cases isThere.symm.trans isSame
    exact apart (Text.decimal_injective (Option.some.inj (index.symm.trans otherIndex)))
  case h_2 => cases removed

/-! ## What leaves the node's ports alone -/

/-- The node has the ports that it had, and their objects are kept, or it has no ports. -/
def Leaves (id : ConnectionId) (token : NodeToken) (before after : Server) : Prop :=
  ∀ later, after.node? id token = some later → later.ports = [] ∨
    ∃ node, before.node? id token = some node ∧ later.ports = node.ports ∧
      KeepsShown id node.ports before after

theorem PlacesAt.of_leaves (places : before.PlacesAt id token)
    (leaves : Leaves id token before after) : after.PlacesAt id token := by
  intro later isLater
  rcases leaves later isLater with none | ⟨node, present, same, keeps⟩
  · rw [none]
    intro position port object isPort
    cases isPort
  · rw [same]
    exact (places node present).of_kept keeps

theorem leaves_of_same (nodes : after.node? id token = before.node? id token)
    (objects : ∀ object found, before.objects.get? object = some found →
      after.objects.get? object = some found) : Leaves id token before after := by
  intro later isLater
  rw [nodes] at isLater
  exact .inr ⟨later, isLater, rfl, fun _ _ object found _ present _ => objects object found present⟩

theorem leaves_of_gone (gone : after.node? id token = none) : Leaves id token before after := by
  intro later isLater
  rw [gone] at isLater
  cases isLater

/-- Objects that show no ports of the node may be lost or changed. -/
theorem leaves_of_changed {changed : List ObjectId}
    (nodes : after.node? id token = before.node? id token)
    (spares : ∀ node, before.node? id token = some node → ∀ port ∈ node.ports, ∀ object,
      port.published = some object → object ∉ changed)
    (objects : ∀ object found, object ∉ changed → before.objects.get? object = some found →
      found.owner = some id → after.objects.get? object = some found) :
    Leaves id token before after := by
  intro later isLater
  rw [nodes] at isLater
  refine .inr ⟨later, isLater, rfl, fun port member object found published present owned => ?_⟩
  exact objects object found (spares later isLater port member object published) present owned

theorem node?_createByFactory (server : Server) (other : ConnectionId) (factory : String)
    (kind : ObjectKind) (props : Properties) :
    (server.createByFactory other factory kind props).2.node? id token =
      server.node? id token := by
  simp only [createByFactory, createLink]
  split
  · split
    · split
      case h_1 => rw [node?_createObject]
      case h_2 connection connected =>
        rw [← node?_createObject server id token { kind := .link, props, owner := some other }]
        exact node?_setConnection connected rfl
    · rfl
  · rfl

theorem node?_addPort (server : Server) (direction : Direction) (props : Properties)
    (apart : ¬(id = other ∧ token = node)) :
    (server.addPort other node direction props).2.node? id token = server.node? id token := by
  simp only [addPort]
  split
  case h_1 => rfl
  case h_2 connection connected =>
    have counted : (server.setConnection other connection.takeHandle.2).node? id token =
        server.node? id token := node?_setConnection connected rfl
    split
    case h_1 => exact counted
    case h_2 =>
      rw [node?_publishPorts _ other node (apart ∘ Prod.mk.inj), node?_updateNode, if_neg apart,
        counted]

theorem node?_activateNode (server : Server) (apart : ¬(id = other ∧ token = node)) :
    (server.activateNode other node).2.node? id token = server.node? id token := by
  simp only [activateNode]
  split
  case h_1 => rfl
  case h_2 =>
    split
    case h_1 => rfl
    case h_2 =>
      rw [node?_assignNode _ other node (apart ∘ Prod.mk.inj), node?_updateNode, if_neg apart]

theorem furnishes_setConnection {connection later : Connection}
    (connected : server.connections.get? other = some connection)
    (nodes : later.nodes = connection.nodes) :
    Furnishes server (server.setConnection other later) :=
  furnishes_of_nodes rfl rfl fun id token => by
    rw [nodeId?, nodeId?, node?_setConnection connected nodes]

theorem furnishes_createByFactory (server : Server) (other : ConnectionId) (factory : String)
    (kind : ObjectKind) (props : Properties) :
    Furnishes server (server.createByFactory other factory kind props).2 := by
  simp only [createByFactory, createLink]
  split
  · split
    · have created := furnishes_createObject server { kind := .link, props, owner := some other }
      split
      case h_1 => exact created
      case h_2 connection connected => exact created.trans (furnishes_setConnection connected rfl)
    · exact .refl server
  · exact .refl server

theorem furnishes_addPort (server : Server) (other : ConnectionId) (node : NodeToken)
    (direction : Direction) (props : Properties) :
    Furnishes server (server.addPort other node direction props).2 := by
  simp only [addPort]
  split
  case h_1 => exact .refl server
  case h_2 connection connected =>
    have counted : Furnishes server (server.setConnection other connection.takeHandle.2) :=
      furnishes_setConnection connected rfl
    split
    case h_1 => exact counted
    case h_2 =>
      apply counted.trans
      apply Furnishes.trans _ (furnishes_publishPorts _ other node)
      exact furnishes_updateNode _ other node fun _ => rfl

theorem leaves_of_arranges (arranges : Arranges other before after) :
    Leaves id token before after :=
  leaves_of_same (arranges.node? id token) fun _ _ present => arranges.objects ▸ present

/-- What is added takes the place of nothing, as long as there are ids left. -/
theorem leaves_of_furnishes (furnishes : Furnishes before after) (room : after.Room)
    (nodes : after.node? id token = before.node? id token) : Leaves id token before after :=
  leaves_of_same nodes (furnishes.kept room)

theorem leaves_createNode (server : Server) (other : ConnectionId) (props : Properties) :
    Leaves id token server (server.createNode other props).2 := by
  intro later isLater
  have objects : (server.createNode other props).2.objects = server.objects := by
    simp only [createNode]
    split <;> rfl
  rw [node?_createNode] at isLater
  split at isLater
  case isTrue =>
    cases isLater
    exact .inl rfl
  case isFalse =>
    refine .inr ⟨later, isLater, rfl, fun _ _ object found _ present _ => ?_⟩
    rw [objects, present]

theorem leaves_destroyNode (spares : ∀ former, server.node? id token = some former →
      ∀ port ∈ former.ports, ∀ object, port.published = some object →
        object ∉ server.shownBy other node) :
    Leaves id token server (server.destroyNode other node) := by
  by_cases own : id = other ∧ token = node
  · apply leaves_of_gone
    rw [node?_destroyNode, if_pos own]
  · refine leaves_of_changed ?_ spares fun object found unnamed present _ => ?_
    · rw [node?_destroyNode, if_neg own]
    · rw [get?_destroyNode, if_neg unnamed, present]

theorem leaves_disconnect (spares : ∀ former, server.node? id token = some former →
      ∀ port ∈ former.ports, ∀ object, port.published = some object →
        object ∉ server.allShownBy other) :
    Leaves id token server (server.disconnect other) := by
  by_cases own : id = other
  · apply leaves_of_gone
    simp only [node?, own, get?_disconnect, Option.bind_none]
  · cases connected : server.connections.get? other with
    | none =>
        rw [disconnect, dropConnection_of_absent connected]
        exact leaves_of_same rfl fun _ _ present => present
    | some connection =>
        rcases departs_disconnect connected with ⟨gone, departs, -⟩
        refine leaves_of_changed ?_ spares fun object found unnamed present owned => ?_
        · rw [node?_of_dropped departs, if_neg own]
        · have foreign : found.owner ≠ some other := by
            rw [owned]
            exact fun same => own (Option.some.inj same)
          have kept := get?_dropConnection present foreign
          rwa [if_neg unnamed] at kept

/-- A request of anybody leaves the node alone, unless it attends to it or to what shows its ports. -/
theorem leaves_answer (request : Request) (room : (answer other request server).2.Room)
    (elsewhere : other = id → ¬request.Attends token)
    (spares : ∀ node, server.node? id token = some node → ∀ port ∈ node.ports, ∀ object,
      port.published = some object → object ∉ server.named other request) :
    Leaves id token server (answer other request server).2 := by
  have apart : ∀ {node : NodeToken}, request.Attends node → ¬(id = other ∧ token = node) := by
    rintro node attends ⟨rfl, rfl⟩
    exact elsewhere rfl attends
  cases request with
  | subscribeGlobals | unsubscribeGlobals | bindObject | subscribeInfo | sync | drive =>
      exact leaves_of_arranges (arranges_answer server other rfl)
  | destroyProxy proxy =>
      refine leaves_of_changed (node?_destroyProxy server other proxy) spares ?_
      intro object found (unnamed : object ∉ server.heldBy other proxy) present _
      rw [answer, get?_destroyProxy, if_neg unnamed, present]
  | createObject factory kind props =>
      exact leaves_of_furnishes (furnishes_createByFactory server other factory kind props) room
        (node?_createByFactory server other factory kind props)
  | createNode props => exact leaves_createNode server other props
  | addPort node direction props =>
      exact leaves_of_furnishes (furnishes_addPort server other node direction props) room
        (node?_addPort server direction props (apart (.addPort direction props)))
  | updatePort node port props =>
      refine leaves_of_changed ?_ spares ?_
      · rw [answer, node?_updatePort, if_neg (apart (.updatePort port props))]
      · intro object found (unnamed : object ∉ server.publishedBy other node port) present _
        rw [answer, get?_updatePort, if_neg unnamed, present]
  | removePort node port =>
      refine leaves_of_changed ?_ spares ?_
      · rw [answer, node?_removePort, if_neg (apart (.removePort port))]
      · intro object found (unnamed : object ∉ server.publishedBy other node port) present _
        rw [answer, get?_removePort, if_neg unnamed, present]
  | activateNode node =>
      exact leaves_of_furnishes (furnishes_activateNode server other node) room
        (node?_activateNode server (apart .activateNode))
  | destroyNode node => exact leaves_destroyNode spares
  | disconnect => exact leaves_disconnect spares

/-! ## Steps and runs -/

theorem PlacesAt.addPort (places : server.PlacesAt id token) (direction : Direction)
    (props : Properties) (room : (server.addPort id token direction props).2.Room) :
    (server.addPort id token direction props).2.PlacesAt id token := by
  simp only [Server.addPort] at room ⊢
  split
  case h_1 => exact places
  case h_2 connection connected =>
    simp only [connected] at room
    have counted : (server.setConnection id connection.takeHandle.2).node? id token =
        server.node? id token := node?_setConnection connected rfl
    split
    case h_1 =>
      intro node present
      rw [counted] at present
      exact places node present
    case h_2 offered isOffered =>
      simp only [isOffered] at room
      apply PlacesAt.publishPorts _ room
      intro later isLater position port object isPort published
      rw [node?_updateNode, if_pos ⟨rfl, rfl⟩, counted] at isLater
      rcases Option.map_eq_some_iff.1 isLater with ⟨node, present, rfl⟩
      rw [List.getElem?_append] at isPort
      split at isPort
      case isTrue => exact places node present position port object isPort published
      case isFalse =>
        have isNew := List.mem_singleton.1 (List.mem_of_getElem? isPort)
        rw [isNew] at published
        cases published

theorem PlacesAt.activateNode (places : server.PlacesAt id token)
    (room : (server.activateNode id token).2.Room) :
    (server.activateNode id token).2.PlacesAt id token := by
  simp only [Server.activateNode] at room ⊢
  split
  case h_1 => exact places
  case h_2 connection connected =>
    simp only [connected] at room
    split
    case h_1 => exact places
    case h_2 offered isOffered =>
      simp only [isOffered] at room
      apply PlacesAt.assignNode _ room
      intro later isLater
      rw [node?_updateNode, if_pos ⟨rfl, rfl⟩] at isLater
      rcases Option.map_eq_some_iff.1 isLater with ⟨node, present, rfl⟩
      exact places node present

/-- The objects that a step removes, replaces or writes on, by the ids that it is given or finds. -/
def Step.names (server : Server) : Step → List ObjectId
  | .inject (.addObjectAt object _ _) | .inject (.replaceProperties object _)
  | .inject (.takeObject object) => [object]
  | .ask id request => server.named id request
  | _ => []

/--
A step is gentle to a node if it renames one of its ports without touching the index, takes the last
of the ports that are shown, ends the node, or acts on no object by which a port of the node is
shown.
-/
inductive Step.Gentle (id : ConnectionId) (token : NodeToken) (server : Server) : Step → Prop
  | rename (port : PortToken) {props : Properties} (index : props.get? Key.portIndex = none) :
      Gentle id token server (.ask id (.updatePort token port props))
  | takeLast {port : PortToken} (last : ∀ node, server.node? id token = some node →
      ∀ hidden ∈ node.behind port, hidden.published = none) :
      Gentle id token server (.ask id (.removePort token port))
  | ending {step : Step} (ends : step.Ends id token) : Gentle id token server step
  | apart {step : Step} (updates : ∀ port props, step ≠ .ask id (.updatePort token port props))
      (removes : ∀ port, step ≠ .ask id (.removePort token port))
      (spares : ∀ node, server.node? id token = some node → ∀ port ∈ node.ports, ∀ object,
        port.published = some object → object ∉ step.names server) : Gentle id token server step

theorem PlacesAt.inject (places : server.PlacesAt id token) {injection : Injection}
    (room : (server.inject injection).Room)
    (spares : ∀ node, server.node? id token = some node → ∀ port ∈ node.ports, ∀ object,
      port.published = some object → object ∉ Step.names server (.inject injection)) :
    (server.inject injection).PlacesAt id token := by
  cases injection with
  | addObject kind props =>
      apply places.of_leaves
      apply leaves_of_same (node?_createObject server id token _)
      exact (furnishes_createObject server _).kept room
  | addObjectAt object kind props =>
      apply places.of_leaves
      refine leaves_of_changed ?_ spares fun other found apart present _ => ?_
      · simp only [Server.inject, addObjectAt]
        split
        · rfl
        · rw [node?_insertObject]
      · have differs : other ≠ object := fun same => apart (List.mem_singleton.2 same)
        simp only [Server.inject, addObjectAt]
        split
        · exact present
        · rw [get?_insertObject, if_neg differs, present]
  | replaceProperties object props =>
      apply places.of_leaves
      refine leaves_of_changed ?_ spares fun other found apart present _ => ?_
      · simp only [Server.inject, replaceProperties]
        split
        · rfl
        · split
          · rw [node?_sendInfo]
            rfl
          · rfl
      · have differs : other ≠ object := fun same => apart (List.mem_singleton.2 same)
        simp only [Server.inject, replaceProperties]
        split
        · exact present
        · split
          · rw [objects_sendInfo, Table.get?_insert, if_neg differs, present]
          · exact present
  | takeObject object =>
      apply places.of_leaves
      refine leaves_of_changed (node?_removeObject server object id token) spares ?_
      intro other found apart present _
      have differs : other ≠ object := fun same => apart (List.mem_singleton.2 same)
      simp only [Server.inject, takeObject, get?_removeObject, differs, if_false, present]
  | assignPending => exact places.assignAll room
  | disconnectAll =>
      apply places.of_leaves
      apply leaves_of_gone
      simp only [Server.inject, node?, gone_disconnectAll, Option.bind_none]
  | setPolicy change => exact places

theorem PlacesAt.perform (places : server.PlacesAt id token) {step : Step}
    (room : (server.perform step).Room) (gentle : step.Gentle id token server) :
    (server.perform step).PlacesAt id token := by
  cases gentle with
  | rename port index => exact places.updatePort port index
  | takeLast last => exact places.removePort last
  | ending ends =>
      apply places.of_leaves
      apply leaves_of_gone
      rcases ends with rfl | rfl | rfl
      · simp only [Server.perform, answer, node?_destroyNode, and_self, if_true]
      · simp only [Server.perform, answer, node?, get?_disconnect, Option.bind_none]
      · simp only [Server.perform, Server.inject, node?, gone_disconnectAll, Option.bind_none]
  | apart updates removes spares =>
      cases step with
      | setUp | takeDown => exact places
      | inject injection => exact places.inject room spares
      | connect config =>
          simp only [Server.perform, Server.connect]
          split
          · exact places
          · intro node present
            by_cases isNew : id = server.lastConnection + 1
            · simp [node?, setConnection, isNew] at present
            · exact places node (by simpa [node?, setConnection, isNew] using present)
      | ask other request =>
          by_cases own : other = id ∧ request.Attends token
          · rcases own with ⟨rfl, attends⟩
            cases attends with
            | addPort direction props => exact places.addPort direction props room
            | updatePort port props => exact absurd rfl (updates port props)
            | removePort port => exact absurd rfl (removes port)
            | activateNode => exact places.activateNode room
          · apply places.of_leaves
            exact leaves_answer request room (fun same attends => own ⟨same, attends⟩) spares

/-- Each step of the run is gentle to the node, at the state that it meets. -/
def GentleRun (id : ConnectionId) (token : NodeToken) (server : Server) : List Step → Prop
  | [] => True
  | step :: rest => step.Gentle id token server ∧ GentleRun id token (server.perform step) rest

theorem PlacesAt.run {steps : List Step} (places : server.PlacesAt id token)
    (room : Throughout Room server steps) (gentle : GentleRun id token server steps) :
    (server.run steps).PlacesAt id token := by
  induction steps generalizing server with
  | nil => exact places
  | cons step rest ih =>
      rw [← List.singleton_append] at room
      rcases room.of_append with ⟨first, later⟩
      exact ih (places.perform first.last gentle.1) later gentle.2

/--
In every run that is gentle to a node: each port of the node that is shown has its position for its
index, so no two of them have the same.
-/
theorem port_indices_distinct (steps : List Step) (id : ConnectionId) (token : NodeToken)
    (room : Throughout Room {} steps) (gentle : GentleRun id token {} steps) :
    ∀ node, (run {} steps).node? id token = some node →
      (run {} steps).Places id node.ports ∧
      node.ports.Pairwise fun first second => first.published.isSome → second.published.isSome →
        (run {} steps).portIndex? first ≠ (run {} steps).portIndex? second := by
  intro node present
  have places : (run {} steps).PlacesAt id token := PlacesAt.run nofun room gentle
  exact ⟨places node present, (places node present).distinct⟩

/-- A node gets its id late; a port of it is renamed and removed, and another takes its place. -/
def replacing : List Step :=
  [.connect .standard, .ask 1 (.createNode .empty), .ask 1 (.addPort 1 .input .empty),
    .ask 1 (.addPort 1 .output .empty), .ask 1 (.activateNode 1),
    .ask 1 (.updatePort 1 3 (.ofList [(Key.portName, "through")])), .ask 1 (.removePort 1 3),
    .inject (.addObject .port .empty), .ask 1 (.addPort 1 .input .empty)]

theorem port_indices_distinct_replacing :
    ∃ node first second, (run {} replacing).node? 1 1 = some node ∧ node.ports = [first, second] ∧
      first.published = some 33 ∧ second.published = some 36 ∧
      (run {} replacing).portIndex? first ≠ (run {} replacing).portIndex? second := by
  have limits : ∀ early ∈ replacing.inits, (run {} early).objects.get? 100 = none := by
    decide +kernel
  have room : Throughout Room {} replacing := fun early isEarly =>
    ⟨100, by decide, by decide, limits early ((List.mem_inits _ _).2 isEarly)⟩
  have apart : ∀ {server : Server} {step : Step}, step.names server = [] →
      (∀ port props, step ≠ .ask 1 (.updatePort 1 port props)) →
      (∀ port, step ≠ .ask 1 (.removePort 1 port)) → step.Gentle 1 1 server := by
    intro server step nothing updates removes
    refine .apart updates removes fun _ _ _ _ _ _ => ?_
    rw [nothing]
    exact List.not_mem_nil
  have behind : ((run {} (replacing.take 6)).node? 1 1).map (OfferedNode.behind 3) = some [] := by
    decide +kernel
  have gentle : GentleRun 1 1 {} replacing := by
    refine ⟨apart rfl nofun nofun, apart rfl nofun nofun, apart rfl nofun nofun,
      apart rfl nofun nofun, apart rfl nofun nofun, .rename 3 (by decide), .takeLast ?_,
      apart rfl nofun nofun, apart rfl nofun nofun, trivial⟩
    intro node present hidden member
    have same := behind.symm.trans (congrArg (Option.map (OfferedNode.behind 3)) present)
    rw [← Option.some.inj same] at member
    cases member
  have probe : ((run {} replacing).node? 1 1).map (fun node => node.ports.map (·.published)) =
      some [some 33, some 36] := by decide +kernel
  rcases Option.map_eq_some_iff.1 probe with ⟨node, present, shown⟩
  rcases List.map_eq_cons_iff.1 shown with ⟨first, rest, ports, isFirst, shownRest⟩
  rcases List.map_eq_cons_iff.1 shownRest with ⟨second, none, restPorts, isSecond, shownNone⟩
  cases List.map_eq_nil_iff.1 shownNone
  subst restPorts
  have distinct := (port_indices_distinct replacing 1 1 room gentle node present).2
  rw [ports, List.pairwise_cons] at distinct
  refine ⟨node, first, second, present, ports, isFirst, isSecond, ?_⟩
  exact distinct.1 second (by simp) (by simp [isFirst]) (by simp [isSecond])

/-- The first of two shown ports is removed, and another one is added. -/
def movingUp : List Step :=
  [.connect .standard, .ask 1 (.createNode .empty), .ask 1 (.activateNode 1),
    .ask 1 (.addPort 1 .input .empty), .ask 1 (.addPort 1 .input .empty),
    .ask 1 (.removePort 1 2), .ask 1 (.addPort 1 .input .empty)]

/-- The new port is given the index of the one that has moved up. -/
theorem not_distinct_after_removal :
    ¬∀ node, (run {} movingUp).node? 1 1 = some node →
      node.ports.Pairwise fun first second => first.published.isSome → second.published.isSome →
        (run {} movingUp).portIndex? first ≠ (run {} movingUp).portIndex? second := by
  intro distinct
  have probe : ((run {} movingUp).node? 1 1).map (fun node => node.ports.map fun port =>
        (port.published.isSome, (run {} movingUp).portIndex? port)) =
      some [(true, some "1"), (true, some "1")] := by decide +kernel
  rcases Option.map_eq_some_iff.1 probe with ⟨node, present, shown⟩
  rcases List.map_eq_cons_iff.1 shown with ⟨first, rest, ports, isFirst, shownRest⟩
  rcases List.map_eq_cons_iff.1 shownRest with ⟨second, none, restPorts, isSecond, -⟩
  subst restPorts
  have pairs := distinct node present
  rw [ports, List.pairwise_cons] at pairs
  have apart := pairs.1 second List.mem_cons_self (congrArg Prod.fst isFirst)
    (congrArg Prod.fst isSecond)
  exact apart ((congrArg Prod.snd isFirst).trans (congrArg Prod.snd isSecond).symm)

end Server

end MediaGraph
