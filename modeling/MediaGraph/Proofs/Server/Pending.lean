import MediaGraph.Proofs.Server.Allocation
import MediaGraph.Proofs.Server.Tenure
import Mathlib.Data.List.Infix

/-!
# Catching up on assignments

When the server catches up, it walks over all nodes and gives an id to each that is due. As long as
it has ids to give out, the objects that it adds take the place of no others
(`Server.Furnishes`), so what was given and published early in the walk is still there in the end.
A node that is not due is passed over, and after the walk none is due. In which order the walk goes
makes no difference to this, as long as it comes to every node.
-/

namespace MediaGraph

namespace OfferedPort

/-- What a port is shown with says whose port it is and which way it runs. -/
theorem shown_parsed (port : OfferedPort) (node object : ObjectId) (index : Nat) :
    (Port.ofProperties object (port.shownProperties node index)).nodeId? = .ok (some node) ∧
      (Port.ofProperties object (port.shownProperties node index)).direction = port.direction := by
  have owner : (port.shownProperties node index).text Key.nodeId = Text.decimal node.toNat := by
    simp [shownProperties, Properties.text, Key.nodeId, Key.portDirection, Key.portIndex]
  have direction : (port.shownProperties node index).text Key.portDirection =
      port.direction.property := by
    simp [shownProperties, Properties.text, Key.portDirection, Key.portIndex]
  have written : Text.decimal node.toNat ≠ "" := by
    simp [Text.decimal, Nat.toDigits_ne_nil]
  simp [Port.nodeId?, Port.ofProperties, owner, direction, written, Text.readWord?_decimal]

end OfferedPort

namespace Server

variable {id other : ConnectionId} {token node : NodeToken} {before middle after server : Server}

/-- There is an id left to give out. -/
def Room (server : Server) : Prop :=
  ∃ id, firstObjectId ≤ id ∧ id < unassigned ∧ server.objects.get? id = none

/-! ## Adding objects -/

/-- Objects are added, and those that are ids are no reserved ones. -/
structure Furnishes (before after : Server) : Prop where
  grows : ∀ object, after.objects.get? object = none → before.objects.get? object = none
  kept : after.Room → ∀ object found, before.objects.get? object = some found →
    after.objects.get? object = some found
  real : after.Room → ∀ id token object, after.nodeId? id token = some object →
    before.nodeId? id token = some object ∨ object ≠ unassigned
  policy : after.policy = before.policy

theorem Furnishes.room (furnishes : Furnishes before after) (room : after.Room) : before.Room := by
  rcases room with ⟨id, low, high, free⟩
  exact ⟨id, low, high, furnishes.grows id free⟩

theorem furnishes_of_nodes (objects : after.objects = before.objects)
    (policy : after.policy = before.policy)
    (nodes : ∀ id token, after.nodeId? id token = before.nodeId? id token) :
    Furnishes before after where
  grows object free := by rwa [objects] at free
  kept _ object found present := by rwa [objects]
  real _ id token object given := by
    rw [nodes] at given
    exact .inl given
  policy := policy

theorem Furnishes.refl (server : Server) : Furnishes server server :=
  furnishes_of_nodes rfl rfl fun _ _ => rfl

theorem Furnishes.trans (start : Furnishes before middle) (rest : Furnishes middle after) :
    Furnishes before after where
  grows object free := start.grows object (rest.grows object free)
  kept room object found present :=
    rest.kept room object found (start.kept (rest.room room) object found present)
  real room id token object given := by
    rcases rest.real room id token object given with former | isReal
    · exact start.real (rest.room room) id token object former
    · exact .inr isReal
  policy := rest.policy.trans start.policy

theorem policy_insertObject (server : Server) (object : ObjectId) (added : Object) :
    (server.insertObject object added).policy = server.policy := by
  simp only [insertObject]
  split <;> split <;> rfl

theorem get?_createObject (server : Server) (added : Object) (object : ObjectId) :
    (server.createObject added).2.objects.get? object =
      if object = server.allocateId.1 then some added else server.objects.get? object := by
  simp only [createObject, get?_insertObject]
  rfl

theorem furnishes_createObject (server : Server) (added : Object) :
    Furnishes server (server.createObject added).2 := by
  have grows : ∀ object, (server.createObject added).2.objects.get? object = none →
      server.objects.get? object = none := by
    intro object free
    rw [get?_createObject] at free
    split at free
    · cases free
    · exact free
  refine ⟨grows, ?_, ?_, policy_insertObject _ _ _⟩
  · rintro ⟨free, low, high, isFree⟩ object found present
    have isNew := (get?_allocateId server ⟨free, low, high, grows free isFree⟩).1
    rw [get?_createObject]
    split
    case isTrue same =>
      rw [same, isNew] at present
      cases present
    case isFalse => exact present
  · intro _ id token object given
    rw [nodeId?, node?_createObject, ← nodeId?] at given
    exact .inl given

theorem nodeId?_updateNode {change : OfferedNode → OfferedNode}
    (same : ∀ node, (change node).nodeId = node.nodeId) (server : Server)
    (id other : ConnectionId) (token node : NodeToken) :
    (server.updateNode id token change).nodeId? other node = server.nodeId? other node := by
  rw [nodeId?, nodeId?, node?_updateNode]
  split
  · cases server.node? other node with
    | none => rfl
    | some offered => exact same offered
  · rfl

theorem furnishes_updateNode (server : Server) (id : ConnectionId) (token : NodeToken)
    {change : OfferedNode → OfferedNode} (same : ∀ node, (change node).nodeId = node.nodeId) :
    Furnishes server (server.updateNode id token change) :=
  furnishes_of_nodes rfl rfl fun other node => nodeId?_updateNode same server id other token node

theorem furnishes_publishPort (server : Server) (id : ConnectionId) (token : NodeToken)
    (entry : Nat × Properties) : Furnishes server (publishPort id token server entry) := by
  apply (furnishes_createObject server { kind := .port, props := entry.2, owner := some id }).trans
  exact furnishes_updateNode _ id token fun _ => rfl

theorem furnishes_publish (server : Server) (id : ConnectionId) (token : NodeToken)
    (entries : List (Nat × Properties)) :
    Furnishes server (entries.foldl (publishPort id token) server) := by
  induction entries generalizing server with
  | nil => exact .refl server
  | cons entry rest ih => exact (furnishes_publishPort server id token entry).trans (ih _)

theorem furnishes_publishPorts (server : Server) (id : ConnectionId) (token : NodeToken) :
    Furnishes server (server.publishPorts id token) := by
  simp only [publishPorts]
  split
  · split
    · exact furnishes_publish server id token _
    · exact .refl server
  · exact .refl server

theorem node?_given (server : Server) (id other : ConnectionId) (token node : NodeToken)
    (offered : OfferedNode) : (server.given id token offered).node? other node =
      if other = id ∧ node = token then
        (server.node? other node).map fun offered =>
          { offered with nodeId := some server.allocateId.1 }
      else server.node? other node := by
  simp only [given, node?_updateNode, node?_createObject]

theorem furnishes_given (server : Server) (id : ConnectionId) (token : NodeToken)
    (offered : OfferedNode) : Furnishes server (server.given id token offered) := by
  have created := furnishes_createObject server
    { kind := .node, props := offered.props, owner := some id }
  refine ⟨created.grows, created.kept, ?_, created.policy⟩
  intro room other node object isGiven
  have before : server.Room := created.room room
  rw [nodeId?, node?_given] at isGiven
  split at isGiven
  · cases present : server.node? other node with
    | none => simp [present] at isGiven
    | some former =>
        rw [present] at isGiven
        cases isGiven
        exact .inr (get?_allocateId server before).2
  · exact .inl isGiven

theorem furnishes_assignNode (server : Server) (id : ConnectionId) (token : NodeToken) :
    Furnishes server (server.assignNode id token) := by
  by_cases due : server.Due id token
  · rcases due with ⟨allowed, node, offered, active, unassigned⟩
    rw [assignNode_of_due allowed offered active unassigned]
    exact (furnishes_given server id token node).trans (furnishes_publishPorts _ id token)
  · rw [assignNode_of_not_due due]
    exact .refl server

/-! ## Publishing ports -/

/-- The ports that are listed have been published, with the properties that are listed for them. -/
structure Publishes (id : ConnectionId) (entries : List (Nat × Properties))
    (former later : OfferedNode) (server : Server) : Prop where
  nodeId : later.nodeId = former.nodeId
  offer : later.offer = former.offer
  ports : ∀ index port, later.ports[index]? = some port →
    (former.ports[index]? = some port ∧ ∀ props, (index, props) ∉ entries) ∨
      ∃ props object, (index, props) ∈ entries ∧ port.published = some object ∧
        server.objects.get? object = some { kind := .port, props, owner := some id }

theorem publishes_foldl (entries : List (Nat × Properties)) {offered : OfferedNode}
    (present : server.node? id token = some offered)
    (room : (entries.foldl (publishPort id token) server).Room) :
    ∃ later, (entries.foldl (publishPort id token) server).node? id token = some later ∧
      Publishes id entries offered later (entries.foldl (publishPort id token) server) := by
  induction entries generalizing server offered with
  | nil => exact ⟨offered, present, rfl, rfl, fun index port found => .inl ⟨found, by simp⟩⟩
  | cons entry rest ih =>
      rw [List.foldl_cons] at room ⊢
      let next : OfferedNode := { offered with ports := offered.ports.modify entry.1 fun port =>
        { port with published := some server.allocateId.1 } }
      have isNext : (publishPort id token server entry).node? id token = some next := by
        have created := node?_createObject server id token
          { kind := .port, props := entry.2, owner := some id }
        rw [present] at created
        simp only [publishPort, node?_updateNode, and_self, if_true, created, Option.map_some]
        rfl
      have added : (publishPort id token server entry).objects.get? server.allocateId.1 =
          some { kind := .port, props := entry.2, owner := some id } := by
        simp only [publishPort, objects_updateNode, get?_createObject, if_true]
      have kept := (furnishes_publish (publishPort id token server entry) id token rest).kept room
        _ _ added
      rcases ih isNext room with ⟨later, isLater, publishes⟩
      refine ⟨later, isLater, publishes.nodeId, ?_, fun index port found => ?_⟩
      · rw [publishes.offer]
        simp only [OfferedNode.offer, next, OfferedPort.offers_modify]
      · rcases publishes.ports index port found with ⟨isFormer, unlisted⟩ | ⟨props, object, listed,
          published, shown⟩
        · simp only [next, List.getElem?_modify] at isFormer
          split at isFormer
          case isTrue here =>
            subst here
            rcases Option.map_eq_some_iff.1 isFormer with ⟨former, -, rfl⟩
            exact .inr ⟨entry.2, _, List.mem_cons_self, rfl, kept⟩
          case isFalse elsewhere =>
            refine .inl ⟨by simpa using isFormer, fun props member => ?_⟩
            rcases List.mem_cons.1 member with same | further
            · exact elsewhere (congrArg Prod.fst same).symm
            · exact unlisted props further
        · exact .inr ⟨props, object, List.mem_cons_of_mem _ listed, published, shown⟩

theorem mem_hiddenPorts {offered : OfferedNode} {given : ObjectId}
    (isGiven : offered.nodeId = some given) {index : Nat} {props : Properties} :
    (index, props) ∈ offered.hiddenPorts ↔ ∃ port, offered.ports[index]? = some port ∧
      port.published = none ∧ props = port.shownProperties given index := by
  simp only [OfferedNode.hiddenPorts, isGiven, List.mem_filterMap, Prod.exists,
    List.mem_zipIdx_iff_getElem?, Option.ite_none_right_eq_some, Option.some.injEq, Prod.mk.injEq,
    Option.isNone_iff_eq_none]
  constructor
  · rintro ⟨port, position, found, hidden, rfl, rfl⟩
    exact ⟨port, found, hidden, rfl⟩
  · rintro ⟨port, found, hidden, rfl⟩
    exact ⟨port, index, found, hidden, rfl, rfl⟩

/-- Every port is shown by a port object that says whose port it is and which way it runs. -/
def ShowsPorts (server : Server) (offered : OfferedNode) (given : ObjectId) : Prop :=
  ∀ port ∈ offered.ports, ∃ object found, port.published = some object ∧
    server.objects.get? object = some found ∧ found.kind = .port ∧
    (Port.ofProperties object found.props).nodeId? = .ok (some given) ∧
    (Port.ofProperties object found.props).direction = port.direction

theorem Publishes.shows {former later : OfferedNode} {given : ObjectId}
    (publishes : Publishes id former.hiddenPorts former later server)
    (isGiven : former.nodeId = some given)
    (hidden : ∀ port ∈ former.ports, port.published = none) : server.ShowsPorts later given := by
  intro port member
  rcases List.getElem?_of_mem member with ⟨index, found⟩
  rcases publishes.ports index port found with ⟨isFormer, unlisted⟩ | ⟨props, object, listed,
    published, shown⟩
  · exact absurd ((mem_hiddenPorts isGiven).2
      ⟨port, isFormer, hidden port (List.mem_of_getElem? isFormer), rfl⟩) (unlisted _)
  · rcases (mem_hiddenPorts isGiven).1 listed with ⟨former, isFormer, -, rfl⟩
    have offers : port.offer = former.offer := by
      have ports := congrArg (fun node => node.ports[index]?) publishes.offer
      simp only [OfferedNode.offer, List.getElem?_map, found, isFormer, Option.map_some,
        Option.some.injEq] at ports
      exact ports
    have direction : former.offer.direction = port.offer.direction := by rw [offers]
    rcases former.shown_parsed given object index with ⟨owner, shownDirection⟩
    exact ⟨object, _, published, shown, rfl, owner, shownDirection.trans direction⟩

/-! ## One node -/

/-- Publishing the ports of a node changes no other node. -/
theorem node?_publishPorts (server : Server) (id : ConnectionId) (token : NodeToken)
    (apart : (other, node) ≠ (id, token)) :
    (server.publishPorts id token).node? other node = server.node? other node := by
  have elsewhere : ¬(other = id ∧ node = token) := fun same => apart (Prod.ext same.1 same.2)
  have walk : ∀ (entries : List (Nat × Properties)) (server : Server),
      (entries.foldl (publishPort id token) server).node? other node =
        server.node? other node := by
    intro entries
    induction entries with
    | nil => exact fun _ => rfl
    | cons entry rest ih =>
        intro server
        rw [List.foldl_cons, ih]
        simp only [publishPort, node?_updateNode, elsewhere, if_false, node?_createObject]
  simp only [publishPorts]
  split
  · split
    · exact walk _ server
    · rfl
  · rfl

/-- Assigning a node changes no other node. -/
theorem node?_assignNode (server : Server) (id : ConnectionId) (token : NodeToken)
    (apart : (other, node) ≠ (id, token)) :
    (server.assignNode id token).node? other node = server.node? other node := by
  by_cases due : server.Due id token
  · rcases due with ⟨allowed, offered, present, active, unassigned⟩
    have elsewhere : ¬(other = id ∧ node = token) := fun same => apart (Prod.ext same.1 same.2)
    rw [assignNode_of_due allowed present active unassigned, node?_publishPorts _ id token apart,
      node?_given, if_neg elsewhere]
  · rw [assignNode_of_not_due due]

/-- A node is due no longer once it has been assigned, and any other one as it was before. -/
theorem due_assignNode : (server.assignNode id token).Due other node ↔
    server.Due other node ∧ (other, node) ≠ (id, token) := by
  have policy := (furnishes_assignNode server id token).policy
  by_cases same : (other, node) = (id, token)
  · cases same
    simp only [ne_eq, not_true_eq_false, and_false, iff_false]
    by_cases due : server.Due id token
    · rcases due with ⟨allowed, offered, present, active, unassigned⟩
      have tended := (tends_given present active unassigned).trans
        (tends_publishPorts (server.given id token offered) id token)
      rw [assignNode_of_due allowed present active unassigned]
      rintro ⟨-, later, isLater, -, stillUnassigned⟩
      have isGiven := (tended.given ⟨id, token, server.allocateId.1⟩ (by simp)).2
      rw [nodeId?_of_node? isLater, stillUnassigned] at isGiven
      cases isGiven
    · rw [assignNode_of_not_due due]
      exact due
  · simp only [Due, policy, node?_assignNode server id token same, ne_eq, same, not_false_eq_true,
      and_true]

/-- If ports are published, those of a node that is given an id are. -/
theorem shows_assignNode {offered : OfferedNode} (allowed : server.policy.assignNodeIds)
    (publishes : server.policy.publishLocalPorts)
    (present : server.node? id token = some offered) (active : offered.active)
    (unassigned : offered.nodeId = none) (orderly : offered.Orderly)
    (room : (server.assignNode id token).Room) :
    ∃ later given, (server.assignNode id token).node? id token = some later ∧
      later.nodeId = some given ∧ later.offer = offered.offer ∧
      (server.assignNode id token).ShowsPorts later given := by
  let named : OfferedNode := { offered with nodeId := some server.allocateId.1 }
  have isNamed : (server.given id token offered).node? id token = some named := by
    simp only [node?_given, and_self, if_true, present, Option.map_some]
    rfl
  have stillPublishes : (server.given id token offered).policy.publishLocalPorts = true := by
    rw [(furnishes_given server id token offered).policy]
    exact publishes
  have published : server.assignNode id token =
      named.hiddenPorts.foldl (publishPort id token) (server.given id token offered) := by
    rw [assignNode_of_due allowed present active unassigned]
    simp only [publishPorts, stillPublishes, if_true, isNamed]
  rw [published] at room ⊢
  rcases publishes_foldl named.hiddenPorts isNamed room with ⟨later, isLater, listed⟩
  exact ⟨later, server.allocateId.1, isLater, listed.nodeId, listed.offer,
    listed.shows rfl (orderly.hidden unassigned)⟩

/-! ## All nodes -/

/-- What the server does to one node after the other, when it catches up. -/
def assignAll (server : Server) (nodes : List (ConnectionId × NodeToken)) : Server :=
  nodes.foldl (fun server node => server.assignNode node.1 node.2) server

variable {nodes : List (ConnectionId × NodeToken)}

theorem assignAll_cons (server : Server) (node : ConnectionId × NodeToken)
    (nodes : List (ConnectionId × NodeToken)) :
    server.assignAll (node :: nodes) = (server.assignNode node.1 node.2).assignAll nodes := rfl

theorem furnishes_assignAll (server : Server) (nodes : List (ConnectionId × NodeToken)) :
    Furnishes server (server.assignAll nodes) := by
  induction nodes generalizing server with
  | nil => exact .refl server
  | cons node rest ih => exact (furnishes_assignNode server node.1 node.2).trans (ih _)

theorem due_assignAll : (server.assignAll nodes).Due id token ↔
    server.Due id token ∧ (id, token) ∉ nodes := by
  induction nodes generalizing server with
  | nil => simp [assignAll]
  | cons node rest ih =>
      rw [assignAll_cons, ih, due_assignNode, List.mem_cons, not_or, and_assoc]

/-- A node with an id is left alone. -/
theorem node?_assignAll {offered : OfferedNode} (present : server.node? id token = some offered)
    (assigned : offered.nodeId ≠ none) :
    (server.assignAll nodes).node? id token = some offered := by
  induction nodes generalizing server with
  | nil => exact present
  | cons node rest ih =>
      rw [assignAll_cons]
      apply ih
      by_cases same : (id, token) = node
      · have settled : ¬server.Due node.1 node.2 := by
          rw [← same]
          rintro ⟨-, again, isAgain, -, unassigned⟩
          cases present.symm.trans isAgain
          exact assigned unassigned
        rw [assignNode_of_not_due settled, present]
      · rw [node?_assignNode server node.1 node.2 same, present]

theorem assignAll_of_settled (settled : ∀ node ∈ nodes, ¬server.Due node.1 node.2) :
    server.assignAll nodes = server := by
  induction nodes with
  | nil => rfl
  | cons node rest ih =>
      rw [assignAll_cons, assignNode_of_not_due (settled node List.mem_cons_self)]
      exact ih fun other member => settled other (List.mem_cons_of_mem _ member)

theorem shows_assignAll {offered : OfferedNode} (allowed : server.policy.assignNodeIds)
    (publishes : server.policy.publishLocalPorts)
    (present : server.node? id token = some offered) (active : offered.active)
    (unassigned : offered.nodeId = none) (orderly : offered.Orderly)
    (member : (id, token) ∈ nodes) (room : (server.assignAll nodes).Room) :
    ∃ later given, (server.assignAll nodes).node? id token = some later ∧
      later.nodeId = some given ∧ later.offer = offered.offer ∧
      (server.assignAll nodes).ShowsPorts later given := by
  induction nodes generalizing server with
  | nil => cases member
  | cons node rest ih =>
      have furnishes := furnishes_assignNode server node.1 node.2
      have onwards := furnishes_assignAll (server.assignNode node.1 node.2) rest
      rw [assignAll_cons] at room ⊢
      by_cases same : (id, token) = node
      · -- From its own turn on, neither the node nor what shows its ports changes.
        rcases same with rfl
        rcases shows_assignNode allowed publishes present active unassigned orderly
          (onwards.room room) with ⟨later, given, isLater, isGiven, offer, shows⟩
        refine ⟨later, given, node?_assignAll isLater (by simp [isGiven]), isGiven, offer, ?_⟩
        intro port isPort
        rcases shows port isPort with ⟨object, found, published, isFound, rest⟩
        exact ⟨object, found, published, onwards.kept room object found isFound, rest⟩
      · apply ih
        · rw [furnishes.policy]
          exact allowed
        · rw [furnishes.policy]
          exact publishes
        · rw [node?_assignNode server node.1 node.2 same, present]
        · exact List.mem_of_ne_of_mem same member
        · exact room

/-! ## Catching up -/

/-- No node has the reserved id. -/
def Genuine (server : Server) : Prop :=
  ∀ id token object, server.nodeId? id token = some object → object ≠ unassigned

theorem mem_offeredNodes : (id, token) ∈ server.offeredNodes ↔
    (server.node? id token).isSome := by
  simp only [offeredNodes, List.mem_flatMap, List.mem_map, Prod.mk.injEq, Prod.exists, node?,
    Option.isSome_bind, ← Table.get?_eq_some_iff, Table.mem_keys_iff]
  constructor
  · rintro ⟨_, connection, connected, _, offered, rfl, rfl⟩
    simpa [connected] using offered
  · intro offered
    cases connected : server.connections.get? id with
    | none => simp [connected] at offered
    | some connection =>
        rw [connected] at offered
        exact ⟨id, connection, connected, token, offered, rfl, rfl⟩

section Covering

variable (covering : server.offeredNodes ⊆ nodes)

include covering

/-- No node is due after the server has been to all of them, in whatever order. -/
theorem not_due_of_covering (id : ConnectionId) (token : NodeToken) :
    ¬(server.assignAll nodes).Due id token := by
  rw [due_assignAll]
  rintro ⟨⟨-, node, present, -⟩, absent⟩
  exact absent (covering (mem_offeredNodes.2 (by simp [present])))

/-- There is nothing left to do then, wherever the server goes once more. -/
theorem assignAll_of_covering (again : List (ConnectionId × NodeToken)) :
    (server.assignAll nodes).assignAll again = server.assignAll nodes :=
  assignAll_of_settled fun node _ => not_due_of_covering covering node.1 node.2

/-- All active nodes have ids then, if the server may assign them. -/
theorem assigned_of_covering (allowed : server.policy.assignNodeIds)
    (genuine : (server.assignAll nodes).Genuine) {offered : OfferedNode}
    (present : (server.assignAll nodes).node? id token = some offered) (active : offered.active) :
    (server.assignAll nodes).assignedId id token ≠ unassigned := by
  cases given : offered.nodeId with
  | none =>
      have policy := (furnishes_assignAll server nodes).policy
      exact absurd ⟨policy ▸ allowed, offered, present, active, given⟩
        (not_due_of_covering covering id token)
  | some object =>
      have isId : (server.assignAll nodes).nodeId? id token = some object :=
        (nodeId?_of_node? present).trans given
      rw [assignedId, ← nodeId?, isId]
      exact genuine id token object isId

end Covering

/-! ## Ids of runs -/

theorem Genuine.furnishes (genuine : before.Genuine) (furnishes : Furnishes before after)
    (room : after.Room) : after.Genuine := by
  intro id token object given
  rcases furnishes.real room id token object given with former | isReal
  · exact genuine id token object former
  · exact isReal

theorem furnishes_activateNode (server : Server) (id : ConnectionId) (token : NodeToken) :
    Furnishes server (server.activateNode id token).2 := by
  simp only [activateNode]
  split
  · exact .refl server
  · split
    · exact .refl server
    · have activated : Furnishes server
          (server.updateNode id token fun offered => { offered with active := true }) :=
        furnishes_updateNode server id token fun _ => rfl
      exact activated.trans (furnishes_assignNode _ id token)

theorem Genuine.perform (genuine : server.Genuine) (registered : server.Registered) {step : Step}
    (few : (server.perform step).Few) (room : (server.perform step).Room) :
    (server.perform step).Genuine := by
  by_cases activates : ∃ id node, step = .ask id (.activateNode node)
  · rcases activates with ⟨id, node, rfl⟩
    exact genuine.furnishes (furnishes_activateNode server id node) room
  · by_cases catchesUp : step = .inject .assignPending
    · subst catchesUp
      exact genuine.furnishes (furnishes_assignAll server server.offeredNodes) room
    · rcases takes_perform registered few with ⟨made, takes, withholds⟩
      rcases withholds ⟨activates, catchesUp⟩ with rfl
      intro id token object given
      cases former : server.nodeId? id token with
      | none => exact absurd (takes.all id token object former given) List.not_mem_nil
      | some other =>
          rcases nodeId?_eq_some_iff.1 given with ⟨later, isLater, isGiven⟩
          rcases nodeId?_eq_some_iff.1 former with ⟨node, offered, wasGiven⟩
          rcases takes.origin id token later isLater with ⟨again, isAgain, grows⟩ | fresh
          · cases offered.symm.trans isAgain
            have same : object = other :=
              Option.some.inj (isGiven.symm.trans (grows.given other wasGiven))
            exact same ▸ genuine id token other former
          · rw [fresh.1] at isGiven
            cases isGiven

/-- There are handles and ids left to give out. -/
structure Ample (server : Server) : Prop where
  few : server.Few
  room : server.Room

theorem Throughout.imp {Holds Implied : Server → Prop} {steps : List Step}
    (throughout : Throughout Holds server steps)
    (implies : ∀ server, Holds server → Implied server) :
    Throughout Implied server steps :=
  fun early isEarly => implies _ (throughout early isEarly)

theorem genuine_run {steps : List Step} (registered : server.Registered) (genuine : server.Genuine)
    (ample : Throughout Ample server steps) : (server.run steps).Genuine := by
  induction steps using List.reverseRecOn with
  | nil => exact genuine
  | append_singleton early step ih =>
      have before := ample.of_append.1
      have after := ample.last
      rw [run_append] at after ⊢
      have few := before.imp fun _ ample => ample.few
      exact (ih before).perform (registered.run few) after.few after.room

/-- What a server has done when it has caught up. -/
structure CatchesUp (server : Server) : Prop where
  assigned : server.policy.assignNodeIds → ∀ id token node,
    server.assignPending.node? id token = some node → node.active →
      server.assignPending.assignedId id token ≠ unassigned
  shown : server.policy.assignNodeIds → server.policy.publishLocalPorts → ∀ id token node,
    server.node? id token = some node → node.active → node.nodeId = none →
      ∃ later given, server.assignPending.node? id token = some later ∧
        later.nodeId = some given ∧ later.offer = node.offer ∧
        server.assignPending.ShowsPorts later given
  settled : server.assignPending.assignPending = server.assignPending

/-- What holds for a walk over the nodes in any order holds for the one that the server takes. -/
theorem catchesUp (orderly : ∀ id token node, server.node? id token = some node → node.Orderly)
    (genuine : server.assignPending.Genuine) (room : server.assignPending.Room) :
    server.CatchesUp where
  assigned allowed _ _ _ present active :=
    assigned_of_covering (List.Subset.refl _) allowed genuine present active
  shown allowed publishes id token node present active unassigned :=
    shows_assignAll allowed publishes present active unassigned (orderly id token node present)
      (mem_offeredNodes.2 (by simp [present])) room
  settled := assignAll_of_covering (List.Subset.refl _) server.assignPending.offeredNodes

/--
In every run in which there are always handles and ids left: a node that is not active has no id. An
id that a node has is its id until the node is destroyed or its connection ends, and from then on
there is none under its handle. No node is given an id twice, and whoever listens is told of one
node object for each id that is given. After the server has caught up, all active nodes have ids, if
it may assign them; if it may publish ports, those of the nodes that were due are shown as what they
are; and to catch up again changes nothing.
-/
theorem node_ids_lasting (steps : List Step) (ample : Throughout Ample {} steps) :
    (∀ id token node, (run {} steps).node? id token = some node → node.active = false →
      node.nodeId = none) ∧
    (∀ early late, steps = early ++ late → ∀ id token object, object ≠ unassigned →
      (run {} early).assignedId id token = object →
        ((∀ step ∈ late, ¬step.Ends id token) →
          (run {} steps).assignedId id token = object) ∧
        ((∃ step ∈ late, step.Ends id token) →
          (run {} steps).assignedId id token = unassigned)) ∧
    (∃ given, Chronicle {} steps given) ∧
    ∀ early late, steps = early ++ .inject .assignPending :: late → (run {} early).CatchesUp := by
  have few : Throughout Few {} steps := ample.imp fun _ ample => ample.few
  have nodeless : ∀ id token, ({} : Server).node? id token = none := fun _ _ => rfl
  have orderly : ∀ id token node, ({} : Server).node? id token = some node → node.Orderly :=
    fun id token node offered => absurd ((nodeless id token).symm.trans offered) nofun
  refine ⟨?_, ?_, ?_, ?_⟩
  · intro id token node offered
    exact (orderly_run registered_empty orderly few id token node offered).inactive
  · rintro early late rfl id token object isReal assigned
    have given : (run {} early).nodeId? id token = some object := by
      cases isGiven : (run {} early).nodeId? id token with
      | none =>
          rw [assignedId, ← nodeId?, isGiven] at assigned
          exact absurd assigned.symm isReal
      | some other =>
          rw [assignedId, ← nodeId?, isGiven] at assigned
          exact congrArg some assigned
    have tenure := nodeId?_run (registered_empty.run few.of_append.1) few.of_append.2 given
    rw [run_append]
    constructor
    · intro lasting
      rw [assignedId, ← nodeId?, tenure.1 lasting]
      rfl
    · intro ends
      rw [assignedId, (tenure.2 ends).node?]
      rfl
  · rcases exists_chronicle registered_empty few with ⟨given, chronicle, -⟩
    exact ⟨given, chronicle⟩
  · rintro early late rfl
    rw [← List.singleton_append, ← List.append_assoc] at ample few
    have upTo := ample.of_append.1
    have caughtUp : run {} (early ++ [.inject .assignPending]) = (run {} early).assignPending :=
      run_append {} early [.inject .assignPending]
    have genuine : Genuine {} := fun id token object given => by
      rw [nodeId?, nodeless] at given
      cases given
    have genuineAfter := genuine_run registered_empty genuine upTo
    have room := upTo.last.room
    rw [caughtUp] at genuineAfter room
    exact catchesUp (orderly_run registered_empty orderly few.of_append.1.of_append.1) genuineAfter
      room

/-- A node becomes active while ids are withheld, and its port claims to be another node's. -/
def awaiting : List Step :=
  [.connect .standard, .connect .standard, .ask 2 .subscribeGlobals,
    .inject (.setPolicy fun policy => { policy with assignNodeIds := false }),
    .ask 1 (.createNode .empty),
    .ask 1 (.addPort 1 .input (.ofList [(Key.nodeId, "7"), (Key.portDirection, "out")])),
    .ask 1 (.activateNode 1),
    .inject (.setPolicy fun policy => { policy with assignNodeIds := true })]

/-- What happens once the node has its id; nothing of it ends the node. -/
def meanwhile : List Step :=
  [.ask 1 (.activateNode 1), .inject (.addObject .node .empty), .ask 2 (.drive 0),
    .inject (.setPolicy fun policy => { policy with assignNodeIds := false }),
    .ask 1 (.removePort 1 2), .inject (.takeObject 32), .inject .assignPending]

theorem node_ids_lasting_awaited :
    let caughtUp := awaiting ++ [.inject .assignPending]
    let steps := caughtUp ++ meanwhile ++ [.ask 1 (.destroyNode 1)]
    Throughout Ample {} steps ∧ (run {} awaiting).assignedId 1 1 = unassigned ∧
      (run {} awaiting).CatchesUp ∧ (run {} caughtUp).assignedId 1 1 = 32 ∧
      (run {} (caughtUp ++ meanwhile)).assignedId 1 1 = 32 ∧
      (run {} steps).assignedId 1 1 = unassigned ∧ ∃ given, Chronicle {} steps given := by
  intro caughtUp steps
  have limits : ∀ early ∈ steps.inits, (run {} early).objects.get? 100 = none ∧
      ∀ connection ∈ (run {} early).connections.values, connection.handles < UInt32.size := by
    decide +kernel
  have ample : Throughout Ample {} steps := by
    intro early isEarly
    rcases limits early ((List.mem_inits _ _).2 isEarly) with ⟨free, small⟩
    refine ⟨fun id connection connected => ?_, 100, by decide, by decide, free⟩
    exact small connection ((Table.mem_values_iff _ _).2 ⟨id, connected⟩)
  have assigned : (run {} caughtUp).assignedId 1 1 = 32 := by decide +kernel
  have unending : ∀ step ∈ meanwhile, ¬step.Ends 1 1 := by
    simp [meanwhile, Step.Ends]
  have upTo := node_ids_lasting (caughtUp ++ meanwhile) ample.of_append.1
  have whole := node_ids_lasting steps ample
  refine ⟨ample, by decide +kernel, ?_, assigned, ?_, ?_, whole.2.2.1⟩
  · exact whole.2.2.2 awaiting (meanwhile ++ [.ask 1 (.destroyNode 1)]) rfl
  · exact (upTo.2.1 caughtUp meanwhile rfl 1 1 32 (by decide) assigned).1 unending
  · have ends : ∃ step ∈ meanwhile ++ [.ask 1 (.destroyNode 1)], step.Ends 1 1 :=
      ⟨.ask 1 (.destroyNode 1), by simp, .inl rfl⟩
    exact (whole.2.1 caughtUp (meanwhile ++ [.ask 1 (.destroyNode 1)]) rfl 1 1 32 (by decide)
      assigned).2 ends

end Server

end MediaGraph
