import MediaGraph.Proofs.Server.Pending

/-!
# What activating a node brings to light

When a node is activated that has no id yet, a node object appears, and then a port object for each
of its ports, in order. Their ids are new as long as there are enough ids to give out
(`Server.Free`), and every subscriber is told of one object after the other (`Server.Unveils`).
-/

namespace MediaGraph

namespace OfferedNode

/-- Nothing of a node is shown. -/
structure Hidden (node : OfferedNode) : Prop where
  unassigned : node.nodeId = none
  unpublished : ∀ port ∈ node.ports, port.published = none

/-- The properties that the ports of a node are shown with under an id. -/
def faces (node : OfferedNode) (given : ObjectId) : List Properties :=
  node.ports.mapIdx fun index port => port.shownProperties given index

theorem Hidden.hiddenPorts {node : OfferedNode} (hidden : node.Hidden) (given : ObjectId) :
    ({ node with nodeId := some given } : OfferedNode).hiddenPorts.map (·.2) =
      node.faces given := by
  have whole : ({ node with nodeId := some given } : OfferedNode).hiddenPorts =
      node.ports.zipIdx.map fun entry => (entry.2, entry.1.shownProperties given entry.2) := by
    rw [← List.filterMap_eq_map', OfferedNode.hiddenPorts]
    apply List.filterMap_congr
    rintro ⟨port, index⟩ member
    simp [hidden.unpublished port (List.fst_mem_of_mem_zipIdx member)]
  rw [whole, List.map_map, faces, List.mapIdx_eq_zipIdx_map]
  rfl

end OfferedNode

namespace Server

variable {id : ConnectionId} {token : NodeToken} {before middle after server : Server}

/-- There are so many ids left to give out. -/
def Free (server : Server) (count : Nat) : Prop :=
  ∃ ids : List ObjectId, ids.Nodup ∧ count ≤ ids.length ∧
    ∀ id ∈ ids, firstObjectId ≤ id ∧ id < unassigned ∧ server.objects.get? id = none

/--
Objects have been added one after the other, none in the place of another, and the connection has
been told of each if it has subscribed.
-/
structure Unveils (id : ConnectionId) (added : List (ObjectId × Object)) (before after : Server) :
    Prop where
  policy : after.policy = before.policy
  fresh : ∀ entry ∈ added, before.objects.get? entry.1 = none
  once : (added.map (·.1)).Nodup
  present : ∀ entry ∈ added, after.objects.get? entry.1 = some entry.2
  kept : ∀ object, object ∉ added.map (·.1) →
    after.objects.get? object = before.objects.get? object
  told : ∀ connection, before.connections.get? id = some connection →
    ∃ later, after.connections.get? id = some later ∧ later.subscribed = connection.subscribed ∧
      later.inbox = connection.inbox ++
        if connection.subscribed then added.map fun entry => .global entry.1 entry.2.kind else []

theorem Unveils.trans {first second : List (ObjectId × Object)}
    (start : Unveils id first before middle) (rest : Unveils id second middle after) :
    Unveils id (first ++ second) before after := by
  have apart : ∀ entry ∈ first, entry.1 ∉ second.map (·.1) := by
    intro entry member again
    rcases List.mem_map.1 again with ⟨other, isOther, same⟩
    have free := rest.fresh other isOther
    rw [same, start.present entry member] at free
    cases free
  refine ⟨rest.policy.trans start.policy, ?_, ?_, ?_, ?_, ?_⟩
  · intro entry member
    rcases List.mem_append.1 member with early | late
    · exact start.fresh entry early
    · rw [← start.kept entry.1 fun again => ?_]
      · exact rest.fresh entry late
      · rcases List.mem_map.1 again with ⟨other, isOther, same⟩
        exact apart other isOther (same ▸ List.mem_map_of_mem late)
  · rw [List.map_append, List.nodup_append]
    refine ⟨start.once, rest.once, fun object isFirst other isSecond same => ?_⟩
    rcases List.mem_map.1 isFirst with ⟨entry, member, rfl⟩
    exact apart entry member (same ▸ isSecond)
  · intro entry member
    rcases List.mem_append.1 member with early | late
    · rw [rest.kept entry.1 (apart entry early), start.present entry early]
    · exact rest.present entry late
  · intro object elsewhere
    rw [List.map_append, List.mem_append, not_or] at elsewhere
    rw [rest.kept object elsewhere.2, start.kept object elsewhere.1]
  · intro connection connected
    rcases start.told connection connected with ⟨between, isBetween, still, inbox⟩
    rcases rest.told between isBetween with ⟨later, isLater, stillThen, laterInbox⟩
    refine ⟨later, isLater, stillThen.trans still, ?_⟩
    rw [laterInbox, inbox, still, List.append_assoc]
    split
    · rw [List.map_append]
    · rfl

theorem unveils_of_nodes (policy : after.policy = before.policy)
    (objects : after.objects = before.objects)
    (connections : ∀ connection, before.connections.get? id = some connection →
      ∃ later, after.connections.get? id = some later ∧
        later.subscribed = connection.subscribed ∧ later.inbox = connection.inbox) :
    Unveils id [] before after where
  policy := policy
  fresh := by simp
  once := .nil
  present := by simp
  kept _ _ := by rw [objects]
  told connection connected := by
    rcases connections connection connected with ⟨later, isLater, same, inbox⟩
    exact ⟨later, isLater, same, by simp [inbox]⟩

theorem unveils_updateNode (server : Server) (id : ConnectionId) (token : NodeToken)
    (change : OfferedNode → OfferedNode) :
    Unveils id [] server (server.updateNode id token change) :=
  unveils_of_nodes rfl rfl fun connection connected =>
    ⟨{ connection with nodes := connection.nodes.modify token change },
      by simp [updateNode, connected], rfl, rfl⟩

/-! ## One object -/

theorem Free.room {count : Nat} (free : server.Free (count + 1)) : server.Room := by
  rcases free with ⟨ids, -, enough, isFree⟩
  have member := List.getElem_mem (Nat.lt_of_lt_of_le (Nat.succ_pos count) enough)
  exact ⟨_, isFree _ member⟩

/-- An object more takes one id away. -/
theorem Free.unveils {count : Nat} {entry : ObjectId × Object} (free : before.Free (count + 1))
    (unveils : Unveils id [entry] before after) : after.Free count := by
  rcases free with ⟨ids, once, enough, isFree⟩
  refine ⟨ids.erase entry.1, once.erase _, ?_, fun object member => ?_⟩
  · have less := List.le_length_erase (a := entry.1) (l := ids)
    omega
  · rcases once.mem_erase_iff.1 member with ⟨apart, isMember⟩
    rw [unveils.kept object (by simpa using apart)]
    exact isFree object isMember

theorem Free.of_nothing {count : Nat} (free : before.Free count)
    (unveils : Unveils id [] before after) : after.Free count := by
  rcases free with ⟨ids, once, enough, isFree⟩
  refine ⟨ids, once, enough, fun object member => ?_⟩
  rw [unveils.kept object (by simp)]
  exact isFree object member

theorem sent_createObject (room : server.Room) (added : Object) {connection : Connection}
    (connected : server.connections.get? id = some connection) :
    (server.createObject added).2.connections.get? id =
      some (if connection.subscribed then
        connection.send [.global server.allocateId.1 added.kind] else connection) := by
  have absent : server.allocateId.2.objects.contains server.allocateId.1 = false := by
    have stillFree : server.allocateId.2.objects.get? server.allocateId.1 = none :=
      (get?_allocateId server room).1
    simp [Table.contains, stillFree]
  have sent := (broadcasts_insertObject absent added).sent id
  have connectedStill : server.allocateId.2.connections.get? id = some connection := connected
  rw [connectedStill, Option.map_some] at sent
  exact sent

theorem unveils_createObject (id : ConnectionId) (room : server.Room) (added : Object) :
    Unveils id [(server.allocateId.1, added)] server (server.createObject added).2 where
  policy := (furnishes_createObject server added).policy
  fresh := by
    rintro entry member
    rw [List.mem_singleton.1 member]
    exact (get?_allocateId server room).1
  once := by simp
  present := by
    rintro entry member
    rw [List.mem_singleton.1 member, get?_createObject, if_pos rfl]
  kept object apart := by
    rw [get?_createObject, if_neg fun same => apart (List.mem_singleton.2 same)]
  told connection connected := by
    refine ⟨_, sent_createObject room added connected, ?_⟩
    split
    · exact ⟨rfl, rfl⟩
    · exact ⟨rfl, (List.append_nil _).symm⟩

/-! ## The ports of a node -/

theorem nodeId?_publishPort (server : Server) (id : ConnectionId) (token : NodeToken)
    (entry : Nat × Properties) :
    (publishPort id token server entry).nodeId? id token = server.nodeId? id token := by
  have created : (server.createObject
      { kind := .port, props := entry.2, owner := some id }).2.nodeId? id token =
        server.nodeId? id token := by
    rw [nodeId?, node?_createObject, nodeId?]
  rw [← created]
  apply nodeId?_updateNode
  exact fun _ => rfl

theorem nodeId?_foldl (server : Server) (id : ConnectionId) (token : NodeToken)
    (entries : List (Nat × Properties)) :
    (entries.foldl (publishPort id token) server).nodeId? id token = server.nodeId? id token := by
  induction entries generalizing server with
  | nil => rfl
  | cons entry rest ih => rw [List.foldl_cons, ih, nodeId?_publishPort]

/-- Ports that are published come to light one after the other. -/
theorem unveils_foldl (id : ConnectionId) (token : NodeToken) (entries : List (Nat × Properties))
    {count : Nat} (free : server.Free (entries.length + count)) :
    ∃ added, Unveils id added server (entries.foldl (publishPort id token) server) ∧
      added.map (·.2) = entries.map fun entry =>
        { kind := .port, props := entry.2, owner := some id } := by
  induction entries generalizing server with
  | nil =>
      exact ⟨[], unveils_of_nodes rfl rfl fun connection connected =>
        ⟨connection, connected, rfl, rfl⟩, rfl⟩
  | cons entry rest ih =>
      have enough : server.Free (rest.length + count + 1) := by
        rwa [List.length_cons, Nat.add_right_comm] at free
      let port : Object := { kind := .port, props := entry.2, owner := some id }
      have first : Unveils id [(server.allocateId.1, port)] server
          (publishPort id token server entry) :=
        (unveils_createObject id enough.room port).trans (unveils_updateNode _ id token _)
      rcases ih (enough.unveils first) with ⟨added, later, objects⟩
      refine ⟨(server.allocateId.1, port) :: added, first.trans later, ?_⟩
      rw [List.map_cons, List.map_cons, objects]

/-! ## A node with its ports -/

/-- A node that is created has nothing to show yet. -/
theorem createNode_of_connected {connection : Connection}
    (connected : server.connections.get? id = some connection) (props : Properties) :
    ∃ token after, server.createNode id props = (some token, after) ∧ Unveils id [] server after ∧
      after.node? id token = some { props, ports := [], active := false, nodeId := none } := by
  let offered : OfferedNode := { props, ports := [], active := false, nodeId := none }
  let token := connection.takeHandle.1
  let later : Connection := { connection.takeHandle.2 with
    nodes := connection.takeHandle.2.nodes.insert token offered }
  refine ⟨token, server.setConnection id later, by simp only [createNode, connected]; rfl, ?_, ?_⟩
  · refine unveils_of_nodes rfl rfl fun former isFormer => ⟨later, by simp [setConnection], ?_⟩
    cases connected.symm.trans isFormer
    exact ⟨rfl, rfl⟩
  · simp [node?, setConnection, later, offered]

/-- A port that is added to a node without an id is not shown. -/
theorem addPort_of_unassigned {node : OfferedNode} (offered : server.node? id token = some node)
    (unassigned : node.nodeId = none) (direction : Direction) (props : Properties) :
    ∃ port after, server.addPort id token direction props = (some port, after) ∧
      Unveils id [] server after ∧
      after.node? id token =
        some (node.addPort { token := port, direction, props, published := none }) := by
  rcases Option.bind_eq_some_iff.1 offered with ⟨connection, connected, present⟩
  let port : OfferedPort :=
    { token := connection.takeHandle.1, direction, props, published := none }
  let counted := server.setConnection id connection.takeHandle.2
  let extended := counted.updateNode id token (·.addPort port)
  have isExtended : extended.node? id token = some (node.addPort port) := by
    have still : counted.node? id token = some node := by
      simpa [node?, counted, setConnection, Connection.takeHandle] using present
    rw [node?_updateNode, if_pos ⟨rfl, rfl⟩, still, Option.map_some]
  have nothing : extended.publishPorts id token = extended := by
    have unshown : (node.addPort port).hiddenPorts = [] := by
      simp [OfferedNode.hiddenPorts, OfferedNode.addPort, unassigned]
    simp [publishPorts, isExtended, unshown]
  refine ⟨port.token, extended, ?_, ?_, isExtended⟩
  · have stillPresent : connection.takeHandle.2.nodes.get? token = some node := present
    have whole : server.addPort id token direction props =
        (some port.token, extended.publishPorts id token) := by
      simp only [addPort, connected, stillPresent]
      rfl
    rw [whole, nothing]
  · have begun : Unveils id [] server counted :=
      unveils_of_nodes rfl rfl fun former isFormer => by
        cases connected.symm.trans isFormer
        exact ⟨connection.takeHandle.2, by simp [counted, setConnection], rfl, rfl⟩
    exact begun.trans (unveils_updateNode counted id token _)

/--
A node that has been hidden is given an id as soon as it is activated, and its ports are published
under it.
-/
theorem activateNode_of_hidden {node : OfferedNode} (offered : server.node? id token = some node)
    (hidden : node.Hidden) (assigns : server.policy.assignNodeIds)
    (publishes : server.policy.publishLocalPorts) (free : server.Free (node.ports.length + 1)) :
    ∃ given added after, server.activateNode id token = (.ok (), after) ∧ given ≠ unassigned ∧
      after.nodeId? id token = some given ∧
      Unveils id ((given, { kind := .node, props := node.props, owner := some id }) :: added)
        server after ∧
      added.map (·.2) = (node.faces given).map fun props =>
        { kind := .port, props, owner := some id } := by
  rcases Option.bind_eq_some_iff.1 offered with ⟨connection, connected, present⟩
  let active := server.updateNode id token fun offered => { offered with active := true }
  let shown : OfferedNode := { node with active := true }
  have isActive : active.node? id token = some shown := by
    rw [node?_updateNode, if_pos ⟨rfl, rfl⟩, offered, Option.map_some]
  let given := active.allocateId.1
  let object : Object := { kind := .node, props := node.props, owner := some id }
  have begun : Unveils id [] server active := unveils_updateNode server id token _
  have room : active.Room := (free.of_nothing begun).room
  have first : Unveils id [(given, object)] server (active.given id token shown) :=
    begun.trans ((unveils_createObject id room object).trans (unveils_updateNode _ id token _))
  have isGiven : (active.given id token shown).node? id token =
      some { shown with nodeId := some given } := by
    rw [node?_given, if_pos ⟨rfl, rfl⟩, isActive, Option.map_some]
  have activated : server.activateNode id token =
      (.ok (), ({ shown with nodeId := some given } : OfferedNode).hiddenPorts.foldl
        (publishPort id token) (active.given id token shown)) := by
    have assigned : active.assignNode id token = _ :=
      assignNode_of_due assigns isActive rfl hidden.unassigned
    have allowed : (active.given id token shown).policy.publishLocalPorts := by
      rw [first.policy]
      exact publishes
    simp only [activateNode, connected, present]
    rw [show server.updateNode id token _ = active from rfl, assigned, publishPorts, if_pos allowed,
      isGiven]
  let entries := ({ shown with nodeId := some given } : OfferedNode).hiddenPorts
  have isHidden : shown.Hidden := ⟨hidden.unassigned, hidden.unpublished⟩
  have faces : entries.map (·.2) = node.faces given := isHidden.hiddenPorts given
  have count : entries.length = node.ports.length := by
    rw [← List.length_map, faces, OfferedNode.faces, List.length_mapIdx]
  -- The node has taken one of the ids, and there are as many left as there are ports.
  have enough : (active.given id token shown).Free (entries.length + 0) := by
    rw [count]
    exact free.unveils first
  rcases unveils_foldl id token entries enough with ⟨added, later, objects⟩
  refine ⟨given, added, _, activated, (get?_allocateId active room).2, ?_, first.trans later, ?_⟩
  · rw [nodeId?_foldl]
    exact nodeId?_of_node? isGiven
  · rw [objects, ← faces, List.map_map]
    rfl

end Server

end MediaGraph
