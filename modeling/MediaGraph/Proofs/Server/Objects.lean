import MediaGraph.Server.Administration

/-!
# The objects of a server

One law for each operation that says what becomes of the object with a given id. Telling the
connections about a change touches no object, and changing objects touches no offered node, so the
laws compose without a look at the connections.
-/

namespace MediaGraph.Server

variable (server : Server)

/-! ## Connections and offered nodes -/

@[simp]
theorem objects_setConnection (id : ConnectionId) (connection : Connection) :
    (server.setConnection id connection).objects = server.objects := rfl

@[simp]
theorem objects_updateNode (id : ConnectionId) (token : NodeToken)
    (change : OfferedNode → OfferedNode) :
    (server.updateNode id token change).objects = server.objects := rfl

@[simp]
theorem objects_broadcast (event : Event) : (server.broadcast event).objects = server.objects := rfl

@[simp]
theorem objects_sendInfo (id : ObjectId) : (server.sendInfo id).objects = server.objects := by
  simp only [sendInfo]
  split <;> rfl

@[simp]
theorem node?_broadcast (event : Event) (id : ConnectionId) (token : NodeToken) :
    (server.broadcast event).node? id token = server.node? id token := by
  simp only [node?, broadcast, Table.get?_mapValues]
  cases server.connections.get? id with
  | none => rfl
  | some connection =>
      simp only [Option.map_some, Option.bind_some]
      split <;> rfl

variable {server} in
theorem node?_setConnection {id other : ConnectionId} {token : NodeToken}
    {connection later : Connection}
    (connected : server.connections.get? other = some connection)
    (nodes : later.nodes = connection.nodes) :
    (server.setConnection other later).node? id token = server.node? id token := by
  by_cases own : id = other
  · subst own
    simp [node?, setConnection, connected, nodes]
  · simp [node?, setConnection, own]

/-! ## Adding -/

@[simp]
theorem get?_insertObject (id other : ObjectId) (added : Object) :
    (server.insertObject id added).objects.get? other =
      if other = id then some added else server.objects.get? other := by
  have objects : (server.insertObject id added).objects = server.objects.insert id added := by
    simp only [insertObject]
    split <;> split <;> rfl
  rw [objects, Table.get?_insert]

/-! ## Removing -/

@[simp]
theorem get?_removeObject (id other : ObjectId) :
    (server.removeObject id).objects.get? other =
      if other = id then none else server.objects.get? other := by
  simp only [removeObject]
  split
  case isTrue => simp
  case isFalse absent =>
    split
    case isTrue same =>
      subst same
      simpa [Table.contains] using absent
    case isFalse => rfl

@[simp]
theorem node?_removeObject (object : ObjectId) (id : ConnectionId) (token : NodeToken) :
    (server.removeObject object).node? id token = server.node? id token := by
  simp only [removeObject]
  split
  · rw [node?_broadcast]
    rfl
  · rfl

variable {server}

@[simp]
theorem get?_removeObjects (ids : List ObjectId) (other : ObjectId) :
    (server.removeObjects ids).objects.get? other =
      if other ∈ ids then none else server.objects.get? other := by
  induction ids generalizing server with
  | nil => simp [removeObjects]
  | cons id rest ih =>
      have step : server.removeObjects (id :: rest) =
          (server.removeObject id).removeObjects rest := rfl
      rw [step, ih, get?_removeObject]
      by_cases later : other ∈ rest
      · simp [later]
      · simp [later]

@[simp]
theorem node?_removeObjects (objects : List ObjectId) (id : ConnectionId) (token : NodeToken) :
    (server.removeObjects objects).node? id token = server.node? id token := by
  induction objects generalizing server with
  | nil => rfl
  | cons object rest ih =>
      have step : server.removeObjects (object :: rest) =
          (server.removeObject object).removeObjects rest := rfl
      rw [step, ih, node?_removeObject]

/-- No node goes with a handle. -/
theorem node?_destroyProxy {id : ConnectionId} {token : NodeToken} (server : Server)
    (other : ConnectionId) (proxy : ProxyId) :
    (server.destroyProxy other proxy).node? id token = server.node? id token := by
  simp only [destroyProxy]
  split
  case h_1 => rfl
  case h_2 connection connected =>
    split
    case h_1 => rfl
    case h_2 =>
      split
      · rw [node?_removeObject]
        exact node?_setConnection connected rfl
      · exact node?_setConnection connected rfl

/-! ## Destroying nodes -/

/-- The objects that show a node of a connection, as far as the node exists. -/
def shownBy (server : Server) (id : ConnectionId) (token : NodeToken) : List ObjectId :=
  match server.node? id token with
  | some node => node.shownObjects
  | none => []

@[simp]
theorem get?_destroyNode (id : ConnectionId) (token : NodeToken) (other : ObjectId) :
    (server.destroyNode id token).objects.get? other =
      if other ∈ server.shownBy id token then none else server.objects.get? other := by
  cases connected : server.connections.get? id with
  | none => simp [destroyNode, shownBy, node?, connected]
  | some connection =>
      cases offered : connection.nodes.get? token with
      | none => simp [destroyNode, shownBy, node?, connected, offered]
      | some node => simp [destroyNode, shownBy, node?, connected, offered]

theorem node?_destroyNode (id other : ConnectionId) (token node : NodeToken) :
    (server.destroyNode id token).node? other node =
      if other = id ∧ node = token then none else server.node? other node := by
  cases connected : server.connections.get? id with
  | none =>
      have same : server.destroyNode id token = server := by simp [destroyNode, connected]
      rw [same]
      split
      case isTrue isNode => simp [node?, isNode.1, connected]
      case isFalse => rfl
  | some connection =>
      cases found : connection.nodes.get? token with
      | none =>
          have same : server.destroyNode id token = server := by
            simp [destroyNode, connected, found]
          rw [same]
          split
          case isTrue isNode => simp [node?, isNode.1, isNode.2, connected, found]
          case isFalse => rfl
      | some offered =>
          simp only [destroyNode, connected, found, node?_removeObjects]
          by_cases own : other = id
          · subst own
            simp [node?, setConnection, connected]
          · simp [node?, setConnection, own]

theorem shownBy_destroyNode (id : ConnectionId) (token other : NodeToken) :
    (server.destroyNode id token).shownBy id other =
      if other = token then [] else server.shownBy id other := by
  simp only [shownBy, node?_destroyNode]
  split <;> simp_all

theorem get?_destroyNodes (id : ConnectionId) (tokens : List NodeToken) (other : ObjectId) :
    (tokens.foldl (fun server token => server.destroyNode id token) server).objects.get? other =
      if other ∈ tokens.flatMap (server.shownBy id) then none else server.objects.get? other := by
  induction tokens generalizing server with
  | nil => simp
  | cons token rest ih =>
      rw [List.foldl_cons, ih, get?_destroyNode]
      by_cases now : other ∈ server.shownBy id token
      · simp [now]
      · have later : other ∈ rest.flatMap ((server.destroyNode id token).shownBy id) ↔
            other ∈ rest.flatMap (server.shownBy id) := by
          simp only [List.mem_flatMap, shownBy_destroyNode]
          constructor
          · rintro ⟨node, member, shown⟩
            split at shown
            · simp at shown
            · exact ⟨node, member, shown⟩
          · rintro ⟨node, member, shown⟩
            refine ⟨node, member, ?_⟩
            split
            case isTrue same =>
              subst same
              exact absurd shown now
            case isFalse => exact shown
        simp [later, now]

end MediaGraph.Server
