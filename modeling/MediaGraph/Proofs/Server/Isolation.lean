import MediaGraph.Proofs.Server.Operations
import MediaGraph.Server.Backend

/-!
# Which objects of others a connection can reach

A connection keeps the ids of the objects that its owned handles, its offered ports and its offered
nodes stand for, and nothing else about them. An object that has been taken away leaves such an id
behind, and another object can be put under it. What the connection does then happens to that other
object.

`isolated_iff_owns` says when a connection leaves the objects of all others alone: exactly if the
objects that stand under the ids it acts on are its own.
-/

namespace MediaGraph

def Request.creates : Request → Bool
  | createObject .. | addPort .. | activateNode _ => true
  | _ => false

/-- What becomes of an object that a request acts on. -/
def Request.fate : Request → Object → Option Object
  | updatePort _ _ props, object => some { object with props := object.props.extend props }
  | _, _ => none

namespace Server

/-- The object that goes away with one of a connection's handles. -/
def heldBy (server : Server) (id : ConnectionId) (proxy : ProxyId) : List ObjectId :=
  match (server.connections.get? id).bind fun connection => connection.proxies.get? proxy with
  | some bound => if bound.owned then [bound.object] else []
  | none => []

def publishedBy (server : Server) (id : ConnectionId) (node : NodeToken) (port : PortToken) :
    List ObjectId :=
  match (server.node? id node).bind fun offered => offered.ports.find? (·.token = port) with
  | some found => found.published.toList
  | none => []

def allShownBy (server : Server) (id : ConnectionId) : List ObjectId :=
  match server.connections.get? id with
  | some connection => connection.nodes.keys.flatMap (server.shownBy id)
  | none => []

/-- The objects that a request acts on, by the ids that its connection has kept. -/
def named (server : Server) (id : ConnectionId) : Request → List ObjectId
  | .destroyProxy proxy => server.heldBy id proxy
  | .updatePort node port _ | .removePort node port => server.publishedBy id node port
  | .destroyNode node => server.shownBy id node
  | .disconnect => server.allShownBy id
  | _ => []

/-- Every object that does not belong to a connection is as it was. -/
def Isolated (id : ConnectionId) (before after : Server) : Prop :=
  ∀ other object, before.objects.get? other = some object → object.owner ≠ some id →
    after.objects.get? other = some object

variable {server : Server}

/-! ## What each request does to the objects of others -/

theorem get?_destroyProxy (id : ConnectionId) (proxy : ProxyId) (other : ObjectId) :
    (server.destroyProxy id proxy).objects.get? other =
      if other ∈ server.heldBy id proxy then none else server.objects.get? other := by
  cases connected : server.connections.get? id with
  | none => simp [destroyProxy, heldBy, connected]
  | some connection =>
      cases found : connection.proxies.get? proxy with
      | none => simp [destroyProxy, heldBy, connected, found]
      | some bound =>
          by_cases owned : bound.owned
          · simp [destroyProxy, heldBy, connected, found, owned]
          · simp [destroyProxy, heldBy, connected, found, owned]

theorem get?_removePort (id : ConnectionId) (node : NodeToken) (port : PortToken)
    (other : ObjectId) :
    (server.removePort id node port).objects.get? other =
      if other ∈ server.publishedBy id node port then none else server.objects.get? other := by
  cases offered : server.node? id node with
  | none => simp [removePort, publishedBy, offered]
  | some found =>
      cases present : found.ports.find? (·.token = port) with
      | none => simp [removePort, publishedBy, offered, present]
      | some shown => simp [removePort, publishedBy, offered, present]

@[simp]
theorem get?_extendObject (id other : ObjectId) (props : Properties) :
    (server.extendObject id props).objects.get? other =
      if other = id then (server.objects.get? other).map fun object =>
        { object with props := object.props.extend props }
      else server.objects.get? other := by
  simp only [extendObject]
  split
  case h_1 absent =>
    split
    case isTrue same => simp [same, absent]
    case isFalse => rfl
  case h_2 object present =>
    split
    case isTrue same => simp [same, present]
    case isFalse apart => simp [apart]

theorem get?_updatePort (id : ConnectionId) (node : NodeToken) (port : PortToken)
    (props : Properties) (other : ObjectId) :
    (server.updatePort id node port props).objects.get? other =
      if other ∈ server.publishedBy id node port then
        (server.objects.get? other).map fun object =>
          { object with props := object.props.extend props }
      else server.objects.get? other := by
  cases offered : server.node? id node with
  | none => simp [updatePort, publishedBy, offered]
  | some found =>
      cases present : found.ports.find? (·.token = port) with
      | none => simp [updatePort, publishedBy, offered, present]
      | some shown =>
          cases published : shown.published with
          | none => simp [updatePort, publishedBy, offered, present, published]
          | some object => simp [updatePort, publishedBy, offered, present, published]

theorem mem_ownedObjects {id : ConnectionId} {other : ObjectId} :
    other ∈ server.ownedObjects id ↔
      ∃ object, server.objects.get? other = some object ∧ object.owner = some id := by
  simp only [ownedObjects, List.mem_filterMap, Option.ite_none_right_eq_some, Prod.exists,
    Option.some.injEq, Table.get?_eq_some_iff]
  constructor
  · rintro ⟨key, object, member, owned, rfl⟩
    exact ⟨object, member, owned⟩
  · rintro ⟨object, member, owned⟩
    exact ⟨other, object, member, owned, rfl⟩

/-- Dropping a connection takes the objects away that show its nodes, and its own besides. -/
theorem get?_dropConnection {id : ConnectionId} {other : ObjectId} {object : Object}
    (present : server.objects.get? other = some object) (foreign : object.owner ≠ some id) :
    (server.dropConnection id).objects.get? other =
      if other ∈ server.allShownBy id then none else some object := by
  cases connected : server.connections.get? id with
  | none => simp [dropConnection, allShownBy, connected, present]
  | some connection =>
      simp only [dropConnection, allShownBy, connected]
      generalize remaining : connection.nodes.keys.foldl
        (fun server node => server.destroyNode id node) server = left
      have kept : left.objects.get? other =
          if other ∈ connection.nodes.keys.flatMap (server.shownBy id) then none
          else some object := by
        rw [← remaining, get?_destroyNodes, present]
      have unowned : other ∉ left.ownedObjects id := by
        rw [mem_ownedObjects, kept]
        split <;> simp [foreign]
      have final : (left.removeObjects (left.ownedObjects id)).objects.get? other =
          left.objects.get? other := by
        rw [get?_removeObjects, if_neg unowned]
      split
      case h_1 => rw [final, kept]
      case h_2 => rw [← kept, ← final]

/-- The objects that a request names meet their fate, and those of others stay as they are. -/
theorem get?_answer {id : ConnectionId} {request : Request} {other : ObjectId} {object : Object}
    (creates : request.creates = false) (present : server.objects.get? other = some object)
    (foreign : object.owner ≠ some id) :
    (answer id request server).2.objects.get? other =
      if other ∈ server.named id request then request.fate object else some object := by
  have unnamed : server.named id request = [] →
      (answer id request server).2.objects = server.objects →
      (answer id request server).2.objects.get? other =
        if other ∈ server.named id request then request.fate object else some object := by
    intro names same
    rw [names, same, if_neg List.not_mem_nil, present]
  cases request with
  | createObject | addPort | activateNode => simp [Request.creates] at creates
  | destroyProxy proxy =>
      show (server.destroyProxy id proxy).objects.get? other =
        if other ∈ server.heldBy id proxy then none else some object
      rw [get?_destroyProxy, present]
  | updatePort node port props =>
      show (server.updatePort id node port props).objects.get? other =
        if other ∈ server.publishedBy id node port then
          some { object with props := object.props.extend props }
        else some object
      rw [get?_updatePort, present, Option.map_some]
  | removePort node port =>
      show (server.removePort id node port).objects.get? other =
        if other ∈ server.publishedBy id node port then none else some object
      rw [get?_removePort, present]
  | destroyNode node =>
      show (server.destroyNode id node).objects.get? other =
        if other ∈ server.shownBy id node then none else some object
      rw [get?_destroyNode, present]
  | disconnect => exact get?_dropConnection present foreign
  | subscribeGlobals | unsubscribeGlobals | bindObject | subscribeInfo | sync | drive =>
      exact unnamed rfl (arranges_answer server id rfl).objects
  | createNode =>
      apply unnamed rfl
      simp only [answer, createNode]
      split <;> rfl

/-! ## Isolation -/

/--
A request that creates nothing leaves the objects of others alone exactly if every object that it
acts on belongs to the connection or would stay as it is anyway. Dropping a connection does so
exactly if every object that shows one of its nodes is its own.
-/
theorem isolated_iff_owns (server : Server) (id : ConnectionId) :
    (∀ request : Request, request.creates = false →
      (Isolated id server (answer id request server).2 ↔
        ∀ other ∈ server.named id request, ∀ object, server.objects.get? other = some object →
          object.owner ≠ some id → request.fate object = some object)) ∧
    (Isolated id server (server.dropConnection id) ↔
      ∀ other ∈ server.named id .disconnect, ∀ object, server.objects.get? other = some object →
        object.owner = some id) := by
  refine ⟨?_, ?_⟩
  · intro request creates
    constructor
    · intro isolated other acted object present foreign
      have after := isolated other object present foreign
      rwa [get?_answer creates present foreign, if_pos acted] at after
    · intro harmless other object present foreign
      rw [get?_answer creates present foreign]
      split
      case isTrue acted => exact harmless other acted object present foreign
      case isFalse => rfl
  · constructor
    · intro isolated other (shown : other ∈ server.allShownBy id) object present
      apply Decidable.byContradiction
      intro foreign
      have after := isolated other object present foreign
      rw [get?_dropConnection present foreign, if_pos shown] at after
      simp at after
    · intro owns other object present foreign
      rw [get?_dropConnection present foreign]
      split
      case isTrue shown => exact absurd (owns other shown object present) foreign
      case isFalse => rfl

/-- A server whose first connection offers a node, shown as object 32, with a port, shown as 33. -/
def offering : Server :=
  let server := (Server.connect .standard {}).2
  let server := (server.createNode 1 .empty).2
  let server := (server.addPort 1 1 .input .empty).2
  (server.activateNode 1 1).2

/-- As long as the port is shown by the object that was made for it, removing it is harmless. -/
theorem isolated_removePort_offering :
    Request.creates (.removePort 1 2) = false ∧
      Isolated 1 offering (answer 1 (.removePort 1 2) offering).2 := by
  refine ⟨rfl, ((isolated_iff_owns offering 1).1 (.removePort 1 2) rfl).2 ?_⟩
  intro other acted object present foreign
  have shown : offering.named 1 (.removePort 1 2) = [33] := by decide +kernel
  have owner : (offering.objects.get? 33).map (·.owner) = some (some 1) := by decide +kernel
  rw [shown, List.mem_singleton] at acted
  rw [acted] at present
  simp only [present, Option.map_some, Option.some.injEq] at owner
  exact absurd owner foreign

/-- Once another object has taken the id of the port's, it goes away in the port's place. -/
theorem not_isolated_after_replacement :
    let server := ((offering.takeObject 33).2.addObjectAt 33 .port .empty).2
    ¬Isolated 1 server (answer 1 (.removePort 1 2) server).2 := by
  intro server isolated
  have present : server.objects.get? 33 =
      some { kind := .port, props := .empty, owner := none } := by
    decide +kernel
  have gone : (answer 1 (.removePort 1 2) server).2.objects.get? 33 = none := by decide +kernel
  have kept := isolated 33 _ present (by simp)
  rw [gone] at kept
  cases kept

end Server

end MediaGraph
