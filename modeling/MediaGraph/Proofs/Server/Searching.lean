import MediaGraph.Proofs.Server.Pending
import Mathlib.Algebra.GroupWithZero.Nat

/-!
# The search for a free id

A server looks for an id to give out by trying one after the other, for as long as it takes
(`Server.Searches`). The search is at its goal once it has gone the way to a free id, and that way
leads at most once around the ids: so it ends if any id is free, and it ends where the bounded walk
of `Server.allocateId` does.

No reserved id is ever in use (`Server.Reserves`): every step of a run keeps the search in the range
of the ids that are given out, and neither an object nor a node is ever given the reserved one.
-/

namespace MediaGraph

namespace Server

variable {id : ConnectionId} {token : NodeToken} {object goal : ObjectId}
  {before after between server : Server} {rounds : Nat}

/-! ## The search without a bound -/

/-- One round: the id that is up next is taken if it can be, and the next round starts behind it. -/
def tryNext (server : Server) : Option ObjectId × Server :=
  let id := server.nextId
  (if id ≠ unassigned && !server.objects.contains id then some id else none,
    { server with nextId := idAfter id })

/-- Round follows round until one takes an id, however many it takes. -/
inductive Searches : Server → Nat → ObjectId × Server → Prop
  | found {server after : Server} {id : ObjectId} (taken : server.tryNext = (some id, after)) :
      Searches server 1 (id, after)
  | onward {server between : Server} {rounds : Nat} {result : ObjectId × Server}
      (passed : server.tryNext = (none, between)) (rest : Searches between rounds result) :
      Searches server (rounds + 1) result

/-- There is one way to search. -/
theorem Searches.unique {more : Nat} {result other : ObjectId × Server}
    (first : Searches server rounds result) (second : Searches server more other) :
    rounds = more ∧ result = other := by
  induction first generalizing more other with
  | found taken =>
      cases second with
      | found again =>
          cases taken.symm.trans again
          exact ⟨rfl, rfl⟩
      | onward passed _ => cases taken.symm.trans passed
  | onward passed _ ih =>
      cases second with
      | found taken => cases passed.symm.trans taken
      | onward again rest =>
          cases passed.symm.trans again
          rcases ih rest with ⟨same, sameResult⟩
          exact ⟨congrArg _ same, sameResult⟩

theorem tryNext_of_free (real : server.nextId ≠ unassigned)
    (free : server.objects.get? server.nextId = none) :
    server.tryNext = (some server.nextId, { server with nextId := idAfter server.nextId }) := by
  simp [tryNext, real, Table.contains, free]

/-- How many ids the search leaves behind on the way from one id to another. -/
def distance (start goal : ObjectId) : Nat :=
  if start.toNat ≤ goal.toNat then goal.toNat - start.toNat
  else max 1 (4294967295 - start.toNat) + (goal.toNat - 32)

theorem distance_idAfter (low : 32 ≤ goal.toNat) (high : goal.toNat < 4294967295)
    {start : ObjectId} (apart : start.toNat ≠ goal.toNat) :
    distance (idAfter start) goal < distance start goal := by
  have range := start.toNat_lt
  have next := toNat_idAfter start
  simp only [distance]
  split at next
  case isTrue => split <;> split <;> omega
  case isFalse => split <;> split <;> omega

/-- The search takes the free id that it is to come by, or another one before. -/
theorem searches_of_free (inRange : firstObjectId ≤ goal ∧ goal < unassigned)
    (free : server.objects.get? goal = none) :
    ∃ rounds ≤ distance server.nextId goal + 1, ∃ result, Searches server rounds result := by
  have low : 32 ≤ goal.toNat := UInt32.le_iff_toNat_le.1 inRange.1
  have high : goal.toNat < 4294967295 := UInt32.lt_iff_toNat_lt.1 inRange.2
  generalize far : distance server.nextId goal = steps
  induction steps using Nat.strongRecOn generalizing server with
  | ind steps ih =>
      rcases tried : server.tryNext with ⟨_ | id, after⟩
      case ind.some => exact ⟨1, Nat.le_add_left _ _, _, .found tried⟩
      case ind.none =>
        have moved : after = { server with nextId := idAfter server.nextId } :=
          (congrArg Prod.snd tried).symm
        have apart : server.nextId.toNat ≠ goal.toNat := by
          intro same
          have arrived : server.nextId = goal := UInt32.toNat_inj.1 same
          have real : server.nextId ≠ unassigned := by
            rw [arrived]
            exact fun reserved => absurd inRange.2 (reserved ▸ UInt32.lt_irrefl unassigned)
          rw [tryNext_of_free real (arrived ▸ free)] at tried
          cases tried
        -- A round that takes nothing is not at the goal, so it leaves less of the way there.
        have closer : distance after.nextId goal < steps := by
          rw [moved, ← far]
          exact distance_idAfter low high apart
        have stillFree : after.objects.get? goal = none := by rwa [moved]
        rcases ih _ closer stillFree rfl with ⟨rounds, few, result, rest⟩
        refine ⟨rounds + 1, ?_, result, .onward tried rest⟩
        omega

/-- The bounded walk is the search without a bound, as far as it gets. -/
theorem searches_of_walk {steps : Nat}
    (real : freeIdFrom server.objects steps server.nextId ≠ unassigned)
    (free : server.objects.get? (freeIdFrom server.objects steps server.nextId) = none) :
    ∃ rounds, Searches server rounds (freeIdFrom server.objects steps server.nextId,
      { server with nextId := idAfter (freeIdFrom server.objects steps server.nextId) }) := by
  induction steps generalizing server with
  | zero => exact ⟨1, .found (tryNext_of_free real free)⟩
  | succ steps ih =>
      by_cases here : server.nextId ≠ unassigned && !server.objects.contains server.nextId
      · have taken : freeIdFrom server.objects (steps + 1) server.nextId = server.nextId := by
          rw [freeIdFrom, if_pos here]
        rw [taken] at real free ⊢
        exact ⟨1, .found (tryNext_of_free real free)⟩
      · have passed : freeIdFrom server.objects (steps + 1) server.nextId =
            freeIdFrom server.objects steps (idAfter server.nextId) := by
          rw [freeIdFrom, if_neg here]
        have tried : server.tryNext = (none, { server with nextId := idAfter server.nextId }) := by
          simp only [tryNext, if_neg here]
        rw [passed] at real free ⊢
        rcases @ih { server with nextId := idAfter server.nextId } real free with ⟨rounds, rest⟩
        exact ⟨rounds + 1, .onward tried rest⟩

/-- While there is an id left, the search ends with what is allocated, once around at most. -/
theorem searches_allocateId (room : server.Room) :
    ∃ rounds ≤ 2 ^ 32, Searches server rounds server.allocateId := by
  rcases get?_allocateId server room with ⟨free, real⟩
  rcases searches_of_walk real free with ⟨rounds, walked⟩
  rcases room with ⟨goal, low, high, isFree⟩
  rcases searches_of_free ⟨low, high⟩ isFree with ⟨atMost, few, result, searched⟩
  have limit : distance server.nextId goal + 1 ≤ 2 ^ 32 := by
    have start := server.nextId.toNat_lt
    have goalLow : 32 ≤ goal.toNat := UInt32.le_iff_toNat_le.1 low
    have goalHigh : goal.toNat < 4294967295 := UInt32.lt_iff_toNat_lt.1 high
    simp only [distance]
    split <;> omega
  refine ⟨rounds, ?_, walked⟩
  rw [(walked.unique searched).1]
  omega

/-! ## The range of the ids -/

/-- The search starts in range, and no object or node has the reserved id. -/
structure Reserves (server : Server) : Prop where
  start : firstObjectId ≤ server.nextId
  objects : server.objects.get? unassigned = none
  nodes : ∀ id token, server.nodeId? id token ≠ some unassigned

theorem firstObjectId_le_idAfter (id : ObjectId) (start : firstObjectId ≤ id) :
    firstObjectId ≤ idAfter id := by
  have low : 32 ≤ id.toNat := UInt32.le_iff_toNat_le.1 start
  have next := toNat_idAfter id
  apply UInt32.le_iff_toNat_le.2
  show 32 ≤ (idAfter id).toNat
  split at next <;> omega

theorem firstObjectId_le_freeIdFrom {objects : Table ObjectId Object} (steps : Nat)
    {id : ObjectId} (start : firstObjectId ≤ id) : firstObjectId ≤ freeIdFrom objects steps id := by
  induction steps generalizing id with
  | zero => exact start
  | succ steps ih =>
      simp only [freeIdFrom]
      split
      · exact start
      · exact ih (firstObjectId_le_idAfter id start)

theorem freeIdFrom_ne_unassigned {objects : Table ObjectId Object} (steps : Nat) {id : ObjectId}
    (real : id ≠ unassigned) : freeIdFrom objects steps id ≠ unassigned := by
  induction steps generalizing id with
  | zero => exact real
  | succ steps ih =>
      rw [freeIdFrom]
      split
      · exact real
      · exact ih (idAfter_ne_unassigned id)

/-- The search may start at the reserved id, but does not end there, even if it is broken off. -/
theorem allocateId_ne_unassigned (server : Server) : server.allocateId.1 ≠ unassigned := by
  rw [allocateId, freeIdFrom]
  split
  case isTrue taken =>
    simp only [Bool.and_eq_true, decide_eq_true_eq] at taken
    exact taken.1
  case isFalse => exact freeIdFrom_ne_unassigned _ (idAfter_ne_unassigned _)

theorem lt_unassigned (real : object ≠ unassigned) : object < unassigned := by
  have differs : object.toNat ≠ 4294967295 := fun same => real (UInt32.toNat_inj.1 same)
  have range := object.toNat_lt
  apply UInt32.lt_iff_toNat_lt.2
  show object.toNat < 4294967295
  omega

theorem nextId_insertObject (server : Server) (object : ObjectId) (added : Object) :
    (server.insertObject object added).nextId =
      if server.nextId ≤ object then successor object else server.nextId := by
  simp only [insertObject, broadcast]
  split <;> split <;> rfl

theorem nextId_removeObjects (server : Server) (objects : List ObjectId) :
    (server.removeObjects objects).nextId = server.nextId := by
  induction objects generalizing server with
  | nil => rfl
  | cons object rest ih =>
      have step : server.removeObjects (object :: rest) =
          (server.removeObject object).removeObjects rest := rfl
      rw [step, ih, removeObject]
      split <;> rfl

namespace Reserves

/-- Nothing is added that could have the reserved id. -/
theorem of_fewer (reserves : before.Reserves) (start : after.nextId = before.nextId)
    (objects : before.objects.get? unassigned = none → after.objects.get? unassigned = none)
    (nodes : ∀ id token object, after.nodeId? id token = some object →
      before.nodeId? id token = some object) : after.Reserves where
  start := start ▸ reserves.start
  objects := objects reserves.objects
  nodes id token given := reserves.nodes id token (nodes id token unassigned given)

theorem of_same (reserves : before.Reserves) (start : after.nextId = before.nextId)
    (objects : after.objects = before.objects)
    (nodes : ∀ id token, after.nodeId? id token = before.nodeId? id token) : after.Reserves :=
  reserves.of_fewer start (fun free => objects ▸ free)
    fun id token _ given => nodes id token ▸ given

theorem foldl {α : Type} {step : Server → α → Server}
    (each : ∀ {server} item, server.Reserves → (step server item).Reserves) (items : List α)
    (reserves : server.Reserves) : (items.foldl step server).Reserves := by
  induction items generalizing server with
  | nil => exact reserves
  | cons item rest ih => exact ih (each item reserves)

/-! ## Objects -/

theorem insertObject (reserves : server.Reserves) (real : object ≠ unassigned) (added : Object) :
    (server.insertObject object added).Reserves where
  start := by
    rw [nextId_insertObject]
    split
    case isTrue upTo =>
      have bound : object.toNat < 4294967295 := UInt32.lt_iff_toNat_lt.1 (lt_unassigned real)
      have further : object ≤ object + 1 := by
        rw [UInt32.le_iff_toNat_le, UInt32.toNat_add]
        exact Nat.le_trans (Nat.le_succ _) (Nat.le_of_eq (Nat.mod_eq_of_lt (by omega)).symm)
      rw [successor, if_neg real]
      exact UInt32.le_trans (UInt32.le_trans reserves.start upTo) further
    case isFalse => exact reserves.start
  objects := by
    rw [get?_insertObject, if_neg real.symm]
    exact reserves.objects
  nodes id token := by
    rw [nodeId?, node?_insertObject]
    exact reserves.nodes id token

theorem allocate (reserves : server.Reserves) : server.allocateId.2.Reserves where
  start := firstObjectId_le_idAfter _ (firstObjectId_le_freeIdFrom _ reserves.start)
  objects := reserves.objects
  nodes := reserves.nodes

theorem createObject (reserves : server.Reserves) (added : Object) :
    (server.createObject added).2.Reserves :=
  reserves.allocate.insertObject server.allocateId_ne_unassigned added

theorem removeObjects (reserves : server.Reserves) (objects : List ObjectId) :
    (server.removeObjects objects).Reserves := by
  apply reserves.of_fewer (server.nextId_removeObjects objects)
  · intro free
    rw [get?_removeObjects]
    split
    · rfl
    · exact free
  · intro id token other given
    rwa [nodeId?, node?_removeObjects] at given

theorem removeObject (reserves : server.Reserves) (object : ObjectId) :
    (server.removeObject object).Reserves := reserves.removeObjects [object]

/-- An object that is there is given other properties, and whoever listens is told. -/
theorem rewrite (reserves : server.Reserves) {former : Object} (props : Properties)
    (present : server.objects.get? object = some former) :
    (({ server with objects := server.objects.insert object { former with props } } :
      Server).sendInfo object).Reserves := by
  have apart : unassigned ≠ object := by
    rintro rfl
    rw [reserves.objects] at present
    cases present
  apply reserves.of_fewer
  · simp only [sendInfo]
    split <;> rfl
  · intro free
    rw [objects_sendInfo, Table.get?_insert, if_neg apart]
    exact free
  · intro id token other given
    rw [nodeId?, node?_sendInfo] at given
    exact given

theorem extendObject (reserves : server.Reserves) (object : ObjectId) (props : Properties) :
    (server.extendObject object props).Reserves := by
  simp only [Server.extendObject]
  split
  case h_1 => exact reserves
  case h_2 former present => exact reserves.rewrite (former.props.extend props) present

/-! ## Offered nodes -/

theorem updateNode (reserves : server.Reserves) (id : ConnectionId) (token : NodeToken)
    {change : OfferedNode → OfferedNode} (same : ∀ node, (change node).nodeId = node.nodeId) :
    (server.updateNode id token change).Reserves :=
  reserves.of_same rfl rfl fun other node => nodeId?_updateNode same server id other token node

theorem publishPort (reserves : server.Reserves) (id : ConnectionId) (token : NodeToken)
    (entry : Nat × Properties) : (publishPort id token server entry).Reserves :=
  (reserves.createObject _).updateNode id token fun _ => rfl

theorem publishPorts (reserves : server.Reserves) (id : ConnectionId) (token : NodeToken) :
    (server.publishPorts id token).Reserves := by
  simp only [Server.publishPorts]
  split
  · split
    · exact reserves.foldl (fun entry reserves => reserves.publishPort id token entry) _
    · exact reserves
  · exact reserves

theorem given (reserves : server.Reserves) (id : ConnectionId) (token : NodeToken)
    (node : OfferedNode) : (server.given id token node).Reserves := by
  have created := reserves.createObject { kind := .node, props := node.props, owner := some id }
  refine ⟨created.start, created.objects, fun other otherToken given => ?_⟩
  rw [nodeId?, node?_given] at given
  split at given
  · cases present : server.node? other otherToken with
    | none => simp [present] at given
    | some former =>
        simp only [present, Option.map_some, Option.bind_some, Option.some.injEq] at given
        exact server.allocateId_ne_unassigned given
  · exact reserves.nodes other otherToken given

theorem assignNode (reserves : server.Reserves) (id : ConnectionId) (token : NodeToken) :
    (server.assignNode id token).Reserves := by
  by_cases due : server.Due id token
  · rcases due with ⟨allowed, node, offered, active, unassigned⟩
    rw [assignNode_of_due allowed offered active unassigned]
    exact (reserves.given id token node).publishPorts id token
  · rwa [assignNode_of_not_due due]

theorem destroyNode (reserves : server.Reserves) (id : ConnectionId) (token : NodeToken) :
    (server.destroyNode id token).Reserves := by
  apply reserves.of_fewer
  · simp only [Server.destroyNode]
    split
    · rfl
    · split
      · rfl
      · rw [nextId_removeObjects]
        rfl
  · intro free
    rw [get?_destroyNode]
    split
    · rfl
    · exact free
  · intro other node object given
    rw [nodeId?, node?_destroyNode] at given
    split at given
    · cases given
    · exact given

/-! ## Connections -/

theorem node_of_connected (reserves : server.Reserves) {connection : Connection}
    (connected : server.connections.get? id = some connection) {node : OfferedNode}
    (offered : connection.nodes.get? token = some node) : node.nodeId ≠ some unassigned := by
  have given := reserves.nodes id token
  rwa [nodeId?, node?, connected, Option.bind_some, offered] at given

/-- A connection may have any record, if its nodes do not have the reserved id. -/
theorem setConnection (reserves : server.Reserves) {later : Connection}
    (nodes : ∀ token node, later.nodes.get? token = some node → node.nodeId ≠ some unassigned) :
    (server.setConnection id later).Reserves where
  start := reserves.start
  objects := reserves.objects
  nodes other token := by
    by_cases own : other = id
    · subst own
      simp only [nodeId?, node?, Server.setConnection, Table.get?_insert, if_true, Option.bind_some]
      intro given
      rcases Option.bind_eq_some_iff.1 given with ⟨node, offered, isReserved⟩
      exact nodes token node offered isReserved
    · have same : (server.setConnection id later).nodeId? other token =
          server.nodeId? other token := by
        simp [nodeId?, node?, Server.setConnection, own]
      rw [same]
      exact reserves.nodes other token

theorem arrange (reserves : server.Reserves) {connection later : Connection}
    (connected : server.connections.get? id = some connection)
    (nodes : later.nodes = connection.nodes) : (server.setConnection id later).Reserves :=
  reserves.setConnection fun _ _ offered => reserves.node_of_connected connected (nodes ▸ offered)

theorem dropConnection (reserves : server.Reserves) (id : ConnectionId) :
    (server.dropConnection id).Reserves := by
  simp only [Server.dropConnection]
  split
  case h_1 => exact reserves
  case h_2 connection _ =>
    generalize destroyed : connection.nodes.keys.foldl
      (fun server node => server.destroyNode id node) server = left
    have stillReserves : left.Reserves := by
      rw [← destroyed]
      exact reserves.foldl (fun node reserves => reserves.destroyNode id node) _
    have cleared := stillReserves.removeObjects (left.ownedObjects id)
    split
    case h_1 => exact cleared
    case h_2 =>
      refine cleared.of_fewer rfl (fun free => free) fun other token object given => ?_
      simp only [nodeId?, node?, Table.get?_erase] at given ⊢
      split at given
      · cases given
      · exact given

/-! ## Requests -/

theorem arranges (reserves : server.Reserves) {after : Server}
    (arranges : Arranges id server after) : after.Reserves :=
  reserves.of_same arranges.nextId arranges.objects fun other token => by
    rw [nodeId?, nodeId?, arranges.node?]

theorem destroyProxy (reserves : server.Reserves) (id : ConnectionId) (proxy : ProxyId) :
    (server.destroyProxy id proxy).Reserves := by
  simp only [Server.destroyProxy]
  split
  case h_1 => exact reserves
  case h_2 connection connected =>
    split
    case h_1 => exact reserves
    case h_2 bound _ =>
      have returned : (server.setConnection id
          { connection with proxies := connection.proxies.erase proxy }).Reserves :=
        reserves.arrange connected rfl
      split
      · exact returned.removeObject bound.object
      · exact returned

theorem createByFactory (reserves : server.Reserves) (id : ConnectionId) (factory : String)
    (kind : ObjectKind) (props : Properties) :
    (server.createByFactory id factory kind props).2.Reserves := by
  simp only [Server.createByFactory, createLink]
  split
  · split
    · have created := reserves.createObject { kind := .link, props, owner := some id }
      split
      case h_1 => exact created
      case h_2 connection connected => exact created.arrange connected rfl
    · exact reserves
  · exact reserves

/-- A new node has no id yet. -/
theorem createNode (reserves : server.Reserves) (id : ConnectionId) (props : Properties) :
    (server.createNode id props).2.Reserves := by
  simp only [Server.createNode]
  split
  case h_1 => exact reserves
  case h_2 connection connected =>
    apply reserves.setConnection
    intro token node offered
    rw [Table.get?_insert] at offered
    split at offered
    · cases offered
      exact (Option.some_ne_none unassigned).symm
    · exact reserves.node_of_connected connected offered

theorem addPort (reserves : server.Reserves) (id : ConnectionId) (node : NodeToken)
    (direction : Direction) (props : Properties) :
    (server.addPort id node direction props).2.Reserves := by
  simp only [Server.addPort]
  split
  case h_1 => exact reserves
  case h_2 connection connected =>
    have counted : (server.setConnection id connection.takeHandle.2).Reserves :=
      reserves.arrange connected rfl
    split
    · exact counted
    · apply publishPorts
      exact counted.updateNode id node fun _ => rfl

theorem updatePort (reserves : server.Reserves) (id : ConnectionId) (node : NodeToken)
    (port : PortToken) (props : Properties) : (server.updatePort id node port props).Reserves := by
  simp only [Server.updatePort]
  split
  · exact reserves
  · split
    · exact reserves
    · split
      · exact reserves.updateNode id node fun _ => rfl
      · apply extendObject
        exact reserves.updateNode id node fun _ => rfl

theorem removePort (reserves : server.Reserves) (id : ConnectionId) (node : NodeToken)
    (port : PortToken) : (server.removePort id node port).Reserves := by
  simp only [Server.removePort]
  split
  · exact reserves
  · split
    · exact reserves
    · apply removeObjects
      exact reserves.updateNode id node fun _ => rfl

theorem activateNode (reserves : server.Reserves) (id : ConnectionId) (node : NodeToken) :
    (server.activateNode id node).2.Reserves := by
  simp only [Server.activateNode]
  split
  · exact reserves
  · split
    · exact reserves
    · apply assignNode
      exact reserves.updateNode id node fun _ => rfl

theorem answer (reserves : server.Reserves) (id : ConnectionId) (request : Request) :
    (answer id request server).2.Reserves := by
  cases request with
  | subscribeGlobals | unsubscribeGlobals | bindObject | subscribeInfo | sync | drive =>
      exact reserves.arranges (arranges_answer server id rfl)
  | destroyProxy proxy => exact reserves.destroyProxy id proxy
  | createObject factory kind props => exact reserves.createByFactory id factory kind props
  | createNode props => exact reserves.createNode id props
  | addPort node direction props => exact reserves.addPort id node direction props
  | updatePort node port props => exact reserves.updatePort id node port props
  | removePort node port => exact reserves.removePort id node port
  | activateNode node => exact reserves.activateNode id node
  | destroyNode node => exact reserves.destroyNode id node
  | disconnect => exact (reserves.dropConnection id).of_same rfl rfl fun _ _ => rfl

/-! ## Steps and runs -/

theorem inject (reserves : server.Reserves) (injection : Injection) :
    (server.inject injection).Reserves := by
  cases injection with
  | addObject kind props => exact reserves.createObject _
  | addObjectAt object kind props =>
      simp only [Server.inject, addObjectAt]
      split
      case isTrue => exact reserves
      case isFalse real => exact reserves.insertObject real _
  | replaceProperties object props =>
      simp only [Server.inject, replaceProperties]
      split
      case h_1 => exact reserves
      case h_2 former present =>
        split
        · exact reserves.rewrite props present
        · exact reserves
  | takeObject object => exact reserves.removeObject object
  | assignPending =>
      exact reserves.foldl (fun node reserves => reserves.assignNode node.1 node.2) _
  | disconnectAll => exact reserves.foldl (fun id reserves => reserves.dropConnection id) _
  | setPolicy change => exact reserves.of_same rfl rfl fun _ _ => rfl

theorem perform (reserves : server.Reserves) (step : Step) : (server.perform step).Reserves := by
  cases step with
  | setUp => exact reserves.of_same rfl rfl fun _ _ => rfl
  | takeDown => exact reserves.of_same rfl rfl fun _ _ => rfl
  | inject injection => exact reserves.inject injection
  | connect config =>
      simp only [Server.perform, connect]
      split
      · exact reserves
      · have opened : (server.setConnection (server.lastConnection + 1)
            { name := config.clientName }).Reserves := by
          apply reserves.setConnection
          intro token node offered
          cases offered
        exact opened.of_same rfl rfl fun _ _ => rfl
  | ask id request => exact reserves.answer id request

theorem run (reserves : server.Reserves) (steps : List Step) : (server.run steps).Reserves := by
  induction steps generalizing server with
  | nil => exact reserves
  | cons step rest ih => exact ih (reserves.perform step)

end Reserves

/--
In every run, whatever is added at whatever id and removed on the way: while an id is left that can
be given out, the search for one ends once around at most, with an id in range that no object has.
No object ever has the reserved id, so a node has it for its id only while it has none.
-/
theorem allocation_fresh (steps : List Step) :
    ((run {} steps).Room → ∃ rounds id after, rounds ≤ 2 ^ 32 ∧
      Searches (run {} steps) rounds (id, after) ∧ (run {} steps).allocateId = (id, after) ∧
      firstObjectId ≤ id ∧ id < unassigned ∧ (run {} steps).objects.get? id = none) ∧
    (run {} steps).objects.get? unassigned = none ∧
    ∀ id token, (run {} steps).assignedId id token = unassigned ↔
      (run {} steps).nodeId? id token = none := by
  have reserves : (run {} steps).Reserves :=
    Reserves.run ⟨UInt32.le_refl _, rfl, by simp [nodeId?, node?]⟩ steps
  generalize run {} steps = server at reserves
  refine ⟨fun room => ?_, reserves.objects, fun id token => ?_⟩
  · rcases searches_allocateId room with ⟨rounds, once, searched⟩
    rcases get?_allocateId server room with ⟨free, real⟩
    have low : firstObjectId ≤ server.allocateId.1 :=
      firstObjectId_le_freeIdFrom (server.objects.size + 2) reserves.start
    exact ⟨rounds, server.allocateId.1, server.allocateId.2, once, searched, rfl, low,
      lt_unassigned real, free⟩
  · rw [assignedId, ← nodeId?]
    cases given : server.nodeId? id token with
    | none => simp
    | some object =>
        have real : object ≠ unassigned := by
          rintro rfl
          exact reserves.nodes id token given
        simp [real]

/-- Ids are taken below the range and at both its ends, the next one up is reserved, one is free. -/
def crowding : List Step :=
  [.connect .standard, .inject (.addObject .device .empty), .inject (.addObjectAt 5 .port .empty),
    .inject (.addObjectAt 33 .port .empty), .ask 1 (.createNode .empty), .ask 1 (.activateNode 1),
    .inject (.addObjectAt 4294967294 .port .empty), .inject (.addObjectAt unassigned .port .empty),
    .inject (.takeObject 33)]

theorem allocation_fresh_crowding :
    (run {} crowding).nextId = unassigned ∧ (run {} crowding).assignedId 1 1 = 34 ∧
      ∃ rounds after, rounds ≤ 2 ^ 32 ∧ Searches (run {} crowding) rounds (33, after) ∧
        (run {} crowding).objects.get? 33 = none := by
  have found : (run {} crowding).allocateId.1 = 33 := by decide +kernel
  have room : (run {} crowding).Room := ⟨33, by decide, by decide, by decide +kernel⟩
  rcases (allocation_fresh crowding).1 room with
    ⟨rounds, id, after, once, searched, allocated, -, -, free⟩
  rw [allocated] at found
  cases found
  exact ⟨by decide +kernel, by decide +kernel, rounds, after, once, searched, free⟩

end Server

end MediaGraph
