import MediaGraph.Proofs.Server.Assignment
import MediaGraph.Proofs.Server.Offers
import Mathlib.Data.List.Induction

/-!
# How long nodes keep their ids

Every step of a run tends the nodes, apart from those that it begins or ends (`Server.Takes`). A
handle under which a node was offered is spent once the node is gone, with or without its
connection, and no node is under it again (`Server.Spent`), as long as handles do not wrap around.
So an id that a node has been given is its id as long as there is the node, and no node is given
one twice (`Server.Chronicle`).
-/

namespace MediaGraph

namespace Server

variable {id ear : ConnectionId} {token : NodeToken} {before middle after server : Server}

/-- No connection has used up its handles. -/
def Few (server : Server) : Prop :=
  ∀ id connection, server.connections.get? id = some connection →
    connection.handles < UInt32.size

/-! ## Handles of nodes -/

/-- Every connection has a number, and every node a handle, that has been given out. -/
structure Registered (server : Server) : Prop where
  numbered : server.Numbered
  tokens : ∀ id connection token, server.connections.get? id = some connection →
    (connection.nodes.get? token).isSome → token.toNat ≤ connection.handles

/-- There is no node under the handle, and there will be none: the handle has been given out. -/
def Spent (server : Server) (id : ConnectionId) (token : NodeToken) : Prop :=
  id ≤ server.lastConnection ∧ ∀ connection, server.connections.get? id = some connection →
    connection.nodes.get? token = none ∧ token.toNat ≤ connection.handles

theorem Spent.node? (spent : server.Spent id token) : server.node? id token = none := by
  cases connected : server.connections.get? id with
  | none => simp [Server.node?, connected]
  | some connection => simp [Server.node?, connected, (spent.2 connection connected).1]

theorem spent_of_gone (issued : id ≤ server.lastConnection)
    (gone : server.connections.get? id = none) : server.Spent id token := by
  refine ⟨issued, fun connection connected => ?_⟩
  rw [gone] at connected
  cases connected

/-- The nodes of a connection are those that it had, and others under new handles. -/
def Enrolls (id : ConnectionId) (before after : Server) : Prop :=
  ∀ later, after.connections.get? id = some later → later.handles < UInt32.size →
    ∃ connection, before.connections.get? id = some connection ∧
      connection.handles ≤ later.handles ∧
      ∀ token, (later.nodes.get? token).isSome → (connection.nodes.get? token).isSome ∨
        connection.handles < token.toNat ∧ token.toNat ≤ later.handles

theorem Reoffers.enrolls {change : Table NodeToken OfferedNode → Table NodeToken OfferedNode}
    (reoffers : Reoffers id change before after)
    (fewer : ∀ offers token, ((change offers).get? token).isSome → (offers.get? token).isSome) :
    Enrolls id before after := by
  intro later isLater _
  rcases reoffers later isLater with ⟨connection, connected, more, offers⟩
  refine ⟨connection, connected, more, fun token offered => .inl ?_⟩
  rw [← isSome_offers] at offered ⊢
  rw [offers] at offered
  exact fewer _ token offered

theorem Intact.enrolls (intact : Intact id before after) : Enrolls id before after :=
  intact.reoffers.enrolls fun _ _ offered => offered

theorem enrolls_createNode (server : Server) (id : ConnectionId) (props : Properties) :
    Enrolls id server (server.createNode id props).2 := by
  have spec := createNode_spec server id props
  generalize server.createNode id props = result at spec ⊢
  rcases result with ⟨_ | token, after⟩
  · rcases spec with rfl
    exact (Reoffers.refl id _).enrolls fun _ _ offered => offered
  · intro later isLater few
    rcases spec.1 later isLater with ⟨connection, connected, more, offers⟩
    have isNew := spec.2 connection later connected isLater few
    refine ⟨connection, connected, more, fun other offered => ?_⟩
    rw [← isSome_offers, offers, Table.get?_insert] at offered
    split at offered
    case isTrue same => exact .inr (same ▸ isNew)
    case isFalse => exact .inl (isSome_offers other ▸ offered)

theorem enrolls_answer (server : Server) (id : ConnectionId) (request : Request) :
    Enrolls id server (answer id request server).2 := by
  have attended : ∀ {node : NodeToken}, request.Attends node →
      Enrolls id server (answer id request server).2 := by
    intro node attends
    rcases reoffers_of_attends attends server id with ⟨change, reoffers⟩
    apply reoffers.enrolls
    intro offers token offered
    rw [Table.get?_modify] at offered
    split at offered
    · rwa [Option.isSome_map] at offered
    · exact offered
  cases plain : request.isPlain with
  | false => exact (reoffers_answer server id plain).enrolls fun _ _ offered => offered
  | true =>
      cases request with
      | createNode props => exact enrolls_createNode server id props
      | addPort node direction props => exact attended (.addPort direction props)
      | updatePort node port props => exact attended (.updatePort port props)
      | removePort node port => exact attended (.removePort port)
      | activateNode node => exact attended .activateNode
      | destroyNode node =>
          apply (destroyNode_spec server id node).enrolls
          intro offers token offered
          rw [Table.get?_erase] at offered
          split at offered
          · cases offered
          · exact offered
      | _ => cases plain

theorem enrolls_perform (issued : id ≤ server.lastConnection) (step : Step) :
    Enrolls id server (server.perform step) := by
  by_cases own : ∃ request, step = .ask id request
  · rcases own with ⟨request, rfl⟩
    exact enrolls_answer server id request
  · apply Intact.enrolls
    apply (bystands_intact id).perform issued _ (step.meets_any server)
    exact fun request same => own ⟨request, same⟩

/-- A connection that has not been there before offers no nodes. -/
theorem nodes_of_new (absent : server.connections.get? id = none) {step : Step}
    {later : Connection} (isLater : (server.perform step).connections.get? id = some later) :
    later.nodes = .empty := by
  cases step with
  | setUp | takeDown => exact absurd (absent.symm.trans isLater) nofun
  | inject injection =>
      rcases ((carries_passes id).inject server injection).lasts later isLater with
        ⟨connection, connected, -⟩
      exact absurd (absent.symm.trans connected) nofun
  | connect config =>
      simp only [Server.perform, connect] at isLater
      split at isLater
      · exact absurd (absent.symm.trans isLater) nofun
      · simp only [setConnection, Table.get?_insert] at isLater
        split at isLater
        · cases isLater
          rfl
        · exact absurd (absent.symm.trans isLater) nofun
  | ask other request =>
      have lasts : Lasts id server (answer other request server).2 := by
        by_cases own : id = other
        · rw [own]
          exact (affects_answer server other request).lasts
        · exact ((affects_answer server other request).others id own).toLasts
      rcases lasts later isLater with ⟨connection, connected, -⟩
      exact absurd (absent.symm.trans connected) nofun

theorem Registered.perform (registered : server.Registered) {step : Step}
    (few : (server.perform step).Few) : (server.perform step).Registered := by
  refine ⟨registered.numbered.perform step, fun id later token isLater offered => ?_⟩
  by_cases issued : id ≤ server.lastConnection
  · rcases enrolls_perform issued step later isLater (few id later isLater) with
      ⟨connection, connected, more, former⟩
    rcases former token offered with wasOffered | isNew
    · exact Nat.le_trans (registered.tokens id connection token connected wasOffered) more
    · exact isNew.2
  · have absent : server.connections.get? id = none := by
      cases found : server.connections.get? id with
      | none => rfl
      | some connection => exact absurd (registered.numbered id connection found) issued
    rw [nodes_of_new absent isLater] at offered
    cases offered

theorem Spent.perform (spent : server.Spent id token) {step : Step}
    (few : (server.perform step).Few) : (server.perform step).Spent id token := by
  refine ⟨Nat.le_trans spent.1 (lastConnection_le_perform server step), fun later isLater => ?_⟩
  rcases enrolls_perform spent.1 step later isLater (few id later isLater) with
    ⟨connection, connected, more, former⟩
  rcases spent.2 connection connected with ⟨absent, given⟩
  refine ⟨?_, Nat.le_trans given more⟩
  rw [← Option.not_isSome_iff_eq_none]
  intro offered
  rcases former token offered with wasOffered | isNew
  · rw [absent] at wasOffered
    cases wasOffered
  · exact absurd given (Nat.not_le_of_lt isNew.1)

/-! ## Nodes that end -/

/-- The step ends a node, if it is there: by itself, or with its connection. -/
def Step.Ends (id : ConnectionId) (token : NodeToken) (step : Step) : Prop :=
  step = .ask id (.destroyNode token) ∨ step = .ask id .disconnect ∨ step = .inject .disconnectAll

theorem node?_of_dropped {gone : List ObjectId} (departs : Departs id gone before after)
    (other : ConnectionId) (token : NodeToken) :
    after.node? other token = if other = id then none else before.node? other token := by
  split
  case isTrue own => simp [node?, own, departs.vacated.gone]
  case isFalse apart =>
    simp only [node?, departs.others other apart]
    cases before.connections.get? other with
    | none => rfl
    | some connection =>
        simp only [Option.map_some, Option.bind_some, Connection.told]
        split <;> rfl

theorem gone_dropConnections {ids : List ConnectionId}
    (dropped : id ∈ ids ∨ server.connections.get? id = none) :
    (ids.foldl dropConnection server).connections.get? id = none := by
  induction ids generalizing server with
  | nil => simpa using dropped
  | cons other rest ih =>
      rw [List.foldl_cons]
      apply ih
      by_cases own : id = other
      · rw [← own]
        exact .inr (dropped_dropConnection server id)
      · have still := isSome_dropConnection own server
        rcases dropped with member | gone
        · exact .inl (List.mem_of_ne_of_mem own member)
        · rw [gone] at still
          exact .inr (by simpa using still)

theorem gone_disconnectAll (server : Server) (id : ConnectionId) :
    server.disconnectAll.connections.get? id = none := by
  apply gone_dropConnections
  cases connected : server.connections.get? id with
  | none => exact .inr rfl
  | some connection => exact .inl ((Table.mem_keys_iff _ id).2 (by simp [connected]))

theorem adds_dropConnections (server : Server) (ids : List ConnectionId) :
    Adds [] server (ids.foldl dropConnection server) := by
  induction ids generalizing server with
  | nil => exact adds_of_objects rfl
  | cons id rest ih =>
      have dropped : Adds [] server (server.dropConnection id) := by
        cases connected : server.connections.get? id with
        | none =>
            rw [dropConnection_of_absent connected]
            exact adds_of_objects rfl
        | some connection =>
            rcases departs_dropConnection connected with ⟨gone, departs, -⟩
            exact departs.toSheds.adds
      exact dropped.trans (ih (server.dropConnection id))

/-- A node that is there is there no more once it has been ended, and its handle is spent. -/
theorem spent_of_ends (registered : server.Registered) {step : Step}
    (few : (server.perform step).Few) (ends : step.Ends id token) {node : OfferedNode}
    (offered : server.node? id token = some node) : (server.perform step).Spent id token := by
  rcases Option.bind_eq_some_iff.1 offered with ⟨connection, connected, isNode⟩
  have issued := registered.numbered id connection connected
  have later := Nat.le_trans issued (lastConnection_le_perform server step)
  rcases ends with rfl | rfl | rfl
  · refine ⟨later, fun present isPresent => ?_⟩
    rcases enrolls_perform issued (.ask id (.destroyNode token)) present isPresent
      (few id present isPresent) with ⟨former, isFormer, more, -⟩
    cases connected.symm.trans isFormer
    have gone : (server.destroyNode id token).node? id token = none := by
      rw [node?_destroyNode, if_pos ⟨rfl, rfl⟩]
    have absent : present.nodes.get? token = none := by
      rwa [node?, show (server.destroyNode id token).connections.get? id = some present
        from isPresent] at gone
    have given := registered.tokens id connection token connected (by simp [isNode])
    exact ⟨absent, Nat.le_trans given more⟩
  · exact spent_of_gone later (get?_disconnect server id)
  · exact spent_of_gone later (gone_disconnectAll server id)

/-! ## Steps -/

/-- The node objects that a step brings in from outside. -/
def broughtIn (server : Server) : Step → List ObjectId
  | .inject (.addObject kind _) => nodeObjects server.allocateId.1 kind
  | .inject (.addObjectAt id kind _) => if id = unassigned then [] else nodeObjects id kind
  | _ => []

/-- Nodes are given ids when they are activated, and in bulk. -/
def Step.Withholds (step : Step) : Prop :=
  (¬∃ id node, step = .ask id (.activateNode node)) ∧ step ≠ .inject .assignPending

/-- A step begins and ends nodes, gives ids to some, and leaves the others theirs. -/
structure Takes (step : Step) (made : List Assignment) (before after : Server) : Prop where
  kept : ∀ id token node, before.node? id token = some node → ¬step.Ends id token →
    ∃ later, after.node? id token = some later ∧ node.Grows later
  origin : ∀ id token later, after.node? id token = some later →
    (∃ node, before.node? id token = some node ∧ node.Grows later) ∨
      later.nodeId = none ∧ later.Orderly
  once : (made.map Assignment.node).Nodup
  present : ∀ entry ∈ made, (before.node? entry.connection entry.token).isSome
  given : ∀ entry ∈ made, before.nodeId? entry.connection entry.token = none ∧
    after.nodeId? entry.connection entry.token = some entry.object
  all : ∀ id token object, before.nodeId? id token = none →
    after.nodeId? id token = some object → ⟨id, token, object⟩ ∈ made
  learns : ∀ ear, ear ≤ before.lastConnection → step.Settled ear →
    Learns ear (before.handedOver ear step) (before.broughtIn step ++ made.map Assignment.object)
      before after
  adds : Adds (before.broughtIn step ++ made.map Assignment.object) before after

theorem Tends.takes {step : Step} {made : List Assignment} {objects : List ObjectId}
    (tends : Tends made objects before after)
    (same : objects = before.broughtIn step ++ made.map Assignment.object)
    (nothing : ∀ ear, before.handedOver ear step = []) : Takes step made before after where
  kept id token node offered _ := tends.kept id token node offered
  origin id token later isLater := by
    have wasThere := tends.origin id token (by simp [isLater])
    rcases Option.isSome_iff_exists.1 wasThere with ⟨node, offered⟩
    rcases tends.kept id token node offered with ⟨present, isPresent, grows⟩
    cases isLater.symm.trans isPresent
    exact .inl ⟨node, offered, grows⟩
  once := tends.once
  present _ member := tends.present member
  given := tends.given
  all := tends.all
  learns ear _ _ := by
    rw [nothing, ← same]
    exact tends.learns ear
  adds := same ▸ tends.adds

/-- Ending nodes gives no ids, and nobody is told of new node objects. -/
theorem takes_of_ended {step : Step}
    (nodes : ∀ id token, after.node? id token = before.node? id token ∨
      step.Ends id token ∧ after.node? id token = none)
    (learns : ∀ ear, ear ≤ before.lastConnection → step.Settled ear →
      Learns ear (before.handedOver ear step) (before.broughtIn step) before after)
    (adds : Adds [] before after) : Takes step [] before after where
  kept id token node offered lasting := by
    rcases nodes id token with same | ended
    · exact ⟨node, same.trans offered, .refl node⟩
    · exact absurd ended.1 lasting
  origin id token later isLater := by
    rcases nodes id token with same | ended
    · exact .inl ⟨later, same.symm.trans isLater, .refl later⟩
    · exact absurd (ended.2.symm.trans isLater) nofun
  once := .nil
  present := by simp
  given := by simp
  all id token object unassigned given := by
    rcases nodes id token with same | ended
    · rw [nodeId?, same, ← nodeId?, unassigned] at given
      cases given
    · rw [nodeId?, ended.2] at given
      cases given
  learns ear issued settled := by
    rw [List.map_nil, List.append_nil]
    exact learns ear issued settled
  adds object isNode := by
    rcases adds object isNode with former | new
    · exact .inl former
    · cases new

theorem takes_inject (server : Server) (injection : Injection) :
    ∃ made, Takes (.inject injection) made server (server.inject injection) ∧
      (Step.Withholds (.inject injection) → made = []) := by
  have quiet : ∀ ear, server.handedOver ear (.inject injection) = [] := fun _ => rfl
  cases injection with
  | addObject kind props =>
      exact ⟨[], (tends_createObject server _).takes (by simp [broughtIn]) quiet, fun _ => rfl⟩
  | addObjectAt object kind props =>
      simp only [inject, addObjectAt]
      split
      case isTrue reserved =>
        exact ⟨[], (tends_of_same rfl rfl).takes (by simp [broughtIn, reserved]) quiet,
          fun _ => rfl⟩
      case isFalse free =>
        exact ⟨[], (tends_insertObject server object _).takes (by simp [broughtIn, free]) quiet,
          fun _ => rfl⟩
  | replaceProperties object props =>
      simp only [inject, replaceProperties]
      split
      case h_1 => exact ⟨[], (tends_of_same rfl rfl).takes rfl quiet, fun _ => rfl⟩
      case h_2 =>
        split
        case isTrue => exact ⟨[], (tends_rewrite ‹_› props).takes rfl quiet, fun _ => rfl⟩
        · exact ⟨[], (tends_of_same rfl rfl).takes rfl quiet, fun _ => rfl⟩
  | takeObject object =>
    exact ⟨[], (tends_removeObject server object).takes rfl quiet, fun _ => rfl⟩
  | assignPending =>
      rcases attends_assignPending server with ⟨made, tends⟩
      exact ⟨made, tends.takes rfl quiet, fun withholds => absurd rfl withholds.2⟩
  | disconnectAll =>
      refine ⟨[], takes_of_ended (fun id token => .inr ⟨.inr (.inr rfl), ?_⟩) ?_
        (adds_dropConnections server _), fun _ => rfl⟩
      · simp [inject, node?, gone_disconnectAll]
      · intro ear _ _ later isLater
        have gone := (gone_disconnectAll server ear).symm.trans isLater
        exact absurd gone (Option.some_ne_none later).symm
  | setPolicy change =>
      have same : Tends [] [] server (server.setPolicy change) := tends_of_same rfl rfl
      exact ⟨[], same.takes rfl quiet, fun _ => rfl⟩

theorem takes_connect (numbered : server.Numbered) (config : Config) :
    Takes (.connect config) [] server (connect config server).2 := by
  simp only [connect]
  split
  · exact (tends_of_same rfl rfl).takes rfl fun _ => rfl
  · have absent : server.connections.get? (server.lastConnection + 1) = none := by
      cases found : server.connections.get? (server.lastConnection + 1) with
      | none => rfl
      | some connection => exact absurd (numbered _ _ found) (Nat.not_succ_le_self _)
    refine takes_of_ended (fun id token => .inl ?_) (fun ear issued _ => ?_)
      (adds_of_objects rfl)
    · by_cases isNew : id = server.lastConnection + 1
      · simp [node?, setConnection, isNew, absent]
      · simp [node?, setConnection, isNew]
    · have apart : ear ≠ server.lastConnection + 1 := Nat.ne_of_lt (Nat.lt_succ_of_le issued)
      exact learns_of_same (by simp [setConnection, apart])

theorem node?_createNode (server : Server) (id other : ConnectionId) (props : Properties)
    (token : NodeToken) :
    (server.createNode id props).2.node? other token =
      if other = id ∧ (server.createNode id props).1 = some token then
        some { props, ports := [], active := false, nodeId := none }
      else server.node? other token := by
  cases connected : server.connections.get? id with
  | none => simp [createNode, connected]
  | some connection =>
      by_cases own : other = id
      · subst own
        simp [createNode, connected, node?, setConnection, Connection.takeHandle, eq_comm]
      · simp [createNode, connected, node?, setConnection, own]

theorem takes_createNode (registered : server.Registered) (props : Properties)
    (few : (server.createNode id props).2.Few) :
    Takes (.ask id (.createNode props)) [] server (server.createNode id props).2 where
  kept other token node offered _ := by
    rw [node?_createNode]
    split
    case isTrue isNew =>
      -- A node under the new handle would have been given a handle before.
      rcases isNew with ⟨rfl, isToken⟩
      rcases Option.bind_eq_some_iff.1 offered with ⟨connection, connected, isNode⟩
      have given := registered.tokens other connection token connected (by simp [isNode])
      simp only [createNode, connected, Option.some.injEq] at isToken few
      have small := few other _ (Table.get?_insert _ other other _ |>.trans (if_pos rfl))
      have handle : token.toNat = connection.handles + 1 := by
        rw [← isToken]
        exact Connection.toNat_takeHandle small
      rw [handle] at given
      exact absurd given (Nat.not_succ_le_self _)
    case isFalse => exact ⟨node, offered, .refl node⟩
  origin other token later isLater := by
    rw [node?_createNode] at isLater
    split at isLater
    · cases isLater
      exact .inr ⟨rfl, fun _ => rfl, fun _ => by simp⟩
    · exact .inl ⟨later, isLater, .refl later⟩
  once := .nil
  present := by simp
  given := by simp
  all other token object unassigned given := by
    rw [nodeId?, node?_createNode] at given
    split at given
    · cases given
    · rw [← nodeId?, unassigned] at given
      cases given
  learns ear _ _ := by
    simp only [createNode]
    split
    · exact learns_of_same rfl
    case h_2 connection connected =>
      exact learns_setConnection [] connected rfl (by simp [Connection.takeHandle]) rfl
  adds := adds_of_objects (by
    simp only [createNode]
    split <;> rfl)

theorem takes_destroyNode (server : Server) (id : ConnectionId) (token : NodeToken) :
    Takes (.ask id (.destroyNode token)) [] server (server.destroyNode id token) := by
  apply takes_of_ended
  · intro other node
    rw [node?_destroyNode]
    split
    case isTrue isNode =>
      rcases isNode with ⟨rfl, rfl⟩
      exact .inr ⟨.inl rfl, rfl⟩
    case isFalse => exact .inl rfl
  · intro ear _ _
    cases connected : server.connections.get? id with
    | none =>
        apply learns_of_same
        simp only [destroyNode, connected]
    | some connection =>
        rcases clears_destroyNode id server token with ⟨gone, clears⟩
        exact clears.learns (by simp [connected])
  · rcases clears_destroyNode id server token with ⟨gone, clears⟩
    exact clears.toSheds.adds

theorem takes_disconnect (server : Server) (id : ConnectionId) :
    Takes (.ask id .disconnect) [] server (server.disconnect id) := by
  cases connected : server.connections.get? id with
  | none =>
      have same : Tends [] [] server (server.disconnect id) := by
        rw [disconnect, dropConnection_of_absent connected]
        exact tends_of_same rfl rfl
      exact same.takes rfl fun _ => rfl
  | some connection =>
      rcases departs_disconnect connected with ⟨gone, departs, -⟩
      apply takes_of_ended
      · intro other node
        rw [node?_of_dropped departs]
        split
        case isTrue own => exact .inr ⟨.inr (.inl (own ▸ rfl)), rfl⟩
        case isFalse => exact .inl rfl
      · intro ear _ _
        by_cases own : ear = id
        · intro later isLater
          rw [own, departs.vacated.gone] at isLater
          cases isLater
        · exact departs.toSheds.learns own
      · exact departs.toSheds.adds

/-- A connection that arranges its own inbox tells others nothing and lets the nodes be. -/
theorem takes_of_arranged {step : Step} {connection later : Connection}
    (connected : server.connections.get? id = some connection)
    (nodes : later.nodes = connection.nodes)
    (foreign : ∀ ear, ear ≠ id → server.handedOver ear step = [])
    (nothing : server.broughtIn step = [])
    (own : step.Settled id →
      Learns id (server.handedOver id step) [] server (server.setConnection id later)) :
    Takes step [] server (server.setConnection id later) := by
  apply takes_of_ended
  · exact fun _ _ => .inl (node?_setConnection connected nodes)
  · intro ear _ settled
    rw [nothing]
    by_cases isOwn : ear = id
    · subst isOwn
      exact own settled
    · rw [foreign ear isOwn]
      exact learns_of_same (by simp [setConnection, isOwn])
  · exact adds_of_objects rfl

theorem handedOver_of_apart (apart : ear ≠ id) (server : Server) (request : Request) :
    server.handedOver ear (.ask id request) = [] := by
  cases request <;> simp [handedOver, apart.symm]

theorem takes_drive (server : Server) (id : ConnectionId) (timeout : Nat) :
    Takes (.ask id (.drive timeout)) [] server (server.drive id).2 := by
  have foreign : ∀ ear, ear ≠ id → server.handedOver ear (.ask id (.drive timeout)) = [] :=
    fun ear apart => handedOver_of_apart apart server _
  cases connected : server.connections.get? id with
  | none =>
      have same : (server.drive id).2.connections = server.connections ∧
          (server.drive id).2.objects = server.objects := by
        simp only [drive, connected]
        rcases server.undelivered.get? id with _ | ⟨_ | ⟨first, rest⟩⟩ <;> exact ⟨rfl, rfl⟩
      rcases same with ⟨connections, objects⟩
      apply takes_of_ended
      · exact fun other token => .inl (by rw [node?, connections, ← node?])
      · intro ear _ _ later isLater
        rw [connections] at isLater
        by_cases own : ear = id
        · rw [own, connected] at isLater
          cases isLater
        · rw [foreign ear own]
          exact learns_of_same (by rw [connections]) later (connections ▸ isLater)
      · exact adds_of_objects objects
  | some connection =>
      simp only [drive, connected]
      refine takes_of_arranged connected rfl foreign rfl fun _ later isLater => ?_
      simp only [setConnection, Table.get?_insert, if_true, Option.some.injEq] at isLater
      subst isLater
      have fetched : server.handedOver id (.ask id (.drive timeout)) = connection.inbox := by
        simp [handedOver, answer, drive, connected, Except.toOption]
      rw [fetched]
      exact ⟨connection, connected, fun subscribed => ⟨subscribed, [], rfl, rfl⟩⟩

/-- A connection begins or ceases to listen; what it hears meanwhile is its own affair. -/
theorem takes_subscription (server : Server) (id : ConnectionId) {request : Request}
    (subscription : request = .subscribeGlobals ∨ request = .unsubscribeGlobals) :
    Takes (.ask id request) [] server (answer id request server).2 := by
  have foreign : ∀ ear, ear ≠ id → server.handedOver ear (.ask id request) = [] :=
    fun ear apart => handedOver_of_apart apart server request
  cases connected : server.connections.get? id with
  | none =>
      have same : Tends [] [] server (answer id request server).2 := by
        rcases subscription with rfl | rfl
        · simpa [answer, subscribeGlobals, connected] using tends_of_same rfl rfl
        · simpa [answer, unsubscribeGlobals, connected] using tends_of_same rfl rfl
      apply same.takes rfl
      rcases subscription with rfl | rfl <;> exact fun _ => rfl
  | some connection =>
      rcases subscription with rfl | rfl
      · simp only [answer, subscribeGlobals, connected]
        exact takes_of_arranged connected rfl foreign rfl fun settled => absurd rfl settled.1
      · simp only [answer, unsubscribeGlobals, connected]
        exact takes_of_arranged connected rfl foreign rfl fun settled => absurd rfl settled.2

theorem takes_ask (registered : server.Registered) (request : Request)
    (few : (answer id request server).2.Few) :
    ∃ made, Takes (.ask id request) made server (answer id request server).2 ∧
      (Step.Withholds (.ask id request) → made = []) := by
  cases steady : request.isSteady with
  | true =>
      have nothing : ∀ ear, server.handedOver ear (.ask id request) = [] := by
        cases request <;> first | exact fun _ => rfl | cases steady
      exact ⟨[], (tends_answer server id steady).takes rfl nothing, fun _ => rfl⟩
  | false =>
      cases request with
      | activateNode node =>
          rcases attends_activateNode server id node with ⟨made, tends⟩
          exact ⟨made, tends.takes rfl fun _ => rfl, fun withholds =>
            absurd ⟨id, node, rfl⟩ withholds.1⟩
      | subscribeGlobals => exact ⟨[], takes_subscription server id (.inl rfl), fun _ => rfl⟩
      | unsubscribeGlobals => exact ⟨[], takes_subscription server id (.inr rfl), fun _ => rfl⟩
      | createNode props => exact ⟨[], takes_createNode registered props few, fun _ => rfl⟩
      | destroyNode node => exact ⟨[], takes_destroyNode server id node, fun _ => rfl⟩
      | disconnect => exact ⟨[], takes_disconnect server id, fun _ => rfl⟩
      | drive timeout => exact ⟨[], takes_drive server id timeout, fun _ => rfl⟩
      | _ => cases steady

theorem takes_perform (registered : server.Registered) {step : Step}
    (few : (server.perform step).Few) :
    ∃ made, Takes step made server (server.perform step) ∧ (step.Withholds → made = []) := by
  cases step with
  | setUp | takeDown =>
    exact ⟨[], Tends.takes (tends_of_same rfl rfl) rfl fun _ => rfl, fun _ => rfl⟩
  | inject injection => exact takes_inject server injection
  | connect config => exact ⟨[], takes_connect registered.numbered config, fun _ => rfl⟩
  | ask id request => exact takes_ask registered request few

/-! ## Runs -/

/-- The node objects that the steps of a run bring in from outside. -/
def brought (server : Server) : List Step → List ObjectId
  | [] => []
  | step :: rest => server.broughtIn step ++ (server.perform step).brought rest

theorem brought_append (server : Server) (first second : List Step) :
    server.brought (first ++ second) =
      server.brought first ++ (server.run first).brought second := by
  induction first generalizing server with
  | nil => rfl
  | cons step rest ih =>
      rw [List.cons_append, brought, brought, ih, List.append_assoc]
      rfl

/-- The property holds of every state that a run goes through. -/
def Throughout (Holds : Server → Prop) (server : Server) (steps : List Step) : Prop :=
  ∀ early, early <+: steps → Holds (server.run early)

variable {Holds : Server → Prop} {steps : List Step}

theorem Throughout.of_append {first second : List Step}
    (throughout : Throughout Holds server (first ++ second)) :
    Throughout Holds server first ∧ Throughout Holds (server.run first) second := by
  constructor
  · exact fun early isEarly => throughout early (isEarly.trans (List.prefix_append first second))
  · intro early isEarly
    rw [← run_append]
    exact throughout _ ((List.prefix_append_right_inj first).2 isEarly)

theorem Throughout.last (throughout : Throughout Holds server steps) : Holds (server.run steps) :=
  throughout steps (List.prefix_refl steps)

theorem Registered.run (registered : server.Registered) (few : Throughout Few server steps) :
    (server.run steps).Registered := by
  induction steps using List.reverseRecOn with
  | nil => exact registered
  | append_singleton early step ih =>
      have fewBefore := few.of_append.1
      have after := few.last
      rw [run_append] at after ⊢
      exact (ih fewBefore).perform after

theorem Spent.run (spent : server.Spent id token) (few : Throughout Few server steps) :
    (server.run steps).Spent id token := by
  induction steps using List.reverseRecOn with
  | nil => exact spent
  | append_singleton early step ih =>
      have fewBefore := few.of_append.1
      have after := few.last
      rw [run_append] at after ⊢
      exact (ih fewBefore).perform after

theorem lastConnection_le_run (server : Server) (steps : List Step) :
    server.lastConnection ≤ (server.run steps).lastConnection := by
  induction steps generalizing server with
  | nil => exact Nat.le_refl _
  | cons step rest ih => exact Nat.le_trans (lastConnection_le_perform server step) (ih _)

theorem registered_empty : ({} : Server).Registered where
  numbered _ _ found := by cases found
  tokens _ _ _ found := by cases found

/-- A node is in order all the time. -/
theorem orderly_run (registered : server.Registered)
    (orderly : ∀ id token node, server.node? id token = some node → node.Orderly)
    (few : Throughout Few server steps) (id : ConnectionId) (token : NodeToken)
    (node : OfferedNode) (offered : (server.run steps).node? id token = some node) :
    node.Orderly := by
  induction steps using List.reverseRecOn generalizing node with
  | nil => exact orderly id token node offered
  | append_singleton early step ih =>
      have fewBefore := few.of_append.1
      have after := few.last
      rw [run_append] at after offered
      rcases takes_perform (registered.run fewBefore) after with ⟨made, takes, -⟩
      rcases takes.origin id token node offered with ⟨former, wasOffered, grows⟩ | fresh
      · exact grows.orderly (ih fewBefore former wasOffered)
      · exact fresh.2

/-- An id lasts as long as there is the node, and then the handle of the node is spent. -/
theorem nodeId?_run (registered : server.Registered) (few : Throughout Few server steps)
    {object : ObjectId} (given : server.nodeId? id token = some object) :
    ((∀ step ∈ steps, ¬step.Ends id token) →
      (server.run steps).nodeId? id token = some object) ∧
    ((∃ step ∈ steps, step.Ends id token) → (server.run steps).Spent id token) := by
  induction steps generalizing server with
  | nil => exact ⟨fun _ => given, by simp⟩
  | cons step rest ih =>
      have after : (server.perform step).Few := few [step] (by simp)
      have fewLater : Throughout Few (server.perform step) rest := by
        rw [← List.singleton_append] at few
        exact few.of_append.2
      rcases nodeId?_eq_some_iff.1 given with ⟨node, offered, isGiven⟩
      by_cases ends : step.Ends id token
      · have spent := (spent_of_ends registered after ends offered).run fewLater
        exact ⟨fun lasting => absurd ends (lasting step List.mem_cons_self), fun _ => spent⟩
      · rcases takes_perform registered after with ⟨made, takes, -⟩
        rcases takes.kept id token node offered ends with ⟨later, isLater, grows⟩
        have still : (server.perform step).nodeId? id token = some object :=
          nodeId?_eq_some_iff.2 ⟨later, isLater, grows.given object isGiven⟩
        rcases ih (registered.perform after) fewLater still with ⟨lasts, spends⟩
        constructor
        · exact fun lasting =>
            lasts fun other member => lasting other (List.mem_cons_of_mem _ member)
        · rintro ⟨other, member, otherEnds⟩
          rcases List.mem_cons.1 member with rfl | further
          · exact absurd otherEnds ends
          · exact spends ⟨other, further, otherEnds⟩

/-! ## The ids that are given in a run -/

/--
All ids that are given to nodes in a run, in order, one to a node. Each is the id of its node at
some time. A node object that a step adds is brought in from outside or becomes the id of a node in
that step, and whoever listens for a while is told of the node objects that are brought in, of those
that become ids meanwhile, and of no others.
-/
structure Chronicle (server : Server) (steps : List Step) (given : List Assignment) : Prop where
  once : (given.map Assignment.node).Nodup
  had : ∀ entry ∈ given, ∃ early, early <+: steps ∧
    (server.run early).nodeId? entry.connection entry.token = some entry.object
  added : ∀ early step late, steps = early ++ step :: late → ∀ object,
    (server.run (early ++ [step])).kind? object = some .node →
      (server.run early).kind? object = some .node ∨
      object ∈ (server.run early).broughtIn step ∨
      ∃ entry ∈ given, entry.object = object ∧
        (server.run early).nodeId? entry.connection entry.token = none ∧
        (server.run (early ++ [step])).nodeId? entry.connection entry.token = some object
  told : ∀ ear early late, steps = early ++ late → ear ≤ (server.run early).lastConnection →
    (∀ step ∈ late, step.Settled ear) →
    ∃ part objects, part <:+ given ∧
      objects.Perm ((server.run early).brought late ++ part.map Assignment.object) ∧
      Learns ear ((server.run early).delivered ear late) objects (server.run early)
        (server.run steps)

/-- A node that has been given an id has it, or its handle is spent. -/
def Tenured (server : Server) (given : List Assignment) : Prop :=
  ∀ entry ∈ given, server.nodeId? entry.connection entry.token = some entry.object ∨
    server.Spent entry.connection entry.token

theorem Tenured.perform {given made : List Assignment} (tenured : server.Tenured given)
    (registered : server.Registered) {step : Step} (few : (server.perform step).Few)
    (takes : Takes step made server (server.perform step)) :
    (server.perform step).Tenured (given ++ made) := by
  intro entry member
  rcases List.mem_append.1 member with former | new
  · rcases tenured entry former with lasting | spent
    · rcases nodeId?_eq_some_iff.1 lasting with ⟨node, offered, isGiven⟩
      by_cases ends : step.Ends entry.connection entry.token
      · exact .inr (spent_of_ends registered few ends offered)
      · rcases takes.kept _ _ node offered ends with ⟨later, isLater, grows⟩
        exact .inl (nodeId?_eq_some_iff.2 ⟨later, isLater, grows.given _ isGiven⟩)
    · exact .inr (spent.perform few)
  · exact .inl (takes.given entry new).2

/-- Whoever has an id, or has had one, is not given one again. -/
theorem nodup_append_of_tenured {given made : List Assignment} {step : Step}
    (once : (given.map Assignment.node).Nodup) (tenured : before.Tenured given)
    (takes : Takes step made before after) : ((given ++ made).map Assignment.node).Nodup := by
  rw [List.map_append, List.nodup_append]
  refine ⟨once, takes.once, fun node early other late => ?_⟩
  rcases List.mem_map.1 early with ⟨entry, isEarly, rfl⟩
  rcases List.mem_map.1 late with ⟨again, isLate, rfl⟩
  intro same
  rcases Prod.mk.inj same with ⟨sameConnection, sameToken⟩
  rcases tenured entry isEarly with lasting | spent
  · rw [sameConnection, sameToken, (takes.given again isLate).1] at lasting
    cases lasting
  · have present := takes.present again isLate
    rw [sameConnection, sameToken] at spent
    rw [spent.node?] at present
    cases present

/-- What is given in one more step is told to those who listen in that step. -/
theorem Chronicle.snoc {given made : List Assignment} (chronicle : Chronicle server steps given)
    (tenured : (server.run steps).Tenured given) {step : Step}
    (takes : Takes step made (server.run steps) (server.run (steps ++ [step]))) :
    Chronicle server (steps ++ [step]) (given ++ made) where
  once := nodup_append_of_tenured chronicle.once tenured takes
  had entry member := by
    rcases List.mem_append.1 member with former | new
    · rcases chronicle.had entry former with ⟨early, isEarly, was⟩
      exact ⟨early, isEarly.trans (List.prefix_append steps [step]), was⟩
    · exact ⟨steps ++ [step], List.prefix_refl _, (takes.given entry new).2⟩
  added early last late split object isNode := by
    rcases List.eq_nil_or_concat late with rfl | ⟨late, final, rfl⟩
    · rcases List.append_inj' split rfl with ⟨rfl, isLast⟩
      cases isLast
      rcases takes.adds object isNode with former | new
      · exact .inl former
      · rcases List.mem_append.1 new with outside | isGiven
        · exact .inr (.inl outside)
        · rcases List.mem_map.1 isGiven with ⟨entry, member, rfl⟩
          exact .inr (.inr ⟨entry, List.mem_append_right given member, rfl,
            takes.given entry member⟩)
    · rw [List.concat_eq_append, ← List.cons_append, ← List.append_assoc] at split
      rcases List.append_inj' split rfl with ⟨isEarly, -⟩
      rcases chronicle.added early last late isEarly object isNode with
        former | outside | ⟨entry, member, isGiven⟩
      · exact .inl former
      · exact .inr (.inl outside)
      · exact .inr (.inr ⟨entry, List.mem_append_left made member, isGiven⟩)
  told ear early late split issued settled := by
    rcases List.eq_nil_or_concat late with rfl | ⟨late, last, rfl⟩
    · rw [List.append_nil] at split
      subst split
      exact ⟨[], [], List.nil_suffix, .refl _, learns_of_same rfl⟩
    · rw [List.concat_eq_append, ← List.append_assoc] at split
      rw [List.concat_eq_append] at settled ⊢
      rcases List.append_inj' split rfl with ⟨rfl, isLast⟩
      cases isLast
      have settledBefore : ∀ other ∈ late, other.Settled ear := fun other member =>
        settled other (List.mem_append_left _ member)
      rcases chronicle.told ear early late rfl issued settledBefore with
        ⟨part, objects, ⟨rest, isPart⟩, perm, learns⟩
      have between : ear ≤ (server.run (early ++ late)).lastConnection := by
        rw [run_append]
        exact Nat.le_trans issued (lastConnection_le_run _ late)
      have told := learns.trans (takes.learns ear between (settled step (by simp)))
      refine ⟨part ++ made,
        objects ++ ((server.run (early ++ late)).broughtIn step ++ made.map Assignment.object),
        ⟨rest, by rw [← List.append_assoc, isPart]⟩, ?_, ?_⟩
      · rw [brought_append, ← run_append, List.map_append]
        have shuffled := perm.append_right
          ((server.run (early ++ late)).broughtIn step ++ made.map Assignment.object)
        refine shuffled.trans ?_
        simp only [brought, List.append_nil, List.append_assoc]
        exact List.Perm.append_left _ (List.perm_append_comm_assoc _ _ _)
      · rw [delivered_append, ← run_append]
        simpa only [delivered, List.append_nil] using told

/-- A node that was given an id has it, or its handle is spent, so it is not given one again. -/
theorem exists_chronicle (registered : server.Registered) (few : Throughout Few server steps) :
    ∃ given, Chronicle server steps given ∧ (server.run steps).Tenured given := by
  induction steps using List.reverseRecOn with
  | nil =>
      refine ⟨[], ⟨.nil, by simp, by simp, ?_⟩, by simp [Tenured]⟩
      intro ear early late split _ _
      rcases List.append_eq_nil_iff.1 split.symm with ⟨rfl, rfl⟩
      exact ⟨[], [], List.suffix_refl [], .refl _, learns_of_same rfl⟩
  | append_singleton former step ih =>
      have fewBefore := few.of_append.1
      have after := few.last
      rcases ih fewBefore with ⟨given, chronicle, tenured⟩
      have between := registered.run fewBefore
      have ran : server.run (former ++ [step]) = (server.run former).perform step :=
        run_append server former [step]
      rw [ran] at after
      rcases takes_perform between after with ⟨made, takes, -⟩
      refine ⟨given ++ made, chronicle.snoc tenured (ran ▸ takes), ?_⟩
      rw [ran]
      exact tenured.perform between after takes

end Server

end MediaGraph
