import MediaGraph.Client.Lifecycle
import MediaGraph.Proofs.Server.Bystanders
import MediaGraph.Proofs.Server.Ownership
import MediaGraph.Proofs.Table

/-!
# The end of a connection

When a connection is dropped, its nodes go with all that shows them, and then every object that is
still its own. Each of these objects is gone once, and every other subscriber is told so once
(`Server.Sheds`). In the end there is neither the connection nor anything that belongs to it
(`Server.Vacated`).

What is left of it is a transport that nobody answers: its requests are refused and change nothing,
and all that it can still fetch is what was waiting when the connection was dropped (`Server.Dead`).
-/

namespace MediaGraph

/-- The answer to a request on a connection that is not there. -/
def Request.refusal : (request : Request) → request.Answer
  | bindObject .. | createObject .. | createNode _ | addPort .. => none
  | subscribeGlobals | sync _ | activateNode _ | drive _ => .error .disconnected
  | unsubscribeGlobals | subscribeInfo _ | destroyProxy _ | updatePort .. | removePort ..
  | destroyNode _ | disconnect => ()

/-- The connection once it has been told that objects are gone, if it has subscribed. -/
def Connection.told (connection : Connection) (gone : List ObjectId) : Connection :=
  if connection.subscribed then connection.send (gone.map .removed) else connection

namespace Connection

variable (connection : Connection)

@[simp]
theorem told_nil : connection.told [] = connection := by simp [told, send]

theorem told_append (first second : List ObjectId) :
    (connection.told first).told second = connection.told (first ++ second) := by
  cases subscribed : connection.subscribed <;> simp [told, send, subscribed]

@[simp]
theorem subscribed_told (gone : List ObjectId) :
    (connection.told gone).subscribed = connection.subscribed := by
  simp only [told]
  split <;> rfl

theorem inbox_told (gone : List ObjectId) : (connection.told gone).inbox =
    connection.inbox ++ if connection.subscribed then gone.map .removed else [] := by
  simp only [told]
  split <;> simp [send]

end Connection

namespace Server

/-- Objects have gone on account of a connection, and every other one has been told of each. -/
structure Sheds (id : ConnectionId) (gone : List ObjectId) (before after : Server) : Prop where
  nodup : gone.Nodup
  present : ∀ object ∈ gone, before.objects.contains object
  objects : ∀ object, after.objects.get? object =
    if object ∈ gone then none else before.objects.get? object
  others : ∀ other, other ≠ id →
    after.connections.get? other = (before.connections.get? other).map (·.told gone)
  waiting : ∀ other, other ≠ id → after.undelivered.get? other = before.undelivered.get? other
  frame : after = { before with
    objects := after.objects, connections := after.connections, undelivered := after.undelivered }

/-- The connection itself is still there and has been told as well. -/
structure Clears (id : ConnectionId) (gone : List ObjectId) (before after : Server) : Prop
    extends Sheds id gone before after where
  own : ∀ connection, before.connections.get? id = some connection →
    ∃ later, after.connections.get? id = some later ∧
      later.subscribed = connection.subscribed ∧ later.inbox = (connection.told gone).inbox

/-- There is neither the connection nor anything that belongs to it. -/
structure Vacated (id : ConnectionId) (server : Server) : Prop where
  gone : server.connections.get? id = none
  unowned : ∀ object found, server.objects.get? object = some found → found.owner ≠ some id

/-- What can still be fetched for a connection that was dropped. -/
def leftover (id : ConnectionId) (server : Server) : List Event :=
  (server.undelivered.get? id).getD []

variable {id : ConnectionId} {before middle after server : Server}

/-! ## What goes with a connection -/

theorem sheds_of_own (objects : after.objects = before.objects)
    (others : ∀ other, other ≠ id → after.connections.get? other = before.connections.get? other)
    (waiting : ∀ other, other ≠ id → after.undelivered.get? other = before.undelivered.get? other)
    (frame : after = { before with
      objects := after.objects, connections := after.connections,
      undelivered := after.undelivered }) : Sheds id [] before after where
  nodup := .nil
  present := by simp
  objects object := by simp [objects]
  others other apart := by
    rw [others other apart]
    cases before.connections.get? other <;> simp
  waiting := waiting
  frame := frame

theorem Sheds.trans {first second : List ObjectId} (start : Sheds id first before middle)
    (rest : Sheds id second middle after) : Sheds id (first ++ second) before after where
  nodup := by
    refine List.nodup_append.2 ⟨start.nodup, rest.nodup, fun object early other late => ?_⟩
    rintro rfl
    have still := rest.present object late
    simp [Table.contains, start.objects, early] at still
  present object member := by
    rcases List.mem_append.1 member with early | late
    · exact start.present object early
    · have still := rest.present object late
      rw [Table.contains, start.objects] at still
      split at still
      · cases still
      · exact still
  objects object := by
    rw [rest.objects, start.objects]
    by_cases early : object ∈ first <;> by_cases late : object ∈ second <;> simp [early, late]
  others other apart := by
    rw [rest.others other apart, start.others other apart, Option.map_map]
    congr 1
    funext connection
    exact connection.told_append first second
  waiting other apart := (rest.waiting other apart).trans (start.waiting other apart)
  frame := rest.frame.trans (by rw [start.frame])

theorem Clears.trans {first second : List ObjectId} (start : Clears id first before middle)
    (rest : Clears id second middle after) : Clears id (first ++ second) before after where
  toSheds := start.toSheds.trans rest.toSheds
  own connection connected := by
    rcases start.own connection connected with ⟨between, isBetween, early, earlyInbox⟩
    rcases rest.own between isBetween with ⟨later, isLater, late, lateInbox⟩
    refine ⟨later, isLater, late.trans early, ?_⟩
    rw [lateInbox, ← connection.told_append, Connection.inbox_told, Connection.inbox_told, early,
      earlyInbox, connection.subscribed_told]

theorem clears_refl (id : ConnectionId) (server : Server) : Clears id [] server server where
  toSheds := sheds_of_own rfl (fun _ _ => rfl) (fun _ _ => rfl) rfl
  own connection connected := ⟨connection, connected, rfl, by simp⟩

theorem sheds_setConnection (server : Server) (id : ConnectionId) (later : Connection) :
    Sheds id [] server (server.setConnection id later) :=
  sheds_of_own rfl (fun other apart => by simp [setConnection, apart]) (fun _ _ => rfl) rfl

theorem clears_setConnection {connection later : Connection}
    (connected : server.connections.get? id = some connection)
    (subscribed : later.subscribed = connection.subscribed)
    (inbox : later.inbox = connection.inbox) :
    Clears id [] server (server.setConnection id later) where
  toSheds := sheds_setConnection server id later
  own present isPresent := by
    cases connected.symm.trans isPresent
    exact ⟨later, by simp [setConnection], subscribed, by simp [inbox]⟩

/-- An object that is there goes, and all subscribers are told. -/
theorem clears_removeObject (id : ConnectionId) (server : Server) (object : ObjectId) :
    ∃ gone, Clears id gone server (server.removeObject object) := by
  cases present : server.objects.contains object with
  | false =>
      rw [removeObject_of_absent present]
      exact ⟨[], clears_refl id server⟩
  | true =>
      have sent : ∀ other, (server.removeObject object).connections.get? other =
          (server.connections.get? other).map (·.told [object]) :=
        (broadcasts_removeObject present).sent
      refine ⟨[object],
        ⟨by simp, by simpa using present, ?_, fun other _ => sent other, ?_, ?_⟩, ?_⟩
      · intro other
        simp
      · intro other _
        simp [removeObject, present, broadcast]
      · simp [removeObject, present, broadcast]
      · intro connection connected
        exact ⟨connection.told [object], by rw [sent, connected]; rfl, by simp, rfl⟩

/-- What goes at each step of a walk goes in the walk as a whole. -/
theorem exists_foldl {α : Type} {Related : List ObjectId → Server → Server → Prop}
    (refl : ∀ server, Related [] server server)
    (trans : ∀ {first second before middle after}, Related first before middle →
      Related second middle after → Related (first ++ second) before after)
    {step : Server → α → Server}
    (each : ∀ server item, ∃ gone, Related gone server (step server item))
    (items : List α) (server : Server) : ∃ gone, Related gone server (items.foldl step server) := by
  induction items generalizing server with
  | nil => exact ⟨[], refl server⟩
  | cons item rest ih =>
      rcases each server item with ⟨first, start⟩
      rcases ih (step server item) with ⟨second, remaining⟩
      exact ⟨first ++ second, trans start remaining⟩

theorem clears_removeObjects (id : ConnectionId) (server : Server) (objects : List ObjectId) :
    ∃ gone, Clears id gone server (server.removeObjects objects) :=
  exists_foldl (clears_refl id) Clears.trans (clears_removeObject id) objects server

theorem clears_destroyNode (id : ConnectionId) (server : Server) (node : NodeToken) :
    ∃ gone, Clears id gone server (server.destroyNode id node) := by
  simp only [destroyNode]
  split
  case h_1 => exact ⟨[], clears_refl id server⟩
  case h_2 connection connected =>
    split
    case h_1 => exact ⟨[], clears_refl id server⟩
    case h_2 offered _ =>
      have erased : Clears id [] server
          (server.setConnection id { connection with nodes := connection.nodes.erase node }) :=
        clears_setConnection connected rfl rfl
      rcases clears_removeObjects id _ offered.shownObjects with ⟨gone, clears⟩
      exact ⟨gone, erased.trans clears⟩

theorem sheds_destroyProxy (id : ConnectionId) (server : Server) (proxy : ProxyId) :
    ∃ gone, Sheds id gone server (server.destroyProxy id proxy) := by
  simp only [destroyProxy]
  split
  case h_1 => exact ⟨[], (clears_refl id server).toSheds⟩
  case h_2 connection connected =>
    split
    case h_1 => exact ⟨[], (clears_refl id server).toSheds⟩
    case h_2 bound found =>
      have erased := sheds_setConnection server id
        { connection with proxies := connection.proxies.erase proxy }
      split
      · rcases clears_removeObject id _ bound.object with ⟨gone, clears⟩
        exact ⟨gone, erased.trans clears.toSheds⟩
      · exact ⟨[], erased⟩

/-! ## Dropping a connection -/

/-- A connection has been dropped, with what went on its account. -/
structure Departs (id : ConnectionId) (gone : List ObjectId) (before after : Server) : Prop
    extends Sheds id gone before after where
  vacated : after.Vacated id

/-- Dropping a connection leaves nothing of it but what it had been told by then. -/
theorem departs_dropConnection {connection : Connection}
    (connected : server.connections.get? id = some connection) :
    ∃ gone, Departs id gone server (server.dropConnection id) ∧
      (server.dropConnection id).leftover id = (connection.told gone).inbox := by
  simp only [dropConnection, connected]
  generalize walked : connection.nodes.keys.foldl
    (fun server node => server.destroyNode id node) server = left
  have nodes : ∃ gone, Clears id gone server left := by
    rw [← walked]
    exact exists_foldl (clears_refl id) Clears.trans (clears_destroyNode id) _ server
  rcases nodes with ⟨first, start⟩
  rcases clears_removeObjects id left (left.ownedObjects id) with ⟨second, rest⟩
  have cleared := start.trans rest
  rcases cleared.own connection connected with ⟨last, isLast, -, inbox⟩
  rw [isLast]
  refine ⟨first ++ second, ⟨?_, ?_, ?_⟩, ?_⟩
  · have erased : Sheds id [] (left.removeObjects (left.ownedObjects id))
        { left.removeObjects (left.ownedObjects id) with
          connections := (left.removeObjects (left.ownedObjects id)).connections.erase id
          undelivered :=
            (left.removeObjects (left.ownedObjects id)).undelivered.insert id last.inbox } :=
      sheds_of_own rfl (fun other apart => by simp [apart]) (fun other apart => by simp [apart]) rfl
    simpa using cleared.toSheds.trans erased
  · simp
  · intro object found present owned
    simp only [get?_removeObjects, Option.ite_none_left_eq_some] at present
    exact present.1 (mem_ownedObjects.2 ⟨found, present.2, owned⟩)
  · simp [leftover, inbox]

/-- A client that disconnects leaves nothing of its connection, not even what waited for it. -/
theorem departs_disconnect {connection : Connection}
    (connected : server.connections.get? id = some connection) :
    ∃ gone, Departs id gone server (server.disconnect id) ∧
      (server.disconnect id).leftover id = [] := by
  rcases departs_dropConnection connected with ⟨gone, departs, -⟩
  refine ⟨gone, ⟨?_, ⟨departs.vacated.gone, departs.vacated.unowned⟩⟩,
    by simp [disconnect, leftover]⟩
  have forgotten : Sheds id [] (server.dropConnection id) (server.disconnect id) :=
    sheds_of_own rfl (fun _ _ => rfl) (fun other apart => by simp [disconnect, apart]) rfl
  simpa using departs.toSheds.trans forgotten

/-! ## Closing a client -/

/-- What goes while a connection is being taken apart by its client. -/
def Dismantles (id : ConnectionId) (gone : List ObjectId) (before after : Server) : Prop :=
  Sheds id gone before after ∧ Remains id before after

theorem dismantles_refl (id : ConnectionId) (server : Server) : Dismantles id [] server server :=
  ⟨(clears_refl id server).toSheds, fun connected => connected⟩

theorem Dismantles.trans {first second : List ObjectId} (start : Dismantles id first before middle)
    (rest : Dismantles id second middle after) : Dismantles id (first ++ second) before after :=
  ⟨start.1.trans rest.1, fun connected => rest.2 (start.2 connected)⟩

theorem Clears.dismantles {gone : List ObjectId} (clears : Clears id gone before after) :
    Dismantles id gone before after := by
  refine ⟨clears.toSheds, fun connected => ?_⟩
  rcases Option.isSome_iff_exists.1 connected with ⟨connection, found⟩
  rcases clears.own connection found with ⟨later, isLater, -⟩
  simp [isLater]

theorem dismantles_unsubscribeGlobals (id : ConnectionId) (server : Server) :
    Dismantles id [] server (server.unsubscribeGlobals id) := by
  simp only [unsubscribeGlobals]
  split
  · exact dismantles_refl id server
  · exact ⟨sheds_setConnection server id _, remains_setConnection server _⟩

/-- Handles are given back one after the other, in whatever order. -/
theorem dismantles_destroyProxies (id : ConnectionId) (proxies : List ProxyId) (server : Server) :
    ∃ gone, Dismantles id gone server
      (Subscriber.destroyProxies (transport id) proxies server) := by
  refine exists_foldl (dismantles_refl id) Dismantles.trans (fun world proxy => ?_) proxies server
  rcases sheds_destroyProxy id world proxy with ⟨gone, sheds⟩
  exact ⟨gone, sheds, remains_destroyProxy world proxy⟩

theorem dismantles_teardown (id : ConnectionId) (subscriber : Subscriber) (server : Server) :
    ∃ gone, Dismantles id gone server (subscriber.teardown (transport id) server).2 := by
  simp only [Subscriber.teardown]
  split
  case h_1 =>
    rcases dismantles_destroyProxies id subscriber.listened.values (server.unsubscribeGlobals id)
      with ⟨gone, dismantles⟩
    exact ⟨gone, (dismantles_unsubscribeGlobals id server).trans dismantles⟩
  case h_2 | h_3 => exact dismantles_destroyProxies id subscriber.listened.values server

/-- As long as it is connected, a client that is closed leaves nothing of its connection either. -/
theorem departs_close {client : Client Server} (opened : client.transport = some (transport id))
    (connected : (server.connections.get? id).isSome) :
    ∃ gone, Departs id gone server (client.close server).2 ∧
      (client.close server).2.leftover id = [] := by
  simp only [Client.close, opened]
  generalize torn : (client.subscriber.teardown (transport id) server).2 = between
  rcases dismantles_teardown id client.subscriber server with ⟨first, start⟩
  rw [torn] at start
  have nodes : ∃ gone, Dismantles id gone between
      (Client.destroyNodes (transport id) client.localNodes between) := by
    refine exists_foldl (dismantles_refl id) Dismantles.trans (fun world node => ?_) _ between
    rcases clears_destroyNode id world node with ⟨gone, clears⟩
    exact ⟨gone, clears.dismantles⟩
  rcases nodes with ⟨second, middle⟩
  have dismantled := start.trans middle
  rcases Option.isSome_iff_exists.1 (dismantled.2 connected) with ⟨last, isLast⟩
  rcases departs_disconnect isLast with ⟨third, departs, empty⟩
  exact ⟨first ++ second ++ third, ⟨dismantled.1.trans departs.toSheds, departs.vacated⟩, empty⟩

/-! ## A transport without a connection -/

theorem carries_vacated (id : ConnectionId) :
    Carries fun before after => before.Vacated id → after.Vacated id where
  trans start rest vacated := rest (start vacated)
  keeps {before after} keeps vacated := by
    constructor
    · cases present : after.connections.get? id with
      | none => rfl
      | some later =>
          rcases keeps.nodes id later present with ⟨connection, found, -⟩
          rw [vacated.gone] at found
          cases found
    · rw [keeps.objects]
      exact vacated.unowned
  insertObject {server object} other hosts vacated := by
    have absent := isSome_insertObject id server other object
    rw [vacated.gone] at absent
    refine ⟨Option.isSome_eq_false_iff.1 absent |> Option.isNone_iff_eq_none.1, ?_⟩
    intro present found isPresent owned
    rw [get?_insertObject] at isPresent
    split at isPresent
    · cases isPresent
      have connected := hosts id owned
      rw [vacated.gone] at connected
      cases connected
    · exact vacated.unowned present found isPresent owned
  removeObject server object vacated := by
    rcases clears_removeObject (id + 1) server object with ⟨gone, clears⟩
    constructor
    · rw [clears.others id (Nat.ne_of_lt (Nat.lt_succ_self id)), vacated.gone]
      rfl
    · intro other found present
      rw [get?_removeObject, Option.ite_none_left_eq_some] at present
      exact vacated.unowned other found present.2
  rewrite {server object former} props present vacated := by
    constructor
    · simp [sendInfo, vacated.gone]
    · intro other found isFound
      rw [objects_sendInfo, Table.get?_insert] at isFound
      split at isFound
      · cases isFound
        exact vacated.unowned object former present
      · exact vacated.unowned other found isFound

theorem serves_vacated (id other : ConnectionId) :
    Serves other fun before after => before.Vacated id → after.Vacated id where
  toCarries := carries_vacated id
  arrange {server connection later} connected _ vacated := by
    have apart : id ≠ other := by
      rintro rfl
      rw [vacated.gone] at connected
      cases connected
    exact ⟨by simp [setConnection, apart, vacated.gone], vacated.unowned⟩

theorem Vacated.perform (vacated : server.Vacated id) (issued : id ≤ server.lastConnection)
    (step : Step) : (server.perform step).Vacated id := by
  cases step with
  | setUp | takeDown => exact ⟨vacated.gone, vacated.unowned⟩
  | inject injection => exact (carries_vacated id).inject server injection vacated
  | connect config =>
      have isNew : id ≠ server.lastConnection + 1 := Nat.ne_of_lt (Nat.lt_succ_of_le issued)
      simp only [Server.perform, connect]
      split
      · exact vacated
      · exact ⟨by simp [setConnection, isNew, vacated.gone], vacated.unowned⟩
  | ask other request => exact (serves_vacated id other).answer server request vacated

/-- How a server answers a connection that is not there. -/
structure Inert (id : ConnectionId) (server : Server) : Prop where
  refused : ∀ request, request ≠ .disconnect → (∀ timeout, request ≠ .drive timeout) →
    answer id request server = (request.refusal, server)
  fetched : ∀ timeout, server.leftover id ≠ [] → answer id (.drive timeout) server =
    (.ok (server.leftover id), { server with undelivered := server.undelivered.insert id [] })
  drained : ∀ timeout, server.leftover id = [] →
    answer id (.drive timeout) server = (.error .disconnected, server)
  disconnected : answer id .disconnect server =
    ((), { server with undelivered := server.undelivered.erase id })
  unassigned : ∀ node, (transport id).nodeId node server = unassigned

theorem inert_of_gone (gone : server.connections.get? id = none) : Inert id server where
  refused request connects fetches := by
    have offered : ∀ node, server.node? id node = none := by simp [node?, gone]
    cases request with
    | disconnect => exact absurd rfl connects
    | drive timeout => exact absurd rfl (fetches timeout)
    | createObject => simp [answer, createByFactory, Table.contains, gone, Request.refusal]
    | updatePort => simp [answer, updatePort, offered, Request.refusal]
    | removePort => simp [answer, removePort, offered, Request.refusal]
    | subscribeGlobals | unsubscribeGlobals | bindObject | subscribeInfo | destroyProxy | sync
    | createNode | addPort | activateNode | destroyNode =>
        simp [answer, subscribeGlobals, unsubscribeGlobals, bindObject, subscribeInfo,
          destroyProxy, sync, createNode, addPort, activateNode, destroyNode, gone,
          Request.refusal]
  fetched timeout waits := by
    rcases kept : server.undelivered.get? id with _ | ⟨_ | ⟨first, rest⟩⟩
    · simp [leftover, kept] at waits
    · simp [leftover, kept] at waits
    · simp [answer, drive, gone, leftover, kept]
  drained timeout empty := by
    rcases kept : server.undelivered.get? id with _ | ⟨_ | ⟨first, rest⟩⟩
    · simp [answer, drive, gone, kept]
    · simp [answer, drive, gone, kept]
    · simp [leftover, kept] at empty
  disconnected := by simp [answer, disconnect, dropConnection_of_absent gone]
  unassigned node := by simp [transport, assignedId, node?, gone]

/-- As long as a connection is not there, what waits for it is left alone by everybody else. -/
theorem bystands_leftover (id : ConnectionId) :
    Bystands id (fun _ => True) fun before after => before.connections.get? id = none →
      after.connections.get? id = none ∧ after.leftover id = before.leftover id where
  port := trivial
  node := trivial
  trans start rest gone := by
    rcases start gone with ⟨between, first⟩
    rcases rest between with ⟨later, second⟩
    exact ⟨later, second.trans first⟩
  apart _ connections undelivered gone := by
    rw [connections, leftover, leftover, undelivered]
    exact ⟨gone, rfl⟩
  insertObject _ server object gone := by
    simp only [insertObject, leftover]
    split <;> split <;> simp [broadcast, gone]
  removeObject server object gone := by
    simp only [removeObject, leftover]
    split <;> simp [broadcast, gone]
  rewrite props present _ gone := by simp [sendInfo, leftover, gone]
  shows server token change _ gone := by simp [updateNode, leftover, gone]
  dropped server gone := by simp [dropConnection_of_absent gone, gone]

theorem lastConnection_le_perform (server : Server) (step : Step) :
    server.lastConnection ≤ (server.perform step).lastConnection := by
  cases step with
  | setUp | takeDown => exact Nat.le_refl _
  | inject injection => exact ((carries_passes 0).inject server injection).last
  | connect config =>
      simp only [perform, connect]
      split
      · exact Nat.le_refl _
      · exact Nat.le_succ _
  | ask other request => exact (affects_answer server other request).last

/-- What a step fetches and what waits after it make up, at most, what waited before. -/
theorem leftover_perform (gone : server.connections.get? id = none)
    (issued : id ≤ server.lastConnection) (step : Step) :
    server.handedOver id step ++ (server.perform step).leftover id <+: server.leftover id := by
  by_cases own : ∃ request, step = .ask id request
  · rcases own with ⟨request, rfl⟩
    have inert := inert_of_gone gone
    by_cases fetches : ∃ timeout, request = .drive timeout
    · rcases fetches with ⟨timeout, rfl⟩
      by_cases empty : server.leftover id = []
      · simp [handedOver, perform, inert.drained timeout empty, empty, Except.toOption]
      · simp [handedOver, perform, inert.fetched timeout empty, Except.toOption, leftover]
    · have nothing : server.handedOver id (.ask id request) = [] := by
        cases request with
        | drive timeout => exact absurd ⟨timeout, rfl⟩ fetches
        | _ => rfl
      rw [nothing, List.nil_append]
      by_cases ends : request = .disconnect
      · subst ends
        simp [perform, inert.disconnected, leftover]
      · have refused := inert.refused request ends fun timeout same => fetches ⟨timeout, same⟩
        simp [perform, refused]
  · have nothing : server.handedOver id step = [] := by
      cases step with
      | ask other request =>
          have elsewhere : other ≠ id := by
            rintro rfl
            exact own ⟨request, rfl⟩
          cases request <;> simp [handedOver, elsewhere]
      | _ => rfl
    have foreign : ∀ request, step ≠ .ask id request := fun request same => own ⟨request, same⟩
    have kept := (bystands_leftover id).perform issued foreign (step.meets_any server) gone
    simp only [nothing, List.nil_append, kept.2, List.prefix_rfl]

/-- A connection that is gone for good, with the events that can still be fetched, at most. -/
structure Dead (id : ConnectionId) (left : List Event) (server : Server) : Prop where
  vacated : ∀ more, (server.run more).Vacated id
  inert : ∀ more, Inert id (server.run more)
  delivered : ∀ more, server.delivered id more ++ (server.run more).leftover id <+: left

theorem dead_of_vacated (vacated : server.Vacated id) (issued : id ≤ server.lastConnection) :
    Dead id (server.leftover id) server := by
  have stays : ∀ more, (server.run more).Vacated id ∧
      server.delivered id more ++ (server.run more).leftover id <+: server.leftover id := by
    intro more
    induction more generalizing server with
    | nil => exact ⟨vacated, List.prefix_refl _⟩
    | cons step rest ih =>
        have later := Nat.le_trans issued (lastConnection_le_perform server step)
        rcases ih (vacated.perform issued step) later with ⟨still, fetched⟩
        refine ⟨still, ?_⟩
        rw [delivered, List.append_assoc]
        exact ((List.prefix_append_right_inj _).2 fetched).trans
          (leftover_perform vacated.gone issued step)
  exact ⟨fun more => (stays more).1, fun more => inert_of_gone (stays more).1.gone,
    fun more => (stays more).2⟩

/-! ## Every way to end a connection -/

theorem isSome_dropConnection {other : ConnectionId} (apart : id ≠ other) (server : Server) :
    ((server.dropConnection other).connections.get? id).isSome =
      (server.connections.get? id).isSome := by
  cases connected : server.connections.get? other with
  | none => rw [dropConnection_of_absent connected]
  | some connection =>
      rcases departs_dropConnection connected with ⟨gone, departs, -⟩
      rw [departs.others id apart, Option.isSome_map]

theorem isSome_dropConnections {others : List ConnectionId} (apart : id ∉ others)
    (server : Server) : ((others.foldl dropConnection server).connections.get? id).isSome =
      (server.connections.get? id).isSome := by
  induction others generalizing server with
  | nil => rfl
  | cons other rest ih =>
      rw [List.mem_cons, not_or] at apart
      rw [List.foldl_cons, ih apart.2, isSome_dropConnection apart.1]

/--
Connections are dropped one after the other, in whatever order. Each goes as if it were dropped
alone, and its client can still fetch what it was told by then.
-/
theorem departs_dropConnections (issued : id ≤ server.lastConnection)
    (connected : (server.connections.get? id).isSome) {early : List ConnectionId}
    (apart : id ∉ early) (late : List ConnectionId) :
    ∃ connection gone,
      (early.foldl dropConnection server).connections.get? id = some connection ∧
      Departs id gone (early.foldl dropConnection server)
        ((early ++ [id]).foldl dropConnection server) ∧
      Dead id (connection.told gone).inbox ((early ++ id :: late).foldl dropConnection server) := by
  rw [← isSome_dropConnections apart] at connected
  rcases Option.isSome_iff_exists.1 connected with ⟨connection, found⟩
  rcases departs_dropConnection found with ⟨gone, departs, left⟩
  refine ⟨connection, gone, found, by simpa using departs, ?_⟩
  generalize whole : (early ++ id :: late).foldl dropConnection server = after
  have last : server.lastConnection ≤ after.lastConnection := by
    rw [← whole]
    exact ((carries_passes 0).foldl (carries_passes 0).dropConnection _ server).last
  rw [List.foldl_append, List.foldl_cons] at whole
  have vacated : after.Vacated id := by
    rw [← whole]
    exact (carries_vacated id).foldl (carries_vacated id).dropConnection late _ departs.vacated
  have kept : after.leftover id = (connection.told gone).inbox := by
    have bystands := bystands_leftover id
    rw [← whole, (bystands.foldl bystands.dropAny late _ departs.vacated.gone).2, left]
  rw [← kept]
  exact dead_of_vacated vacated (Nat.le_trans issued last)

/-- When all connections are dropped, each has its turn. -/
theorem departs_disconnectAll (issued : id ≤ server.lastConnection)
    {early late : List ConnectionId} (split : server.connections.keys = early ++ id :: late) :
    ∃ connection gone,
      (early.foldl dropConnection server).connections.get? id = some connection ∧
      Departs id gone (early.foldl dropConnection server)
        ((early ++ [id]).foldl dropConnection server) ∧
      Dead id (connection.told gone).inbox server.disconnectAll := by
  have connected : (server.connections.get? id).isSome := by
    simp [← Table.mem_keys_iff, split]
  have apart : id ∉ early := by
    have distinct := server.connections.keys_nodup
    rw [split] at distinct
    intro member
    exact (List.nodup_append.1 distinct).2.2 id member id List.mem_cons_self rfl
  rw [disconnectAll, split]
  exact departs_dropConnections issued connected apart late

/--
However a connection is ended, nothing is left of it but a transport that nobody answers. A client
that disconnects, or whose transport is dropped, has nothing more to fetch; nor has one that is
closed.
-/
theorem departure_final (steps : List Step) (id : ConnectionId)
    (connected : ((run {} steps).connections.get? id).isSome) :
    let server := run {} steps
    (∃ gone, Departs id gone server (answer id .disconnect server).2 ∧
      Dead id [] (answer id .disconnect server).2) ∧
    (∀ client : Client Server, client.transport = some (transport id) →
      ∃ gone, Departs id gone server (client.close server).2 ∧
        Dead id [] (client.close server).2) ∧
    ∀ early late, server.connections.keys = early ++ id :: late →
      ∃ connection gone,
        (early.foldl dropConnection server).connections.get? id = some connection ∧
        Departs id gone (early.foldl dropConnection server)
          ((early ++ [id]).foldl dropConnection server) ∧
        Dead id (connection.told gone).inbox server.disconnectAll := by
  intro server
  rcases Option.isSome_iff_exists.1 connected with ⟨connection, found⟩
  have issued : id ≤ server.lastConnection := (issued_run steps).numbered id connection found
  have ended : ∀ {gone after}, Departs id gone server after → after.leftover id = [] →
      Dead id [] after := by
    intro gone after departs empty
    rw [← empty]
    apply dead_of_vacated departs.vacated
    rw [departs.frame]
    exact issued
  refine ⟨?_, fun client opened => ?_, fun early late split => departs_disconnectAll issued split⟩
  · rcases departs_disconnect found with ⟨gone, departs, empty⟩
    exact ⟨gone, departs, ended departs empty⟩
  · rcases departs_close opened connected with ⟨gone, departs, empty⟩
    exact ⟨gone, departs, ended departs empty⟩

/-- Two clients are there besides a port: one has subscribed, and the other shows a node. -/
def showing : List Step :=
  beforehand ++ [.ask 1 .subscribeGlobals, .ask 2 (.createNode .empty),
    .ask 2 (.addPort 1 .input .empty), .ask 2 (.activateNode 1), .ask 1 (.drive 0)]

theorem departure_final_showing :
    ((run {} showing).objects.keys = [32, 33, 34] ∧
      (answer 2 .disconnect (run {} showing)).2.objects.keys = [32] ∧
      queued 1 (answer 2 .disconnect (run {} showing)).2 = [.removed 34, .removed 33]) ∧
    ∃ gone, Departs 2 gone (run {} showing) (answer 2 .disconnect (run {} showing)).2 ∧
      Dead 2 [] (answer 2 .disconnect (run {} showing)).2 :=
  ⟨by decide +kernel, (departure_final showing 2 (by decide +kernel)).1⟩

end Server

end MediaGraph
