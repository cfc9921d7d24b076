import MediaGraph.Proofs.Client.Barriers
import MediaGraph.Proofs.Client.Opening
import MediaGraph.Proofs.Server.Hosting
import Mathlib.Data.Fintype.EquivFin

/-!
# What an opened client shows

A client is opened in two barriers. The first delivers the announcements of all objects, so every
port is bound; the second delivers the properties of the ports, in the same order, so they are filed
one after the other in an empty graph. That goes well unless a port names a node by no number.

`connect_shows_server` says so of every server that can come about: when a client can be opened,
what it shows then, and that nothing of it stays behind if it could not be opened.
-/

namespace MediaGraph

/-- Files ports one after the other, up to the first that is malformed. -/
def Graph.insertAll (graph : Graph) (ports : List Port) : Except MalformedNode Graph :=
  ports.foldlM (fun graph port => (graph.insert port).map (·.2)) graph

/-- The text by which a port object names its node, if it is no node's id. -/
def Object.badNode? (object : Object) : Option String :=
  if object.kind = .port then
    (object.props.get? Key.nodeId).filter fun text => text ≠ "" && (Text.readWord? text).isNone
  else none

theorem Graph.insertAll_cons_of_ok {graph next : Graph} {port : Port} {place : Option Place}
    (inserted : graph.insert port = .ok (place, next)) (rest : List Port) :
    graph.insertAll (port :: rest) = next.insertAll rest := by
  simp only [insertAll, List.foldlM_cons, inserted]
  rfl

theorem Graph.insertAll_cons_of_error {graph : Graph} {port : Port} {malformed : MalformedNode}
    (failed : graph.insert port = .error malformed) (rest : List Port) :
    graph.insertAll (port :: rest) = .error malformed := by
  simp only [insertAll, List.foldlM_cons, failed]
  rfl

theorem Graph.insertAll_eq_error_iff (graph : Graph) {ports : List Port}
    {malformed : MalformedNode} :
    graph.insertAll ports = .error malformed ↔
      ∃ early port late, ports = early ++ port :: late ∧ port.nodeId? = .error malformed ∧
        ∀ other ∈ early, other.nodeId?.isOk := by
  induction ports generalizing graph with
  | nil => simp [insertAll, pure, Except.pure]
  | cons first rest ih =>
      rcases inserted : graph.insert first with reason | ⟨place, next⟩
      · have failed := (insert_eq_error_iff graph).1 inserted
        rw [insertAll_cons_of_error inserted]
        constructor
        · intro same
          cases same
          exact ⟨[], first, rest, rfl, failed, by simp⟩
        · rintro ⟨_ | ⟨head, early⟩, port, late, split, bad, good⟩
          · cases split
            cases failed.symm.trans bad
            rfl
          · cases split
            have goodHead := good first List.mem_cons_self
            rw [failed] at goodHead
            cases goodHead
      · have goodFirst : first.nodeId?.isOk := by
          rcases named : first.nodeId? with reason | node
          · rw [(insert_eq_error_iff graph).2 named] at inserted
            cases inserted
          · rfl
        rw [insertAll_cons_of_ok inserted, ih]
        constructor
        · rintro ⟨early, port, late, rfl, bad, good⟩
          exact ⟨first :: early, port, late, rfl, bad, by simpa [goodFirst] using good⟩
        · rintro ⟨_ | ⟨head, early⟩, port, late, split, bad, good⟩
          · cases split
            rw [bad] at goodFirst
            cases goodFirst
          · cases split
            exact ⟨early, port, late, rfl, bad, fun other member =>
              good other (List.mem_cons_of_mem _ member)⟩

theorem Graph.isOk_of_insertAll {graph after : Graph} {ports : List Port}
    (filed : graph.insertAll ports = .ok after) : ∀ port ∈ ports, port.nodeId?.isOk := by
  induction ports generalizing graph with
  | nil => simp
  | cons first rest ih =>
      rcases inserted : graph.insert first with reason | ⟨place, next⟩
      · rw [insertAll_cons_of_error inserted] at filed
        cases filed
      · rw [insertAll_cons_of_ok inserted] at filed
        rw [List.forall_mem_cons]
        refine ⟨?_, ih filed⟩
        rcases named : first.nodeId? with reason | node
        · rw [(insert_eq_error_iff graph).2 named] at inserted
          cases inserted
        · rfl

theorem Object.badNode?_eq_some_iff {object : Object} {text : String} (id : ObjectId) :
    object.badNode? = some text ↔
      object.kind = .port ∧ (Port.ofProperties id object.props).nodeId? = .error ⟨id, text⟩ := by
  simp only [badNode?, Option.ite_none_right_eq_some, Port.nodeId?_eq_error_iff, Port.ofProperties,
    Properties.text, Option.filter_eq_some_iff]
  rcases object.props.get? Key.nodeId with _ | named
  · simp
  · simp only [Option.some.injEq, Option.getD_some, MalformedNode.mk.injEq, true_and,
      Bool.and_eq_true, decide_eq_true_eq, ne_eq, Option.isNone_iff_eq_none, and_congr_right_iff]
    intro _
    constructor
    · rintro ⟨rfl, bad⟩
      exact ⟨rfl, bad⟩
    · rintro ⟨rfl, bad⟩
      exact ⟨rfl, bad⟩

namespace Server

variable {server : Server}

def portRecords (server : Server) : List Port :=
  server.portObjects.map fun port => Port.ofProperties port.1 port.2

theorem portObjects_ascending (server : Server) :
    server.portObjects.Pairwise fun first second => first.1 < second.1 := by
  apply List.Pairwise.filterMap _ _ server.objects.sorted
  intro first second before port isFirst other isSecond
  simp only [Option.ite_none_right_eq_some, Option.some.injEq] at isFirst isSecond
  rw [← isFirst.2, ← isSecond.2]
  exact compareOfLessAndEq_eq_lt.1 before

/-- The snapshot of a server without bad node ids can be filed. -/
theorem badNode?_of_filed {graph after : Graph}
    (filed : graph.insertAll server.portRecords = .ok after) {id : ObjectId} {object : Object}
    (found : server.objects.get? id = some object) : object.badNode? = none := by
  rw [Option.eq_none_iff_forall_ne_some]
  intro text bad
  rcases (Object.badNode?_eq_some_iff id).1 bad with ⟨isPort, malformed⟩
  have member := mem_portObjects_iff.2 ⟨object, found, isPort, rfl⟩
  have good := Graph.isOk_of_insertAll filed _ (List.mem_map_of_mem member)
  rw [malformed] at good
  cases good

/-- Filing the snapshot of a server fails at the lowest port with a bad node id. -/
theorem lowest_of_malformed {graph : Graph} {malformed : MalformedNode}
    (failed : graph.insertAll server.portRecords = .error malformed) :
    ∃ object, server.objects.get? malformed.port = some object ∧
      object.badNode? = some malformed.value ∧
      ∀ lower former, lower < malformed.port → server.objects.get? lower = some former →
        former.badNode? = none := by
  rcases (Graph.insertAll_eq_error_iff graph).1 failed with
    ⟨early, port, late, split, bad, good⟩
  rcases List.map_eq_append_iff.1 split with ⟨first, second, objects, rfl, rest⟩
  rcases List.map_eq_cons_iff.1 rest with ⟨⟨id, props⟩, remaining, rfl, rfl, rfl⟩
  have member : (id, props) ∈ server.portObjects := by simp [objects]
  rcases mem_portObjects_iff.1 member with ⟨object, found, isPort, rfl⟩
  rcases Port.nodeId?_eq_error_iff.1 bad with ⟨rfl, -⟩
  refine ⟨object, found, (Object.badNode?_eq_some_iff id).2 ⟨isPort, bad⟩, ?_⟩
  intro lower former below isFormer
  rw [Option.eq_none_iff_forall_ne_some]
  intro text alsoBad
  rcases (Object.badNode?_eq_some_iff lower).1 alsoBad with ⟨alsoPort, malformed⟩
  have among := mem_portObjects_iff.2 ⟨former, isFormer, alsoPort, rfl⟩
  have ascending := server.portObjects_ascending
  rw [objects] at among ascending
  rcases List.mem_append.1 among with isEarly | isLate
  · have isGood := good _ (List.mem_map_of_mem isEarly)
    rw [malformed] at isGood
    cases isGood
  · rcases List.mem_cons.1 isLate with same | isLater
    · rw [(Prod.mk.inj same).1] at below
      exact UInt32.lt_irrefl _ below
    · have above := (List.pairwise_cons.1 (List.pairwise_append.1 ascending).2.1).1 _ isLater
      exact UInt32.lt_asymm below above

end Server

namespace Client

open Server

section Batches

variable {server : Server} {visitor : Connection} {syncs : Nat} {client : Client Server}

/-! ## The first batch -/

/-- What a client and its connection know of each other when one more port is listened to. -/
def listenTo (held : Table ObjectId ProxyId × Connection) (port : ObjectId × Properties) :
    Table ObjectId ProxyId × Connection :=
  (held.1.insert port.1 held.2.takeHandle.1, held.2.hear port)

theorem snd_listenAll (ports : List (ObjectId × Properties))
    (held : Table ObjectId ProxyId × Connection) :
    (ports.foldl listenTo held).2 = ports.foldl Connection.hear held.2 := by
  induction ports generalizing held with
  | nil => rfl
  | cons port rest ih => exact ih _

theorem contains_listenAll {ports : List (ObjectId × Properties)}
    {held : Table ObjectId ProxyId × Connection} {id : ObjectId}
    (bound : held.1.contains id ∨ id ∈ ports.map (·.1)) :
    (ports.foldl listenTo held).1.contains id := by
  induction ports generalizing held with
  | nil => simpa using bound
  | cons port rest ih =>
      apply ih
      simp only [listenTo, Table.contains, Table.get?_insert, List.map_cons, List.mem_cons]
        at bound ⊢
      split
      · simp
      · simp_all

/-- The client with which a batch of announcements leaves off. -/
def listeningTo (client : Client Server) (listened : Table ObjectId ProxyId) : Client Server :=
  { client with subscriber := { client.subscriber with listened } }

theorem deliver_port (listening : client.subscriber.phase = .listening) {id : ObjectId}
    {object : Object} (found : server.objects.get? id = some object) (isPort : object.kind = .port)
    (fresh : client.subscriber.listened.get? id = none) :
    client.deliver (Server.transport (server.lastConnection + 1)) (.global id .port)
        (server.hosting visitor syncs) =
      .ok (client.listeningTo (client.subscriber.listened.insert id visitor.takeHandle.1),
        server.hosting (visitor.hear (id, object.props)) syncs) := by
  have bound : (server.hosting visitor syncs).bindObject (server.lastConnection + 1) id .port =
      (some visitor.takeHandle.1, server.hosting { visitor.takeHandle.2 with
        proxies := visitor.proxies.insert visitor.takeHandle.1
          { object := id, listening := false, owned := false } } syncs) := by
    simp [bindObject, found, isPort, Connection.takeHandle]
  have asked : (server.hosting { visitor.takeHandle.2 with
        proxies := visitor.proxies.insert visitor.takeHandle.1
          { object := id, listening := false, owned := false } } syncs).subscribeInfo
      (server.lastConnection + 1) visitor.takeHandle.1 =
        server.hosting (visitor.hear (id, object.props)) syncs := by
    simp [subscribeInfo, found, isPort, Connection.hear, Connection.hearing]
  simp only [deliver, Subscriber.handle, listening, Subscriber.announce, Subscriber.release, fresh,
    Server.transport, answer, bound, asked, listeningTo]

theorem deliver_other (server : Server) {id : ObjectId} {kind : ObjectKind}
    (other : kind ≠ .port) (transport : Transport Server) :
    client.deliver transport (.global id kind) server = .ok (client, server) := by
  have unheard : client.subscriber.handle transport (.global id kind) server =
      .ok (client.subscriber, server) := by
    simp only [Subscriber.handle]
    split <;> simp_all
  simp only [deliver, unheard]

/-- When objects are announced that are there, every port among them is bound and listened to. -/
theorem deliverAll_announcements (visitor : Connection) (syncs : Nat) {client : Client Server}
    {entries : List (ObjectId × Object)}
    (listening : client.subscriber.phase = .listening)
    (found : ∀ entry ∈ entries, server.objects.get? entry.1 = some entry.2)
    (once : (entries.map (·.1)).Nodup)
    (fresh : ∀ entry ∈ entries, client.subscriber.listened.get? entry.1 = none) :
    deliverAll (Server.transport (server.lastConnection + 1))
        (entries.map fun entry => Event.global entry.1 entry.2.kind) client
        (server.hosting visitor syncs) =
      (none,
        client.listeningTo
          ((portsAmong entries).foldl listenTo (client.subscriber.listened, visitor)).1,
        server.hosting
          ((portsAmong entries).foldl listenTo (client.subscriber.listened, visitor)).2 syncs) := by
  induction entries generalizing client visitor with
  | nil => rfl
  | cons entry rest ih =>
      rcases entry with ⟨id, object⟩
      simp only [List.forall_mem_cons, List.map_cons, List.nodup_cons, List.mem_map]
        at found once fresh
      by_cases isPort : object.kind = .port
      · rw [List.map_cons, deliverAll]
        simp only [isPort]
        rw [deliver_port listening found.1 isPort fresh.1]
        have stillFresh : ∀ entry ∈ rest, (client.subscriber.listened.insert id
            visitor.takeHandle.1).get? entry.1 = none := by
          intro entry member
          have apart : entry.1 ≠ id := fun same => once.1 ⟨entry, member, same⟩
          rw [Table.get?_insert, if_neg apart]
          exact fresh.2 entry member
        refine (ih _ ?_ found.2 once.2 stillFresh).trans ?_
        · exact listening
        · simp [portsAmong, isPort, listeningTo, listenTo]
      · rw [List.map_cons, deliverAll, deliver_other _ isPort]
        refine (ih _ listening found.2 once.2 fresh.2).trans ?_
        simp [portsAmong, isPort]

/-! ## The second batch -/

/-- Describing ports that are listened to files them, one after the other. -/
theorem deliverAll_infos {σ : Type} (transport : Transport σ) (client : Client σ) (world : σ)
    {ports : List (ObjectId × Properties)} (listening : client.subscriber.phase = .listening)
    (listens : ∀ port ∈ ports, client.subscriber.isListeningTo port.1) :
    match client.graph.insertAll (ports.map fun port => .ofProperties port.1 port.2) with
    | .ok graph => ∃ changes,
      deliverAll transport (ports.map fun port => .info port.1 port.2) client world =
        (none, { client with subscriber := { client.subscriber with graph, changes } }, world)
    | .error malformed => ∃ subscriber,
      deliverAll transport (ports.map fun port => .info port.1 port.2) client world =
        (some malformed, { client with subscriber }, world) := by
  induction ports generalizing client with
  | nil => exact ⟨client.subscriber.changes, rfl⟩
  | cons port rest ih =>
      simp only [List.forall_mem_cons] at listens
      rw [List.map_cons, List.map_cons]
      rcases inserted : client.graph.insert (.ofProperties port.1 port.2) with
        malformed | ⟨place, graph⟩
      · have failed : client.deliver transport (.info port.1 port.2) world = .error malformed := by
          simp only [deliver, Subscriber.handle, listening, Subscriber.describe, listens.1, if_true]
          rw [show client.subscriber.graph.insert _ = _ from inserted]
        rw [Graph.insertAll_cons_of_error inserted]
        exact ⟨client.subscriber, by rw [deliverAll, failed]⟩
      · have filed : ∃ changes, client.deliver transport (.info port.1 port.2) world = .ok
            ({ client with subscriber := { client.subscriber with graph, changes } }, world) := by
          simp only [deliver, Subscriber.handle, listening, Subscriber.describe, listens.1, if_true]
          rw [show client.subscriber.graph.insert _ = _ from inserted]
          exact ⟨_, rfl⟩
        rcases filed with ⟨changes, filed⟩
        rw [Graph.insertAll_cons_of_ok inserted, deliverAll, filed]
        exact ih { client with subscriber := { client.subscriber with graph, changes } } listening
          listens.2

/-! ## Both barriers -/

/-- The client that applies what was waiting for its connection. -/
def turning (client : Client Server) : Client Server :=
  { client.waiting with barrier := client.waiting.barrier.recordIteration }

theorem awaitSync_hosting
    (isOpen : client.transport = some (Server.transport (server.lastConnection + 1))) :
    awaitSync client (server.hosting visitor syncs) =
      (applyBatch (Server.transport (server.lastConnection + 1))
        (visitor.inbox ++ [.done client.barrier.next]) >>= fun _ => settle 0 : Call Server Unit)
          client.turning (server.hosting { visitor with inbox := [] } (syncs + 1)) := by
  have answered : (Server.transport (server.lastConnection + 1)).answer (.sync client.barrier.next)
      (server.hosting visitor syncs) =
        (.ok client.barrier.next, ((server.hosting visitor syncs).sync (server.lastConnection + 1)
          client.barrier.next).2) := by
    simp [Server.transport, answer, sync]
  have incomplete : client.waiting.barrier.complete = false := rfl
  rw [awaitSync_of_reply isOpen answered]
  refine (settle_succ incomplete 0 _).trans ?_
  simp only [bind, Call.bind]
  rw [turn_waiting isOpen get?_hosting, flush_hosting]
  rfl

/-- A barrier succeeds if the batch does that it waits for. -/
theorem synchronize_of_delivered (visitor : Connection)
    (isOpen : client.transport = some (Server.transport (server.lastConnection + 1)))
    (healthy : client.poison = none) {subscriber : Subscriber} {changed : Server}
    (delivered : deliverAll (Server.transport (server.lastConnection + 1)) visitor.inbox
      client.turning (server.hosting { visitor with inbox := [] } (syncs + 1)) =
        (none, { client.turning with subscriber }, changed)) :
    ∃ barrier notices, synchronize client (server.hosting visitor syncs) =
      (.ok (), { client with
        subscriber := { subscriber with changes := [] }, barrier, notices }, changed) := by
  have batch := deliverAll_append delivered [.done client.barrier.next]
  have awaited : ∃ barrier notices, awaitSync client (server.hosting visitor syncs) =
      (.ok (), { client with
        subscriber := { subscriber with changes := [] }, barrier, notices }, changed) := by
    rw [awaitSync_hosting isOpen]
    simp only [bind, Call.bind, applyBatch, batch, deliverAll, deliver]
    rw [settle_of_complete (by simp [notify, turning, waiting, Barrier.begin, Barrier.acknowledge,
      Barrier.recordIteration])]
    exact ⟨_, _, rfl⟩
  rcases awaited with ⟨barrier, notices, awaited⟩
  refine ⟨barrier, notices, ?_⟩
  rw [synchronize_of_healthy healthy]
  exact (Call.poisoning_eq_iff fun _ impossible => by cases impossible).2 awaited

/-- A barrier fails as the batch does that it waits for. -/
theorem synchronize_of_malformed (visitor : Connection)
    (isOpen : client.transport = some (Server.transport (server.lastConnection + 1)))
    (healthy : client.poison = none) {subscriber : Subscriber} {changed : Server}
    {malformed : MalformedNode}
    (delivered : deliverAll (Server.transport (server.lastConnection + 1)) visitor.inbox
      client.turning (server.hosting { visitor with inbox := [] } (syncs + 1)) =
        (some malformed, { client.turning with subscriber }, changed)) :
    ∃ after, synchronize client (server.hosting visitor syncs) =
      (.error (.failed (.ofMalformed malformed)), after, changed) ∧
        after.transport = client.transport ∧ after.localNodes = client.localNodes := by
  have batch : deliverAll (Server.transport (server.lastConnection + 1))
      (visitor.inbox ++ [.done client.barrier.next]) client.turning
      (server.hosting { visitor with inbox := [] } (syncs + 1)) =
        (some malformed, { client.turning with subscriber }, changed) :=
    deliverAll_append_of_malformed delivered _
  have awaited : awaitSync client (server.hosting visitor syncs) =
      (.error (.failed (.ofMalformed malformed)),
        ({ client.turning with subscriber } : Client Server).notify, changed) := by
    rw [awaitSync_hosting isOpen]
    simp only [bind, Call.bind, applyBatch, batch]
  rw [synchronize_of_healthy healthy, Call.poisoning_of_malformed awaited]
  exact ⟨_, rfl, rfl, rfl⟩

end Batches

/-! ## Opening -/

section Opening

variable (config : Config) (observers : List Observer) (server : Server)

/-- The connection of a new client when the ports have been bound and their properties told. -/
def informed : Connection :=
  server.portObjects.foldl Connection.hear { name := config.clientName, subscribed := true }

theorem few_portObjects : server.portObjects.length ≤ UInt32.size := by
  have once : (server.objects.keys.map UInt32.toFin).Nodup :=
    server.objects.keys_nodup.map fun _ _ same => UInt32.toFin_inj.1 same
  have few := once.length_le_card
  rw [List.length_map, Fintype.card_fin] at few
  apply Nat.le_trans (List.length_filterMap_le _ _)
  simpa [Table.keys] using few

theorem values_informed : (informed config server).proxies.values.Perm
    (server.portObjects.map Connection.hearing) := by
  have counted : ({ name := config.clientName, subscribed := true } : Connection).Counted := by
    intro proxy bound found
    cases found
  refine (Connection.values_hearAll counted ?_).trans ?_
  · simpa using few_portObjects server
  · simp [Table.values]

theorem light_informed : { informed config server with inbox := [] }.Light := by
  constructor
  · rw [informed, Connection.frame_of_hearAll]
  · intro proxy bound found
    have held := (Table.mem_values_iff _ bound).2 ⟨proxy, found⟩
    rw [(values_informed config server).mem_iff] at held
    rcases List.mem_map.1 held with ⟨port, -, rfl⟩
    rfl

theorem inbox_informed : (informed config server).inbox =
    server.portObjects.map fun port => Event.info port.1 port.2 := by
  rw [informed, Connection.frame_of_hearAll]
  rfl

/-- The first barrier binds the ports of the server. -/
theorem first_barrier (client : Client Server)
    (isOpen : client.transport = some (Server.transport (server.lastConnection + 1)))
    (healthy : client.poison = none) (fresh : client.subscriber = { phase := .listening }) :
    ∃ listened barrier notices,
      (∀ port ∈ server.portObjects, listened.contains port.1) ∧
        synchronize client (server.hosting (({ name := config.clientName, subscribed := true } :
          Connection).send server.announcements) server.syncRequests) =
            (.ok (), { client with
              subscriber := { phase := .listening, listened }, barrier, notices },
              server.hosting (informed config server) (server.syncRequests + 1)) := by
  have isFresh : client.turning.subscriber = { phase := .listening } := fresh
  have listening : client.turning.subscriber.phase = .listening := by rw [isFresh]
  have delivered := deliverAll_announcements { name := config.clientName, subscribed := true }
    (server.syncRequests + 1) listening
    (fun entry member => (server.objects.get?_eq_some_iff entry.1 entry.2).2 member)
    server.objects.keys_nodup (by simp [isFresh])
  simp only [snd_listenAll, listeningTo, isFresh] at delivered
  rcases synchronize_of_delivered (({ name := config.clientName, subscribed := true } :
    Connection).send server.announcements) isOpen healthy delivered with ⟨barrier, notices, ran⟩
  refine ⟨_, barrier, notices, fun port member => ?_, ran⟩
  exact contains_listenAll (.inr (List.mem_map_of_mem member))

/-- The second barrier files the ports of the server, up to the first that is malformed. -/
theorem second_barrier (client : Client Server) (syncs : Nat)
    (isOpen : client.transport = some (Server.transport (server.lastConnection + 1)))
    (healthy : client.poison = none) (listening : client.subscriber.phase = .listening)
    (bound : ∀ port ∈ server.portObjects, client.subscriber.isListeningTo port.1) :
    match client.graph.insertAll (server.portRecords) with
    | .ok graph => ∃ after, synchronize client (server.hosting (informed config server) syncs) =
        (.ok (), after, server.hosting { informed config server with inbox := [] } (syncs + 1)) ∧
        after.transport = client.transport ∧ after.graph = graph
    | .error malformed =>
      ∃ after, synchronize client (server.hosting (informed config server) syncs) =
        (.error (.failed (.ofMalformed malformed)), after,
          server.hosting { informed config server with inbox := [] } (syncs + 1)) ∧
        after.transport = client.transport ∧ after.localNodes = client.localNodes := by
  have batch := deliverAll_infos (Server.transport (server.lastConnection + 1)) client.turning
    (server.hosting { informed config server with inbox := [] } (syncs + 1)) listening bound
  rw [← inbox_informed config server] at batch
  rw [show client.turning.graph = client.graph from rfl, ← portRecords] at batch
  split at batch
  case h_1 graph filed =>
    rcases batch with ⟨changes, delivered⟩
    rcases synchronize_of_delivered (informed config server) isOpen healthy delivered with
      ⟨barrier, notices, ran⟩
    exact ⟨_, ran, rfl, rfl⟩
  case h_2 malformed filed =>
    rcases batch with ⟨subscriber, delivered⟩
    exact synchronize_of_malformed (informed config server) isOpen healthy delivered

/-- A new client is told everything in two batches, and files the ports of the server. -/
theorem start_newcomer :
    match Graph.empty.insertAll (server.portRecords) with
    | .ok graph => ∃ client, start (newcomer config observers server) (accepting config server) =
        (.ok (), client, server.hosting { informed config server with inbox := [] }
          (server.syncRequests + 2)) ∧
        client.transport = some (Server.transport (server.lastConnection + 1)) ∧
        client.graph = graph
    | .error malformed =>
      ∃ client, start (newcomer config observers server) (accepting config server) =
        (.error (.failed (.ofMalformed malformed)), client,
          server.hosting { informed config server with inbox := [] } (server.syncRequests + 2)) ∧
        client.transport = some (Server.transport (server.lastConnection + 1)) ∧
        client.localNodes = [] := by
  have opened : (newcomer config observers server).transport =
      some (Server.transport (server.lastConnection + 1)) := rfl
  have hosted : accepting config server =
      server.hosting { name := config.clientName } server.syncRequests := rfl
  have subscribed := subscribe_of_fresh opened rfl (get?_accepting config server)
  rw [hosted, subscribeGlobals_hosting] at subscribed
  rcases first_barrier config server (newcomer config observers server).subscribed opened rfl rfl
    with ⟨listened, barrier, notices, bound, first⟩
  have second := second_barrier config server
    { (newcomer config observers server).subscribed with
      subscriber := { phase := .listening, listened }, barrier, notices }
    (server.syncRequests + 1) opened rfl rfl bound
  rw [start, hosted, Call.bind_of_ok _ subscribed, Call.bind_of_ok _ first]
  exact second

/-! ## The whole of opening -/

variable {server} {visitor : Connection} {syncs : Nat}

theorem destroyProxies_hosting (light : visitor.Light) (proxies : List ProxyId) :
    ∃ later : Connection, later.Light ∧
      Subscriber.destroyProxies (Server.transport (server.lastConnection + 1)) proxies
        (server.hosting visitor syncs) = server.hosting later syncs := by
  induction proxies generalizing visitor with
  | nil => exact ⟨visitor, light, rfl⟩
  | cons proxy rest ih =>
      rcases destroyProxy_hosting syncs light proxy with ⟨next, nextLight, destroyed⟩
      rcases ih nextLight with ⟨later, laterLight, remaining⟩
      refine ⟨later, laterLight, ?_⟩
      rw [← remaining, ← destroyed]
      rfl

/-- Closing a client that has touched nothing but its connection gives the server back. -/
theorem close_hosting (issued : server.Issued) (light : visitor.Light) {client : Client Server}
    (isOpen : client.transport = some (Server.transport (server.lastConnection + 1)))
    (nodeless : client.localNodes = []) :
    (client.close (server.hosting visitor syncs)).2.objects = server.objects ∧
      (client.close (server.hosting visitor syncs)).2.connections = server.connections ∧
      ∀ id ≤ server.lastConnection,
        (client.close (server.hosting visitor syncs)).2.undelivered.get? id =
          server.undelivered.get? id := by
  have tornDown : ∃ later : Connection, later.Light ∧ (client.subscriber.teardown
      (Server.transport (server.lastConnection + 1)) (server.hosting visitor syncs)).2 =
        server.hosting later syncs := by
    simp only [Subscriber.teardown]
    split
    · have unsubscribed : { visitor with subscribed := false }.Light := ⟨light.nodes, light.owned⟩
      rcases destroyProxies_hosting unsubscribed client.subscriber.listened.values with
        ⟨later, laterLight, destroyed⟩
      refine ⟨later, laterLight, ?_⟩
      rw [← destroyed, ← unsubscribeGlobals_hosting]
      rfl
    · exact destroyProxies_hosting light _
    · exact destroyProxies_hosting light _
  rcases tornDown with ⟨later, laterLight, tornDown⟩
  have closed : (client.close (server.hosting visitor syncs)).2 =
      (server.hosting later syncs).disconnect (server.lastConnection + 1) := by
    simp only [close, isOpen, nodeless, destroyNodes, List.foldl_nil, tornDown]
    rfl
  rw [closed]
  exact disconnect_hosting issued laterLight

end Opening

/--
What opening a client comes to, whatever has been done to the server before. It succeeds exactly if
connections are accepted and no port object names its node by something that is no node's id; then
the client shows the ports of the server, filed one after the other by ascending id, and listens to
each of them by one handle. Otherwise the failure says why, and the server is as it was, up to the
numbers it has given out.
-/
theorem connect_shows_server (steps : List Step) (config : Config) (observers : List Observer) :
    let server := Server.run {} steps
    let opened := Client.connect Server.backend config observers server
    (opened.1.isOk ↔ server.policy.refuseConnections = false ∧
        ∀ id object, server.objects.get? id = some object → object.badNode? = none) ∧
      (∀ client, opened.1 = .ok client →
        Graph.empty.insertAll (server.portRecords) =
            .ok client.graph ∧
          client.transport = some (Server.transport (server.lastConnection + 1)) ∧
          ∃ connection, opened.2.connections.get? (server.lastConnection + 1) = some connection ∧
            connection.proxies.values.Perm
              (server.portIds.map fun object => { object, listening := true, owned := false })) ∧
      ∀ refusal, opened.1 = .error refusal →
        (server.policy.refuseConnections ∧
              refusal.reason = .failed (.initFailed refusedConnection.message) ∨
            server.policy.refuseConnections = false ∧
              ∃ id object text, server.objects.get? id = some object ∧
                object.badNode? = some text ∧
                (∀ lower former, lower < id → server.objects.get? lower = some former →
                  former.badNode? = none) ∧
                refusal.reason = .failed (.malformedEvent id text)) ∧
          opened.2.objects = server.objects ∧ opened.2.connections = server.connections ∧
          ∀ id ≤ server.lastConnection,
            opened.2.undelivered.get? id = server.undelivered.get? id := by
  intro server opened
  have issued : server.Issued := issued_run steps
  cases refuses : server.policy.refuseConnections with
  | true =>
      have ran : opened = _ := connect_of_refused refuses
      simp [ran, Except.isOk, Except.toBool]
  | false =>
      have ran : opened = _ := connect_of_accepted refuses
      have started := start_newcomer config observers server
      rcases filed : Graph.empty.insertAll server.portRecords with malformed | graph
      · rw [filed] at started
        rcases started with ⟨client, halted, isOpen, nodeless⟩
        rw [halted] at ran
        rcases lowest_of_malformed filed with ⟨object, found, bad, lowest⟩
        refine ⟨?_, by simp [ran], ?_⟩
        · simp only [ran, Except.isOk, Except.toBool, Bool.false_eq_true, true_and, false_iff]
          intro good
          rw [good malformed.port object found] at bad
          cases bad
        · intro refusal isRefusal
          rw [ran] at isRefusal ⊢
          cases isRefusal
          refine ⟨.inr ⟨rfl, malformed.port, object, malformed.value, found, bad, lowest, rfl⟩, ?_⟩
          exact close_hosting issued (light_informed config server) isOpen nodeless
      · rw [filed] at started
        rcases started with ⟨client, ready, isOpen, shows⟩
        rw [ready] at ran
        refine ⟨?_, ?_, by simp [ran]⟩
        · simp only [ran, Except.isOk, Except.toBool, true_and, true_iff]
          exact fun id object found => badNode?_of_filed filed found
        · intro opened isOpened
          rw [ran] at isOpened ⊢
          cases isOpened
          refine ⟨by rw [shows], isOpen, _, get?_hosting, ?_⟩
          rw [portIds_eq, List.map_map]
          exact values_informed config server

end Client

end MediaGraph
