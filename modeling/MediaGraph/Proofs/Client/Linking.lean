import MediaGraph.Proofs.Client.Barriers
import MediaGraph.Proofs.Client.Granting
import MediaGraph.Proofs.Client.Poison
import MediaGraph.Proofs.Server.Allocation
import MediaGraph.Proofs.Server.Duplicates

/-!
# Creating a link is all or nothing

A link is refused right away, or it is created and a barrier follows (`Server.acceptsLink_iff`). The
barrier may fail because of something that has nothing to do with the link. Then the link is taken
back through its proxy, on a client that has just been poisoned, and the objects are what they were.

A link is nothing that a client listens to. So the barrier comes to the same as it would without the
link, as far as the graph goes (`Client.createLink_atomic`). To see that, both barriers are followed
on a transport that knows the ports only: all that the link does there is to use up a handle.
-/

namespace MediaGraph

namespace Server

variable {id : ConnectionId} {server before after : Server} {output input : ObjectId}
  {connection later : Connection}

/-! ## What the server refuses -/

/-- Why the server creates no link between two ports at the wish of a client. -/
def Refuses (server : Server) (output input : ObjectId) : Prop :=
  server.policy.rejectLinks ∨ server.portDirection? output ≠ some .output ∨
    server.portDirection? input ≠ some .input ∨
    (server.policy.allowDuplicateLinks = false ∧
      ∃ link object, server.objects.get? link = some object ∧ object.Writes (output, input))

theorem writes_properties (output input : ObjectId) (owner : Option ConnectionId) :
    ({ kind := .link, props := Link.properties output input, owner } : Object).Writes
      (output, input) where
  link := rfl
  output := by
    have apart : Key.linkOutput ≠ Key.linkInput := by decide
    simp [Link.properties, Table.ofList, Table.insertMany, apart]
  input := by
    simp [Link.properties, Table.ofList, Table.insertMany]

theorem acceptsLink_iff :
    server.acceptsLink (Link.properties output input) = true ↔ ¬server.Refuses output input := by
  have ends := linkEnds?_of_writes (writes_properties output input none)
  have named := @linkExists_iff server (output, input)
  simp only at ends named
  simp only [acceptsLink, ends, Refuses, ← named]
  cases server.policy.rejectLinks <;> cases server.policy.allowDuplicateLinks <;>
    cases server.linkExists output input <;> simp

theorem createByFactory_of_refuses (id : ConnectionId) (refuses : server.Refuses output input) :
    server.createByFactory id linkFactory .link (Link.properties output input) =
      (none, server) := by
  have rejects : server.acceptsLink (Link.properties output input) = false :=
    Bool.eq_false_iff.2 fun accepts => acceptsLink_iff.1 accepts refuses
  simp [createByFactory, createLink, rejects]

/-! ## What the server creates -/

/-- A link has been created for a connection: a new object, and a proxy that it goes with. -/
structure Links (id : ConnectionId) (before after : Server) (connection later : Connection)
    (added : Object) (link : ObjectId) (proxy : ProxyId) : Prop where
  fresh : before.objects.get? link = none
  objects : after.objects = before.objects.insert link added
  remains : after.connections.get? id = some later
  adds : connection.Adds later proxy { object := link, listening := false, owned := true }
  handles : later.handles = connection.handles + 1
  inbox : later.inbox = connection.inbox ∨
    later.inbox = connection.inbox ++ [.global link added.kind]

/-- A new object is told to a subscriber, and nothing else of its connection changes. -/
theorem told_createObject (connected : before.connections.get? id = some connection)
    (free : before.objects.get? before.allocateId.1 = none) (added : Object) :
    ∃ told, (before.createObject added).2.connections.get? id = some told ∧
      told.handles = connection.handles ∧ told.proxies = connection.proxies ∧
      (told.inbox = connection.inbox ∨
        told.inbox = connection.inbox ++ [.global before.allocateId.1 added.kind]) := by
  have absent : before.allocateId.2.objects.contains before.allocateId.1 = false := by
    have stillFree : before.allocateId.2.objects.get? before.allocateId.1 = none := free
    simp [Table.contains, stillFree]
  have sent := (broadcasts_insertObject absent added).sent id
  have connectedStill : before.allocateId.2.connections.get? id = some connection := connected
  rw [connectedStill, Option.map_some] at sent
  refine ⟨_, sent, ?_⟩
  split
  · exact ⟨rfl, rfl, .inr rfl⟩
  · exact ⟨rfl, rfl, .inl rfl⟩

theorem links_createByFactory (connected : before.connections.get? id = some connection)
    (accepts : before.acceptsLink (Link.properties output input))
    (room : ∃ free, firstObjectId ≤ free ∧ free < unassigned ∧ before.objects.get? free = none) :
    ∃ after later link proxy,
      before.createByFactory id linkFactory .link (Link.properties output input) =
        (some proxy, after) ∧
      Links id before after connection later
        { kind := .link, props := Link.properties output input, owner := some id } link proxy := by
  have free := (get?_allocateId before room).1
  rcases told_createObject connected free
      { kind := .link, props := Link.properties output input, owner := some id } with
    ⟨told, isTold, handles, proxies, inbox⟩
  have isConnected : before.connections.contains id := by simp [Table.contains, connected]
  have handle : told.takeHandle.1 = connection.takeHandle.1 := by
    simp only [Connection.takeHandle, handles]
  have created : before.createByFactory id linkFactory .link (Link.properties output input) =
      (some told.takeHandle.1, (before.createObject
        { kind := .link, props := Link.properties output input, owner := some id }).2.setConnection
          id { told.takeHandle.2 with
            proxies := told.proxies.insert told.takeHandle.1
              { object := before.allocateId.1, listening := false, owned := true } }) := by
    simp only [createByFactory, isConnected, and_self, if_true, createLink, accepts, isTold]
    rfl
  refine ⟨_, { told.takeHandle.2 with
    proxies := told.proxies.insert told.takeHandle.1
      { object := before.allocateId.1, listening := false, owned := true } },
    before.allocateId.1, told.takeHandle.1, created, free, ?_, ?_, ?_, ?_, inbox⟩
  · apply Table.ext_get?
    intro other
    exact (get?_insertObject _ _ _ _).trans (Table.get?_insert _ _ _ _).symm
  · simp [setConnection]
  · rw [handle, proxies]
    exact Connection.adds_takeHandle (congrArg (· + 1) handles) rfl
  · exact congrArg (· + 1) handles

/-- An object that is new goes with its proxy, and leaves the objects as they were. -/
theorem objects_destroyProxy_of_new {server changed : Server} {last : Connection} {added : Object}
    {link : ObjectId} {proxy : ProxyId} (fresh : server.objects.get? link = none)
    (objects : changed.objects = server.objects.insert link added)
    (connected : changed.connections.get? id = some last)
    (bound : last.proxies.get? proxy =
      some { object := link, listening := false, owned := true }) :
    (changed.destroyProxy id proxy).objects = server.objects := by
  have present : (server.objects.insert link added).contains link = true := by
    simp [Table.contains]
  simp only [destroyProxy, connected, bound, if_true, removeObject, setConnection, objects, present,
    broadcast]
  exact Table.erase_insert fresh added

end Server

namespace Client

open Subscriber (hear)

variable {id : ConnectionId} {client after : Client Server} {server changed : Server}
  {connection : Connection} {ports : ObjectId → Bool} {links : List Link} {output input : ObjectId}

/-! ## What a barrier comes to -/

/-- A barrier on a connection that is there comes to what the batch comes to that it waits for. -/
theorem synchronize_of_connected (isOpen : client.transport = some (Server.transport id))
    (healthy : client.poison = none) (connected : server.connections.get? id = some connection)
    {failure : Option MalformedNode}
    (delivered : deliverAll (Server.transport id) (connection.inbox ++ [.done client.barrier.next])
      { client.waiting with barrier := client.waiting.barrier.recordIteration }
      ((server.sync id client.barrier.next).2.drive id).2 = (failure, after, changed)) :
    synchronize client server = (outcome failure,
      { after.notify with poison := failure.map .ofMalformed }, changed) := by
  exact synchronize_of_batch ⟨isOpen, healthy⟩ (answer_sync connected _)
    (answer_drive connected _ _) Nat.one_pos (by simp) delivered

/-- What a barrier leaves behind, if an ideal comes of it where only the ports are known. -/
structure ComesTo (id : ConnectionId) (client : Client Server) (server : Server)
    (connection : Connection) (ideal : Option MalformedNode × Subscriber × Nat) : Prop where
  result : (synchronize client server).1 = outcome ideal.1
  graph : (synchronize client server).2.1.graph = ideal.2.1.graph
  objects : (synchronize client server).2.2.objects = server.objects
  more : connection.handles ≤ ideal.2.2
  remains : ∃ later, (synchronize client server).2.2.connections.get? id = some later ∧
    later.handles = ideal.2.2 ∧
    (ideal.2.2 < UInt32.size → ∀ spare, spare.toNat ≤ connection.handles →
      (∀ object, client.subscriber.listened.get? object ≠ some spare) →
      later.proxies.get? spare = connection.proxies.get? spare)

theorem comesTo_synchronize (isOpen : client.transport = some (Server.transport id))
    (healthy : client.poison = none) (connected : server.connections.get? id = some connection)
    (kept : (Server.custody id).Kept (client.books links) server)
    (same : ∀ object, ports object = decide (server.kind? object = some .port))
    (few : (∀ later, (synchronize client server).2.2.connections.get? id = some later →
        later.handles < UInt32.size) ∨
      (hear ports connection.inbox client.subscriber.blurred connection.handles).2.2 <
        UInt32.size) :
    ComesTo id client server connection
      (hear ports connection.inbox client.subscriber.blurred connection.handles) := by
  -- The acknowledgement at the end of the batch is nothing to the subscriber.
  have silent : (Event.done client.barrier.next).isSilent := rfl
  have sameNews : hear ports (connection.inbox ++ [.done client.barrier.next])
      client.subscriber.blurred connection.handles =
        hear ports connection.inbox client.subscriber.blurred connection.handles := by
    rw [Subscriber.hear_of_silent silent, List.append_nil]
  rw [← sameNews] at few ⊢
  rcases delivered : deliverAll (Server.transport id)
    (connection.inbox ++ [.done client.barrier.next])
    { client.waiting with barrier := client.waiting.barrier.recordIteration }
    ((server.sync id client.barrier.next).2.drive id).2 with ⟨failure, after, changed⟩
  have ran := synchronize_of_connected isOpen healthy connected delivered
  have objects : ((server.sync id client.barrier.next).2.drive id).2.objects = server.objects := by
    simp [Server.sync, connected, Server.drive, Server.setConnection]
  have emptied : ((server.sync id client.barrier.next).2.drive id).2.connections.get? id =
      some { connection with inbox := [] } := by
    simp [Server.sync, connected, Server.drive, Server.setConnection, Connection.send]
  have upholds := Server.upholds_custody id
  have keptThen := upholds.waiting (.drive 0)
    (upholds.waiting (.sync client.barrier.next) kept rfl) rfl
  have sameThen : ∀ object, ports object =
      decide (((server.sync id client.barrier.next).2.drive id).2.kind? object = some .port) := by
    intro object
    rw [Server.kind?, objects]
    exact same object
  rw [ran] at few
  rcases applied_deliverAll delivered emptied keptThen sameThen few with
    ⟨applied, later, isLater, heard⟩
  have heard : hear ports (connection.inbox ++ [.done client.barrier.next])
      client.subscriber.blurred connection.handles =
        (failure, after.subscriber.blurred, later.handles) := heard
  rcases applied.spared later isLater with ⟨former, isFormer, more, spared⟩
  cases emptied.symm.trans isFormer
  rw [heard]
  refine ⟨by rw [ran], ?_, ?_, more, later, by rw [ran]; exact isLater, rfl, ?_⟩
  · rw [ran]
    rfl
  · rw [ran]
    exact applied.objects.trans objects
  · intro fewThen spare early apart
    exact (spared fewThen spare early apart).1

/-! ## Asking for a link -/

theorem createLink_of_refuses (isOpen : client.transport = some (Server.transport id))
    (healthy : client.poison = none) (refuses : server.Refuses output input) :
    createLink output input client server =
      (.error (.failed (.linkRefused output input)), client, server) := by
  have refused : (Server.transport id).answer
      (.createObject linkFactory .link (Link.properties output input)) server = (none, server) :=
    Server.createByFactory_of_refuses id refuses
  rw [createLink, Call.bind_of_ok _ (Call.check_of_healthy healthy server),
    Call.bind_of_ok _ (Call.request_of_open isOpen _ server), refused]
  rfl

/-- Behind a link that has been created comes a barrier, and behind a failed one the link goes. -/
theorem createLink_of_created (isOpen : client.transport = some (Server.transport id))
    (healthy : client.poison = none) {proxy : ProxyId} {asked : Server}
    (created : server.createByFactory id linkFactory .link (Link.properties output input) =
      (some proxy, asked))
    (stillOpen : (synchronize client asked).2.1.transport = some (Server.transport id)) :
    createLink output input client server = match synchronize client asked with
      | (.ok (), after, changed) => (.ok { proxy, output, input }, after, changed)
      | (.error reason, after, changed) =>
        (.error reason, after, changed.destroyProxy id proxy) := by
  have granted : (Server.transport id).answer
      (.createObject linkFactory .link (Link.properties output input)) server =
        (some proxy, asked) := created
  rw [createLink, Call.bind_of_ok _ (Call.check_of_healthy healthy server),
    Call.bind_of_ok _ (Call.request_of_open isOpen _ server), granted]
  have begun : (Call.granted (.linkRefused output input) (some proxy) >>= fun proxy =>
      (synchronize.onHalt fun _ => dropProxy proxy) >>= fun _ =>
        pure { proxy, output, input } : Call Server Link) client asked =
      ((synchronize.onHalt fun _ => dropProxy proxy) >>= fun _ =>
        pure { proxy, output, input } : Call Server Link) client asked := rfl
  refine begun.trans ?_
  rcases ran : synchronize client asked with ⟨reason | ⟨⟩, after, changed⟩
  · rw [ran] at stillOpen
    simp only at stillOpen
    apply Call.bind_of_error
    simp only [Call.onHalt, ran, dropProxy, stillOpen]
    rfl
  · have waited : (synchronize.onHalt fun _ => dropProxy proxy : Call Server Unit) client asked =
        (.ok (), after, changed) := by
      simp only [Call.onHalt, ran]
    exact Call.bind_of_ok _ waited

/--
Behind a new link a barrier comes to the same as without it, but for the handle that the link has
used up.
-/
theorem comesTo_linking {later : Connection} {added : Object} {link : ObjectId} {proxy : ProxyId}
    {asked : Server} (isOpen : client.transport = some (Server.transport id))
    (healthy : client.poison = none) (connected : server.connections.get? id = some connection)
    (kept : (Server.custody id).Kept (client.books links) server)
    (keptThen : (Server.custody id).Kept (client.books ({ proxy, output, input } :: links)) asked)
    (made : Server.Links id server asked connection later added link proxy)
    (isLink : added.kind = .link)
    (few : ∀ last, (synchronize client asked).2.2.connections.get? id = some last →
      last.handles < UInt32.size) :
    ∃ ideal, ComesTo id client server connection ideal ∧
      ComesTo id client asked later (ideal.1, ideal.2.1, ideal.2.2 + 1) := by
  generalize isPorts : (fun object => decide (server.kind? object = some .port)) = ports
  have same : ∀ object, ports object = decide (server.kind? object = some .port) := by
    simp [← isPorts]
  have sameThen : ∀ object, ports object = decide (asked.kind? object = some .port) := by
    intro object
    rw [same, Server.kind?, Server.kind?, made.objects, Table.get?_insert]
    split
    case isTrue isNew => simp [isNew, made.fresh, isLink]
    case isFalse => rfl
  have news : hear ports later.inbox client.subscriber.blurred connection.handles =
      hear ports connection.inbox client.subscriber.blurred connection.handles := by
    rcases made.inbox with unheard | told
    · rw [unheard]
    · have silent : (Event.global link added.kind).isSilent := by simp [Event.isSilent, isLink]
      rw [told, Subscriber.hear_of_silent silent, List.append_nil]
  have heard := comesTo_synchronize isOpen healthy made.remains keptThen sameThen (.inl few)
  rw [made.handles, Subscriber.hear_succ, news] at heard
  refine ⟨_, comesTo_synchronize isOpen healthy connected kept same (.inr ?_), heard⟩
  rcases heard.remains with ⟨last, isLast, count, -⟩
  have bound := few last isLast
  rw [count] at bound
  exact Nat.lt_of_succ_lt bound

/-- The proxy of a new link is none that the client could give back in the barrier behind it. -/
theorem ComesTo.keeps_link {later : Connection} {added : Object} {link : ObjectId}
    {proxy : ProxyId} {asked : Server} {ideal : Option MalformedNode × Subscriber × Nat}
    (heard : ComesTo id client asked later ideal)
    (made : Server.Links id server asked connection later added link proxy)
    (connected : server.connections.get? id = some connection)
    (kept : (Server.custody id).Kept (client.books links) server)
    (few : ideal.2.2 < UInt32.size) :
    ∃ last, (synchronize client asked).2.2.connections.get? id = some last ∧
      last.proxies.get? proxy = some { object := link, listening := false, owned := true } := by
  rcases heard.remains with ⟨last, isLast, -, spared⟩
  have fewLater : later.handles < UInt32.size := Nat.lt_of_le_of_lt heard.more few
  have fresh := made.adds.fresh fewLater
  have covers := kept connection connected (Nat.lt_of_le_of_lt made.adds.handles fewLater)
  have apart : ∀ object, client.subscriber.listened.get? object ≠ some proxy := by
    intro object listened
    exact Nat.not_lt_of_le (covers.given object proxy listened) fresh.1
  refine ⟨last, isLast, ?_⟩
  rw [spared few proxy fresh.2 apart, made.adds.proxies, Table.get?_insert, if_pos rfl]

/-- The server when a link has been asked for, before the barrier behind it. -/
def asked (id : ConnectionId) (output input : ObjectId) (server : Server) : Server :=
  (server.createByFactory id linkFactory .link (Link.properties output input)).2

/--
A link that the server refuses leaves everything as it is. Otherwise the barrier behind it comes to
what it would come to without the link, and the graph with it. If it succeeds, there is one object
more, which is the link and goes with the proxy that is returned; if it fails, there is none.
-/
theorem createLink_atomic {Permits : List Endpoint → Invocation → Prop} {held : List Endpoint}
    (session : Session id Permits client server held) (isOpen : client.isOpen)
    (healthy : client.poison = none) (connected : (server.connections.get? id).isSome)
    (output input : ObjectId) :
    (server.Refuses output input → createLink output input client server =
      (.error (.failed (.linkRefused output input)), client, server)) ∧
    (¬server.Refuses output input →
      (∃ free, firstObjectId ≤ free ∧ free < unassigned ∧ server.objects.get? free = none) →
      (∀ last, (createLink output input client server).2.2.connections.get? id = some last →
        last.handles < UInt32.size) →
      (synchronize client (asked id output input server)).1 = (synchronize client server).1 ∧
        (createLink output input client server).2.1.graph =
          (synchronize client server).2.1.graph ∧
        match (synchronize client (asked id output input server)).1 with
        | .ok () => ∃ link proxy last, server.objects.get? link = none ∧
            (createLink output input client server).1 = .ok { proxy, output, input } ∧
            (createLink output input client server).2.2.objects = server.objects.insert link
              { kind := .link, props := Link.properties output input, owner := some id } ∧
            (createLink output input client server).2.2.connections.get? id = some last ∧
            last.proxies.get? proxy = some { object := link, listening := false, owned := true }
        | .error reason => (createLink output input client server).1 = .error reason ∧
            (createLink output input client server).2.2.objects = server.objects) := by
  rcases Option.isSome_iff_exists.1 isOpen with ⟨transport, opened⟩
  rw [session.connected.1 transport opened] at opened
  refine ⟨createLink_of_refuses opened healthy, fun accepted room few => ?_⟩
  rcases Option.isSome_iff_exists.1 connected with ⟨connection, isConnected⟩
  rcases Server.links_createByFactory isConnected (Server.acceptsLink_iff.2 accepted) room with
    ⟨after, later, link, proxy, created, made⟩
  have isAsked : asked id output input server = after := congrArg Prod.snd created
  rw [isAsked]
  rcases session.custody with ⟨links, stands⟩
  rcases stands.kept _ opened with ⟨upholds, kept⟩
  have keptThen : (Server.custody id).Kept (client.books ({ proxy, output, input } :: links))
      after := by
    have linked := upholds.linking output input kept
    simp only [Server.transport, Server.answer, created] at linked
    exact linked
  have standsThen := (Stands.of_open opened upholds keptThen).within looping_upkeep.synchronize
  have ran := createLink_of_created opened healthy created (standsThen.transport.trans opened)
  -- The link is taken back on the connection, so no handle is forgotten there.
  have fewThen : ∀ last, (synchronize client after).2.2.connections.get? id = some last →
      last.handles < UInt32.size := by
    rw [ran] at few
    generalize synchronize client after = barrier at few ⊢
    rcases barrier with ⟨reason | ⟨⟩, next, changed⟩
    · have lasts := (Server.serves_lasts id).answer changed (.destroyProxy proxy)
      exact lasts.few (Server.remains_destroyProxy changed proxy) few
    · exact few
  rcases comesTo_linking opened healthy isConnected kept keptThen made rfl fewThen with
    ⟨ideal, plain, heard⟩
  have fewLast : ideal.2.2 + 1 < UInt32.size := by
    rcases heard.remains with ⟨last, isLast, count, -⟩
    exact Nat.lt_of_le_of_lt (Nat.le_of_eq count.symm) (fewThen last isLast)
  rcases heard.keeps_link made isConnected kept fewLast with ⟨last, isLast, bound⟩
  have objects := heard.objects.trans made.objects
  have graph := heard.graph.trans plain.graph.symm
  refine ⟨heard.result.trans plain.result.symm, ?_⟩
  rw [ran]
  generalize synchronize client after = barrier at isLast objects graph ⊢
  rcases barrier with ⟨reason | ⟨⟩, next, changed⟩
  · exact ⟨graph, rfl, Server.objects_destroyProxy_of_new made.fresh objects isLast bound⟩
  · exact ⟨graph, link, proxy, last, made.fresh, rfl, objects, isLast, bound⟩

/-- A server with an output and an input. -/
def patched : Server := Server.run {}
  [.inject (.addObject .port (.ofList [(Key.portDirection, "out")])),
    .inject (.addObject .port (.ofList [(Key.portDirection, "in")]))]

/-- The input is given a node id that is no number, which no client can file. -/
def garbling : Server.Step :=
  .inject (.replaceProperties 33 (.ofList [(Key.portDirection, "in"), (Key.nodeId, "x")]))

/-- Whether a link can be asked for from the output to the input, and only so. -/
def linkable (client : Client Server) (server : Server) : Bool :=
  client.isOpen && client.poison.isNone && (server.connections.get? 1).isSome &&
    server.acceptsLink (Link.properties 32 33) && !server.acceptsLink (Link.properties 33 32) &&
    (server.objects.get? 40).isNone &&
    ((createLink 32 33 client server).2.2.connections.get? 1).all (·.handles < UInt32.size)

theorem linkable_iff : linkable client server ↔ client.isOpen ∧ client.poison = none ∧
    (server.connections.get? 1).isSome ∧ ¬server.Refuses 32 33 ∧ server.Refuses 33 32 ∧
    server.objects.get? 40 = none ∧
    ∀ last, (createLink 32 33 client server).2.2.connections.get? 1 = some last →
      last.handles < UInt32.size := by
  have refuses : server.Refuses 33 32 ↔ server.acceptsLink (Link.properties 33 32) = false := by
    rw [← not_iff_not, ← Server.acceptsLink_iff, Bool.not_eq_false]
  simp [linkable, Server.acceptsLink_iff, refuses, Option.all_eq_true, and_assoc]

theorem createLink_atomic_garbling :
    ∃ client server, Session 1 (fun _ _ => True) client server [] ∧
      Session 1 (fun _ _ => True) client (server.perform garbling) [] ∧
      createLink 33 32 client server = (.error (.failed (.linkRefused 33 32)), client, server) ∧
      (∃ link proxy, server.objects.get? link = none ∧
        (createLink 32 33 client server).1 = .ok { proxy, output := 32, input := 33 } ∧
        (createLink 32 33 client server).2.2.objects = server.objects.insert link
          { kind := .link, props := Link.properties 32 33, owner := some 1 }) ∧
      ∃ reason, (createLink 32 33 client (server.perform garbling)).1 = .error reason ∧
        (createLink 32 33 client (server.perform garbling)).2.2.objects =
          (server.perform garbling).objects := by
  have probed : (Client.connect Server.backend .standard [] patched).1.toOption.map (fun client =>
      let server := (Client.connect Server.backend .standard [] patched).2
      linkable client server && linkable client (server.perform garbling) &&
        (synchronize client (asked 1 32 33 server)).1.toBool &&
        !(synchronize client (asked 1 32 33 (server.perform garbling))).1.toBool) = some true := by
    decide +kernel
  have foreign : ∀ request, garbling ≠ .ask 1 request := nofun
  rcases ran : Client.connect Server.backend .standard [] patched with ⟨refusal | client, server⟩
  · simp [ran, Except.toOption] at probed
  · simp only [ran, Except.toOption, Option.map_some, Option.some.injEq, Bool.and_eq_true,
      linkable_iff] at probed
    rcases probed with ⟨⟨⟨quiet, garbled⟩, succeeds⟩, fails⟩
    rcases quiet with ⟨isOpen, healthy, connected, accepts, refuses, free, few⟩
    rcases garbled with ⟨-, -, connectedStill, acceptsStill, -, freeStill, fewStill⟩
    have session : Session 1 (fun _ _ => True) client server [] := .opened rfl ran
    have later := session.meanwhile garbling foreign
    have whole := createLink_atomic session isOpen healthy connected
    have first := (whole 32 33).2 accepts ⟨40, by decide, by decide, free⟩ few
    have second := (createLink_atomic later isOpen healthy connectedStill 32 33).2 acceptsStill
      ⟨40, by decide, by decide, freeStill⟩ fewStill
    refine ⟨client, server, session, later, (whole 33 32).1 refuses, ?_, ?_⟩
    · rcases waited : (synchronize client (asked 1 32 33 server)).1 with reason | ⟨⟩
      · simp [waited, Except.toBool] at succeeds
      · rw [waited] at first
        rcases first.2.2 with ⟨link, proxy, last, fresh, returned, objects, -, -⟩
        exact ⟨link, proxy, fresh, returned, objects⟩
    · rcases waited : (synchronize client (asked 1 32 33 (server.perform garbling))).1 with
        reason | ⟨⟩
      · rw [waited] at second
        exact ⟨reason, second.2.2⟩
      · simp [waited, Except.toBool] at fails

end Client

end MediaGraph
