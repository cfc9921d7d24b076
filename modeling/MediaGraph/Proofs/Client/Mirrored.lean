import MediaGraph.Proofs.Client.Opening

/-!
# The graph shows only what is listened to

A port is filed when a client that listens to it is told its properties, and it is taken out when it
is given up. In between it could be announced anew, and then the client would let go of it and
perhaps not get hold of it again. This does not happen: whoever announces an object has told before
that the last one with its id is gone. So a graph never has a port that is not listened to
(`Client.Mirrors`), not even if the client is poisoned in the middle of a batch.
-/

namespace MediaGraph

/-- Every port of the graph is listened to. -/
structure Subscriber.Mirrored (subscriber : Subscriber) : Prop where
  filed : subscriber.graph.WellFiled
  heard : ∀ id, (subscriber.graph.find? id).isSome → subscriber.isListeningTo id

namespace Subscriber.Mirrored

variable {subscriber after : Subscriber}

theorem listens (mirrored : subscriber.Mirrored) {port : Port}
    (member : port ∈ subscriber.graph.allPorts) : subscriber.isListeningTo port.id := by
  rcases mirrored.filed.mem_ports member with ⟨place, isPlace, -⟩
  have found : subscriber.graph.find? port.id = some (place.category, port) :=
    mirrored.filed.find?_eq_some_iff.2 ⟨member, rfl, place.node, isPlace⟩
  exact mirrored.heard port.id (by simp [found])

theorem of_fresh (bare : subscriber.graph = .empty) : subscriber.Mirrored where
  filed := bare ▸ Graph.WellFiled.empty
  heard id shown := by
    rw [bare, Graph.find?_empty] at shown
    cases shown

theorem describe {id : ObjectId} {props : Properties} (mirrored : subscriber.Mirrored)
    (described : subscriber.describe id props = .ok after) : after.Mirrored := by
  rcases describe_cases described with ⟨-, rfl⟩ | ⟨listening, place, graph, inserted, rfl⟩
  · exact mirrored
  · refine ⟨mirrored.filed.insert inserted, fun other shown => ?_⟩
    rw [Graph.find?_of_insert mirrored.filed inserted] at shown
    split at shown
    case isTrue same =>
      rw [same]
      exact listening
    case isFalse => exact mirrored.heard other shown

theorem withdraw {σ : Type} (transport : Transport σ) (world : σ) (id : ObjectId)
    (mirrored : subscriber.Mirrored) :
    ((subscriber.withdraw id).release transport id world).1.Mirrored := by
  have erased := graph_withdraw id mirrored.filed
  refine ⟨?_, fun other shown => ?_⟩
  · rw [graph_release, erased]
    exact mirrored.filed.erase id
  · rw [graph_release, erased, Graph.find?_erase mirrored.filed] at shown
    split at shown
    case isTrue => cases shown
    case isFalse apart =>
      rcases isListeningTo_iff.1 (mirrored.heard other shown) with ⟨proxy, listened⟩
      refine isListeningTo_iff.2 ⟨proxy, ?_⟩
      rw [listened_release, if_neg apart]
      exact listened

end Subscriber.Mirrored

/-! ## A batch -/

namespace Tracks

variable {known : Table ObjectId ObjectKind} {links : List ProxyId} {pending : List Event}
  {subscriber after : Subscriber} {server changed : Server} {connection : Connection}
  {id : ConnectionId}

/-- An object that is announced is one that was not known, so nothing is let go of. -/
theorem mirrored_handle {event : Event}
    (tracks : Tracks known links (event :: pending) subscriber server connection)
    (mirrored : subscriber.Mirrored) (connected : server.connections.get? id = some connection)
    (handled : subscriber.handle (Server.transport id) event server = .ok (after, changed)) :
    after.Mirrored := by
  rcases Subscriber.handle_cases tracks.listening handled with ⟨object, rfl, result⟩ |
    ⟨object, props, rfl, described, -⟩ | ⟨object, rfl, result⟩ | ⟨-, -, -, rfl, -⟩
  · rcases announce_eq connected tracks.unbound with ⟨-, same⟩ | ⟨_, _, _, -, -, granted, -⟩
    · rw [same] at result
      cases result
      exact mirrored
    · rw [granted] at result
      cases result
      refine ⟨mirrored.filed, fun other shown => ?_⟩
      rcases Subscriber.isListeningTo_iff.1 (mirrored.heard other shown) with ⟨proxy, listened⟩
      refine Subscriber.isListeningTo_iff.2 ?_
      simp only [Table.get?_insert]
      split
      · exact ⟨_, rfl⟩
      · exact ⟨proxy, listened⟩
  · exact mirrored.describe described
  · have withdrawn := mirrored.withdraw (Server.transport id) server object
    rw [← result] at withdrawn
    exact withdrawn
  · exact mirrored

end Tracks

namespace Client

open Server

variable {id : ConnectionId} {links : List ProxyId} {client after : Client Server}
  {server changed : Server}

/-- It does not matter how far a batch gets. -/
theorem mirrored_deliverAll {events : List Event} {known : Table ObjectId ObjectKind}
    {connection : Connection}
    (tracks : Tracks known links (events ++ connection.inbox) client.subscriber server connection)
    (mirrored : client.subscriber.Mirrored)
    (connected : server.connections.get? id = some connection)
    (few : (deliverAll (Server.transport id) events client server).2.2.HasHandles id) :
    (deliverAll (Server.transport id) events client server).2.1.subscriber.Mirrored := by
  induction events generalizing client server known connection with
  | nil => exact mirrored
  | cons event rest ih =>
      simp only [deliverAll] at few ⊢
      split at few
      case h_2 malformed failed =>
        exact mirrored
      case h_1 next between delivered =>
        have framed := framed_deliverAll id rest next between
        have fewBetween := framed.affects.lasts.few framed.remains few
        rw [List.cons_append] at tracks
        rcases tracks_deliver tracks connected delivered fewBetween with
          ⟨middle, later, isLater, -, inbox, tracksNext⟩
        rw [List.append_assoc, ← inbox] at tracksNext
        have mirroredNext := tracks.mirrored_handle mirrored connected
          (handle_of_deliver delivered).1
        exact ih tracksNext mirroredNext isLater few

theorem mirrored_applyBatch {events : List Event} {known : Table ObjectId ObjectKind}
    {connection : Connection}
    (tracks : Tracks known links (events ++ connection.inbox) client.subscriber server connection)
    (mirrored : client.subscriber.Mirrored)
    (connected : server.connections.get? id = some connection)
    (few : (applyBatch (Server.transport id) events client server).2.2.HasHandles id) :
    (applyBatch (Server.transport id) events client server).2.1.subscriber.Mirrored := by
  rw [world_applyBatch] at few
  have delivered := mirrored_deliverAll tracks mirrored connected few
  simp only [applyBatch]
  generalize deliverAll (Server.transport id) events client server = result at delivered ⊢
  rcases result with ⟨_ | malformed, next, final⟩
  · exact ⟨delivered.filed, delivered.heard⟩
  · exact ⟨delivered.filed, delivered.heard⟩

/-! ## Calls -/

/--
The graph of the client has no port that it does not listen to, as long as the handles of its
connection have not been used up.
-/
def Mirrors (id : ConnectionId) (client : Client Server) (server : Server) : Prop :=
  client.transport.isSome → ∀ connection, server.connections.get? id = some connection →
    connection.handles < UInt32.size → client.subscriber.Mirrored

theorem Mirrors.of_lasts (mirrors : client.Mirrors id server) (lasts : Lasts id server changed) :
    client.Mirrors id changed := by
  intro opened later isLater few
  rcases lasts later isLater with ⟨connection, connected, more⟩
  exact mirrors opened connection connected (Nat.lt_of_le_of_lt more few)

theorem Mirrors.of_same (mirrors : client.Mirrors id server)
    (transport : after.transport = client.transport)
    (subscriber : after.subscriber = client.subscriber) : after.Mirrors id server := by
  intro opened
  rw [transport] at opened
  rw [subscriber]
  exact mirrors opened

/-- The client is healthy, in step, and its graph shows no more than what it listens to. -/
structure Sees (id : ConnectionId) (links : List ProxyId) (client : Client Server)
    (server : Server) : Prop where
  connected : client.Connected id
  healthy : client.poison = none
  inStep : client.InStep id links server
  mirrors : client.Mirrors id server

/--
The call keeps the graph within what is listened to; if it succeeds, the client can go on. After a
batch that has failed the client is out of step, so that nothing else can be said then.
-/
def Watches (id : ConnectionId) (links : List ProxyId) {α : Type} (call : Call Server α) : Prop :=
  ∀ client server, client.Sees id links server →
    (call client server).2.1.Mirrors id (call client server).2.2 ∧
      ∀ value, (call client server).1 = .ok value →
        (call client server).2.1.Sees id links (call client server).2.2

theorem watches_of_still {α : Type} {call : Call Server α} (still : call.Still) :
    Watches id links call := by
  intro client server sees
  rw [still client server]
  exact ⟨sees.mirrors, fun _ _ => sees⟩

theorem watches_bind {α β : Type} {first : Call Server α} {next : α → Call Server β}
    (start : Watches id links first) (rest : ∀ value, Watches id links (next value)) :
    Watches id links (first >>= next) := by
  intro client server sees
  have begun := start client server sees
  rcases ran : first client server with ⟨reason | value, between, middle⟩
  · rw [ran] at begun
    rw [Call.bind_of_error _ ran]
    exact ⟨begun.1, nofun⟩
  · rw [ran] at begun
    rw [Call.bind_of_ok _ ran]
    exact rest value between middle (begun.2 value rfl)

theorem poison_turn {σ : Type} : (turn : Call σ Unit).Within Halt.Never fun before after =>
    after.1.poison = before.1.poison :=
  within_turn ⟨fun _ => rfl, fun first second => second.trans first⟩
    (fun _ _ _ _ _ => rfl) (fun _ _ _ => rfl)
    fun client world transport events _ =>
      (frame_of_applyBatch transport events client world).2

theorem mirrors_turn (sees : client.Sees id links server) :
    (turn client server).2.1.Mirrors id (turn client server).2.2 := by
  cases opened : client.transport with
  | none =>
      rw [turn_of_closed opened]
      exact sees.mirrors
  | some transport =>
      rw [sees.connected transport opened] at opened
      intro _ later isLater few
      rcases elementary_stays.looping.turn.always client server sees.connected with ⟨-, affects⟩
      rcases affects.lasts later isLater with ⟨connection, connected, more⟩
      have fewBefore := Nat.lt_of_le_of_lt more few
      rcases sees.inStep (by simp [opened]) sees.healthy connection connected fewBefore with
        ⟨-, known, tracks⟩
      have mirrored := sees.mirrors (by simp [opened]) connection connected fewBefore
      have fetched : (server.setConnection id { connection with inbox := [] }).connections.get? id =
          some { connection with inbox := [] } := by simp [setConnection]
      rw [turn_of_connected opened connected] at isLater ⊢
      exact mirrored_applyBatch (tracks_fetched tracks) mirrored fetched fun other isOther => by
        rwa [show other = later from Option.some.inj (isOther.symm.trans isLater)]

theorem watches_turn : Watches id links (turn : Call Server Unit) := by
  intro client server sees
  refine ⟨mirrors_turn sees, fun value succeeded => ⟨?_, ?_, ?_, mirrors_turn sees⟩⟩
  · exact (elementary_stays.looping.turn.always client server sees.connected).1
  · rw [poison_turn.always client server]
    exact sees.healthy
  · have sound : ∀ reason, (turn client server).1 = .error reason → ¬reason.Malformed := by
      intro reason failed
      rw [succeeded] at failed
      cases failed
    exact (keeps_turn client server sound sees.connected).2 sees.inStep

theorem watches_awaitSync : Watches id links (awaitSync : Call Server Unit) := by
  have waits : Call.Waits fun {α : Type} (call : Call Server α) => Watches id links call := by
    refine ⟨⟨fun steady => watches_of_still steady.still, watches_bind⟩, fun change => ?_,
      fun sequence => ?_, watches_turn⟩
    · intro client server sees
      have mirrors : Mirrors id { client with barrier := change client } server :=
        sees.mirrors.of_same rfl rfl
      exact ⟨mirrors, fun _ _ => ⟨sees.connected, sees.healthy, sees.inStep, mirrors⟩⟩
    · intro client server sees
      rcases Option.eq_none_or_eq_some client.transport with closed | ⟨transport, opened⟩
      · rw [Call.request_of_closed closed]
        exact ⟨sees.mirrors, nofun⟩
      · rw [Call.request_of_open opened, sees.connected transport opened]
        have mirrors := sees.mirrors.of_lasts ((serves_lasts id).answer server (.sync sequence))
        refine ⟨mirrors, fun _ _ => ⟨sees.connected, sees.healthy, ?_, mirrors⟩⟩
        exact sees.inStep.passes (passes_sync server id sequence)
  exact waits.awaitSync

/-! ## Every call -/

/-- The client is in step, and its graph shows no more than what it listens to. -/
structure Reflects (id : ConnectionId) (links : List ProxyId) (client : Client Server)
    (server : Server) : Prop where
  inStep : client.InStep id links server
  mirrors : client.Mirrors id server

def StillReflects (id : ConnectionId) (links : List ProxyId)
    (before after : Client Server × Server) : Prop :=
  before.1.Connected id → after.1.Connected id ∧
    (before.1.Reflects id links before.2 → after.1.Reflects id links after.2)

theorem composes_stillReflects : Call.Composes (StillReflects id links) where
  refl _ connected := ⟨connected, fun reflects => reflects⟩
  trans start rest connected := by
    rcases start connected with ⟨between, first⟩
    rcases rest between with ⟨final, second⟩
    exact ⟨final, fun reflects => second (first reflects)⟩

/-- Where nothing is filed or bound, it is enough to be kept in step. -/
theorem stillReflects_of_lasts (keeps : Keeps id links (client, server) (after, changed))
    (transport : after.transport = client.transport)
    (subscriber : after.subscriber = client.subscriber) (lasts : Lasts id server changed) :
    StillReflects id links (client, server) (after, changed) := by
  intro connected
  rcases keeps connected with ⟨connectedAfter, inStep⟩
  refine ⟨connectedAfter, fun reflects => ⟨inStep reflects.inStep, ?_⟩⟩
  exact (reflects.mirrors.of_lasts lasts).of_same transport subscriber

/-- A call that the event loop makes for a healthy client, and which poisons it if need be. -/
theorem stillReflects_guarded {call : Call Server Unit} (watches : Watches id links call)
    (keeps : (do Call.check; call.poisoning : Call Server Unit).Within Halt.Never
      (Keeps id links)) :
    (do Call.check; call.poisoning : Call Server Unit).Within Halt.Never
      (StillReflects id links) := by
  intro client server never connected
  rcases keeps client server never connected with ⟨connectedAfter, inStep⟩
  refine ⟨connectedAfter, fun reflects => ⟨inStep reflects.inStep, ?_⟩⟩
  cases poison : client.poison with
  | some error =>
      rw [Call.bind_of_error _ (Call.check_of_poison poison server)]
      exact reflects.mirrors
  | none =>
      rw [Call.bind_of_ok _ (Call.check_of_healthy poison server)]
      have watched := (watches client server
        ⟨connected, poison, reflects.inStep, reflects.mirrors⟩).1
      rcases ran : call client server with ⟨reason | ⟨⟩, next, final⟩
      · rw [ran] at watched
        simp only [Call.poisoning, Call.onHalt, ran]
        -- To be poisoned changes neither the graph nor what is listened to.
        split
        · exact watched.of_same rfl rfl
        · exact watched
      · rw [ran] at watched
        simp only [Call.poisoning, Call.onHalt, ran]
        exact watched

theorem stillReflects_synchronize :
    (synchronize : Call Server Unit).Within Halt.Never (StillReflects id links) :=
  stillReflects_guarded watches_awaitSync keeps_synchronize

theorem stillReflects_dropProxy {link : ProxyId} (own : link ∈ links) :
    (dropProxy link : Call Server Unit).Within Halt.Never (StillReflects id links) := by
  intro client server never connected
  have keeps : Keeps id links (client, server) (dropProxy link client server).2 :=
    keeps_dropProxy own client server never
  have lasts : (dropProxy link client server).2.1 = client ∧
      Lasts id server (dropProxy link client server).2.2 := by
    simp only [dropProxy]
    split
    case h_1 transport opened =>
      rw [connected transport opened]
      exact ⟨rfl, (serves_lasts id).answer server (.destroyProxy link)⟩
    case h_2 => exact ⟨rfl, .refl id server⟩
  generalize dropProxy link client server = result at keeps lasts ⊢
  rcases result with ⟨outcome, next, final⟩
  rcases lasts with ⟨rfl, lasts⟩
  exact stillReflects_of_lasts keeps rfl rfl lasts connected

theorem mirrors_createLink (connected : client.Connected id)
    (reflects : client.Reflects id links server) (output input : ObjectId) :
    (Client.createLink output input client server).2.1.Mirrors id
      (Client.createLink output input client server).2.2 := by
  rcases createLink_cases output input client server with
    ⟨reason, failed⟩ | ⟨transport, opened, rest⟩
  · rw [failed]
    exact reflects.mirrors
  · rw [connected transport opened] at rest
    have lasts := (serves_lasts id).createByFactory server linkFactory .link
      (Link.properties output input)
    rcases answered : server.createByFactory id linkFactory .link (Link.properties output input)
      with ⟨_ | proxy, between⟩
    · rw [answered] at lasts
      simp only [Server.transport, answer, answered] at rest
      rw [rest]
      exact reflects.mirrors.of_lasts lasts
    · rw [answered] at lasts
      simp only [Server.transport, answer, answered] at rest
      rw [rest, Call.state_bind_pure]
      have waiting : (synchronize.onHalt fun _ => dropProxy proxy : Call Server Unit).Within
          Halt.Never (StillReflects id (proxy :: links)) :=
        .onHalt composes_stillReflects stillReflects_synchronize fun _ =>
          stillReflects_dropProxy List.mem_cons_self
      have told : client.Reflects id (proxy :: links) between :=
        ⟨reflects.inStep.createByFactory answered, reflects.mirrors.of_lasts lasts⟩
      exact ((waiting.always client between connected).2 told).mirrors

theorem respected_stillReflects : Call.Respected (StillReflects id links) where
  toComposes := composes_stillReflects
  asking client server transport request opened plain connected := by
    have keeps : Keeps id links (client, server) (client, (transport.answer request server).2) :=
      respected_keeps.asking client server transport request opened plain
    have lasts := (serves_lasts id).answer server request
    rw [connected transport opened] at keeps ⊢
    exact stillReflects_of_lasts keeps rfl rfl lasts connected
  bookkeeping client server nodes := stillReflects_of_lasts
    (respected_keeps.bookkeeping client server nodes) rfl rfl (.refl id server)
  pump := stillReflects_guarded watches_turn respected_keeps.pump
  synchronize := stillReflects_synchronize
  createLink output input client server never connected := by
    rcases respected_keeps.createLink output input client server never connected with
      ⟨connectedAfter, inStep⟩
    exact ⟨connectedAfter, fun reflects => ⟨inStep reflects.inStep,
      mirrors_createLink connected reflects output input⟩⟩
  observe client server observer := stillReflects_of_lasts
    (respected_keeps.observe client server observer) rfl rfl (.refl id server)
  close client server connected := by
    rcases respected_keeps.close client server connected with ⟨connectedAfter, inStep⟩
    refine ⟨connectedAfter, fun reflects => ⟨inStep reflects.inStep, ?_⟩⟩
    simp only [Client.close]
    split
    case h_1 => exact reflects.mirrors
    case h_2 =>
      intro opened
      cases opened

/-- Every call keeps the graph within what is listened to, for a client that is in step. -/
theorem mirrors_invocation {invocation : Invocation}
    (own : ∀ link, invocation = .destroyLink link → link.proxy ∈ links)
    (connected : client.Connected id) (inStep : client.InStep id links server)
    (mirrors : client.Mirrors id server) :
    (invocation.call client server).2.1.Mirrors id (invocation.call client server).2.2 := by
  have kept : (invocation.call : Call Server (Option Link)).Within Halt.Never
      (StillReflects id links) :=
    respected_stillReflects.invocation invocation fun link isLink =>
      stillReflects_dropProxy (own link isLink)
  exact ((kept.always client server connected).2 ⟨inStep, mirrors⟩).mirrors

/-! ## Opening -/

variable {config : Config} {observers : List Observer}

/-- A client that has been opened knew nothing before. -/
theorem mirrors_connect
    (ran : Client.connect Server.backend config observers server = (.ok client, changed)) :
    client.Mirrors (server.lastConnection + 1) changed := by
  cases refuses : server.policy.refuseConnections with
  | true =>
      rw [connect_of_refused refuses] at ran
      cases ran
  | false =>
      rw [connect_of_accepted refuses] at ran
      have opened : (newcomer config observers server).transport =
          some (Server.transport (server.lastConnection + 1)) := rfl
      have fresh := get?_accepting config server
      have waits : (do synchronize; synchronize : Call Server Unit).Within Halt.Never
          (StillReflects (server.lastConnection + 1) []) :=
        .bind composes_stillReflects stillReflects_synchronize fun _ => stillReflects_synchronize
      have waited := waits.always (newcomer config observers server).subscribed
        ((accepting config server).subscribeGlobals (server.lastConnection + 1)).2
        (connected_subscribed opened)
      rw [← start_of_fresh opened rfl fresh] at waited
      have reflects := waited.2
        ⟨inStep_subscribed fresh rfl rfl, fun _ _ _ _ => .of_fresh rfl⟩
      generalize start (newcomer config observers server) (accepting config server) = result
        at ran reflects
      rcases result with ⟨reason | ⟨⟩, ready, final⟩
      · cases ran
      · cases ran
        exact reflects.mirrors

end Client

end MediaGraph
