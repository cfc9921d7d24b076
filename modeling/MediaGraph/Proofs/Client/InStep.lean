import MediaGraph.Proofs.Client.Delivery
import MediaGraph.Proofs.Client.Invocation
import MediaGraph.Proofs.Client.Tracking

/-!
# A client stays in step with the server

A client on a connection of the server is in step if its subscriber follows the server with the
events of the connection's inbox pending, and what these say of ports is true. This holds between
calls, as long as the client is open and healthy, the server has not dropped the connection and the
handles have not been used up; then the notion says nothing, and what it asks for cannot come back.

Every call keeps a client in step. The exception is a link that the client has not created itself:
taking it back would give back a handle that may be that of a port.
-/

namespace MediaGraph

namespace Client

open Server

/-- If the client is open, it is so on the connection with a number. -/
def Connected (id : ConnectionId) (client : Client Server) : Prop :=
  ∀ transport, client.transport = some transport → transport = Server.transport id

/-- A client stays on its connection, and what it does there affects others as requests do. -/
def Stays (id : ConnectionId) (before after : Client Server × Server) : Prop :=
  before.1.Connected id → after.1.Connected id ∧ Affects id before.2 after.2

variable {id : ConnectionId} {client after : Client Server} {server changed : Server}

/-! ## What a client does affects others as requests do -/

theorem follows_affects (id : ConnectionId) : (Server.transport id).Follows fun before after =>
    Affects id before after ∧ Remains id before after where
  refl server := ⟨.refl id server, fun connected => connected⟩
  trans start rest :=
    ⟨start.1.trans rest.1, fun connected => rest.2 (start.2 connected)⟩
  asking request server binding := by
    refine ⟨affects_answer server id request, ?_⟩
    cases request with
    | bindObject object kind => exact remains_bindObject id server object kind
    | subscribeInfo proxy => exact remains_subscribeInfo server proxy
    | destroyProxy proxy => exact remains_destroyProxy server proxy
    | _ => simp [Request.isBinding] at binding

structure Framed (id : ConnectionId) (before after : Client Server × Server) : Prop where
  transport : after.1.transport = before.1.transport
  poison : after.1.poison = before.1.poison
  affects : Affects id before.2 after.2
  remains : Remains id before.2 after.2

theorem framed_deliverAll (id : ConnectionId) (events : List Event) (client : Client Server)
    (server : Server) :
    Framed id (client, server) (deliverAll (Server.transport id) events client server).2 where
  transport := by rw [frame_of_deliverAll]
  poison := by rw [frame_of_deliverAll]
  affects := (related_deliverAll (follows_affects id) events client server).1
  remains := (related_deliverAll (follows_affects id) events client server).2

/-- What holds across every request of a connection holds across all that its client does. -/
theorem elementary_spans {Related : Server → Server → Prop} (spans : Spans id Related) :
    Call.Elementary fun before after : Client Server × Server =>
      before.1.Connected id → after.1.Connected id ∧ Related before.2 after.2 where
  refl state connected := ⟨connected, spans.refl state.2⟩
  trans start rest connected := by
    rcases start connected with ⟨between, first⟩
    rcases rest between with ⟨final, second⟩
    exact ⟨final, spans.trans first second⟩
  asking client server transport request opened connected := by
    rw [connected transport opened]
    exact ⟨connected, spans.answer server request⟩
  batch client server transport events opened connected := by
    rw [connected transport opened]
    have follows : (Server.transport id).Follows Related :=
      ⟨spans.refl, spans.trans, fun request server _ => spans.answer server request⟩
    refine ⟨fun other isOpen => connected other ?_, ?_⟩
    · exact (frame_of_applyBatch (Server.transport id) events client server).1.symm.trans isOpen
    · rw [world_applyBatch]
      exact related_deliverAll follows events client server
  barrier _ server _ connected := ⟨connected, spans.refl server⟩
  poison _ server _ connected := ⟨connected, spans.refl server⟩
  bookkeeping _ server _ connected := ⟨connected, spans.refl server⟩
  observe _ server _ connected := ⟨connected, spans.refl server⟩
  close client server connected := by
    simp only [close]
    split
    case h_1 => exact ⟨connected, spans.refl server⟩
    case h_2 transport opened =>
      rw [connected transport opened]
      refine ⟨fun _ isOpen => ?_, ?_⟩
      · cases isOpen
      refine spans.trans ?_ (spans.answer _ .disconnect)
      refine spans.trans ?_ (spans.foldl Request.destroyNode client.localNodes _)
      simp only [Subscriber.teardown, Subscriber.destroyProxies]
      refine spans.trans ?_ (spans.foldl Request.destroyProxy client.subscriber.listened.values _)
      split
      · exact spans.answer server .unsubscribeGlobals
      · exact spans.refl server
      · exact spans.refl server

theorem elementary_stays : Call.Elementary (Stays id) := elementary_spans (serves_affects id).spans

/-! ## Being in step -/

/-- The client's subscriber follows the server, with the connection's truthful inbox pending. -/
def InStep (id : ConnectionId) (links : List ProxyId) (client : Client Server) (server : Server) :
    Prop :=
  client.transport.isSome → client.poison = none →
    ∀ connection, server.connections.get? id = some connection →
      connection.handles < UInt32.size → server.Truthful connection ∧
        ∃ known, Tracks known links connection.inbox client.subscriber server connection

variable {links : List ProxyId}

theorem InStep.passes (inStep : client.InStep id links server)
    (passes : Passes id server changed) : client.InStep id links changed := by
  intro opened healthy later isLater few
  rcases passes.lasts later isLater with ⟨connection, found, precedes, heard⟩
  rcases inStep opened healthy connection found (Nat.lt_of_le_of_lt precedes.handles few) with
    ⟨truthful, known, tracks⟩
  rcases heard few tracks.subscribed tracks.bounded with ⟨news, heard⟩
  refine ⟨heard.truthful truthful, known, ?_⟩
  rw [heard.inbox]
  exact tracks.hears heard precedes few

theorem InStep.destroyProxy {link : ProxyId} (inStep : client.InStep id links server)
    (own : link ∈ links) : client.InStep id links (server.destroyProxy id link) := by
  intro opened healthy later isLater few
  rcases (serves_lasts id).answer server (.destroyProxy link) later isLater with
    ⟨connection, found, more⟩
  rcases inStep opened healthy connection found (Nat.lt_of_le_of_lt more few) with
    ⟨-, known, tracks⟩
  have passes : Passes id server (server.destroyProxy id link) := by
    apply passes_destroyProxy server id link
    intro present bound _ isPresent isBound
    rw [found] at isPresent
    cases isPresent
    exact (tracks.spare link own).2 bound isBound
  exact inStep.passes passes opened healthy later isLater few

theorem InStep.of_subset {fewer : List ProxyId} (inStep : client.InStep id links server)
    (subset : ∀ link ∈ fewer, link ∈ links) : client.InStep id fewer server := by
  intro opened healthy connection found few
  rcases inStep opened healthy connection found few with ⟨truthful, known, tracks⟩
  exact ⟨truthful, known,
    { tracks with spare := fun link member => tracks.spare link (subset link member) }⟩

/-- Being in step goes from call to call. -/
def Keeps (id : ConnectionId) (links : List ProxyId) (before after : Client Server × Server) :
    Prop :=
  before.1.Connected id → after.1.Connected id ∧
    (before.1.InStep id links before.2 → after.1.InStep id links after.2)

theorem composes_keeps : Call.Composes (Keeps id links) where
  refl _ connected := ⟨connected, fun inStep => inStep⟩
  trans start rest connected := by
    rcases start connected with ⟨between, first⟩
    rcases rest between with ⟨final, second⟩
    exact ⟨final, fun inStep => second (first inStep)⟩

theorem keeps_of_passes (passes : Passes id server changed) :
    Keeps id links (client, server) (client, changed) :=
  fun connected => ⟨connected, fun inStep => inStep.passes passes⟩

theorem keeps_of_same (transport : after.transport = client.transport)
    (poison : after.poison = client.poison) (subscriber : after.subscriber = client.subscriber) :
    Keeps id links (client, server) (after, server) := by
  intro connected
  refine ⟨fun other isOpen => connected other (transport.symm.trans isOpen), fun inStep => ?_⟩
  intro opened healthy connection found few
  rw [transport] at opened
  rw [poison] at healthy
  rw [subscriber]
  exact inStep opened healthy connection found few

/-! ## A batch -/

/-- Delivering an event keeps the subscriber in step; acknowledgements do not even reach it. -/
theorem tracks_deliver {event : Event} {rest : List Event} {known : Table ObjectId ObjectKind}
    {connection : Connection}
    (tracks : Tracks known links (event :: rest) client.subscriber server connection)
    (connected : server.connections.get? id = some connection)
    (delivered : client.deliver (Server.transport id) event server = .ok (after, changed))
    (few : changed.HasHandles id) :
    ∃ known later, changed.connections.get? id = some later ∧ changed.objects = server.objects ∧
      later.inbox = connection.inbox ++ (server.replies [event]).map Event.describing ∧
      Tracks known links (rest ++ (server.replies [event]).map Event.describing)
        after.subscriber changed later := by
  simp only [deliver] at delivered
  split at delivered
  case h_1 number =>
    cases delivered
    rcases tracks.skip (by simp) (by simp) (by simp) with ⟨known, skips⟩
    rw [Server.replies_of_silent (by simp)]
    refine ⟨known, connection, connected, rfl, by simp, ?_⟩
    simpa using skips
  case h_2 =>
    split at delivered
    case h_1 subscriber final handled =>
      cases delivered
      exact tracks.handle connected handled few
    case h_2 => cases delivered

/--
Applying a whole batch keeps the subscriber in step. What has become pending by the end are the
properties of ports that were announced in the batch.
-/
theorem tracks_deliverAll {events : List Event} {known : Table ObjectId ObjectKind}
    {connection : Connection}
    (tracks : Tracks known links (events ++ connection.inbox) client.subscriber server connection)
    (connected : server.connections.get? id = some connection)
    (delivered : deliverAll (Server.transport id) events client server = (none, after, changed))
    (few : changed.HasHandles id) :
    ∃ known later, changed.connections.get? id = some later ∧ changed.objects = server.objects ∧
      later.inbox = connection.inbox ++ (server.replies events).map Event.describing ∧
      Tracks known links later.inbox after.subscriber changed later := by
  induction events generalizing client server known connection with
  | nil =>
      cases delivered
      exact ⟨known, connection, connected, rfl, by simp [replies], tracks⟩
  | cons event rest ih =>
      simp only [deliverAll] at delivered
      split at delivered
      case h_2 => cases delivered
      case h_1 next between first =>
        have framed := framed_deliverAll id rest next between
        rw [delivered] at framed
        have fewBetween : between.HasHandles id := framed.affects.lasts.few framed.remains few
        rw [List.cons_append] at tracks
        rcases tracks_deliver tracks connected first fewBetween with
          ⟨middle, later, isLater, objects, inbox, tracksBetween⟩
        rw [List.append_assoc, ← inbox] at tracksBetween
        rcases ih tracksBetween isLater delivered with
          ⟨final, last, isLast, lastObjects, lastInbox, tracksLast⟩
        refine ⟨final, last, isLast, lastObjects.trans objects, ?_, tracksLast⟩
        rw [lastInbox, inbox, Server.replies_of_objects objects, Server.replies_cons event rest,
          List.map_append, List.append_assoc]

/-! ## Every call -/

theorem tracks_notify {known : Table ObjectId ObjectKind} {pending : List Event}
    {connection : Connection}
    (tracks : Tracks known links pending client.subscriber server connection) :
    Tracks known links pending client.notify.subscriber server connection :=
  ⟨tracks.listening, tracks.filed, tracks.subscribed, tracks.bounded, tracks.spare,
    tracks.announced, tracks.bound, tracks.absent, tracks.present, tracks.shown⟩

/-- On a connection that is there, a turn applies all that its inbox holds. -/
theorem turn_of_connected (opened : client.transport = some (Server.transport id))
    {connection : Connection} (connected : server.connections.get? id = some connection) :
    turn client server = applyBatch (Server.transport id) connection.inbox
      { client with barrier := client.barrier.recordIteration }
      (server.setConnection id { connection with inbox := [] }) := by
  have driven : (Server.transport id).answer (.drive client.config.loopTimeoutMs.toNat) server =
      (.ok connection.inbox, server.setConnection id { connection with inbox := [] }) := by
    simp [Server.transport, answer, drive, connected]
  exact turn_of_batch opened driven

/-- The events of the inbox stay pending until they are handled, also after they are fetched. -/
theorem tracks_fetched {known : Table ObjectId ObjectKind} {connection : Connection}
    (tracks : Tracks known links connection.inbox client.subscriber server connection) :
    Tracks known links
      (connection.inbox ++ ({ connection with inbox := [] } : Connection).inbox)
      client.subscriber (server.setConnection id { connection with inbox := [] })
      { connection with inbox := [] } := by
  rw [List.append_nil]
  have moved : Tracks known links connection.inbox client.subscriber
      (server.setConnection id { connection with inbox := [] }) connection :=
    tracks.of_objects rfl
  exact moved.of_inbox []

theorem keeps_turn : (turn : Call Server Unit).Within Halt.Malformed (Keeps id links) := by
  intro client server permitted connected
  rcases elementary_stays.looping.turn.always client server connected with
    ⟨connectedAfter, affects⟩
  refine ⟨connectedAfter, fun inStep opened healthy later isLater few => ?_⟩
  cases isOpen : client.transport with
  | none =>
      rw [turn_of_closed isOpen] at opened
      simp [isOpen] at opened
  | some transport =>
      rw [connected transport isOpen] at isOpen
      rcases affects.lasts later isLater with ⟨connection, found, more⟩
      rw [turn_of_connected isOpen found] at permitted healthy isLater ⊢
      simp only [applyBatch] at permitted healthy isLater ⊢
      generalize isDriven : ({ client with barrier := client.barrier.recordIteration } :
        Client Server) = turned at permitted healthy isLater ⊢
      have framed : Framed id (turned, server.setConnection id { connection with inbox := [] })
          (deliverAll (Server.transport id) connection.inbox turned
            (server.setConnection id { connection with inbox := [] })).2 :=
        framed_deliverAll id connection.inbox turned _
      rcases delivered : deliverAll (Server.transport id) connection.inbox turned
          (server.setConnection id { connection with inbox := [] }) with
        ⟨_ | malformed, next, final⟩
      · rw [delivered] at framed
        simp only [delivered] at healthy isLater ⊢
        have wasHealthy : client.poison = none := by
          have same : next.poison = turned.poison := framed.poison
          rw [← isDriven] at same
          exact same.symm.trans healthy
        rcases inStep (by simp [isOpen]) wasHealthy connection found
          (Nat.lt_of_le_of_lt more few) with ⟨-, known, tracks⟩
        have sameSubscriber : turned.subscriber = client.subscriber := by rw [← isDriven]
        rw [← sameSubscriber] at tracks
        rcases tracks_deliverAll (tracks_fetched tracks) (by simp [setConnection]) delivered
          (fun other isOther => by
            rw [isLater] at isOther
            cases isOther
            exact few) with ⟨known, last, isLast, objects, inbox, tracksLast⟩
        rw [isLater] at isLast
        cases isLast
        refine ⟨?_, known, tracks_notify tracksLast⟩
        rw [List.nil_append, ← Server.replies_of_objects objects] at inbox
        exact tracksLast.truthful_of_replies inbox
      · rw [delivered] at permitted
        exact absurd ⟨malformed.port, malformed.value, rfl⟩ (permitted _ rfl)

/-- A call that is over is right about the client also if a malformed event has poisoned it. -/
theorem keeps_poisoning {call : Call Server Unit} (stays : call.Within Halt.Never (Stays id))
    (keeps : call.Within Halt.Malformed (Keeps id links)) :
    call.poisoning.Within Halt.Never (Keeps id links) := by
  intro client server _ connected
  have staysHere := stays.always client server connected
  by_cases malformed :
      ∃ port nodeId, (call client server).1 = .error (.failed (.malformedEvent port nodeId))
  · rcases malformed with ⟨port, nodeId, failed⟩
    have ran : call client server =
        (.error (.failed (.malformedEvent port nodeId)), (call client server).2) := by
      rw [← failed]
    rw [Call.poisoning_of_malformed ran]
    refine ⟨staysHere.1, fun _ _ healthy => ?_⟩
    cases healthy
  · have sound : ∀ reason, (call client server).1 = .error reason → ¬reason.Malformed := by
      rintro reason failed ⟨port, nodeId, rfl⟩
      exact malformed ⟨port, nodeId, failed⟩
    rw [Call.poisoning_of_sound sound]
    exact keeps client server sound connected

theorem keeps_awaitSync :
    (awaitSync : Call Server Unit).Within Halt.Malformed (Keeps id links) := by
  apply (Call.waits_within composes_keeps (fun _ _ _ => keeps_of_same rfl rfl rfl) ?_
    keeps_turn).awaitSync
  intro client server transport sequence opened connected
  rw [connected transport opened]
  exact keeps_of_passes (passes_sync server id sequence) connected

theorem keeps_synchronize : (synchronize : Call Server Unit).Within Halt.Never (Keeps id links) :=
  .still_bind composes_keeps Call.steady_check.still fun _ =>
    keeps_poisoning elementary_stays.looping.awaitSync keeps_awaitSync

/-- What a connection does for the nodes that it offers it hears of like everybody else. -/
theorem passes_answer_of_isPlain (server : Server) (other : ConnectionId) {request : Request}
    (plain : request.isPlain) : Passes id server (answer other request server).2 := by
  cases request with
  | createNode props => exact (carries_passes id).createNode server other props
  | addPort node direction props =>
      exact (carries_passes id).addPort server other node direction props
  | updatePort node port props => exact (carries_passes id).updatePort server other node port props
  | removePort node port => exact (carries_passes id).removePort server other node port
  | activateNode node => exact (carries_passes id).activateNode server other node
  | destroyNode node => exact (carries_passes id).destroyNode server other node
  | _ => simp [Request.isPlain] at plain

/-! ## Links -/

/-- The handle of a new link is one that the client has not used for anything else. -/
theorem InStep.createByFactory (inStep : client.InStep id links server) {factory : String}
    {kind : ObjectKind} {props : Properties} {link : ProxyId}
    (created : server.createByFactory id factory kind props = (some link, changed)) :
    client.InStep id (link :: links) changed := by
  have passes : Passes id server changed := by
    have asked : Passes id server (server.createByFactory id factory kind props).2 :=
      passes_createByFactory server id factory kind props
    rw [created] at asked
    exact asked
  intro opened healthy later isLater few
  rcases inStep.passes passes opened healthy later isLater few with ⟨truthful, known, tracks⟩
  refine ⟨truthful, known, { tracks with spare := fun other member => ?_ }⟩
  rcases List.mem_cons.1 member with rfl | old
  · simp only [Server.createByFactory] at created
    split at created
    · exact spare_of_createLink created isLater few
    · cases created
  · exact tracks.spare other old

theorem keeps_dropProxy {link : ProxyId} (own : link ∈ links) :
    (dropProxy link : Call Server Unit).Within Halt.Never (Keeps id links) := by
  intro client server _ connected
  simp only [dropProxy]
  split
  case h_1 transport opened =>
    rw [connected transport opened]
    exact ⟨connected, fun inStep => inStep.destroyProxy own⟩
  case h_2 => exact ⟨connected, fun inStep => inStep⟩

/-- The call keeps a client in step, also with the link told apart that it may return. -/
def Yields (id : ConnectionId) (links : List ProxyId) (call : Call Server Link) : Prop :=
  ∀ client server result after changed, client.Connected id → client.InStep id links server →
    call client server = (result, after, changed) →
      after.InStep id links changed ∧
        ∀ link, result = .ok link → after.InStep id (link.proxy :: links) changed

/-- If the barrier fails the link is taken back, with the handle that it was created with. -/
theorem yields_createLink (output input : ObjectId) :
    Yields id links (Client.createLink output input) := by
  intro client server result after changed connected inStep ran
  rcases createLink_cases output input client server with
    ⟨reason, failed⟩ | ⟨transport, opened, rest⟩
  · cases failed.symm.trans ran
    exact ⟨inStep, by simp⟩
  · rw [connected transport opened] at rest
    have asked : Passes id server
        (server.createByFactory id linkFactory .link (Link.properties output input)).2 :=
      passes_createByFactory server id linkFactory .link (Link.properties output input)
    rcases answered : server.createByFactory id linkFactory .link (Link.properties output input)
      with ⟨_ | proxy, between⟩
    · rw [answered] at asked
      simp only [Server.transport, answer, answered] at rest
      cases rest.symm.trans ran
      exact ⟨inStep.passes asked, by simp⟩
    · simp only [Server.transport, answer, answered] at rest
      have waiting : (synchronize.onHalt fun _ => dropProxy proxy : Call Server Unit).Within
          Halt.Never (Keeps id (proxy :: links)) :=
        .onHalt composes_keeps keeps_synchronize fun _ => keeps_dropProxy List.mem_cons_self
      have kept := waiting.always client between connected
      have ends := rest.symm.trans ran
      rcases waited : (synchronize.onHalt fun _ => dropProxy proxy : Call Server Unit) client
          between with ⟨reason | value, next, final⟩
      · rw [Call.bind_of_error _ waited] at ends
        rw [waited] at kept
        cases ends
        have told := kept.2 (inStep.createByFactory answered)
        exact ⟨told.of_subset fun _ => List.mem_cons_of_mem _, by simp⟩
      · rw [Call.bind_of_ok _ waited] at ends
        rw [waited] at kept
        cases ends
        have told := kept.2 (inStep.createByFactory answered)
        refine ⟨told.of_subset fun _ => List.mem_cons_of_mem _, ?_⟩
        intro link isLink
        cases isLink
        exact told

theorem yields_linkByName (output input : String) :
    Yields id links (Client.linkByName output input) := by
  intro client server result after changed connected inStep ran
  rcases linkByName_cases output input client server with ⟨reason, failed⟩ | ⟨source, target, found⟩
  · cases failed.symm.trans ran
    exact ⟨inStep, by simp⟩
  · exact yields_createLink source target client server result after changed connected inStep
      (found.symm.trans ran)

/-! ## Every invocation -/

theorem respected_keeps : Call.Respected (Keeps id links) where
  toComposes := composes_keeps
  asking client server transport request opened plain connected := by
    rw [connected transport opened]
    exact keeps_of_passes (passes_answer_of_isPlain server id plain) connected
  bookkeeping _ _ _ := keeps_of_same rfl rfl rfl
  pump := .still_bind composes_keeps Call.steady_check.still fun _ =>
    keeps_poisoning elementary_stays.looping.turn keeps_turn
  synchronize := keeps_synchronize
  createLink output input client server _ connected := by
    have stays := (elementary_stays.respected.createLink output input).always client server
      connected
    exact ⟨stays.1, fun inStep =>
      (yields_createLink output input client server _ _ _ connected inStep rfl).1⟩
  observe _ _ _ := keeps_of_same rfl rfl rfl
  close client server connected := by
    refine ⟨(elementary_stays.close client server connected).1, fun inStep => ?_⟩
    simp only [Client.close]
    split
    case h_1 => exact inStep
    case h_2 =>
      intro opened
      cases opened

/-- A call keeps a client in step, if it takes back no link but the client's own. -/
theorem keeps_invocation {invocation : Invocation}
    (own : ∀ link, invocation = .destroyLink link → link.proxy ∈ links) :
    (invocation.call : Call Server (Option Link)).Within Halt.Never (Keeps id links) :=
  respected_keeps.invocation invocation fun link isLink => keeps_dropProxy (own link isLink)

/-- The link that a call returns is from then on one of those that the client has to itself. -/
theorem inStep_of_link {invocation : Invocation} {link : Link} (connected : client.Connected id)
    (inStep : client.InStep id links server)
    (returned : invocation.call client server = (.ok (some link), after, changed)) :
    after.InStep id (link.proxy :: links) changed := by
  cases invocation with
  | createLink output input =>
      exact (yields_createLink output input client server _ after changed connected inStep
        (Call.of_withLink returned)).2 link rfl
  | linkByName output input =>
      exact (yields_linkByName output input client server _ after changed connected inStep
        (Call.of_withLink returned)).2 link rfl
  | close => cases returned
  | _ => exact absurd returned Call.withoutLink_ne_some

end Client

end MediaGraph
