import MediaGraph.Client.Lifecycle
import MediaGraph.Proofs.Client.InStep

/-!
# Opening a client of the server

A client that has been opened is in step: with the subscription it is told every object that there
is, and nothing that it knew before gets in the way. Whether it could be opened or not, the
connections that were there already only hear of it.
-/

namespace MediaGraph

namespace Client

open Server

variable {id : ConnectionId} {client : Client Server} {server changed : Server}

/-- A client that has just subscribed, with nothing known yet. -/
def subscribed (client : Client Server) : Client Server :=
  { client with subscriber := { phase := .listening } }

theorem connected_subscribed (opened : client.transport = some (Server.transport id)) :
    client.subscribed.Connected id :=
  fun _ isOpen => Option.some.inj (isOpen.symm.trans opened)

theorem subscribe_of_fresh {connection : Connection}
    (opened : client.transport = some (Server.transport id)) (fresh : client.subscriber = {})
    (connected : server.connections.get? id = some connection) :
    subscribe client server = (.ok (), client.subscribed, (server.subscribeGlobals id).2) := by
  simp [subscribed, subscribe, Call.transport, bind, Call.bind, opened, Subscriber.start, fresh,
    Server.transport, answer, subscribeGlobals, connected]

/-- To start with, a subscriber has nothing filed, and everything that there is is pending. -/
theorem inStep_subscribed {connection : Connection}
    (connected : server.connections.get? id = some connection)
    (unbound : connection.proxies = .empty) (silent : connection.inbox = []) :
    client.subscribed.InStep id [] (server.subscribeGlobals id).2 := by
  intro _ _ later isLater _
  simp only [subscribeGlobals, connected, setConnection, Table.get?_insert, if_true,
    Option.some.injEq] at isLater
  have told : later.inbox =
      server.kinds.entries.map fun entry => Event.global entry.1 entry.2 := by
    rw [← isLater]
    simp [Connection.send, silent, kinds, Table.mapValues, Function.comp_def]
  refine ⟨?_, .empty, ?_⟩
  · intro object _ record _ _ expected
    rcases Event.expectAll_cases expected with ⟨-, props, last, -⟩ | ⟨impossible, -⟩
    · rw [told] at last
      rcases List.mem_map.1 (Event.mem_of_lastInfo? last) with ⟨entry, -, same⟩
      cases same
    · cases impossible
  refine ⟨rfl, Graph.WellFiled.empty, ?_, ?_, by simp, ?_, ?_, ?_, ?_, ?_⟩
  · rw [← isLater]
    rfl
  · intro proxy bound found
    rw [← isLater] at found
    simp [Connection.send, unbound] at found
  · rw [told, Event.announceAll?_entries]
    simp [subscribeGlobals, connected, setConnection, kinds]
  · intro object proxy listened
    cases listened
  · intro object _
    exact ⟨rfl, Graph.find?_empty object⟩
  · intro object isPort
    cases isPort
  · intro object isPort
    cases isPort

/-- To start a new client is to subscribe, which cannot fail, and then to wait twice. -/
theorem start_of_fresh {connection : Connection}
    (opened : client.transport = some (Server.transport id)) (fresh : client.subscriber = {})
    (connected : server.connections.get? id = some connection) :
    start client server = (do synchronize; synchronize : Call Server Unit) client.subscribed
      (server.subscribeGlobals id).2 := by
  rw [start, Call.bind_of_ok _ (subscribe_of_fresh opened fresh connected)]

theorem related_start {Related : Server → Server → Prop} (spans : Spans id Related)
    {connection : Connection} (opened : client.transport = some (Server.transport id))
    (fresh : client.subscriber = {}) (connected : server.connections.get? id = some connection) :
    (start client server).2.1.Connected id ∧ Related server (start client server).2.2 := by
  rw [start_of_fresh opened fresh connected]
  have elementary := elementary_spans spans
  have waits := Call.Within.bind elementary.toComposes elementary.looping.synchronize fun _ =>
    elementary.looping.synchronize
  have waited := waits.always client.subscribed (server.subscribeGlobals id).2
    (connected_subscribed opened)
  exact ⟨waited.1, spans.trans (spans.answer server .subscribeGlobals) waited.2⟩

/-- Starting a client on a new connection brings it in step, whether it is told so or not. -/
theorem inStep_start {connection : Connection}
    (opened : client.transport = some (Server.transport id)) (fresh : client.subscriber = {})
    (connected : server.connections.get? id = some connection)
    (unbound : connection.proxies = .empty) (silent : connection.inbox = []) :
    (start client server).2.1.InStep id [] (start client server).2.2 := by
  rw [start_of_fresh opened fresh connected]
  have keeps : (do synchronize; synchronize : Call Server Unit).Within Halt.Never (Keeps id []) :=
    .bind composes_keeps keeps_synchronize fun _ => keeps_synchronize
  have kept := keeps.always client.subscribed (server.subscribeGlobals id).2
    (connected_subscribed opened)
  exact kept.2 (inStep_subscribed connected unbound silent)

/-! ## The whole of opening -/

variable {config : Config} {observers : List Observer}

/-- The server once it has taken on a connection for a new client. -/
def accepting (config : Config) (server : Server) : Server :=
  { server.setConnection (server.lastConnection + 1) { name := config.clientName } with
    lastConnection := server.lastConnection + 1 }

theorem passes_accepting {other : ConnectionId} (apart : other ≠ server.lastConnection + 1)
    (config : Config) : Passes other server (accepting config server) :=
  passes_of_same rfl (Nat.le_succ _) (by simp [accepting, setConnection, apart])

/-- A client that has been given a connection of the server and knows nothing yet. -/
def newcomer (config : Config) (observers : List Observer) (server : Server) : Client Server where
  config := config
  backend := Server.backend.name
  transport := some (Server.transport (server.lastConnection + 1))
  observers := observers

def refusedConnection : TransportError := .connectFailed "server refused connection"

theorem connect_of_refused (refuses : server.policy.refuseConnections) :
    Client.connect Server.backend config observers server =
      (.error { reason := .failed (.initFailed refusedConnection.message) }, server) := by
  simp only [Client.connect, Server.backend, Server.connect, refuses, if_true]
  rfl

theorem connect_of_accepted (accepts : server.policy.refuseConnections = false) :
    Client.connect Server.backend config observers server =
      match start (newcomer config observers server) (accepting config server) with
      | (.ok (), ready, final) => (.ok ready, final)
      | (.error reason, ready, final) =>
        (.error { reason := openingFailure reason, notices := (ready.close final).1.notices },
          (ready.close final).2) := by
  rcases started : start (newcomer config observers server) (accepting config server) with
    ⟨reason | ⟨⟩, ready, final⟩
  all_goals
    simp only [newcomer, accepting, Server.backend] at started
    simp only [Client.connect, Server.backend, Server.connect, accepts, Bool.false_eq_true,
      if_false, started]

theorem get?_accepting (config : Config) (server : Server) :
    (accepting config server).connections.get? (server.lastConnection + 1) =
      some { name := config.clientName } := by
  simp [accepting, setConnection]

/-- What holds when a connection is taken on, and across all its requests, holds across opening. -/
theorem related_connect {Related : Server → Server → Prop}
    (spans : Spans (server.lastConnection + 1) Related)
    (accepted : server.policy.refuseConnections = false →
      Related server (accepting config server)) :
    Related server (Client.connect Server.backend config observers server).2 ∧
      ∀ client, (Client.connect Server.backend config observers server).1 = .ok client →
        client.Connected (server.lastConnection + 1) := by
  cases refuses : server.policy.refuseConnections with
  | true =>
      rw [connect_of_refused refuses]
      refine ⟨spans.refl server, fun client isReady => ?_⟩
      cases isReady
  | false =>
      rw [connect_of_accepted refuses]
      have opened : (newcomer config observers server).transport =
          some (Server.transport (server.lastConnection + 1)) := rfl
      rcases related_start spans opened rfl (get?_accepting config server) with
        ⟨connected, related⟩
      generalize start (newcomer config observers server) (accepting config server) = started
        at connected related ⊢
      rcases started with ⟨reason | ⟨⟩, ready, final⟩
      · have closes := ((elementary_spans spans).close ready final connected).2
        refine ⟨?_, ?_⟩
        · exact spans.trans (accepted refuses) (spans.trans related closes)
        · intro client isReady
          cases isReady
      · refine ⟨spans.trans (accepted refuses) related, fun client isReady => ?_⟩
        cases isReady
        exact connected

/--
Opening a client goes by all other connections, and a client that has been opened is in step on a
connection of its own.
-/
theorem connect_spec {result : Except Refusal (Client Server)}
    (ran : Client.connect Server.backend config observers server = (result, changed)) :
    (∀ other, other ≠ server.lastConnection + 1 → Passes other server changed) ∧
      ∀ client, result = .ok client → server.lastConnection + 1 ≤ changed.lastConnection ∧
        client.Connected (server.lastConnection + 1) ∧
        client.InStep (server.lastConnection + 1) [] changed := by
  refine ⟨fun other apart => ?_, fun client isReady => ?_⟩
  · have related : Passes other server
        (Client.connect Server.backend config observers server).2 ∧ _ :=
      related_connect (serves_passes apart).spans fun _ => passes_accepting apart config
    rw [ran] at related
    exact related.1
  · subst isReady
    cases refuses : server.policy.refuseConnections with
    | true =>
        rw [connect_of_refused refuses] at ran
        cases ran
    | false =>
        rw [connect_of_accepted refuses] at ran
        have opened : (newcomer config observers server).transport =
            some (Server.transport (server.lastConnection + 1)) := rfl
        have fresh := get?_accepting config server
        have started := related_start (serves_affects _).spans opened rfl fresh
        have inStep := inStep_start opened rfl fresh rfl rfl
        generalize start (newcomer config observers server) (accepting config server) = result
          at ran started inStep
        rcases result with ⟨reason | ⟨⟩, ready, final⟩
        · cases ran
        · cases ran
          exact ⟨started.2.last, started.1, inStep⟩

end Client

end MediaGraph
