import MediaGraph.Proofs.Client.Opening
import MediaGraph.Proofs.Server.Departure

/-!
# One client among others

A `Session` follows one client of a server from its opening on. Between its calls anything can
happen on the server, as long as it is not a request on the client's own connection: so a session
takes in what other clients do, and what is done to the server from the outside.

A session keeps account of the endpoints in the hands of the client's holder. A call that works on
an endpoint hands it back changed, if it succeeds; a call that fails leaves it as it was.
-/

namespace MediaGraph

/-- Puts an endpoint in the place of the one that has its token. -/
def Endpoint.replaceIn (endpoint : Endpoint) (held : List Endpoint) : List Endpoint :=
  held.map fun other => if other.token = endpoint.token then endpoint else other

namespace Invocation

/-- The endpoint that a call is given. -/
def endpoint? : Invocation → Option Endpoint
  | addPort endpoint .. | renamePort endpoint .. | removePort endpoint _ | activate endpoint
  | waitForEndpoint endpoint | closeEndpoint endpoint => some endpoint
  | _ => none

/-- A call is given endpoints that are in hand, in the state that they have come to. -/
def KeepsTo (held : List Endpoint) (invocation : Invocation) : Prop :=
  ∀ endpoint, invocation.endpoint? = some endpoint → endpoint ∈ held

instance (held : List Endpoint) (invocation : Invocation) : Decidable (invocation.KeepsTo held) :=
  decidable_of_iff (∀ endpoint ∈ invocation.endpoint?.toList, endpoint ∈ held) (by simp [KeepsTo])

/-- The endpoints in the hands of a client's holder after a call. -/
def hands {σ : Type} (held : List Endpoint) (client : Client σ) (world : σ) :
    Invocation → List Endpoint
  | createEndpoint name =>
    match (Client.createEndpoint name client world).1 with
    | .ok endpoint => held ++ [endpoint]
    | .error _ => held
  | publish name inputs outputs =>
    match (Client.publish name inputs outputs client world).1 with
    | .ok (_, endpoint) => held ++ [endpoint]
    | .error _ => held
  | addPort endpoint name direction =>
    match (Client.addPort endpoint name direction client world).1 with
    | .ok (_, later) => later.replaceIn held
    | .error _ => held
  | renamePort endpoint token name =>
    match (Client.renamePort endpoint token name client world).1 with
    | .ok later => later.replaceIn held
    | .error _ => held
  | removePort endpoint token =>
    match (Client.removePort endpoint token client world).1 with
    | .ok later => later.replaceIn held
    | .error _ => held
  | activate endpoint =>
    match (Client.activate endpoint client world).1 with
    | .ok later => later.replaceIn held
    | .error _ => held
  | closeEndpoint endpoint => held.filter (·.token ≠ endpoint.token)
  | _ => held

end Invocation

/-- The states of a client on its connection, of its server, and of the endpoints in hand. -/
inductive Session (id : ConnectionId) (Permits : List Endpoint → Invocation → Prop) :
    Client Server → Server → List Endpoint → Prop where
  | opened {steps : List Server.Step} {config : Config} {observers : List Observer}
      {client : Client Server} {server : Server} :
      id = (Server.run {} steps).lastConnection + 1 →
      Client.connect Server.backend config observers (Server.run {} steps) = (.ok client, server) →
      Session id Permits client server []
  | meanwhile {client : Client Server} {server : Server} {held : List Endpoint}
      (step : Server.Step) :
      Session id Permits client server held → (∀ request, step ≠ .ask id request) →
      Session id Permits client (server.perform step) held
  | call {client : Client Server} {server : Server} {held : List Endpoint}
      (invocation : Invocation) :
      Session id Permits client server held → Permits held invocation →
      Session id Permits (invocation.call client server).2.1 (invocation.call client server).2.2
        (invocation.hands held client server)

namespace Session

variable {id : ConnectionId} {Permits : List Endpoint → Invocation → Prop}
  {client : Client Server} {server : Server} {held : List Endpoint}

/-- The client is on its own connection, which has been given a number. -/
theorem connected (session : Session id Permits client server held) :
    client.Connected id ∧ id ≤ server.lastConnection := by
  induction session with
  | opened isNext ran =>
      rcases (Client.connect_spec ran).2 _ rfl with ⟨issued, connected, -⟩
      exact ⟨isNext ▸ connected, isNext ▸ issued⟩
  | meanwhile step _ _ ih =>
      exact ⟨ih.1, Nat.le_trans ih.2 (Server.lastConnection_le_perform _ step)⟩
  | @call client server _ invocation _ _ ih =>
      have stays := (Client.elementary_stays.invocation invocation).always client server ih.1
      exact ⟨stays.1, Nat.le_trans ih.2 stays.2.last⟩

/-- The session goes on through any number of steps that are none of the client's requests. -/
theorem meanwhile_run (session : Session id Permits client server held)
    {steps : List Server.Step} (foreign : ∀ step ∈ steps, ∀ request, step ≠ .ask id request) :
    Session id Permits client (Server.run server steps) held := by
  induction steps generalizing server with
  | nil => exact session
  | cons step rest ih =>
      rcases List.forall_mem_cons.1 foreign with ⟨first, others⟩
      exact ih (session.meanwhile step first) others

end Session

end MediaGraph
