import MediaGraph.Proofs.Client.Readiness
import MediaGraph.Proofs.Network

/-!
# The sessions of a network

Whatever the other clients of a network do comes down to requests on their own connections. So if
endpoints are used on the client that they come from, every client of the network is in a session
(`Network.Attended.session`), and what holds throughout all sessions holds of all clients at any
time: each agrees with the server on its nodes and on the endpoints in hand
(`Network.Attended.agrees`).
-/

namespace MediaGraph

namespace Server

/-- What has happened besides the requests of a connection. -/
def Aside (id : ConnectionId) (before after : Server) : Prop :=
  ∃ steps : List Step, (∀ step ∈ steps, ∀ request, step ≠ .ask id request) ∧
    after = before.run steps

variable {id other : ConnectionId} {before middle after : Server}

theorem Aside.refl (id : ConnectionId) (server : Server) : Aside id server server :=
  ⟨[], by simp, rfl⟩

theorem Aside.trans (start : Aside id before middle) (rest : Aside id middle after) :
    Aside id before after := by
  rcases start with ⟨first, early, rfl⟩
  rcases rest with ⟨second, late, rfl⟩
  refine ⟨first ++ second, fun step member => ?_, (run_append before first second).symm⟩
  rcases List.mem_append.1 member with isEarly | isLate
  · exact early step isEarly
  · exact late step isLate

theorem aside_perform (server : Server) {step : Step}
    (foreign : ∀ request, step ≠ .ask id request) : Aside id server (server.perform step) :=
  ⟨[step], by simpa using foreign, rfl⟩

theorem spans_aside (apart : other ≠ id) : Spans other (Aside id) where
  refl := .refl id
  trans := .trans
  answer server request := by
    have foreign : ∀ asked, Step.ask other request ≠ .ask id asked := by
      intro asked same
      cases same
      exact apart rfl
    exact aside_perform server foreign

theorem aside_accepting {server : Server} (config : Config)
    (accepts : server.policy.refuseConnections = false) :
    Aside id server (Client.accepting config server) := by
  have accepted : Client.accepting config server = server.perform (.connect config) := by
    simp [perform, Server.connect, accepts, Client.accepting]
  rw [accepted]
  exact aside_perform server (by simp)

end Server

variable {id : ConnectionId} {Permits : List Endpoint → Invocation → Prop}
  {client : Client Server} {server changed : Server} {held : List Endpoint}

theorem Session.aside (session : Session id Permits client server held)
    (aside : Server.Aside id server changed) : Session id Permits client changed held := by
  rcases aside with ⟨steps, foreign, rfl⟩
  exact session.meanwhile_run foreign

/-! ## The endpoints in hand -/

/-- A call is given endpoints that are in the hands of the client's holder. -/
def Action.KeepsTo (hands : ConnectionId → List Endpoint) : Action → Prop
  | .call id invocation => invocation.KeepsTo (hands id)
  | _ => True

namespace Network

/-- The endpoints in the hands of the holders of all clients after a step. -/
def handsAfter (network : Network) (hands : ConnectionId → List Endpoint) :
    Action → ConnectionId → List Endpoint
  | .connect _ => Function.update hands (network.server.lastConnection + 1) []
  | .call id invocation =>
    match network.clients.get? id with
    | none => hands
    | some client =>
      Function.update hands id (invocation.hands (hands id) client network.server)
  | _ => hands

/-- The networks whose endpoints are used on the clients they come from, and what is in hand. -/
inductive Attended : Network → (ConnectionId → List Endpoint) → Prop where
  | initial : Attended {} fun _ => []
  | perform {network : Network} {hands : ConnectionId → List Endpoint} {action : Action} :
      Attended network hands → network.Permits action → action.KeepsTo hands →
      Attended (network.perform action) (network.handsAfter hands action)

variable {network later : Network} {hands laterHands : ConnectionId → List Endpoint}

theorem Attended.reachable (attended : network.Attended hands) : network.Reachable := by
  induction attended with
  | initial => exact .initial
  | perform _ permits _ ih => exact ih.perform permits

/-! ## Every client is in a session -/

/-- The server has come to be by steps of its own, and every client is in a session on it. -/
structure InSession (network : Network) (hands : ConnectionId → List Endpoint) : Prop where
  ran : ∃ steps, network.server = Server.run {} steps
  session : ∀ id client, network.clients.get? id = some client →
    Session id Invocation.KeepsTo client network.server (hands id)

namespace InSession

theorem initial : InSession {} hands where
  ran := ⟨[], rfl⟩
  session _ _ found := by cases found

/-- One client may come in or change while the others are aside. -/
theorem of_aside (inSession : network.InSession hands)
    (aside : ∀ other, other ≠ id → Server.Aside other network.server later.server)
    (others : ∀ other, other ≠ id → later.clients.get? other = network.clients.get? other)
    (untouched : ∀ other, other ≠ id → laterHands other = hands other)
    (own : ∀ client, later.clients.get? id = some client →
      Session id Invocation.KeepsTo client later.server (laterHands id)) :
    later.InSession laterHands where
  ran := by
    rcases inSession.ran with ⟨steps, server⟩
    rcases aside (id + 1) (Nat.succ_ne_self id) with ⟨more, -, same⟩
    exact ⟨steps ++ more, by rw [same, server, Server.run_append]⟩
  session other client found := by
    by_cases same : other = id
    · subst same
      exact own client found
    · rw [others other same] at found
      rw [untouched other same]
      exact (inSession.session other client found).aside (aside other same)

/-- What no client does leaves every client in its session. -/
theorem of_step (inSession : network.InSession hands) (sound : network.Sound) (step : Server.Step)
    (foreign : ∀ id request, step ≠ .ask id request) :
    ({ network with server := network.server.perform step } : Network).InSession hands := by
  apply inSession.of_aside fun other _ => Server.aside_perform network.server (foreign other)
  · exact fun _ _ => rfl
  · exact fun _ _ => rfl
  · exact fun client found => absurd rfl (sound.apart found)

/-- The session of a new client begins, with nothing in hand. -/
theorem connect (inSession : network.InSession hands) (sound : network.Sound) (setup : Setup) :
    (network.perform (.connect setup)).InSession (network.handsAfter hands (.connect setup)) := by
  rcases inSession.ran with ⟨steps, server⟩
  have aside : ∀ other, other ≠ network.server.lastConnection + 1 →
      Server.Aside other network.server
        (Client.connect Server.backend setup.config setup.observers network.server).2 := by
    intro other apart
    have spans := Server.spans_aside (Ne.symm apart)
    exact (Client.related_connect spans (Server.aside_accepting setup.config)).1
  have untouched : ∀ other, other ≠ network.server.lastConnection + 1 →
      network.handsAfter hands (.connect setup) other = hands other := by
    intro other apart
    simp [handsAfter, apart]
  simp only [Network.perform, Setup.connect]
  split
  case h_1 refusal changed ran =>
    rw [ran] at aside
    exact inSession.of_aside aside (fun _ _ => rfl) untouched fun _ found =>
      absurd rfl (sound.apart found)
  case h_2 client changed ran =>
    rw [ran] at aside
    apply inSession.of_aside aside _ untouched
    · intro present found
      simp only [Table.get?_insert, if_true, Option.some.injEq] at found
      subst found
      simp only [handsAfter, Function.update_self]
      rw [server] at ran ⊢
      exact .opened rfl ran
    · intro other apart
      simp [apart]

theorem call (inSession : network.InSession hands) (sound : network.Sound) {id : ConnectionId}
    {invocation : Invocation} (keepsTo : invocation.KeepsTo (hands id)) :
    (network.perform (.call id invocation)).InSession
      (network.handsAfter hands (.call id invocation)) := by
  cases found : network.clients.get? id with
  | none =>
      simp only [Network.perform, handsAfter, found]
      exact inSession
  | some client =>
      have connected := sound.connected id client found
      have aside : ∀ other, other ≠ id → Server.Aside other network.server
          (invocation.call client network.server).2.2 := by
        intro other apart
        have elementary := Client.elementary_spans (Server.spans_aside (Ne.symm apart))
        exact ((elementary.invocation invocation).always client network.server connected).2
      have inHand : network.handsAfter hands (.call id invocation) =
          Function.update hands id (invocation.hands (hands id) client network.server) := by
        simp only [handsAfter, found]
      rcases perform_call found with ⟨server, clients, -⟩
      rw [← server] at aside
      rw [inHand]
      apply inSession.of_aside aside
      · intro other apart
        rw [clients, Table.get?_insert, if_neg apart]
      · exact fun other apart => Function.update_of_ne apart _ hands
      · intro present isPresent
        rw [clients, Table.get?_insert, if_pos rfl, Option.some.injEq] at isPresent
        subst isPresent
        rw [server, Function.update_self]
        exact (inSession.session id client found).call invocation keepsTo

theorem perform (inSession : network.InSession hands) (sound : network.Sound) {action : Action}
    (keepsTo : action.KeepsTo hands) :
    (network.perform action).InSession (network.handsAfter hands action) := by
  cases action with
  | setUp => exact inSession.of_step sound .setUp (by simp)
  | takeDown => exact inSession.of_step sound .takeDown (by simp)
  | inject injection => exact inSession.of_step sound (.inject injection) (by simp)
  | connect setup => exact inSession.connect sound setup
  | call id invocation => exact inSession.call sound keepsTo

end InSession

/-- Every client is in a session on its own connection, with the endpoints in its holder's hands. -/
theorem Attended.session (attended : network.Attended hands)
    (found : network.clients.get? id = some client) :
    Session id Invocation.KeepsTo client network.server (hands id) := by
  suffices inSession : network.InSession hands from inSession.session id client found
  clear found
  induction attended with
  | initial => exact .initial
  | perform attended _ keepsTo ih => exact ih.perform attended.reachable.sound keepsTo

end Network

/-! ## What holds of all clients -/

/-- A client, its connection and the endpoints in its holder's hands agree on the nodes. -/
structure Client.AgreesOnNodes (id : ConnectionId) (client : Client Server) (server : Server)
    (held : List Endpoint) : Prop where
  once : client.localNodes.Nodup
  nodes : ∀ token, token ∈ client.localNodes ↔ (server.node? id token).isSome
  apart : (held.map Endpoint.token).Nodup
  pictured : ∀ endpoint ∈ held, ∃ node, server.node? id endpoint.token = some node ∧
    endpoint.Pictures node
  accounted : ∀ endpoint ∈ held, Client.endpointReady endpoint client server →
    ∃ node, client.Accounts id server endpoint node

/--
At any time, whatever the other clients of the network have called in between and whatever has been
done to the server, every client that is open and still connected agrees with the server on its
nodes and on the endpoints in hand; of a ready endpoint its graph lacks no more ports than it has
other records to make up for.
-/
theorem Network.Attended.agrees {network : Network} {hands : ConnectionId → List Endpoint}
    (attended : network.Attended hands) (found : network.clients.get? id = some client)
    (isOpen : client.isOpen) (connected : (network.server.connections.get? id).isSome)
    (few : network.server.HasHandles id) :
    client.AgreesOnNodes id network.server (hands id) := by
  have session := attended.session found
  rcases Option.isSome_iff_exists.1 connected with ⟨connection, isConnected⟩
  have fewer := few connection isConnected
  rcases session.covers isOpen isConnected fewer with ⟨links, covers⟩
  refine ⟨covers.once, fun token => ?_, (session.tended connection isConnected fewer).apart,
    fun endpoint member => session.pictured isConnected fewer member,
    fun endpoint member ready => session.accounts_of_ready member few ready⟩
  rw [Server.node?, isConnected, Option.bind_some]
  exact covers.nodes token

end MediaGraph
