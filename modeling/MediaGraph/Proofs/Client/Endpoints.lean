import MediaGraph.Proofs.Client.Custody
import MediaGraph.Proofs.Client.Tending

/-!
# Endpoints agree with the server

The calls on an endpoint change it and its node alike, and nobody else changes either. So throughout
a session every endpoint in hand pictures its node, whatever else has been called in between and
whichever calls have failed (`Client.endpoints_agree`).

It takes that endpoints are used on the client that they come from, one after the other: two
endpoints in hand have different nodes, since a new node has a token that none of them has.
-/

namespace MediaGraph

/-! ## The endpoints in hand -/

/-- For each endpoint in hand there is a node of its own, which the endpoint pictures. -/
structure Connection.Tended (held : List Endpoint) (connection : Connection) : Prop where
  apart : (held.map Endpoint.token).Nodup
  pictured : ∀ endpoint ∈ held, ∃ node, connection.offers.get? endpoint.token = some node ∧
    endpoint.Pictures node

namespace Connection.Tended

variable {held : List Endpoint} {connection later : Connection} {endpoint : Endpoint}
  {token : NodeToken}

theorem of_spared (tended : connection.Tended held)
    (unused : ∀ endpoint ∈ held, endpoint.token ≠ token)
    (spared : ∀ other, other ≠ token → later.offers.get? other = connection.offers.get? other) :
    later.Tended held where
  apart := tended.apart
  pictured endpoint member := by
    rw [spared endpoint.token (unused endpoint member)]
    exact tended.pictured endpoint member

theorem append (tended : connection.Tended held)
    (unused : ∀ other ∈ held, other.token ≠ endpoint.token)
    (shown : ∃ node, connection.offers.get? endpoint.token = some node ∧ endpoint.Pictures node) :
    connection.Tended (held ++ [endpoint]) where
  apart := by
    rw [List.map_append, List.nodup_append]
    refine ⟨tended.apart, List.nodup_singleton _, ?_⟩
    rintro token former last isLast rfl
    rcases List.mem_map.1 former with ⟨other, member, same⟩
    exact unused other member (same.trans (List.mem_singleton.1 isLast))
  pictured other member := by
    rcases List.mem_append.1 member with former | last
    · exact tended.pictured other former
    · rw [List.mem_singleton.1 last]
      exact shown

theorem replace (tended : connection.Tended held)
    (spared : ∀ other, other ≠ endpoint.token →
      later.offers.get? other = connection.offers.get? other)
    (shown : ∃ node, later.offers.get? endpoint.token = some node ∧ endpoint.Pictures node) :
    later.Tended (endpoint.replaceIn held) where
  apart := by
    have tokens : (endpoint.replaceIn held).map Endpoint.token = held.map Endpoint.token := by
      rw [Endpoint.replaceIn, List.map_map]
      apply List.map_congr_left
      intro other _
      simp only [Function.comp_apply]
      split
      case isTrue same => exact same.symm
      case isFalse => rfl
    rw [tokens]
    exact tended.apart
  pictured other member := by
    rcases List.mem_map.1 member with ⟨former, isHeld, rfl⟩
    split
    case isTrue => exact shown
    case isFalse differs =>
      rw [spared former.token differs]
      exact tended.pictured former isHeld

theorem dismiss (tended : connection.Tended held)
    (spared : ∀ other, other ≠ token → later.offers.get? other = connection.offers.get? other) :
    later.Tended (held.filter (·.token ≠ token)) where
  apart := (List.filter_sublist.map Endpoint.token).nodup tended.apart
  pictured endpoint member := by
    rcases List.mem_filter.1 member with ⟨isHeld, differs⟩
    rw [spared endpoint.token (of_decide_eq_true differs)]
    exact tended.pictured endpoint isHeld

end Connection.Tended

namespace Server

/-- The connection is tended, unless its handles have been used up. -/
def Tended (id : ConnectionId) (held : List Endpoint) (server : Server) : Prop :=
  ∀ connection, server.connections.get? id = some connection →
    connection.handles < UInt32.size → connection.Tended held

variable {id : ConnectionId} {held : List Endpoint} {before after : Server} {token : NodeToken}

theorem Tended.of_same (tended : Tended id held before)
    (same : Reoffers id (fun offers => offers) before after) : Tended id held after := by
  intro later isLater few
  rcases same later isLater with ⟨connection, connected, more, offers⟩
  rcases tended connection connected (Nat.lt_of_le_of_lt more few) with ⟨apart, pictured⟩
  exact ⟨apart, offers ▸ pictured⟩

theorem Tended.dismiss (tended : Tended id held before) (spares : Spares id token before after) :
    Tended id (held.filter (·.token ≠ token)) after := by
  intro later isLater few
  rcases spares later isLater with ⟨connection, connected, more, spared⟩
  exact (tended connection connected (Nat.lt_of_le_of_lt more few)).dismiss spared

/-- What comes of a call on an endpoint in hand leaves the connection tended. -/
theorem Tended.of_outcome {α : Type} {endpoint : Endpoint} {later : α → Endpoint}
    {client next : Client Server} {result : Except Halt α} (tended : Tended id held before)
    (member : endpoint ∈ held)
    (outcome : Client.Outcome id endpoint later client before (result, next, after)) :
    Tended id (match result with
      | .ok value => (later value).replaceIn held
      | .error _ => held) after := by
  rcases result with reason | value
  · exact tended.of_same outcome.2.1
  · rcases outcome with ⟨-, isToken, change, reoffers, pictures⟩
    intro final isFinal few
    rcases reoffers final isFinal with ⟨connection, connected, more, offers⟩
    have former := tended connection connected (Nat.lt_of_le_of_lt more few)
    apply former.replace
    · intro other differs
      rw [isToken] at differs
      rw [offers, Table.get?_modify, if_neg differs]
    · rcases former.pictured endpoint member with ⟨node, offered, pictured⟩
      refine ⟨change node, ?_, pictures node pictured⟩
      rw [offers, isToken, Table.get?_modify, if_pos rfl, offered]
      rfl

end Server

/-! ## Sessions -/

/-- Whether a call can change which nodes a client offers, or what they are like. -/
def Invocation.isOnNodes : Invocation → Bool
  | createEndpoint _ | addPort .. | renamePort .. | removePort .. | activate _ | publish ..
  | closeEndpoint _ | close => true
  | _ => false

namespace Client

variable {id : ConnectionId} {client : Client Server} {server : Server} {held : List Endpoint}

theorem calm_dropProxy (id : ConnectionId) (proxy : ProxyId) :
    (Client.dropProxy proxy : Call Server Unit).Within Halt.Never
      (On id (Server.Reoffers id fun offers => offers)) := by
  intro client server _ connected
  simp only [dropProxy]
  split
  case h_1 transport opened =>
    rw [connected transport opened]
    exact ⟨connected, Server.reoffers_destroyProxy server id proxy⟩
  case h_2 => exact ⟨connected, .refl id server⟩

theorem calm_createLink (id : ConnectionId) (output input : ObjectId) :
    (Client.createLink output input : Call Server Link).Within Halt.Never
      (On id (Server.Reoffers id fun offers => offers)) := by
  have looping := looping_on (calm_reoffers id)
  apply (Call.composable_within looping.toComposes).createLink
  · apply Call.Within.request looping.toComposes
    intro client server transport opened connected
    rw [connected transport opened]
    exact ⟨connected, Server.reoffers_createByFactory server id linkFactory .link _⟩
  · intro proxy
    exact .onHalt looping.toComposes looping.synchronize fun _ => calm_dropProxy id proxy

theorem calm_invocation (id : ConnectionId) {invocation : Invocation}
    (others : invocation.isOnNodes = false) :
    (invocation.call : Call Server (Option Link)).Within Halt.Never
      (On id (Server.Reoffers id fun offers => offers)) := by
  have looping := looping_on (calm_reoffers id)
  have composable : Call.Composable fun {α : Type} (call : Call Server α) =>
      call.Within Halt.Never (On id (Server.Reoffers id fun offers => offers)) :=
    Call.composable_within looping.toComposes
  cases invocation with
  | pump => exact composable.withoutLink looping.pump
  | synchronize => exact composable.withoutLink looping.synchronize
  | createLink output input => exact composable.withLink (calm_createLink id output input)
  | linkByName output input =>
      exact composable.withLink (composable.linkByName output input (calm_createLink id))
  | destroyLink link => exact composable.withoutLink (calm_dropProxy id link.proxy)
  | waitForEndpoint endpoint =>
      exact composable.withoutLink (on_waitForEndpoint (calm_reoffers id) endpoint)
  | observe observer =>
      apply composable.withoutLink
      exact .update fun client server connected => ⟨connected, .refl id server⟩
  | _ => cases others

theorem unused_of_fresh {books : Books} {connection : Connection} {token : NodeToken}
    (covers : books.Covers connection) (tended : connection.Tended held)
    (fresh : connection.handles < token.toNat) : ∀ endpoint ∈ held, endpoint.token ≠ token := by
  rintro endpoint member rfl
  rcases tended.pictured endpoint member with ⟨node, offered, -⟩
  have present : (connection.nodes.get? endpoint.token).isSome := by
    rw [← Server.isSome_offers]
    simp [offered]
  exact Nat.not_le_of_lt fresh (covers.issued endpoint.token present)

theorem shows_new {props : Properties} {token : NodeToken} {changed : Server}
    (created : server.createNode id props = (some token, changed)) (name : String) :
    Server.Shows id { token, name } changed := by
  have spec := Server.createNode_spec server id props
  rw [created] at spec
  intro later isLater
  rcases spec.1 later isLater with ⟨connection, connected, -, offers⟩
  refine ⟨_, ?_, Endpoint.pictures_new token name props⟩
  rw [offers, Table.get?_insert, if_pos rfl]

end Client

namespace Session

variable {id : ConnectionId} {client : Client Server} {server changed final : Server}
  {held : List Endpoint} {props : Properties} {token : NodeToken}

/-- A node that has been added is none that was in hand, and whatever becomes of it alone. -/
theorem tended_of_created (session : Session id Invocation.KeepsTo client server held)
    (isOpen : client.isOpen) (tended : Server.Tended id held server)
    (created : server.createNode id props = (some token, changed))
    (spares : Server.Spares id token changed final) {later : Connection}
    (isLater : final.connections.get? id = some later) (few : later.handles < UInt32.size) :
    later.Tended held ∧ ∀ endpoint ∈ held, endpoint.token ≠ token := by
  have spec := Server.createNode_spec server id props
  rw [created] at spec
  rcases spares later isLater with ⟨between, isBetween, more, spared⟩
  rcases spec.1 between isBetween with ⟨connection, connected, fewer, offers⟩
  have sparing := Nat.lt_of_le_of_lt more few
  rcases session.covers isOpen connected (Nat.lt_of_le_of_lt fewer sparing) with ⟨links, covers⟩
  have former := tended connection connected (Nat.lt_of_le_of_lt fewer sparing)
  have unused := Client.unused_of_fresh covers former
    (spec.2 connection between connected isBetween sparing).1
  refine ⟨former.of_spared unused fun other differs => ?_, unused⟩
  rw [spared other differs, offers, Table.get?_insert, if_neg differs]

theorem tended_createEndpoint (session : Session id Invocation.KeepsTo client server held)
    (tended : Server.Tended id held server) (name : String) :
    Server.Tended id (Invocation.hands held client server (.createEndpoint name))
      ((Invocation.createEndpoint name).call client server).2.2 := by
  simp only [Invocation.hands, Invocation.call, Call.state_withoutLink]
  rcases Client.createEndpoint_cases name client server with
    ⟨-, reason, failed⟩ | ⟨transport, opened, asked⟩
  · rw [failed]
    exact tended
  · have isOpen : client.isOpen := by simp [Client.isOpen, opened]
    rw [session.connected.1 transport opened] at asked
    simp only [Server.transport, Server.answer] at asked
    rcases created : server.createNode id (Client.nodeProperties client.config name) with
      ⟨_ | token, changed⟩
    · have refused := Server.createNode_spec server id (Client.nodeProperties client.config name)
      rw [created] at asked refused
      rw [asked, refused]
      exact tended
    · rw [created] at asked
      rw [asked]
      intro later isLater few
      rcases session.tended_of_created isOpen tended created (.refl id token changed) isLater few
        with ⟨kept, unused⟩
      exact kept.append unused (Client.shows_new created name later isLater)

/-- An endpoint that cannot be published is closed again, and nothing of it is left in hand. -/
theorem tended_publish (session : Session id Invocation.KeepsTo client server held)
    (tended : Server.Tended id held server) (name : String) (inputs outputs : Nat) :
    Server.Tended id (Invocation.hands held client server (.publish name inputs outputs))
      ((Invocation.publish name inputs outputs).call client server).2.2 := by
  simp only [Invocation.hands, Invocation.call, Call.state_withoutLink]
  rcases Client.publish_cases name inputs outputs client server with
    ⟨-, reason, failed⟩ | ⟨transport, opened, -, -, asked⟩
  · rw [failed]
    exact tended
  · have isOpen : client.isOpen := by simp [Client.isOpen, opened]
    have isConnected := session.connected.1
    rw [isConnected transport opened] at asked
    simp only [Server.transport, Server.answer] at asked
    rcases created : server.createNode id (Client.nodeProperties client.config name) with
      ⟨_ | token, changed⟩
    · have refused := Server.createNode_spec server id (Client.nodeProperties client.config name)
      rw [created] at asked refused
      rw [asked, refused]
      exact tended
    · rw [created] at asked
      rw [asked]
      generalize enlisted : ({ client with localNodes := client.localNodes ++ [token] } :
        Client Server) = keeper
      have stillConnected : keeper.Connected id := enlisted ▸ isConnected
      have attends := Client.attends_spares id token
      have spares : Client.On id (Server.Spares id token) (keeper, changed)
          ((Client.bringUp { token, name } (Client.generatedPorts inputs outputs)).onHalt
            (fun _ => Client.closeEndpoint { token, name }) keeper changed).2 :=
        (Call.Within.onHalt (Client.looping_on (Client.calm_spares id token)).toComposes
          (attends.bringUp rfl _) fun _ => Client.spares_closeEndpoint id { token, name }).always
            keeper changed
      have sparing := (spares stillConnected).2
      rcases ran : Client.bringUp { token, name } (Client.generatedPorts inputs outputs) keeper
        changed with ⟨reason | brought, after, final⟩
      · simp only [Call.onHalt, ran] at sparing ⊢
        exact fun later isLater few =>
          (session.tended_of_created isOpen tended created sparing isLater few).1
      · simp only [Call.onHalt, ran] at sparing ⊢
        rcases Client.bringUp_shows stillConnected (Client.shows_new created name) ran with
          ⟨isToken, shows⟩
        intro later isLater few
        rcases session.tended_of_created isOpen tended created sparing isLater few with
          ⟨kept, unused⟩
        refine kept.append (fun other member => ?_) (shows later isLater)
        rw [isToken]
        exact unused other member

/-- Whatever is called, the connection is tended with what is in hand afterwards. -/
theorem tended_call (session : Session id Invocation.KeepsTo client server held)
    (tended : Server.Tended id held server) {invocation : Invocation}
    (permitted : invocation.KeepsTo held) :
    Server.Tended id (invocation.hands held client server)
      (invocation.call client server).2.2 := by
  have connected := session.connected.1
  have calm : invocation.isOnNodes = false →
      Server.Tended id held (invocation.call client server).2.2 := fun others =>
    tended.of_same ((Client.calm_invocation id others).always client server connected).2
  cases invocation with
  | pump | synchronize | createLink | linkByName | destroyLink | waitForEndpoint | observe =>
      exact calm rfl
  | createEndpoint name => exact session.tended_createEndpoint tended name
  | publish name inputs outputs => exact session.tended_publish tended name inputs outputs
  | addPort endpoint name direction =>
      have outcome := Client.tends_addPort id endpoint name direction client server connected
      simp only [Invocation.hands, Invocation.call, Call.state_withoutLink]
      generalize Client.addPort endpoint name direction client server = result at outcome ⊢
      rcases result with ⟨reason | value, next, after⟩ <;>
        exact tended.of_outcome (permitted endpoint rfl) outcome
  | renamePort endpoint token name =>
      have outcome := Client.tends_renamePort id endpoint token name client server connected
      simp only [Invocation.hands, Invocation.call, Call.state_withoutLink]
      generalize Client.renamePort endpoint token name client server = result at outcome ⊢
      rcases result with ⟨reason | value, next, after⟩ <;>
        exact tended.of_outcome (permitted endpoint rfl) outcome
  | removePort endpoint token =>
      have outcome := Client.tends_removePort id endpoint token client server connected
      simp only [Invocation.hands, Invocation.call, Call.state_withoutLink]
      generalize Client.removePort endpoint token client server = result at outcome ⊢
      rcases result with ⟨reason | value, next, after⟩ <;>
        exact tended.of_outcome (permitted endpoint rfl) outcome
  | activate endpoint =>
      have outcome := Client.tends_activate id endpoint client server connected
      simp only [Invocation.hands, Invocation.call, Call.state_withoutLink]
      generalize Client.activate endpoint client server = result at outcome ⊢
      rcases result with ⟨reason | value, next, after⟩ <;>
        exact tended.of_outcome (permitted endpoint rfl) outcome
  | closeEndpoint endpoint =>
      have spares := (Client.spares_closeEndpoint id endpoint).always client server connected
      simp only [Invocation.hands, Invocation.call, Call.state_withoutLink]
      exact tended.dismiss spares.2
  | close =>
      simp only [Invocation.hands, Invocation.call, Client.close]
      split
      case h_1 => exact tended
      case h_2 transport opened =>
        rw [connected transport opened]
        intro later isLater
        have gone : ∀ world, (Server.answer id .disconnect world).2.connections.get? id = none :=
          fun world => Server.get?_disconnect world id
        have impossible := (gone _).symm.trans isLater
        cases impossible

theorem tended (session : Session id Invocation.KeepsTo client server held) :
    Server.Tended id held server := by
  induction session with
  | opened => exact fun _ _ _ => ⟨.nil, by simp⟩
  | meanwhile step session foreign ih => exact ih.of_same (session.intact foreign).reoffers
  | call invocation session permitted ih => exact session.tended_call ih permitted

/-- Every endpoint in hand pictures its node. -/
theorem pictured (session : Session id Invocation.KeepsTo client server held)
    {connection : Connection} (connected : server.connections.get? id = some connection)
    (few : connection.handles < UInt32.size) {endpoint : Endpoint} (member : endpoint ∈ held) :
    ∃ node, server.node? id endpoint.token = some node ∧ endpoint.Pictures node := by
  rcases (session.tended connection connected few).pictured endpoint member with
    ⟨offered, found, pictures⟩
  rw [Connection.offers, Table.get?_mapValues, Option.map_eq_some_iff] at found
  rcases found with ⟨node, present, rfl⟩
  refine ⟨node, ?_, Endpoint.pictures_offer_iff.1 pictures⟩
  rw [Server.node?, connected, Option.bind_some, present]

end Session

/-! ## Calls that fail -/

namespace Client

variable {id : ConnectionId} {client : Client Server} {server : Server} {held : List Endpoint}
  {connection : Connection}

theorem error_of_withoutLink {σ α : Type} {call : Call σ α} {client : Client σ} {world : σ}
    {reason : Halt} (failed : (call.withoutLink client world).1 = .error reason) :
    (call client world).1 = .error reason := by
  rcases ran : call client world with ⟨other | value, after, changed⟩
  · rw [Call.withoutLink, Call.bind_of_error _ ran] at failed
    cases failed
    rfl
  · rw [Call.withoutLink, Call.bind_of_ok _ ran] at failed
    cases failed

theorem Outcome.of_error {α : Type} {endpoint : Endpoint} {later : α → Endpoint} {reason : Halt}
    {result : Except Halt α × Client Server × Server}
    (outcome : Outcome id endpoint later client server result)
    (failed : result.1 = .error reason) :
    result.2.2.node? id endpoint.token = server.node? id endpoint.token := by
  rcases result with ⟨other | value, after, changed⟩
  · exact outcome.2.2
  · cases failed

/-- A call on an endpoint that fails changes neither the endpoint nor its node. -/
theorem unchanged_of_error (connected : client.Connected id) {invocation : Invocation}
    {endpoint : Endpoint} {reason : Halt} (isOn : invocation.endpoint? = some endpoint)
    (failed : (invocation.call client server).1 = .error reason) :
    invocation.hands held client server = held ∧
      (invocation.call client server).2.2.node? id endpoint.token =
        server.node? id endpoint.token := by
  cases invocation with
  | addPort _ name direction =>
      cases isOn
      have inner := error_of_withoutLink failed
      have outcome := tends_addPort id endpoint name direction client server connected
      simp only [Invocation.hands, Invocation.call, Call.state_withoutLink, inner]
      exact ⟨trivial, outcome.of_error inner⟩
  | renamePort _ token name =>
      cases isOn
      have inner := error_of_withoutLink failed
      have outcome := tends_renamePort id endpoint token name client server connected
      simp only [Invocation.hands, Invocation.call, Call.state_withoutLink, inner]
      exact ⟨trivial, outcome.of_error inner⟩
  | removePort _ token =>
      cases isOn
      have inner := error_of_withoutLink failed
      have outcome := tends_removePort id endpoint token client server connected
      simp only [Invocation.hands, Invocation.call, Call.state_withoutLink, inner]
      exact ⟨trivial, outcome.of_error inner⟩
  | activate _ =>
      cases isOn
      have inner := error_of_withoutLink failed
      have outcome := tends_activate id endpoint client server connected
      simp only [Invocation.hands, Invocation.call, Call.state_withoutLink, inner]
      exact ⟨trivial, outcome.of_error inner⟩
  | waitForEndpoint _ =>
      cases isOn
      have waited := (on_waitForEndpoint (calm_nodes id) endpoint).always client server connected
      simp only [Invocation.hands, Invocation.call, Call.state_withoutLink]
      exact ⟨trivial, waited.2 endpoint.token⟩
  | closeEndpoint _ =>
      have inner := error_of_withoutLink failed
      simp only [closeEndpoint] at inner
      split at inner <;> cases inner
  | _ => cases isOn

/--
Throughout a session in which endpoints are used on the client that they come from, the client and
its connection agree on the nodes, and every endpoint in hand agrees with its node. A call on an
endpoint that fails leaves both as they are.
-/
theorem endpoints_agree (session : Session id Invocation.KeepsTo client server held)
    (isOpen : client.isOpen) (connected : server.connections.get? id = some connection)
    (few : connection.handles < UInt32.size) :
    client.localNodes.Nodup ∧
      (∀ token, token ∈ client.localNodes ↔ (server.node? id token).isSome) ∧
      (held.map Endpoint.token).Nodup ∧
      (∀ endpoint ∈ held, ∃ node, server.node? id endpoint.token = some node ∧
        endpoint.Pictures node) ∧
      ∀ (invocation : Invocation) (endpoint : Endpoint) (reason : Halt),
        invocation.endpoint? = some endpoint →
        (invocation.call client server).1 = .error reason →
        invocation.hands held client server = held ∧
          (invocation.call client server).2.2.node? id endpoint.token =
            server.node? id endpoint.token := by
  have nodes : ∀ token, server.node? id token = connection.nodes.get? token := fun token => by
    simp [Server.node?, connected]
  rcases session.covers isOpen connected few with ⟨links, covers⟩
  refine ⟨covers.once, fun token => ?_, (session.tended connection connected few).apart,
    fun endpoint member => session.pictured connected few member, ?_⟩
  · rw [nodes]
    exact covers.nodes token
  · exact fun invocation endpoint reason isOn failed =>
      unchanged_of_error session.connected.1 isOn failed

/-- Makes calls one after the other, as long as they keep to the endpoints in hand. -/
def follow? (client : Client Server) (server : Server) (held : List Endpoint) :
    List Invocation → Option (Client Server × Server × List Endpoint)
  | [] => some (client, server, held)
  | invocation :: rest =>
    if invocation.KeepsTo held then
      follow? (invocation.call client server).2.1 (invocation.call client server).2.2
        (invocation.hands held client server) rest
    else none

theorem session_of_follow {final : Client Server} {last : Server} {left : List Endpoint}
    (session : Session id Invocation.KeepsTo client server held) {calls : List Invocation}
    (followed : follow? client server held calls = some (final, last, left)) :
    Session id Invocation.KeepsTo final last left := by
  induction calls generalizing client server held with
  | nil =>
      cases followed
      exact session
  | cons invocation rest ih =>
      simp only [follow?] at followed
      split at followed
      case isTrue permitted => exact ih (session.call invocation permitted) followed
      case isFalse => cases followed

/-- An endpoint is given two ports; one is renamed and the other removed. -/
def reworking : List Invocation :=
  let left : LocalPort := { token := 2, name := "left", direction := .output }
  let right : LocalPort := { token := 3, name := "right", direction := .input }
  [.createEndpoint "synth",
    .addPort { token := 1, name := "synth" } "left" .output,
    .addPort { token := 1, name := "synth", ports := [left] } "right" .input,
    .renamePort { token := 1, name := "synth", ports := [left, right] } 3 "main",
    .removePort { token := 1, name := "synth", ports := [left, { right with name := "main" }] } 2]

/-- What the endpoint is then. -/
def reworked : Endpoint where
  token := 1
  name := "synth"
  ports := [{ token := 3, name := "main", direction := .input }]

theorem endpoints_agree_reworking :
    ∃ client server connection held,
      Session 1 Invocation.KeepsTo client server held ∧ client.isOpen ∧
        server.connections.get? 1 = some connection ∧ connection.handles < UInt32.size ∧
        held = [reworked] ∧ client.localNodes.Nodup ∧ (∀ token, token ∈ client.localNodes ↔
          (server.node? 1 token).isSome) ∧
        ∀ endpoint ∈ held, ∃ node, server.node? 1 endpoint.token = some node ∧
          endpoint.Pictures node := by
  have probed : ((Client.connect Server.backend .standard [] (Server.run {} [])).1.toOption.bind
      fun client => (follow? client
        (Client.connect Server.backend .standard [] (Server.run {} [])).2 [] reworking).map
          fun state =>
            (state.1.isOpen, (state.2.1.connections.get? 1).map (·.handles), state.2.2)) =
      some (true, some 3, [reworked]) := by
    decide +kernel
  rcases ran : Client.connect Server.backend .standard [] (Server.run {} []) with
    ⟨refusal | client, server⟩
  · simp [ran, Except.toOption] at probed
  · simp only [ran, Except.toOption, Option.bind_some, Option.map_eq_some_iff, Prod.mk.injEq,
      Prod.exists] at probed
    rcases probed with ⟨final, last, held, followed, isOpen, ⟨connection, connected, count⟩, hands⟩
    have session := session_of_follow (.opened rfl ran) followed
    have few : connection.handles < UInt32.size := by
      rw [count]
      decide
    rcases endpoints_agree session isOpen connected few with ⟨once, nodes, -, pictured, -⟩
    exact ⟨final, last, connection, held, session, isOpen, connected, few, hands, once, nodes,
      pictured⟩

end Client

end MediaGraph
