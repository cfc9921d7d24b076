import MediaGraph.Proofs.Client.InStep
import MediaGraph.Proofs.Client.Pictures

/-!
# Calls on endpoints

A call that works on an endpoint asks for one thing, and changes the endpoint as the server changes
the node, or leaves both as they are if it fails (`Client.Tends`). Other calls let all nodes be: the
barriers among them, because a client that waits asks for nothing that has to do with nodes
(`Client.Calm`).
-/

namespace MediaGraph

namespace Client

variable {id : ConnectionId} {client after : Client Server} {server changed : Server}
  {endpoint : Endpoint} {token : NodeToken}

/-! ## Calls that let the nodes be -/

/-- A relation that holds across the requests with which a client waits. -/
structure Calm (id : ConnectionId) (Related : Server → Server → Prop) : Prop where
  refl : ∀ server, Related server server
  trans : ∀ {first second third}, Related first second → Related second third →
    Related first third
  asking : ∀ request server, request.isWaiting || request.isBinding →
    Related server (Server.answer id request server).2

/-- The client stays on its connection, across which a relation holds. -/
def On (id : ConnectionId) (Related : Server → Server → Prop)
    (before after : Client Server × Server) : Prop :=
  before.1.Connected id → after.1.Connected id ∧ Related before.2 after.2

variable {Related : Server → Server → Prop}

theorem looping_on (calm : Calm id Related) : Call.Looping (On id Related) where
  refl state connected := ⟨connected, calm.refl state.2⟩
  trans start rest connected := by
    rcases start connected with ⟨between, first⟩
    rcases rest between with ⟨final, second⟩
    exact ⟨final, calm.trans first second⟩
  driving client server transport timeout opened connected := by
    rw [connected transport opened]
    exact ⟨connected, calm.asking _ server rfl⟩
  syncing client server transport sequence opened connected := by
    rw [connected transport opened]
    exact ⟨connected, calm.asking _ server rfl⟩
  batch client server transport events opened connected := by
    rw [connected transport opened]
    have follows : (Server.transport id).Follows Related :=
      ⟨calm.refl, calm.trans, fun request server binding =>
        calm.asking request server (by simp [binding])⟩
    refine ⟨fun other isOpen => connected other ?_, ?_⟩
    · exact (frame_of_applyBatch (Server.transport id) events client server).1.symm.trans isOpen
    · rw [world_applyBatch]
      exact related_deliverAll follows events client server
  barrier _ server _ connected := ⟨connected, calm.refl server⟩
  poison _ server _ connected := ⟨connected, calm.refl server⟩

theorem calm_reoffers (id : ConnectionId) :
    Calm id (Server.Reoffers id fun offers => offers) where
  refl := .refl id
  trans start rest := start.trans rest
  asking asked server calm := by
    apply Server.reoffers_answer server id
    cases asked <;> first | rfl | cases calm

theorem calm_spares (id : ConnectionId) (token : NodeToken) :
    Calm id (Server.Spares id token) where
  refl := .refl id token
  trans := .trans
  asking request server calm :=
    ((calm_reoffers id).asking request server calm).spares fun _ _ _ => rfl

theorem calm_nodes (id : ConnectionId) :
    Calm id fun before after => ∀ token, after.node? id token = before.node? id token where
  refl _ _ := rfl
  trans start rest token := (rest token).trans (start token)
  asking _ server calm := Server.node?_answer server id calm

theorem on_waitForEndpoint (calm : Calm id Related) (endpoint : Endpoint) :
    (Client.waitForEndpoint endpoint : Call Server Publication).Within Halt.Never
      (On id Related) :=
  (Call.composable_within (looping_on calm).toComposes).waitForEndpoint
    (looping_on calm).synchronize endpoint

/-! ## Calls about one node -/

theorem attends_spares (id : ConnectionId) (token : NodeToken) :
    Call.Attends token fun {α : Type} (call : Call Server α) =>
      call.Within Halt.Never (On id (Server.Spares id token)) where
  toComposable := Call.composable_within (looping_on (calm_spares id token)).toComposes
  attending _ attends :=
    .request (looping_on (calm_spares id token)).toComposes fun client server transport opened
      connected => by
        rw [connected transport opened]
        rcases Server.reoffers_of_attends attends server id with ⟨change, reoffers⟩
        refine ⟨connected, reoffers.spares fun offers other apart => ?_⟩
        rw [Table.get?_modify, if_neg apart]
  synchronize := (looping_on (calm_spares id token)).synchronize

theorem spares_closeEndpoint (id : ConnectionId) (endpoint : Endpoint) :
    (Client.closeEndpoint endpoint : Call Server Unit).Within Halt.Never
      (On id (Server.Spares id endpoint.token)) := by
  intro client server _ connected
  simp only [closeEndpoint]
  split
  case h_1 transport opened =>
    rw [connected transport opened]
    refine ⟨connected, (Server.destroyNode_spec server id endpoint.token).spares ?_⟩
    intro offers other apart
    rw [Table.get?_erase, if_neg apart]
  case h_2 => exact ⟨connected, .refl id endpoint.token server⟩

/--
What comes of a call on an endpoint: the endpoint and its node have been changed alike, or both are
as they were.
-/
def Outcome {α : Type} (id : ConnectionId) (endpoint : Endpoint) (later : α → Endpoint)
    (client : Client Server) (server : Server) :
    Except Halt α × Client Server × Server → Prop
  | (.ok value, after, changed) => after = client ∧ (later value).token = endpoint.token ∧
      ∃ change, Server.Reoffers id (·.modify endpoint.token change) server changed ∧
        ∀ node, endpoint.Pictures node → (later value).Pictures (change node)
  | (.error _, after, changed) => after = client ∧
      Server.Reoffers id (fun offers => offers) server changed ∧
      changed.node? id endpoint.token = server.node? id endpoint.token

/-- A call on an endpoint that keeps the endpoint and its node alike. -/
def Tends {α : Type} (id : ConnectionId) (endpoint : Endpoint) (later : α → Endpoint)
    (call : Call Server α) : Prop :=
  ∀ client server, client.Connected id →
    Outcome id endpoint later client server (call client server)

variable {α β : Type} {later : α → Endpoint}

theorem outcome_error (id : ConnectionId) (endpoint : Endpoint) (later : α → Endpoint)
    (client : Client Server) (server : Server) (reason : Halt) :
    Outcome id endpoint later client server (.error reason, client, server) :=
  ⟨rfl, .refl id server, rfl⟩

theorem Tends.of_still {first : Call Server β} (still : first.Still) {next : β → Call Server α}
    (rest : ∀ value, Tends id endpoint later (next value)) :
    Tends id endpoint later (first >>= next) := by
  intro client server connected
  have same := still client server
  rcases ran : first client server with ⟨reason | value, between, middle⟩
  all_goals
    rw [ran] at same
    cases same
  · rw [Call.bind_of_error _ ran]
    exact outcome_error id endpoint later client server reason
  · rw [Call.bind_of_ok _ ran]
    exact rest value client server connected

/-- What comes of a call that begins with a request is decided by the answer of the server. -/
theorem Tends.of_request {asked : Request} {next : asked.Answer → Call Server α}
    (answered : ∀ client server, Outcome id endpoint later client server
      (next (Server.answer id asked server).1 client (Server.answer id asked server).2)) :
    Tends id endpoint later (Call.request asked >>= next) := by
  intro client server connected
  cases opened : client.transport with
  | none =>
      rw [Call.bind_of_error _ (Call.request_of_closed opened asked server)]
      exact outcome_error id endpoint later client server _
  | some transport =>
      rw [Call.bind_of_ok _ (Call.request_of_open opened asked server),
        connected transport opened]
      exact answered client server

theorem tends_addPort (id : ConnectionId) (endpoint : Endpoint) (name : String)
    (direction : Direction) :
    Tends id endpoint Prod.snd (Client.addPort endpoint name direction) := by
  apply Tends.of_still Call.steady_check.still
  intro _
  apply Tends.of_still Call.steady_client.still
  intro _
  apply Tends.of_still (Call.steady_require (validatePortName_sound _ _ _)).still
  intro _
  apply Tends.of_request
  intro client server
  have spec := Server.addPort_spec server id endpoint.token direction
    (.ofList [(Key.format, midiFormat), (Key.portName, name)])
  simp only [Server.answer]
  generalize server.addPort id endpoint.token direction
    (.ofList [(Key.format, midiFormat), (Key.portName, name)]) = result at spec ⊢
  rcases result with ⟨_ | token, changed⟩
  · exact ⟨rfl, spec⟩
  · refine ⟨rfl, rfl, _, spec, fun node pictures => pictures.addPort token direction ?_⟩
    exact (Table.get?_insert _ _ _ _).trans (if_pos rfl)

theorem tends_renamePort (id : ConnectionId) (endpoint : Endpoint) (token : PortToken)
    (name : String) :
    Tends id endpoint (fun later => later) (Client.renamePort endpoint token name) := by
  apply Tends.of_still Call.steady_check.still
  intro _
  apply Tends.of_still Call.steady_client.still
  intro _
  apply Tends.of_still (Call.steady_require (validatePortName_sound _ _ _)).still
  intro _
  split
  · apply Tends.of_request
    intro client server
    refine ⟨rfl, rfl, _, Server.updatePort_spec server id endpoint.token token _, ?_⟩
    exact fun node pictures => pictures.renamePort token name
  · exact fun client server _ => outcome_error id endpoint _ client server _

theorem tends_removePort (id : ConnectionId) (endpoint : Endpoint) (token : PortToken) :
    Tends id endpoint (fun later => later) (Client.removePort endpoint token) := by
  apply Tends.of_still Call.steady_check.still
  intro _
  split
  · apply Tends.of_request
    intro client server
    refine ⟨rfl, rfl, _, Server.removePort_spec server id endpoint.token token, ?_⟩
    exact fun node pictures => pictures.removePort token
  · exact fun client server _ => outcome_error id endpoint _ client server _

theorem tends_activate (id : ConnectionId) (endpoint : Endpoint) :
    Tends id endpoint (fun later => later) (Client.activate endpoint) := by
  apply Tends.of_still Call.steady_check.still
  intro _
  split
  · intro client server _
    refine ⟨rfl, rfl, fun node => node, ?_, fun node pictures => pictures⟩
    exact Server.reoffers_of_unchanged fun _ _ => rfl
  · apply Tends.of_request
    intro client server
    have spec := Server.activateNode_spec server id endpoint.token
    simp only [Server.answer]
    generalize server.activateNode id endpoint.token = result at spec ⊢
    rcases result with ⟨failure | ⟨⟩, changed⟩
    · simp only at spec
      rw [spec]
      exact outcome_error id endpoint _ client server _
    · exact ⟨rfl, rfl, _, spec, fun node pictures => pictures.activate⟩

/-! ## Bringing an endpoint up -/

theorem Outcome.shows {value : α} (outcome : Outcome id endpoint later client server
    (.ok value, after, changed)) (shows : Server.Shows id endpoint server) :
    after = client ∧ (later value).token = endpoint.token ∧
      Server.Shows id (later value) changed := by
  rcases outcome with ⟨unchanged, token, change, reoffers, pictures⟩
  refine ⟨unchanged, token, fun present isPresent => ?_⟩
  rcases reoffers present isPresent with ⟨connection, connected, -, offers⟩
  rcases shows connection connected with ⟨node, offered, pictured⟩
  refine ⟨change node, ?_, pictures node pictured⟩
  rw [offers, token, Table.get?_modify, if_pos rfl, offered]
  rfl

theorem addPorts_shows {ports : List (String × Direction)} {added : Endpoint}
    (connected : client.Connected id) (shows : Server.Shows id endpoint server)
    (ran : Client.addPorts endpoint ports client server = (.ok added, after, changed)) :
    after = client ∧ added.token = endpoint.token ∧ Server.Shows id added changed := by
  induction ports generalizing endpoint server with
  | nil =>
      cases ran
      exact ⟨rfl, rfl, shows⟩
  | cons port rest ih =>
      rcases Call.bind_eq_ok_iff.1 ran with ⟨first, between, middle, once, others⟩
      have outcome := tends_addPort id endpoint port.1 port.2 client server connected
      rw [once] at outcome
      rcases outcome.shows shows with ⟨rfl, sameToken, shown⟩
      rcases ih shown others with ⟨same, isToken, final⟩
      exact ⟨same, isToken.trans sameToken, final⟩

/-- An endpoint that has been brought up pictures its node. -/
theorem bringUp_shows {ports : List (String × Direction)} {brought : Publication × Endpoint}
    (connected : client.Connected id) (shows : Server.Shows id endpoint server)
    (ran : Client.bringUp endpoint ports client server = (.ok brought, after, changed)) :
    brought.2.token = endpoint.token ∧ Server.Shows id brought.2 changed := by
  rcases Call.bind_eq_ok_iff.1 ran with ⟨added, between, middle, addedPorts, rest⟩
  rcases addPorts_shows connected shows addedPorts with ⟨rfl, isAdded, shown⟩
  rcases Call.bind_eq_ok_iff.1 rest with ⟨active, next, further, activated, waiting⟩
  have outcome := tends_activate id added between middle connected
  rw [activated] at outcome
  rcases outcome.shows shown with ⟨rfl, isActive, visible⟩
  rcases Call.bind_eq_ok_iff.1 waiting with ⟨publication, last, final, waited, returned⟩
  have calm := (on_waitForEndpoint (calm_reoffers id) active).always next further connected
  rw [waited] at calm
  cases returned
  exact ⟨isActive.trans isAdded, visible.of_same calm.2⟩

end Client

end MediaGraph
