import MediaGraph.Proofs.Client.Opening

/-!
# The count of set-ups

The server counts how often it is set up and taken down as a backend. Nothing else touches the two
counts: no operation on objects, nodes or connections, hence no request and no client, whether it is
being opened, is in use or is closed.
-/

namespace MediaGraph

namespace Server

variable (server : Server)

/-! ## Operations -/

theorem runtimeCalls_foldl {α : Type} {step : Server → α → Server}
    (each : ∀ server item, (step server item).runtimeCalls = server.runtimeCalls)
    (items : List α) : (items.foldl step server).runtimeCalls = server.runtimeCalls := by
  induction items generalizing server with
  | nil => rfl
  | cons item rest ih => rw [List.foldl_cons, ih, each]

@[simp]
theorem runtimeCalls_setConnection (id : ConnectionId) (connection : Connection) :
    (server.setConnection id connection).runtimeCalls = server.runtimeCalls := rfl

@[simp]
theorem runtimeCalls_updateNode (id : ConnectionId) (token : NodeToken)
    (change : OfferedNode → OfferedNode) :
    (server.updateNode id token change).runtimeCalls = server.runtimeCalls := rfl

@[simp]
theorem runtimeCalls_sendInfo (id : ObjectId) :
    (server.sendInfo id).runtimeCalls = server.runtimeCalls := by
  simp only [sendInfo]
  split <;> rfl

@[simp]
theorem runtimeCalls_insertObject (id : ObjectId) (object : Object) :
    (server.insertObject id object).runtimeCalls = server.runtimeCalls := by
  simp only [insertObject]
  split <;> split <;> rfl

@[simp]
theorem runtimeCalls_removeObject (id : ObjectId) :
    (server.removeObject id).runtimeCalls = server.runtimeCalls := by
  simp only [removeObject]
  split <;> rfl

@[simp]
theorem runtimeCalls_removeObjects (ids : List ObjectId) :
    (server.removeObjects ids).runtimeCalls = server.runtimeCalls :=
  server.runtimeCalls_foldl runtimeCalls_removeObject ids

@[simp]
theorem runtimeCalls_createObject (object : Object) :
    (server.createObject object).2.runtimeCalls = server.runtimeCalls :=
  server.allocateId.2.runtimeCalls_insertObject _ object

@[simp]
theorem runtimeCalls_extendObject (id : ObjectId) (props : Properties) :
    (server.extendObject id props).runtimeCalls = server.runtimeCalls := by
  simp only [extendObject]
  split
  · rfl
  · rw [runtimeCalls_sendInfo]
    rfl

/-! ## Nodes and connections -/

@[simp]
theorem runtimeCalls_publishPorts (id : ConnectionId) (token : NodeToken) :
    (server.publishPorts id token).runtimeCalls = server.runtimeCalls := by
  simp only [publishPorts]
  split
  · split
    · apply runtimeCalls_foldl
      intro server entry
      simp [publishPort]
    · rfl
  · rfl

@[simp]
theorem runtimeCalls_assignNode (id : ConnectionId) (token : NodeToken) :
    (server.assignNode id token).runtimeCalls = server.runtimeCalls := by
  simp only [assignNode]
  split
  · split
    · split
      · simp
      · rfl
    · rfl
  · rfl

@[simp]
theorem runtimeCalls_destroyNode (id : ConnectionId) (token : NodeToken) :
    (server.destroyNode id token).runtimeCalls = server.runtimeCalls := by
  simp only [destroyNode]
  split
  · rfl
  · split
    · rfl
    · simp

@[simp]
theorem runtimeCalls_dropConnection (id : ConnectionId) :
    (server.dropConnection id).runtimeCalls = server.runtimeCalls := by
  simp only [dropConnection]
  split
  case h_1 => rfl
  case h_2 connection _ =>
    have nodes := server.runtimeCalls_foldl (fun server => server.runtimeCalls_destroyNode id)
      connection.nodes.keys
    split
    · rw [runtimeCalls_removeObjects, nodes]
    · exact (runtimeCalls_removeObjects _ _).trans nodes

/-! ## Requests -/

variable {server} in
theorem Arranges.runtimeCalls {id : ConnectionId} {after : Server}
    (arranges : Arranges id server after) : after.runtimeCalls = server.runtimeCalls := by
  cases arranges <;> rfl

theorem runtimeCalls_answer (id : ConnectionId) (request : Request) :
    (answer id request server).2.runtimeCalls = server.runtimeCalls := by
  cases request with
  | subscribeGlobals | unsubscribeGlobals | bindObject | subscribeInfo | sync | drive =>
      exact (arranges_answer server id rfl).runtimeCalls
  | destroyProxy proxy =>
      simp only [answer, destroyProxy]
      split
      · rfl
      · split
        · rfl
        · split <;> simp
  | createObject factory kind props =>
      simp only [answer, createByFactory, createLink]
      split
      · split
        · split <;> simp
        · rfl
      · rfl
  | createNode props =>
      simp only [answer, createNode]
      split <;> rfl
  | addPort node direction props =>
      simp only [answer, addPort]
      split
      · rfl
      · split <;> simp
  | updatePort node port props =>
      simp only [answer, updatePort]
      split
      · rfl
      · split
        · rfl
        · split <;> simp
  | removePort node port =>
      simp only [answer, removePort]
      split
      · rfl
      · split
        · rfl
        · simp
  | activateNode node =>
      simp only [answer, activateNode]
      split
      · rfl
      · split
        · rfl
        · simp
  | destroyNode node => exact server.runtimeCalls_destroyNode id node
  | disconnect => exact server.runtimeCalls_dropConnection id

theorem runtimeCalls_inject (injection : Injection) :
    (server.inject injection).runtimeCalls = server.runtimeCalls := by
  cases injection with
  | addObject kind props => exact server.runtimeCalls_createObject _
  | addObjectAt id kind props =>
      simp only [inject, addObjectAt]
      split <;> simp
  | replaceProperties id props =>
      simp only [inject, replaceProperties]
      split
      · rfl
      · split
        · rw [runtimeCalls_sendInfo]
          rfl
        · rfl
  | takeObject id => exact server.runtimeCalls_removeObject id
  | assignPending =>
      apply runtimeCalls_foldl
      exact fun server node => server.runtimeCalls_assignNode node.1 node.2
  | disconnectAll => exact server.runtimeCalls_foldl runtimeCalls_dropConnection _
  | setPolicy change => rfl

/-! ## Clients -/

theorem spans_runtimeCalls (id : ConnectionId) :
    Spans id fun before after => after.runtimeCalls = before.runtimeCalls where
  refl _ := rfl
  trans start rest := rest.trans start
  answer server request := server.runtimeCalls_answer id request

end Server

namespace Client

variable {id : ConnectionId} {client : Client Server}

/-- Opening a client sets up nothing, whether it succeeds or not. -/
theorem runtimeCalls_connect (config : Config) (observers : List Observer) (server : Server) :
    (connect Server.backend config observers server).2.runtimeCalls = server.runtimeCalls ∧
      ∀ client, (connect Server.backend config observers server).1 = .ok client →
        ∃ id, client.Connected id := by
  have accepted : (accepting config server).runtimeCalls = server.runtimeCalls := rfl
  have spans := Server.spans_runtimeCalls (server.lastConnection + 1)
  refine ⟨(related_connect spans fun _ => accepted).1, fun client isOpen => ?_⟩
  exact ⟨server.lastConnection + 1, (related_connect spans fun _ => accepted).2 client isOpen⟩

theorem runtimeCalls_call (connected : client.Connected id) (invocation : Invocation)
    (server : Server) : (invocation.call client server).2.1.Connected id ∧
      (invocation.call client server).2.2.runtimeCalls = server.runtimeCalls :=
  ((elementary_spans (Server.spans_runtimeCalls id)).invocation invocation).always client server
    connected

theorem runtimeCalls_close (connected : client.Connected id) (server : Server) :
    (client.close server).2.runtimeCalls = server.runtimeCalls :=
  ((elementary_spans (Server.spans_runtimeCalls id)).close client server connected).2

end Client

end MediaGraph
