import MediaGraph.Proofs.Client.Exchange
import MediaGraph.Script.Basic

/-!
# Publishing is all or nothing

An endpoint is published in many steps, and each of them can fail. What has been checked before the
first of them is not found wrong later (`Call.Unnamed`), and after the node has been created every
failure destroys it again. So a call that fails leaves the client with the nodes that it had, and
one that succeeds adds one node, with the ports that the server was asked for.
-/

namespace MediaGraph

/-- The requests that bring up a node: those about it, and those of the event loop. -/
def Request.Raises (node : NodeToken) (request : Request) : Prop :=
  request.isLooping ∨ request.Attends node

theorem Exchange.nodes_of_raises {node : NodeToken} {exchanges : List Exchange}
    (raising : ∀ exchange ∈ exchanges, exchange.request.Raises node) :
    exchanges.filterMap Exchange.node? = [] := by
  refine List.filterMap_eq_nil_iff.2 ?_
  rintro ⟨request, answer⟩ member
  rcases raising _ member with looping | attends
  · cases request <;> first | rfl | cases looping
  · cases request <;> first | rfl | cases attends

/-- The call ended because of a name. -/
def Halt.IsNaming (reason : Halt) : Prop :=
  ∃ error : Error, reason = .failed error ∧ error.isNaming

theorem Halt.not_isNaming {error : Error} (other : error.isNaming = false) :
    ¬(Halt.failed error).IsNaming := by
  rintro ⟨_, same, named⟩
  cases same
  rw [other] at named
  cases named

variable {σ α β : Type}

namespace Call

open Client

/-- A healthy client is not told of a wrong name, and stays healthy if the call succeeds. -/
structure Unnamed (call : Call σ α) : Prop where
  sound : ∀ client world reason after changed, client.poison = none →
    call client world = (.error reason, after, changed) → ¬reason.IsNaming
  clean : ∀ client world value after changed, client.poison = none →
    call client world = (.ok value, after, changed) → after.poison = none

theorem Unnamed.bind {first : Call σ α} {next : α → Call σ β} (start : first.Unnamed)
    (rest : ∀ value, (next value).Unnamed) : (first >>= next).Unnamed where
  sound client world reason final last healthy ended := by
    rcases ran : first client world with ⟨failure | value, after, changed⟩
    · rw [bind_of_error next ran] at ended
      cases ended
      exact start.sound client world reason final last healthy ran
    · rw [bind_of_ok next ran] at ended
      have stillHealthy := start.clean client world value after changed healthy ran
      exact (rest value).sound after changed reason final last stillHealthy ended
  clean client world value final last healthy ended := by
    rcases bind_eq_ok_iff.1 ended with ⟨between, after, changed, ran, returned⟩
    have stillHealthy := start.clean client world between after changed healthy ran
    exact (rest between).clean after changed value final last stillHealthy returned

theorem Unnamed.of_still {call : Call σ α} (still : call.Still)
    (sound : ∀ client world reason, client.poison = none →
      (call client world).1 = .error reason → ¬reason.IsNaming) : call.Unnamed where
  sound client world reason after changed healthy ended :=
    sound client world reason healthy (by rw [ended])
  clean client world value after changed healthy ended := by
    have same := still client world
    rw [ended] at same
    cases same
    exact healthy

theorem unnamed_pure (value : α) : (pure value : Call σ α).Unnamed :=
  .of_still (steady_pure value).still fun _ _ _ _ impossible => by cases impossible

theorem unnamed_client : (client : Call σ (Client σ)).Unnamed :=
  .of_still steady_client.still fun _ _ _ _ impossible => by cases impossible

theorem unnamed_reads (read : Client σ → σ → α) : (reads read).Unnamed :=
  .of_still (steady_reads read).still fun _ _ _ _ impossible => by cases impossible

theorem unnamed_check : (check : Call σ Unit).Unnamed := by
  refine .of_still steady_check.still fun client world reason healthy failed => ?_
  rw [check_of_healthy healthy] at failed
  cases failed

theorem unnamed_transport : (transport : Call σ (Transport σ)).Unnamed := by
  refine .of_still steady_transport.still fun client world reason _ failed => ?_
  simp only [transport] at failed
  split at failed
  · cases failed
  · cases failed
    exact Halt.not_isNaming rfl

theorem unnamed_received (answer : Except TransportError α) :
    (received answer : Call σ α).Unnamed := by
  refine .of_still (steady_received answer).still fun client world reason _ failed => ?_
  cases answer with
  | ok value => cases failed
  | error failure =>
      cases failed
      exact Halt.not_isNaming rfl

theorem unnamed_barrier (change : Client σ → Barrier) :
    (update fun client : Client σ => { client with barrier := change client }).Unnamed where
  sound _ _ _ _ _ _ ended := by cases ended
  clean client _ _ _ _ healthy ended := by
    cases ended
    exact healthy

theorem unnamed_request (asked : Request) : (Call.request asked : Call σ asked.Answer).Unnamed := by
  apply Unnamed.bind unnamed_transport
  intro transport
  constructor
  · intro client world reason after changed _ ended
    cases ended
  · intro client world value after changed healthy ended
    cases ended
    exact healthy

/-! ## Waiting -/

theorem unnamed_applyBatch (transport : Transport σ) (events : List Event) :
    (applyBatch transport events).Unnamed where
  sound client world reason after changed _ ended := by
    simp only [applyBatch] at ended
    split at ended
    · cases ended
    · cases ended
      exact Halt.not_isNaming rfl
  clean client world value after changed healthy ended := by
    have frame := (frame_of_applyBatch transport events client world).2
    rw [ended] at frame
    exact frame.trans healthy

theorem unnamed_turn : (turn : Call σ Unit).Unnamed := by
  apply Unnamed.bind unnamed_transport
  intro transport
  apply Unnamed.bind unnamed_client
  intro _
  apply Unnamed.bind (unnamed_request _)
  intro _
  apply Unnamed.bind (unnamed_received _)
  intro events
  apply Unnamed.bind (unnamed_barrier fun client => client.barrier.recordIteration)
  intro _
  exact unnamed_applyBatch transport events

theorem unnamed_settle (patience : Nat) : (settle patience : Call σ Unit).Unnamed := by
  induction patience with
  | zero =>
      apply Unnamed.bind unnamed_client
      intro _
      split
      · exact unnamed_pure _
      · refine .of_still (steady_halt Halt.not_malformed_stalled).still fun _ _ _ _ failed => ?_
        cases failed
        rintro ⟨_, impossible, -⟩
        cases impossible
  | succ patience ih =>
      apply Unnamed.bind unnamed_client
      intro _
      split
      · exact unnamed_pure _
      · exact unnamed_turn.bind fun _ => ih

theorem unnamed_awaitSync : (awaitSync : Call σ Unit).Unnamed := by
  apply Unnamed.bind unnamed_client
  intro _
  apply Unnamed.bind (unnamed_barrier fun _ => _)
  intro _
  apply Unnamed.bind unnamed_transport
  intro _
  apply Unnamed.bind (unnamed_request _)
  intro _
  apply Unnamed.bind (unnamed_received _)
  intro reply
  apply Unnamed.bind (unnamed_barrier fun client => client.barrier.begin reply)
  intro _
  exact (unnamed_reads _).bind unnamed_settle

theorem Unnamed.poisoning {call : Call σ α} (unnamed : call.Unnamed) :
    call.poisoning.Unnamed where
  sound client world reason after changed healthy ended := by
    rcases ran : call client world with ⟨failure | value, next, final⟩
    · have sound := unnamed.sound client world failure next final healthy ran
      simp only [Call.poisoning, onHalt, ran] at ended
      cases ended
      exact sound
    · simp only [Call.poisoning, onHalt, ran] at ended
      cases ended
  clean client world value after changed healthy ended := by
    have returned := (poisoning_eq_iff fun _ impossible => by cases impossible).1 ended
    exact unnamed.clean client world value after changed healthy returned

theorem unnamed_synchronize : (synchronize : Call σ Unit).Unnamed :=
  unnamed_check.bind fun _ => unnamed_awaitSync.poisoning

theorem unnamed_synchronizeUntil (holds : Client σ → σ → Bool) (limit : Nat) :
    (synchronizeUntil holds limit).Unnamed := by
  induction limit with
  | zero => exact unnamed_pure _
  | succ limit ih =>
      apply Unnamed.bind (unnamed_reads _)
      intro done
      split
      · exact unnamed_pure _
      · apply Unnamed.bind unnamed_synchronize
        intro _
        exact ih.bind fun _ => unnamed_pure _

theorem unnamed_waitForEndpoint (endpoint : Endpoint) :
    (waitForEndpoint endpoint : Call σ Publication).Unnamed := by
  apply Unnamed.bind unnamed_check
  intro _
  apply Unnamed.bind unnamed_client
  intro _
  apply Unnamed.bind (unnamed_synchronizeUntil _ _)
  intro _
  apply Unnamed.bind (unnamed_reads _)
  intro assigned
  cases assigned with
  | none => exact unnamed_pure _
  | some node =>
      apply Unnamed.bind (unnamed_synchronizeUntil _ _)
      intro _
      apply Unnamed.bind (unnamed_reads _)
      intro _
      exact unnamed_pure _

theorem unnamed_activate (endpoint : Endpoint) :
    (activate endpoint : Call σ Endpoint).Unnamed := by
  apply Unnamed.bind unnamed_check
  intro _
  split
  · exact unnamed_pure _
  · apply Unnamed.bind (unnamed_request _)
    intro _
    apply Unnamed.bind (unnamed_received _)
    intro _
    exact unnamed_pure _

end Call

namespace Client

variable {record : σ → List Exchange} {client after : Client σ} {world changed : σ}
  {transport : Transport σ}

/-! ## The ports of a new endpoint -/

/-- An endpoint has got more ports, in order, under the handles that the server has given out. -/
structure Extends (endpoint : Endpoint) (ports : List (String × Direction))
    (news : List Exchange) (added : Endpoint) : Prop where
  token : added.token = endpoint.token
  name : added.name = endpoint.name
  ports : added.ports.map (fun port => (port.name, port.direction)) =
    endpoint.ports.map (fun port => (port.name, port.direction)) ++ ports
  tokens : added.ports.map (·.token) = endpoint.ports.map (·.token) ++ news.filterMap Exchange.port?

/-- A port whose name passes is asked for at once. -/
theorem addPort_of_valid (healthy : client.poison = none)
    (opened : client.transport = some transport) {endpoint : Endpoint} {name : String}
    (valid : validatePortName client.config endpoint.name name = .ok ()) (direction : Direction)
    (world : σ) :
    addPort endpoint name direction client world =
      match transport.answer (.addPort endpoint.token direction
        (.ofList [(Key.format, midiFormat), (Key.portName, name)])) world with
      | (some token, changed) =>
        (.ok (token, { endpoint with ports := endpoint.ports ++ [{ token, name, direction }] }),
          client, changed)
      | (none, changed) => (.error (.failed (.portRefused name)), client, changed) := by
  simp only [addPort, Call.bind_of_ok _ (Call.check_of_healthy healthy world)]
  simp only [Call.client, bind, Call.bind, valid, Call.require, pure]
  rw [Call.request_of_open opened]
  simp only
  rcases transport.answer (.addPort endpoint.token direction
    (.ofList [(Key.format, midiFormat), (Key.portName, name)])) world with ⟨_ | token, changed⟩
  · rfl
  · rfl

/-- Ports whose names pass are asked for one after the other, up to the first that is refused. -/
theorem addPorts_of_valid (healthy : client.poison = none)
    (opened : client.transport = some transport) (records : transport.Records record)
    (endpoint : Endpoint) {ports : List (String × Direction)}
    (valid : ∀ port ∈ ports, validatePortName client.config endpoint.name port.1 = .ok ())
    (world : σ) :
    ∃ news changed, record changed = record world ++ news ∧
      ((∃ added, Extends endpoint ports news added ∧
          addPorts endpoint ports client world = (.ok added, client, changed)) ∨
        ∃ name, addPorts endpoint ports client world =
          (.error (.failed (.portRefused name)), client, changed)) := by
  induction ports generalizing endpoint world with
  | nil =>
      refine ⟨[], world, by simp, .inl ⟨endpoint, ⟨rfl, rfl, by simp, by simp⟩, rfl⟩⟩
  | cons port rest ih =>
      rcases port with ⟨name, direction⟩
      rw [List.forall_mem_cons] at valid
      have asked := addPort_of_valid healthy opened valid.1 direction world
      have recorded := records (.addPort endpoint.token direction
        (.ofList [(Key.format, midiFormat), (Key.portName, name)])) world
      rcases answered : transport.answer (.addPort endpoint.token direction
        (.ofList [(Key.format, midiFormat), (Key.portName, name)])) world with
        ⟨_ | token, between⟩
      · rw [answered] at asked recorded
        refine ⟨_, between, recorded, .inr ⟨name, ?_⟩⟩
        rw [addPorts, Call.bind_of_error _ asked]
      · rw [answered] at asked recorded
        rcases ih { endpoint with ports := endpoint.ports ++ [{ token, name, direction }] } valid.2
          between with ⟨news, changed, further, outcome⟩
        rw [recorded, List.append_assoc] at further
        refine ⟨_, changed, further, ?_⟩
        rw [addPorts, Call.bind_of_ok _ asked]
        rcases outcome with ⟨added, extended, ran⟩ | ⟨refused, ran⟩
        · refine .inl ⟨added, ⟨extended.token, extended.name, ?_, ?_⟩, ran⟩
          · simpa using extended.ports
          · simpa [Exchange.port?] using extended.tokens
        · exact .inr ⟨refused, ran⟩

/-- The record has grown, but not by ports. -/
def GrowsPortless (record : σ → List Exchange) (world changed : σ) : Prop :=
  ∃ news, record changed = record world ++ news ∧ news.filterMap Exchange.port? = []

theorem Grows.portless {Allowed : Request → Prop} (grows : Grows record Allowed world changed)
    (others : ∀ node direction props, ¬Allowed (.addPort node direction props)) :
    GrowsPortless record world changed := by
  rcases grows with ⟨news, recorded, allowed⟩
  refine ⟨news, recorded, List.filterMap_eq_nil_iff.2 ?_⟩
  rintro ⟨request, answer⟩ member
  cases request with
  | addPort node direction props => exact absurd (allowed _ member) (others node direction props)
  | _ => rfl

/-- Activating an endpoint changes neither the client nor what the endpoint consists of. -/
theorem activate_ok (records : client.Records record) {endpoint active : Endpoint}
    (ran : activate endpoint client world = (.ok active, after, changed)) :
    after = client ∧ active = { endpoint with active := true } ∧
      GrowsPortless record world changed := by
  rcases Call.bind_eq_ok_iff.1 ran with ⟨_, between, middle, checked, rest⟩
  have still := Call.steady_check.still client world
  rw [checked] at still
  cases still
  split at rest
  case isTrue isActive =>
    cases rest
    exact ⟨rfl, by rw [← isActive], [], by simp, rfl⟩
  case isFalse =>
    rcases Call.bind_eq_ok_iff.1 rest with ⟨answer, next, further, asked, received⟩
    cases opened : client.transport with
    | none =>
        rw [Call.request_of_closed opened] at asked
        cases asked
    | some transport =>
        rw [Call.request_of_open opened] at asked
        have recorded := records transport opened (.activateNode endpoint.token) world
        generalize transport.answer (.activateNode endpoint.token) world = outcome at asked recorded
        rcases outcome with ⟨failure | ⟨⟩, final⟩
        · cases asked
          cases received
        · cases asked
          cases received
          exact ⟨rfl, rfl, _, recorded, rfl⟩

/-- Once all names have been checked, no name stands in the way of an endpoint any more. -/
theorem bringUp_of_valid (healthy : client.poison = none)
    (opened : client.transport = some transport) (records : transport.Records record)
    {endpoint : Endpoint} {ports : List (String × Direction)}
    (valid : ∀ port ∈ ports, validatePortName client.config endpoint.name port.1 = .ok ())
    {result : Except Halt (Publication × Endpoint)}
    (ran : bringUp endpoint ports client world = (result, after, changed)) :
    (∀ reason, result = .error reason → ¬reason.IsNaming) ∧
      ∀ publication final, result = .ok (publication, final) →
        ∃ news, record changed = record world ++ news ∧ Extends endpoint ports news final := by
  have clientRecords : client.Records record := by
    intro other isOpen
    rw [← Option.some.inj (opened.symm.trans isOpen)]
    exact records
  rcases addPorts_of_valid healthy opened records endpoint valid world with
    ⟨early, middle, recorded, ⟨added, extended, adding⟩ | ⟨refused, failed⟩⟩
  · rw [bringUp, Call.bind_of_ok _ adding] at ran
    -- Names are looked at for the ports only; nothing that follows can find one wrong.
    constructor
    · rintro reason rfl
      have unnamed : (activate added >>= fun active => waitForEndpoint active >>= fun publication =>
          pure (publication, active) : Call σ _).Unnamed :=
        (Call.unnamed_activate added).bind fun active =>
          (Call.unnamed_waitForEndpoint active).bind fun _ => Call.unnamed_pure _
      exact unnamed.sound client middle reason after changed healthy ran
    · rintro publication final rfl
      rcases Call.bind_eq_ok_iff.1 ran with ⟨active, next, between, activated, rest⟩
      rcases activate_ok clientRecords activated with ⟨rfl, rfl, activating, recordedNext, portless⟩
      rcases Call.bind_eq_ok_iff.1 rest with ⟨waited, last, final, waiting, returned⟩
      cases returned
      have asks : (waitForEndpoint { added with active := true } : Call σ Publication).Within
          Halt.Never (Asks record fun request => request.isLooping) :=
        (Call.composable_within composes_asks).waitForEndpoint
          (looping_asks fun _ loops => loops).synchronize _
      have asked := asks.always next between clientRecords
      rw [waiting] at asked
      rcases asked.grows.portless (by simp [Request.isLooping]) with
        ⟨waitingNews, recordedLast, alsoPortless⟩
      refine ⟨early ++ activating ++ waitingNews, ?_, ?_⟩
      · rw [recordedLast, recordedNext, recorded, List.append_assoc, List.append_assoc,
          List.append_assoc]
      · refine ⟨extended.token, extended.name, extended.ports, ?_⟩
        simpa [portless, alsoPortless] using extended.tokens
  · rw [bringUp, Call.bind_of_error _ failed] at ran
    cases ran
    constructor
    · rintro reason same
      cases same
      exact Halt.not_isNaming rfl
    · intro publication final impossible
      cases impossible

/-! ## Nodes of a client -/

/-- Every node of the books has been given out, whoever may have destroyed it in the meantime. -/
def granting : Audit (List Exchange) where
  Kept books record := ∀ token ∈ books.nodes, token ∈ record.filterMap Exchange.node?
  Ended _ _ := True
  ownLinks := False
  ownNodes := False

theorem granted_later (records : transport.Records record) {nodes : List NodeToken} {world : σ}
    (kept : ∀ token ∈ nodes, token ∈ (record world).filterMap Exchange.node?) (request : Request) :
    ∀ token ∈ nodes,
      token ∈ (record (transport.answer request world).2).filterMap Exchange.node? := by
  intro token member
  rw [records, List.filterMap_append]
  exact List.mem_append_left _ (kept token member)

theorem upholds_granting (records : transport.Records record) :
    transport.Upholds (granting.along record) where
  subscribing {books world} kept _ := by
    have later := granted_later records kept .subscribeGlobals
    generalize transport.answer .subscribeGlobals world = answered at later ⊢
    rcases answered with ⟨failure | ⟨⟩, changed⟩
    · exact later
    · exact later
  waiting request kept _ := granted_later records kept request
  binding {books world} id kept _ := by
    have later := granted_later records kept (.bindObject id .port)
    generalize transport.answer (.bindObject id .port) world = answered at later ⊢
    rcases answered with ⟨_ | proxy, changed⟩
    · exact later
    · exact granted_later records later (.subscribeInfo proxy)
  releasing kept _ := granted_later records kept _
  linking {books world} output input kept := by
    have later := granted_later records kept
      (.createObject linkFactory .link (Link.properties output input))
    generalize transport.answer
      (.createObject linkFactory .link (Link.properties output input)) world = answered at later ⊢
    rcases answered with ⟨_ | proxy, changed⟩
    · exact later
    · exact later
  unlinking _ kept _ := granted_later records kept _
  enlisting {books world} props kept := by
    have later := granted_later records kept (.createNode props)
    have recorded := records (.createNode props) world
    generalize transport.answer (.createNode props) world = answered at later recorded ⊢
    rcases answered with ⟨_ | token, changed⟩
    · exact later
    · intro other member
      rcases List.mem_append.1 member with old | new
      · exact later other old
      · rw [List.mem_singleton.1 new]
        simp only [recorded, List.filterMap_append]
        simp [Exchange.node?]
  attending kept _ _ := granted_later records kept _
  dismissing node kept _ token member :=
    granted_later records kept (.destroyNode node) token (List.mem_of_mem_filter member)
  disbanding {books world node rest} kept nodes token member :=
    granted_later records kept (.destroyNode node) token
      (nodes ▸ List.mem_cons_of_mem node member)
  leaving {books world} kept := by
    cases books.phase with
    | uninitialized => exact kept
    | listening => exact granted_later records kept .unsubscribeGlobals
    | closed => exact kept
  ending _ := trivial

/-! ## All or nothing -/

/-- Nothing that is known beforehand stands in the way of publishing an endpoint. -/
structure CanPublish (client : Client σ) (name : String) (inputs outputs : Nat) : Prop where
  healthy : client.poison = none
  opened : client.transport.isSome
  publishable : Publishable client.config name inputs outputs

/-- What a call of `publish` has asked for if it failed. -/
inductive Retracts (client : Client σ) (name : String) (inputs outputs : Nat) :
    Halt → List Exchange → Prop where
  | unasked {reason : Halt} (unable : ¬client.CanPublish name inputs outputs) :
    Retracts client name inputs outputs reason []
  | refused {reason : Halt} {props : Properties} (able : client.CanPublish name inputs outputs)
    (other : ¬reason.IsNaming) :
    Retracts client name inputs outputs reason [⟨.createNode props, none⟩]
  /-- The node has been created, and destroyed at the very end. -/
  | destroyed {reason : Halt} {props : Properties} {token : NodeToken} {attempts : List Exchange}
    (able : client.CanPublish name inputs outputs) (other : ¬reason.IsNaming)
    (raising : ∀ exchange ∈ attempts, exchange.request.Raises token) :
    Retracts client name inputs outputs reason
      (⟨.createNode props, some token⟩ :: attempts ++ [⟨.destroyNode token, ()⟩])

/-- What a call of `publish` has achieved if it succeeded. -/
structure Publishes (client after : Client σ) (name : String) (inputs outputs : Nat)
    (endpoint : Endpoint) (asked : List Exchange) : Prop where
  able : client.CanPublish name inputs outputs
  nodes : after.localNodes = client.localNodes ++ [endpoint.token]
  created : asked.filterMap Exchange.node? = [endpoint.token]
  name : endpoint.name = name
  ports : endpoint.ports.map (fun port => (port.name, port.direction)) =
    generatedPorts inputs outputs
  tokens : endpoint.ports.map (·.token) = asked.filterMap Exchange.port?

/-- What has changed with a call of `publish`, by what it has ended with. -/
def AllOrNothing (client after : Client σ) (name : String) (inputs outputs : Nat)
    (asked : List Exchange) : Except Halt (Publication × Endpoint) → Prop
  | .error reason =>
    after.localNodes = client.localNodes ∧ client.Retracts name inputs outputs reason asked
  | .ok (_, endpoint) => client.Publishes after name inputs outputs endpoint asked

variable {name : String} {inputs outputs : Nat}

theorem bringUp_asks (records : client.Records record) (endpoint : Endpoint)
    (ports : List (String × Direction)) (world : σ) :
    Asked record (Request.Raises endpoint.token) (client, world)
      (bringUp endpoint ports client world).2 := by
  have asks : (bringUp endpoint ports : Call σ (Publication × Endpoint)).Within Halt.Never
      (Asks record (Request.Raises endpoint.token)) :=
    (attends_asks (fun _ loops => .inl loops) fun _ attends => .inr attends).bringUp rfl ports
  exact asks.always client world records

/-- To forget the newest node leaves the nodes that there were before it. -/
theorem forget_newest {nodes : List NodeToken} {token : NodeToken} (fresh : token ∉ nodes) :
    (nodes ++ [token]).filter (· ≠ token) = nodes := by
  rw [List.filter_append, Books.forget_of_absent fresh]
  simp

/-- How an endpoint is brought up that nothing known beforehand stands in the way of. -/
structure Raised (record : σ → List Exchange) (endpoint : Endpoint)
    (ports : List (String × Direction)) (before after : Client σ × σ)
    (result : Except Halt (Publication × Endpoint)) (attempts : List Exchange) : Prop where
  transport : after.1.transport = before.1.transport
  nodes : after.1.localNodes = before.1.localNodes
  recorded : record after.2 = record before.2 ++ attempts
  raising : ∀ exchange ∈ attempts, exchange.request.Raises endpoint.token
  unnamed : ∀ reason, result = .error reason → ¬reason.IsNaming
  extended : ∀ publication added, result = .ok (publication, added) →
    Extends endpoint ports attempts added

theorem bringUp_raised {endpoint : Endpoint} {ports : List (String × Direction)}
    {result : Except Halt (Publication × Endpoint)}
    (ran : bringUp endpoint ports client world = (result, after, changed))
    (healthy : client.poison = none) (opened : client.transport = some transport)
    (records : client.Records record)
    (valid : ∀ port ∈ ports, validatePortName client.config endpoint.name port.1 = .ok ()) :
    ∃ attempts, Raised record endpoint ports (client, world) (after, changed) result attempts := by
  have asked := bringUp_asks records endpoint ports world
  rw [ran] at asked
  rcases bringUp_of_valid healthy opened (records transport opened) valid ran with
    ⟨unnamed, succeeded⟩
  rcases asked.grows with ⟨attempts, recorded, raising⟩
  refine ⟨attempts, asked.transport, asked.nodes, recorded, raising, unnamed, ?_⟩
  intro publication added returned
  rcases succeeded publication added returned with ⟨news, alsoRecorded, extended⟩
  rw [List.append_cancel_left (recorded.symm.trans alsoRecorded)]
  exact extended

/-- A node that has been given out since then is none of those that the client had. -/
theorem fresh_of_distinct {props : Properties} {token : NodeToken} {more : List Exchange}
    (granted : ∀ node ∈ client.localNodes, node ∈ (record world).filterMap Exchange.node?)
    (whole : record changed = record world ++ (⟨.createNode props, some token⟩ :: more))
    (distinct : ((record changed).filterMap Exchange.node?).Nodup) : token ∉ client.localNodes := by
  intro member
  rw [whole, List.filterMap_append, List.nodup_append] at distinct
  refine distinct.2.2 token (granted token member) token ?_ rfl
  simp [Exchange.node?]

/-- To have brought up a node that has just been created is to have published it. -/
theorem Raised.publishes {props : Properties} {token : NodeToken} {attempts : List Exchange}
    {publication : Publication} {endpoint : Endpoint} {between : σ}
    (able : client.CanPublish name inputs outputs)
    (raised : Raised record { token, name } (generatedPorts inputs outputs)
      ({ client with localNodes := client.localNodes ++ [token] }, between) (after, changed)
      (.ok (publication, endpoint)) attempts) :
    client.Publishes after name inputs outputs endpoint
      (⟨.createNode props, some token⟩ :: attempts) := by
  have extended := raised.extended publication endpoint rfl
  refine ⟨able, ?_, ?_, extended.name, ?_, ?_⟩
  · rw [extended.token]
    exact raised.nodes
  · rw [List.filterMap_cons, Exchange.nodes_of_raises raised.raising, extended.token]
    rfl
  · simpa using extended.ports
  · have tokens := extended.tokens
    rw [List.map_nil, List.nil_append] at tokens
    exact tokens

/-- What publishing comes to for a client all of whose nodes are on record. -/
theorem publish_spec (records : client.Records record)
    (granted : ∀ node ∈ client.localNodes, node ∈ (record world).filterMap Exchange.node?)
    {result : Except Halt (Publication × Endpoint)}
    (published : publish name inputs outputs client world = (result, after, changed))
    (distinct : ((record changed).filterMap Exchange.node?).Nodup) :
    ∃ asked, record changed = record world ++ asked ∧
      client.AllOrNothing after name inputs outputs asked result := by
  rcases publish_cases name inputs outputs client world with
    ⟨unable, reason, failed⟩ | ⟨transport, opened, healthy, publishable, asked⟩
  · cases failed.symm.trans published
    refine ⟨[], by simp, rfl, .unasked fun able => ?_⟩
    rcases unable with poisoned | invalid | closed
    · simp [able.healthy] at poisoned
    · exact invalid (publishable_iff.2 able.publishable)
    · have opened := able.opened
      simp [closed] at opened
  · have able : client.CanPublish name inputs outputs := ⟨healthy, by simp [opened], publishable⟩
    have recorded := records transport opened
      (.createNode (nodeProperties client.config name)) world
    rcases answered : transport.answer (.createNode (nodeProperties client.config name)) world with
      ⟨_ | token, between⟩
    · rw [answered] at asked recorded
      cases asked.symm.trans published
      exact ⟨_, recorded, rfl, .refused able (Halt.not_isNaming rfl)⟩
    · rw [answered] at asked recorded
      have valid := (validateAll_eq_ok_iff.1 (publishable_iff.2 publishable)).2
      rcases brought : bringUp { token, name } (generatedPorts inputs outputs)
        { client with localNodes := client.localNodes ++ [token] } between with
        ⟨outcome, next, final⟩
      rcases bringUp_raised brought healthy opened records valid with ⟨attempts, raised⟩
      simp only [Call.onHalt, brought] at asked
      rcases outcome with reason | ⟨publication, endpoint⟩
      · have isOpen : next.transport = some transport := raised.transport.trans opened
        simp only [closeEndpoint, isOpen] at asked
        cases asked.symm.trans published
        have whole : record (transport.answer (.destroyNode token) final).2 = record world ++
            (⟨.createNode (nodeProperties client.config name), some token⟩ ::
              attempts ++ [⟨.destroyNode token, ()⟩]) := by
          rw [records transport opened, raised.recorded, recorded]
          simp
        refine ⟨_, whole, ?_, .destroyed able (raised.unnamed reason rfl) raised.raising⟩
        rw [raised.nodes]
        -- The node must be new: one of the same token would be forgotten along with it.
        exact forget_newest (fresh_of_distinct granted whole distinct)
      · cases asked.symm.trans published
        refine ⟨⟨.createNode (nodeProperties client.config name), some token⟩ :: attempts, ?_,
          raised.publishes able⟩
        rw [raised.recorded, recorded]
        simp

/--
Publishing is all or nothing, in whatever state a client has got into, on every transport that does
not give out a node token twice.
-/
theorem publish_all_or_nothing {backend : Backend σ} {config : Config} {observers : List Observer}
    {held : List Link} {client after : Client (σ × List Exchange)}
    {world changed : σ × List Exchange} {result : Except Halt (Publication × Endpoint)}
    (ran : Runs Prod.snd (fun _ _ _ => True) backend.recorded config observers held client world)
    (published : publish name inputs outputs client world = (result, after, changed))
    (distinct : (changed.2.filterMap Exchange.node?).Nodup) :
    ∃ asked, changed.2 = world.2 ++ asked ∧
      client.AllOrNothing after name inputs outputs asked result := by
  have freshBooks : granting.Kept {} [] := by
    intro token member
    cases member
  have lenient : ∀ held (client : Client (σ × List Exchange)) invocation, True →
      client.Permits (granting.along Prod.snd) held invocation := by
    intro held client invocation _
    cases invocation <;> first | exact trivial | exact fun impossible => impossible.elim
  rcases ran.stands backend.records_recorded (fun _ records => upholds_granting records) freshBooks
    lenient with ⟨records, stands⟩
  refine publish_spec records ?_ published distinct
  cases opened : client.transport with
  | none =>
      rw [(stands.ended opened).1]
      simp
  | some transport => exact (stands.kept transport opened).2

/-- A node with two ports is created, but it cannot be activated, and is destroyed again. -/
theorem publish_all_or_nothing_script :
    let script : Script := { activateFailure := some (.rejected "busy") }
    ∃ client opened reason after changed,
      connect Script.backend.recorded .standard [] (script, []) = (.ok client, opened) ∧
      publish "Synth" 1 1 client opened = (.error reason, after, changed) ∧
      ∃ asked, changed.2 = opened.2 ++ asked ∧ asked.length = 5 ∧
        client.AllOrNothing after "Synth" 1 1 asked (.error reason) := by
  intro script
  let probe : Option (Bool × Nat × Nat × List NodeToken) :=
    match connect Script.backend.recorded .standard [] (script, []) with
    | (.ok client, opened) =>
      let (result, _, changed) := publish "Synth" 1 1 client opened
      some (result.isOk, opened.2.length, changed.2.length, changed.2.filterMap Exchange.node?)
    | (.error _, _) => none
  have probed : probe = some (false, 5, 10, [1]) := by decide +kernel
  rcases ready : connect Script.backend.recorded .standard [] (script, []) with
    ⟨refusal | client, opened⟩
  · simp only [probe, ready] at probed
    cases probed
  · rcases published : publish "Synth" 1 1 client opened with ⟨reason | success, after, changed⟩
    · simp only [probe, ready, published, Option.some.injEq, Prod.mk.injEq] at probed
      rcases probed with ⟨-, before, total, nodes⟩
      have ran : Runs Prod.snd (fun _ _ _ => True) Script.backend.recorded .standard [] []
          client opened := .opened rfl ready
      rcases publish_all_or_nothing ran published (by rw [nodes]; decide) with
        ⟨asked, whole, outcome⟩
      refine ⟨client, opened, reason, after, changed, rfl, published, asked, whole, ?_, outcome⟩
      rw [whole, List.length_append, before] at total
      omega
    · simp [probe, ready, published, Except.isOk, Except.toBool] at probed

end Client

end MediaGraph
