import MediaGraph.Client.Endpoint
import MediaGraph.Client.Lifecycle
import MediaGraph.Client.Link
import MediaGraph.Proofs.Client.Call

/-!
# Every call on a client

An `Invocation` is one of the calls that the holder of a client can make, with its arguments. All of
them are made of few things: events that are handled, requests that leave the client as it is, and
some bookkeeping. A property of calls that these have is a property of every invocation
(`Pervasive.invocation`), so what holds of every run has to be checked for them only. That it keeps
a relation between the states before and after is such a property (`Respected`). If the relation
holds across every request whatever, even less is left to check (`Elementary`).
-/

namespace MediaGraph

inductive Invocation where
  | pump
  | synchronize
  | createLink (output input : ObjectId)
  | linkByName (output input : String)
  | destroyLink (link : Link)
  | createEndpoint (name : String)
  | addPort (endpoint : Endpoint) (name : String) (direction : Direction)
  | renamePort (endpoint : Endpoint) (token : PortToken) (name : String)
  | removePort (endpoint : Endpoint) (token : PortToken)
  | activate (endpoint : Endpoint)
  | waitForEndpoint (endpoint : Endpoint)
  | publish (name : String) (inputs outputs : Nat)
  | closeEndpoint (endpoint : Endpoint)
  | observe (observer : Observer)
  | close

namespace Call

variable {σ α β : Type}

def withoutLink (call : Call σ α) : Call σ (Option Link) := do
  let _ ← call
  return none

def withLink (call : Call σ Link) : Call σ (Option Link) := do
  let link ← call
  return some link

end Call

/-- Makes a call; of what it returns only a link is of further use. -/
def Invocation.call {σ : Type} : Invocation → Call σ (Option Link)
  | pump => Client.pump.withoutLink
  | synchronize => Client.synchronize.withoutLink
  | createLink output input => (Client.createLink output input).withLink
  | linkByName output input => (Client.linkByName output input).withLink
  | destroyLink link => (Client.destroyLink link).withoutLink
  | createEndpoint name => (Client.createEndpoint name).withoutLink
  | addPort endpoint name direction => (Client.addPort endpoint name direction).withoutLink
  | renamePort endpoint token name => (Client.renamePort endpoint token name).withoutLink
  | removePort endpoint token => (Client.removePort endpoint token).withoutLink
  | activate endpoint => (Client.activate endpoint).withoutLink
  | waitForEndpoint endpoint => (Client.waitForEndpoint endpoint).withoutLink
  | publish name inputs outputs => (Client.publish name inputs outputs).withoutLink
  | closeEndpoint endpoint => (Client.closeEndpoint endpoint).withoutLink
  | observe observer => (Call.update fun client => client.observe observer).withoutLink
  | close => fun client world => (.ok none, client.close world)

/-- The requests that change nothing about what a client has subscribed to and bound. -/
def Request.isPlain : Request → Bool
  | createNode _ | addPort .. | updatePort .. | removePort .. => true
  | activateNode _ | destroyNode _ => true
  | _ => false

/-- The requests about a node that let it be. -/
inductive Request.Attends (node : NodeToken) : Request → Prop where
  | addPort (direction : Direction) (props : Properties) :
    Attends node (.addPort node direction props)
  | updatePort (port : PortToken) (props : Properties) : Attends node (.updatePort node port props)
  | removePort (port : PortToken) : Attends node (.removePort node port)
  | activateNode : Attends node (.activateNode node)

theorem Request.isPlain_of_attends {node : NodeToken} {request : Request}
    (attends : request.Attends node) : request.isPlain := by
  cases attends <;> rfl

def Invocation.isLinking : Invocation → Bool
  | createLink .. | linkByName .. | destroyLink _ => true
  | _ => false

/-- The links in the hands of a client's holder after a call. A closed client destroys none. -/
def Invocation.leaves (isOpen : Bool) (held : List Link) :
    Invocation → Except Halt (Option Link) → List Link
  | destroyLink link, _ => if isOpen then held.erase link else held
  | _, .ok (some link) => link :: held
  | _, _ => held

namespace Client

/-- Calls lead from one client to the other, each made in whatever state the world was in then. -/
inductive Reaches {σ : Type} : Client σ → Client σ → Prop where
  | refl (client : Client σ) : client.Reaches client
  | call {first current : Client σ} (reached : first.Reaches current) (invocation : Invocation)
    (world : σ) : first.Reaches (invocation.call current world).2.1

/-! ## Checks never find a malformed event -/

theorem namedPort_sound (graph : Graph) (name : String) (expected : Direction) (port : ObjectId)
    (nodeId : String) : namedPort graph name expected ≠ .error (.malformedEvent port nodeId) := by
  simp only [namedPort]
  split
  · nofun
  · split <;> nofun

theorem validateName_sound (config : Config) (name : String) (port : ObjectId) (nodeId : String) :
    validateName config name ≠ .error (.malformedEvent port nodeId) := by
  simp only [validateName]
  split
  · nofun
  · split
    · nofun
    · split <;> nofun

theorem validatePortName_sound (config : Config) (node name : String) (port : ObjectId)
    (nodeId : String) :
    validatePortName config node name ≠ .error (.malformedEvent port nodeId) := by
  simp only [validatePortName]
  split
  case h_1 error failed =>
    rintro same
    cases same
    exact validateName_sound config name port nodeId failed
  case h_2 => split <;> nofun

theorem validateAll_sound (config : Config) (name : String) (ports : List (String × Direction))
    (port : ObjectId) (nodeId : String) :
    validateAll config name ports ≠ .error (.malformedEvent port nodeId) := by
  simp only [validateAll]
  split
  case h_1 error failed =>
    rintro same
    cases same
    exact validateName_sound config name port nodeId failed
  case h_2 =>
    induction ports with
    | nil => nofun
    | cons first rest ih =>
        simp only [List.forM]
        rcases checked : validatePortName config name first.1 with error | ⟨⟩
        · rintro same
          cases same
          exact validatePortName_sound config name first.1 port nodeId checked
        · exact ih

/-! ## How calls begin -/

variable {σ : Type}

theorem createLink_cases (output input : ObjectId) (client : Client σ) (world : σ) :
    (∃ reason, Client.createLink output input client world = (.error reason, client, world)) ∨
      ∃ transport, client.transport = some transport ∧
        match transport.answer
            (.createObject linkFactory .link (Link.properties output input)) world with
        | (none, changed) => Client.createLink output input client world =
            (.error (.failed (.linkRefused output input)), client, changed)
        | (some proxy, changed) => Client.createLink output input client world =
            (do
              (synchronize.onHalt fun _ => dropProxy proxy)
              return { proxy, output, input } : Call σ Link) client changed := by
  cases poison : client.poison with
  | some error =>
      left
      refine ⟨.failed error, ?_⟩
      rw [Client.createLink, Call.bind_of_error _ (Call.check_of_poison poison world)]
  | none =>
      rw [Client.createLink, Call.bind_of_ok _ (Call.check_of_healthy poison world)]
      cases opened : client.transport with
      | none =>
          left
          refine ⟨.failed (.transport .disconnected), ?_⟩
          rw [Call.bind_of_error _ (Call.request_of_closed opened _ world)]
      | some transport =>
          right
          refine ⟨transport, rfl, ?_⟩
          rw [Call.bind_of_ok _ (Call.request_of_open opened _ world)]
          rcases transport.answer
            (.createObject linkFactory .link (Link.properties output input)) world with
            ⟨_ | proxy, changed⟩
          · rfl
          · rfl

theorem linkByName_cases (output input : String) (client : Client σ) (world : σ) :
    (∃ reason, linkByName output input client world = (.error reason, client, world)) ∨
      ∃ source target, linkByName output input client world =
        createLink source target client world := by
  rcases Option.eq_none_or_eq_some client.poison with healthy | ⟨error, poisoned⟩
  · rw [linkByName, Call.bind_of_ok _ (Call.check_of_healthy healthy world), Call.bind_of_ok _ rfl]
    rcases namedPort client.graph output .output with error | source
    · exact .inl ⟨.failed error, rfl⟩
    · rcases namedPort client.graph input .input with error | target
      · exact .inl ⟨.failed error, rfl⟩
      · exact .inr ⟨source, target, rfl⟩
  · refine .inl ⟨.failed error, ?_⟩
    rw [linkByName, Call.bind_of_error _ (Call.check_of_poison poisoned world)]

/-- What makes sure that a local node is not even asked for. -/
def Unable (client : Client σ) (checked : Except Error Unit) : Prop :=
  client.poison.isSome ∨ checked ≠ .ok () ∨ client.transport = none

theorem createEndpoint_cases (name : String) (client : Client σ) (world : σ) :
    (client.Unable (validateName client.config name) ∧
        ∃ reason, createEndpoint name client world = (.error reason, client, world)) ∨
      ∃ transport, client.transport = some transport ∧
        match transport.answer (.createNode (nodeProperties client.config name)) world with
        | (none, changed) => createEndpoint name client world =
            (.error (.failed (.nodeRefused name)), client, changed)
        | (some token, changed) => createEndpoint name client world =
            (.ok { token, name }, { client with localNodes := client.localNodes ++ [token] },
              changed) := by
  rcases Option.eq_none_or_eq_some client.poison with healthy | ⟨error, poisoned⟩
  · rw [createEndpoint, Call.bind_of_ok _ (Call.check_of_healthy healthy world),
      Call.bind_of_ok _ rfl]
    rcases checked : validateName client.config name with error | ⟨⟩
    · exact .inl ⟨.inr (.inl nofun), .failed error, rfl⟩
    · simp only [Call.require, pure_bind]
      rcases Option.eq_none_or_eq_some client.transport with closed | ⟨transport, opened⟩
      · refine .inl ⟨.inr (.inr closed), .failed (.transport .disconnected), ?_⟩
        rw [Call.bind_of_error _ (Call.request_of_closed closed _ world)]
      · refine .inr ⟨transport, opened, ?_⟩
        rw [Call.bind_of_ok _ (Call.request_of_open opened _ world)]
        rcases transport.answer (.createNode (nodeProperties client.config name)) world with
          ⟨_ | token, changed⟩
        · rfl
        · rfl
  · refine .inl ⟨.inl (by simp [poisoned]), .failed error, ?_⟩
    rw [createEndpoint, Call.bind_of_error _ (Call.check_of_poison poisoned world)]

end Client

namespace Call

variable {σ α β : Type} {exempt : Halt → Prop}
  {Related : Client σ × σ → Client σ × σ → Prop}

/-- What is made of the value of a call in the end is nothing to the client and the world. -/
theorem state_bind_pure (call : Call σ α) (result : α → β) (client : Client σ) (world : σ) :
    ((do return result (← call) : Call σ β) client world).2 = (call client world).2 := by
  rcases ran : call client world with ⟨reason | value, after, changed⟩
  · rw [bind_of_error _ ran]
  · rw [bind_of_ok _ ran]
    rfl

theorem state_withoutLink (call : Call σ α) (client : Client σ) (world : σ) :
    (call.withoutLink client world).2 = (call client world).2 :=
  call.state_bind_pure (fun _ => none) client world

theorem withoutLink_ne_some {call : Call σ α} {client after : Client σ} {world changed : σ}
    {link : Link} : call.withoutLink client world ≠ (.ok (some link), after, changed) := by
  intro returned
  rcases ran : call client world with ⟨reason | value, next, final⟩
  · rw [withoutLink, bind_of_error _ ran] at returned
    cases returned
  · rw [withoutLink, bind_of_ok _ ran] at returned
    cases returned

theorem of_withLink {call : Call σ Link} {client after : Client σ} {world changed : σ} {link : Link}
    (returned : call.withLink client world = (.ok (some link), after, changed)) :
    call client world = (.ok link, after, changed) := by
  rcases ran : call client world with ⟨reason | value, next, final⟩
  · rw [withLink, bind_of_error _ ran] at returned
    cases returned
  · rw [withLink, bind_of_ok _ ran] at returned
    cases returned
    rfl

theorem Composable.withoutLink {Holds : ∀ {α : Type}, Call σ α → Prop}
    (composable : Composable Holds) {call : Call σ α} (holds : Holds call) :
    Holds call.withoutLink :=
  composable.bind holds fun _ => composable.steady (steady_pure _)

theorem Composable.withLink {Holds : ∀ {α : Type}, Call σ α → Prop}
    (composable : Composable Holds) {call : Call σ Link} (holds : Holds call) :
    Holds call.withLink :=
  composable.bind holds fun _ => composable.steady (steady_pure _)

end Call

/-- Only calls that have to do with links change which links there are. -/
theorem Invocation.leaves_of_unlinked {σ : Type} {invocation : Invocation}
    (unlinked : invocation.isLinking = false) (isOpen : Bool) (held : List Link)
    (client : Client σ) (world : σ) :
    invocation.leaves isOpen held (invocation.call client world).1 = held := by
  rcases ran : (invocation.call client world) with ⟨reason | (_ | link), after, changed⟩
  · cases invocation <;> first | rfl | cases unlinked
  · cases invocation <;> first | rfl | cases unlinked
  · cases invocation with
    | createLink | linkByName | destroyLink => cases unlinked
    | close => cases ran
    | _ => exact absurd ran Call.withoutLink_ne_some

namespace Call

variable {σ α β : Type} {exempt : Halt → Prop}
  {Related : Client σ × σ → Client σ × σ → Prop}

/-! ## Calls put together -/

theorem Composable.createLink {Holds : ∀ {α : Type}, Call σ α → Prop}
    (composable : Composable Holds) {output input : ObjectId}
    (request : Holds (Call.request
      (.createObject linkFactory .link (Link.properties output input))))
    (guarded : ∀ proxy, Holds (Client.synchronize.onHalt fun _ => Client.dropProxy proxy)) :
    Holds (Client.createLink output input) := by
  apply composable.bind (composable.steady steady_check)
  intro _
  apply composable.bind request
  intro _
  apply composable.bind (composable.steady (steady_granted (by nofun) _))
  intro proxy
  apply composable.bind (guarded proxy)
  intro _
  exact composable.steady (steady_pure _)

theorem Composable.linkByName {Holds : ∀ {α : Type}, Call σ α → Prop}
    (composable : Composable Holds) (output input : String)
    (createLink : ∀ output input, Holds (Client.createLink output input)) :
    Holds (Client.linkByName output input : Call σ Link) := by
  apply composable.bind (composable.steady steady_check)
  intro _
  apply composable.bind (composable.steady steady_client)
  intro _
  apply composable.bind (composable.steady (steady_require (Client.namedPort_sound _ _ _)))
  intro _
  apply composable.bind (composable.steady (steady_require (Client.namedPort_sound _ _ _)))
  intro _
  exact createLink _ _

theorem Composable.synchronizeUntil {Holds : ∀ {α : Type}, Call σ α → Prop}
    (composable : Composable Holds) (synchronize : Holds (Client.synchronize : Call σ Unit))
    (holds : Client σ → σ → Bool) (limit : Nat) : Holds (Client.synchronizeUntil holds limit) := by
  induction limit with
  | zero => exact composable.steady (steady_pure _)
  | succ limit ih =>
      apply composable.bind (composable.steady (steady_reads _))
      intro done
      split
      · exact composable.steady (steady_pure _)
      · apply composable.bind synchronize
        intro _
        apply composable.bind ih
        intro _
        exact composable.steady (steady_pure _)

theorem Composable.waitForEndpoint {Holds : ∀ {α : Type}, Call σ α → Prop}
    (composable : Composable Holds) (synchronize : Holds (Client.synchronize : Call σ Unit))
    (endpoint : Endpoint) : Holds (Client.waitForEndpoint endpoint : Call σ Publication) := by
  apply composable.bind (composable.steady steady_check)
  intro _
  apply composable.bind (composable.steady steady_client)
  intro _
  apply composable.bind (composable.synchronizeUntil synchronize _ _)
  intro _
  apply composable.bind (composable.steady (steady_reads _))
  intro assigned
  cases assigned with
  | none => exact composable.steady (steady_pure _)
  | some node =>
      apply composable.bind (composable.synchronizeUntil synchronize _ _)
      intro _
      apply composable.bind (composable.steady (steady_reads _))
      intro _
      exact composable.steady (steady_pure _)

/-! ## Calls about one node -/

/--
A property of calls that goes through the ways in which calls about one node are put together, and
that those requests have which are about the node and let it be.
-/
structure Attends (node : NodeToken) (Holds : ∀ {α : Type}, Call σ α → Prop) : Prop
    extends Composable Holds where
  attending : ∀ request : Request, request.Attends node → Holds (Call.request request)
  synchronize : Holds (Client.synchronize : Call σ Unit)

namespace Attends

variable {Holds : ∀ {α : Type}, Call σ α → Prop} {node : NodeToken}
  (attends : Attends node Holds) {endpoint : Endpoint} (own : endpoint.token = node)

include attends own

/-- Whatever is done with an endpoint that has a port more is done with the same node. -/
theorem addPort_bind (name : String) (direction : Direction)
    {next : PortToken × Endpoint → Call σ β}
    (rest : ∀ added : PortToken × Endpoint, added.2.token = endpoint.token → Holds (next added)) :
    Holds (Client.addPort endpoint name direction >>= next) := by
  subst own
  simp only [Client.addPort, bind_assoc, pure_bind]
  apply attends.bind (attends.steady steady_check)
  intro _
  apply attends.bind (attends.steady steady_client)
  intro _
  apply attends.bind (attends.steady (steady_require (Client.validatePortName_sound _ _ _)))
  intro _
  apply attends.bind (attends.attending _ (.addPort _ _))
  intro _
  apply attends.bind (attends.steady (steady_granted (by nofun) _))
  intro token
  exact rest _ rfl

theorem addPort (name : String) (direction : Direction) :
    Holds (Client.addPort endpoint name direction : Call σ (PortToken × Endpoint)) := by
  rw [← bind_pure (Client.addPort endpoint name direction)]
  exact attends.addPort_bind own name direction fun _ _ => attends.steady (steady_pure _)

theorem renamePort (token : PortToken) (name : String) :
    Holds (Client.renamePort endpoint token name : Call σ Endpoint) := by
  subst own
  apply attends.bind (attends.steady steady_check)
  intro _
  apply attends.bind (attends.steady steady_client)
  intro _
  apply attends.bind (attends.steady (steady_require (Client.validatePortName_sound _ _ _)))
  intro _
  split
  · apply attends.bind (attends.attending _ (.updatePort _ _))
    intro _
    exact attends.steady (steady_pure _)
  · exact attends.steady (steady_fail (by nofun))

theorem removePort (token : PortToken) :
    Holds (Client.removePort endpoint token : Call σ Endpoint) := by
  subst own
  apply attends.bind (attends.steady steady_check)
  intro _
  split
  · apply attends.bind (attends.attending _ (.removePort _))
    intro _
    exact attends.steady (steady_pure _)
  · exact attends.steady (steady_fail (by nofun))

theorem activate_bind {next : Endpoint → Call σ β}
    (rest : ∀ active : Endpoint, active.token = endpoint.token → Holds (next active)) :
    Holds (Client.activate endpoint >>= next) := by
  subst own
  simp only [Client.activate, bind_assoc]
  apply attends.bind (attends.steady steady_check)
  intro _
  split
  · rw [pure_bind]
    exact rest _ rfl
  · simp only [bind_assoc, pure_bind]
    apply attends.bind (attends.attending _ .activateNode)
    intro _
    apply attends.bind (attends.steady (steady_received _))
    intro _
    exact rest _ rfl

theorem activate : Holds (Client.activate endpoint : Call σ Endpoint) := by
  rw [← bind_pure (Client.activate endpoint)]
  exact attends.activate_bind own fun _ _ => attends.steady (steady_pure _)

theorem addPorts_bind (ports : List (String × Direction)) {next : Endpoint → Call σ β}
    (rest : ∀ added : Endpoint, added.token = endpoint.token → Holds (next added)) :
    Holds (Client.addPorts endpoint ports >>= next) := by
  induction ports generalizing endpoint with
  | nil =>
      rw [Client.addPorts, pure_bind]
      exact rest endpoint rfl
  | cons port others ih =>
      rw [Client.addPorts, bind_assoc]
      apply attends.addPort_bind own
      intro added same
      exact ih (same.trans own) fun final isSame => rest final (isSame.trans same)

theorem bringUp (ports : List (String × Direction)) :
    Holds (Client.bringUp endpoint ports : Call σ (Publication × Endpoint)) := by
  apply attends.addPorts_bind own
  intro added same
  apply attends.activate_bind (same.trans own)
  intro active _
  apply attends.bind (attends.toComposable.waitForEndpoint attends.synchronize active)
  intro publication
  exact attends.steady (steady_pure _)

end Attends

/-! ## Every invocation -/

/--
A property of calls that goes through the ways in which invocations are put together, and that the
calls have which invocations are made of. Links have a property of their own.
-/
structure Ordinary (Holds : ∀ {α : Type}, Call σ α → Prop) : Prop extends Composable Holds where
  plain : ∀ request : Request, request.isPlain → Holds (Call.request request)
  enlist : ∀ token, Holds (update fun client =>
    { client with localNodes := client.localNodes ++ [token] })
  closeEndpoint : ∀ endpoint, Holds (Client.closeEndpoint endpoint)
  closing : ∀ {α : Type} {call : Call σ α} endpoint, Holds call →
    Holds (call.onHalt fun _ => Client.closeEndpoint endpoint)
  pump : Holds (Client.pump : Call σ Unit)
  synchronize : Holds (Client.synchronize : Call σ Unit)
  observe : ∀ observer, Holds (update fun client => client.observe observer)
  close : Holds fun client world => (.ok (none : Option Link), client.close world)

/-- A property that invocations have, also those that create links. -/
structure Pervasive (Holds : ∀ {α : Type}, Call σ α → Prop) : Prop extends Ordinary Holds where
  createLink : ∀ output input, Holds (Client.createLink output input)


namespace Ordinary

variable {Holds : ∀ {α : Type}, Call σ α → Prop} (ordinary : Ordinary Holds)

include ordinary

theorem attends (node : NodeToken) : Attends node Holds where
  toComposable := ordinary.toComposable
  attending request attends := ordinary.plain request (Request.isPlain_of_attends attends)
  synchronize := ordinary.synchronize

theorem createEndpoint (name : String) :
    Holds (Client.createEndpoint name : Call σ Endpoint) := by
  apply ordinary.bind (ordinary.steady steady_check)
  intro _
  apply ordinary.bind (ordinary.steady steady_client)
  intro _
  apply ordinary.bind (ordinary.steady (steady_require (Client.validateName_sound _ _)))
  intro _
  apply ordinary.bind (ordinary.plain _ rfl)
  intro _
  apply ordinary.bind (ordinary.steady (steady_granted (by nofun) _))
  intro token
  apply ordinary.bind (ordinary.enlist token)
  intro _
  exact ordinary.steady (steady_pure _)

theorem publish (name : String) (inputs outputs : Nat) :
    Holds (Client.publish name inputs outputs : Call σ (Publication × Endpoint)) := by
  apply ordinary.bind (ordinary.steady steady_check)
  intro _
  apply ordinary.bind (ordinary.steady steady_client)
  intro _
  apply ordinary.bind (ordinary.steady (steady_require (Client.validateAll_sound _ _ _)))
  intro _
  apply ordinary.bind (ordinary.createEndpoint name)
  intro endpoint
  exact ordinary.closing endpoint ((ordinary.attends endpoint.token).bringUp rfl _)

/-- Every invocation that has nothing to do with links has the property. -/
theorem invocation {invocation : Invocation} (unlinked : invocation.isLinking = false) :
    Holds (invocation.call : Call σ (Option Link)) := by
  have attends := ordinary.attends
  cases invocation with
  | pump => exact ordinary.toComposable.withoutLink ordinary.pump
  | synchronize => exact ordinary.toComposable.withoutLink ordinary.synchronize
  | createLink | linkByName | destroyLink => cases unlinked
  | createEndpoint name => exact ordinary.toComposable.withoutLink (ordinary.createEndpoint name)
  | addPort endpoint name direction =>
      exact ordinary.toComposable.withoutLink ((attends endpoint.token).addPort rfl name direction)
  | renamePort endpoint token name =>
      exact ordinary.toComposable.withoutLink ((attends endpoint.token).renamePort rfl token name)
  | removePort endpoint token =>
      exact ordinary.toComposable.withoutLink ((attends endpoint.token).removePort rfl token)
  | activate endpoint =>
      exact ordinary.toComposable.withoutLink ((attends endpoint.token).activate rfl)
  | waitForEndpoint endpoint =>
      exact ordinary.toComposable.withoutLink
        (ordinary.toComposable.waitForEndpoint ordinary.synchronize endpoint)
  | publish name inputs outputs =>
      exact ordinary.toComposable.withoutLink (ordinary.publish name inputs outputs)
  | closeEndpoint endpoint =>
      exact ordinary.toComposable.withoutLink (ordinary.closeEndpoint endpoint)
  | observe observer => exact ordinary.toComposable.withoutLink (ordinary.observe observer)
  | close => exact ordinary.close

end Ordinary

namespace Pervasive

variable {Holds : ∀ {α : Type}, Call σ α → Prop} (pervasive : Pervasive Holds)

include pervasive

/--
Every invocation has the property. Which links may be destroyed is up to the property, because a
link is no more than a handle on the connection.
-/
theorem invocation (invocation : Invocation)
    (links : ∀ link, invocation = .destroyLink link →
      Holds (Client.destroyLink link : Call σ Unit)) :
    Holds (invocation.call : Call σ (Option Link)) := by
  cases linking : invocation.isLinking with
  | false => exact pervasive.toOrdinary.invocation linking
  | true =>
      cases invocation with
      | createLink output input =>
          exact pervasive.toComposable.withLink (pervasive.createLink output input)
      | linkByName output input =>
          exact pervasive.toComposable.withLink
            (pervasive.toComposable.linkByName output input pervasive.createLink)
      | destroyLink link => exact pervasive.toComposable.withoutLink (links link rfl)
      | _ => cases linking

end Pervasive

/-! ## Relations that invocations keep -/

/-- A relation that holds across what invocations are made of, apart from what concerns links. -/
structure Regular (Related : Client σ × σ → Client σ × σ → Prop) : Prop
    extends Composes Related where
  asking : ∀ client world (transport : Transport σ) request, client.transport = some transport →
    request.isPlain → Related (client, world) (client, (transport.answer request world).2)
  bookkeeping : ∀ client world nodes,
    Related (client, world) ({ client with localNodes := nodes }, world)
  pump : Client.pump.Within Halt.Never Related
  synchronize : Client.synchronize.Within Halt.Never Related
  observe : ∀ client world observer, Related (client, world) (client.observe observer, world)
  close : ∀ client world, Related (client, world) (client.close world)

/-- A relation that holds across what invocations are made of. -/
structure Respected (Related : Client σ × σ → Client σ × σ → Prop) : Prop
    extends Regular Related where
  createLink : ∀ output input, (Client.createLink output input).Within Halt.Never Related

namespace Regular

variable (regular : Regular Related)

include regular

theorem closeEndpoint (endpoint : Endpoint) :
    (Client.closeEndpoint endpoint : Call σ Unit).Within Halt.Never Related := by
  intro client world _
  simp only [Client.closeEndpoint]
  have forgotten := regular.bookkeeping client world
    (client.localNodes.filter (· ≠ endpoint.token))
  split
  case h_1 transport opened =>
    exact regular.trans forgotten
      (regular.asking _ world transport (.destroyNode endpoint.token) opened rfl)
  case h_2 => exact forgotten

theorem ordinary :
    Ordinary fun {α : Type} (call : Call σ α) => call.Within Halt.Never Related where
  toComposable := composable_within regular.toComposes
  plain request plain := .request regular.toComposes fun client world transport opened =>
    regular.asking client world transport request opened plain
  enlist _ := .update fun client world => regular.bookkeeping client world _
  closeEndpoint := regular.closeEndpoint
  closing endpoint kept := .onHalt regular.toComposes kept fun _ =>
    regular.closeEndpoint endpoint
  pump := regular.pump
  synchronize := regular.synchronize
  observe observer := .update fun client world => regular.observe client world observer
  close client world _ := regular.close client world

end Regular

namespace Respected

variable (respected : Respected Related)

include respected

theorem pervasive :
    Pervasive fun {α : Type} (call : Call σ α) => call.Within Halt.Never Related where
  toOrdinary := respected.ordinary
  createLink := respected.createLink

/-- Every invocation respects the relation, if those do that destroy links. -/
theorem invocation (invocation : Invocation)
    (links : ∀ link, invocation = .destroyLink link →
      (Client.destroyLink link : Call σ Unit).Within Halt.Never Related) :
    (invocation.call : Call σ (Option Link)).Within Halt.Never Related :=
  respected.pervasive.invocation invocation links

end Respected

/-! ## Relations that the event loop keeps -/

/-- A relation that holds across what the event loop does by itself. -/
structure Looping (Related : Client σ × σ → Client σ × σ → Prop) : Prop
    extends Composes Related where
  driving : ∀ client world (transport : Transport σ) timeout, client.transport = some transport →
    Related (client, world) (client, (transport.answer (.drive timeout) world).2)
  syncing : ∀ client world (transport : Transport σ) sequence, client.transport = some transport →
    Related (client, world) (client, (transport.answer (.sync sequence) world).2)
  batch : ∀ client world (transport : Transport σ) events, client.transport = some transport →
    Related (client, world) (Client.applyBatch transport events client world).2
  barrier : ∀ client world barrier,
    Related (client, world) ({ client with barrier := barrier }, world)
  poison : ∀ client world poison, Related (client, world) ({ client with poison := poison }, world)

namespace Looping

variable (looping : Looping Related)

include looping

theorem turn : (Client.turn : Call σ Unit).Within Halt.Never Related :=
  Client.within_turn looping.toComposes looping.driving looping.barrier looping.batch

theorem poisoning {call : Call σ α} (kept : call.Within Halt.Never Related) :
    call.poisoning.Within Halt.Never Related := by
  apply Within.onHalt looping.toComposes kept
  intro reason
  split
  · exact .update fun client world => looping.poison client world _
  · exact .of_still looping.toComposes (steady_pure _).still

theorem awaitSync : (Client.awaitSync : Call σ Unit).Within Halt.Never Related :=
  (waits_within looping.toComposes looping.barrier looping.syncing looping.turn).awaitSync

theorem synchronize : (Client.synchronize : Call σ Unit).Within Halt.Never Related :=
  .still_bind looping.toComposes steady_check.still fun _ => looping.poisoning looping.awaitSync

theorem pump : (Client.pump : Call σ Unit).Within Halt.Never Related :=
  .still_bind looping.toComposes steady_check.still fun _ => looping.poisoning looping.turn

end Looping

/-! ## Relations that hold across every request -/

/-- A relation that holds across every request, every batch and every change of bookkeeping. -/
structure Elementary (Related : Client σ × σ → Client σ × σ → Prop) : Prop
    extends Composes Related where
  asking : ∀ client world (transport : Transport σ) request, client.transport = some transport →
    Related (client, world) (client, (transport.answer request world).2)
  batch : ∀ client world (transport : Transport σ) events, client.transport = some transport →
    Related (client, world) (Client.applyBatch transport events client world).2
  barrier : ∀ client world barrier,
    Related (client, world) ({ client with barrier := barrier }, world)
  poison : ∀ client world poison, Related (client, world) ({ client with poison := poison }, world)
  bookkeeping : ∀ client world nodes,
    Related (client, world) ({ client with localNodes := nodes }, world)
  observe : ∀ client world observer, Related (client, world) (client.observe observer, world)
  close : ∀ client world, Related (client, world) (client.close world)

namespace Elementary

variable (elementary : Elementary Related)

include elementary

theorem request (asked : Request) :
    (Call.request asked : Call σ asked.Answer).Within Halt.Never Related :=
  .request elementary.toComposes fun client world transport opened =>
    elementary.asking client world transport asked opened

theorem looping : Looping Related where
  toComposes := elementary.toComposes
  driving client world transport timeout opened :=
    elementary.asking client world transport (.drive timeout) opened
  syncing client world transport sequence opened :=
    elementary.asking client world transport (.sync sequence) opened
  batch := elementary.batch
  barrier := elementary.barrier
  poison := elementary.poison

theorem dropProxy (proxy : ProxyId) :
    (Client.dropProxy proxy : Call σ Unit).Within Halt.Never Related := by
  intro client world _
  simp only [Client.dropProxy]
  split
  case h_1 transport opened =>
    exact elementary.asking client world transport (.destroyProxy proxy) opened
  case h_2 => exact elementary.refl (client, world)

theorem respected : Respected Related where
  toComposes := elementary.toComposes
  asking client world transport request opened _ :=
    elementary.asking client world transport request opened
  bookkeeping := elementary.bookkeeping
  pump := elementary.looping.pump
  synchronize := elementary.looping.synchronize
  createLink output input := by
    apply (composable_within elementary.toComposes).createLink (elementary.request _)
    intro proxy
    exact .onHalt elementary.toComposes elementary.looping.synchronize fun _ =>
      elementary.dropProxy proxy
  observe := elementary.observe
  close := elementary.close

theorem invocation (invocation : Invocation) :
    (invocation.call : Call σ (Option Link)).Within Halt.Never Related :=
  elementary.respected.invocation invocation fun link _ => elementary.dropProxy link.proxy

end Elementary

end Call

end MediaGraph
