import MediaGraph.Client.Lifecycle
import MediaGraph.Proofs.Client.Delivery
import MediaGraph.Proofs.Client.Naming
import MediaGraph.Proofs.Table

/-!
# The books of a client

A client holds proxies of the ports that it listens to, local nodes, and the links that its calls
have returned. These are its `Books`. It takes few steps to which they change: a port is bound or
given up, a link or a node is created or destroyed, and the subscription begins or ends.

An `Audit` is something that the books say about the world. If a transport upholds it in each of
these steps (`Transport.Upholds`), then every call does (`Client.Stands.call`), from the opening of
the client to its end. What books have to do with a server, or with the requests made so far, can be
proved by looking at the steps alone.
-/

namespace MediaGraph

/-- What a client holds on its connection. -/
structure Books where
  phase : Phase := .uninitialized
  bound : Table ObjectId ProxyId := .empty
  links : List Link := []
  nodes : List NodeToken := []

/-- Nothing is forgotten with a node that is not in the books. -/
theorem Books.forget_of_absent {nodes : List NodeToken} {node : NodeToken} (absent : node ∉ nodes) :
    nodes.filter (· ≠ node) = nodes := by
  refine List.filter_eq_self.2 fun other member => ?_
  simp only [ne_eq, decide_not, Bool.not_eq_true', decide_eq_false_iff_not]
  rintro rfl
  exact absent member

/-- What the books say about the world, while the connection lasts and when it has ended. -/
structure Audit (σ : Type) where
  Kept : Books → σ → Prop
  Ended : List Link → σ → Prop
  /-- It is relied on that only links of the books are destroyed. -/
  ownLinks : Prop
  /-- It is relied on that only nodes of the books are attended to and destroyed. -/
  ownNodes : Prop

def Request.isWaiting : Request → Bool
  | drive _ | sync _ => true
  | _ => false

variable {σ : Type}

/-- The requests of a transport do to an audit what they do to the books. -/
structure Transport.Upholds (transport : Transport σ) (audit : Audit σ) : Prop where
  subscribing : ∀ {books world}, audit.Kept books world → books.phase = .uninitialized →
    match transport.answer .subscribeGlobals world with
    | (.ok (), changed) => audit.Kept { books with phase := .listening } changed
    | (.error _, changed) => audit.Kept books changed
  waiting : ∀ {books world} request, audit.Kept books world → request.isWaiting →
    audit.Kept books (transport.answer request world).2
  binding : ∀ {books world} id, audit.Kept books world → books.bound.get? id = none →
    match transport.answer (.bindObject id .port) world with
    | (some proxy, changed) => audit.Kept { books with bound := books.bound.insert id proxy }
        (transport.answer (.subscribeInfo proxy) changed).2
    | (none, changed) => audit.Kept books changed
  releasing : ∀ {books world id proxy}, audit.Kept books world →
    books.bound.get? id = some proxy →
    audit.Kept { books with bound := books.bound.erase id }
      (transport.answer (.destroyProxy proxy) world).2
  linking : ∀ {books world} output input, audit.Kept books world →
    match transport.answer
      (.createObject linkFactory .link (Link.properties output input)) world with
    | (some proxy, changed) =>
      audit.Kept { books with links := { proxy, output, input } :: books.links } changed
    | (none, changed) => audit.Kept books changed
  unlinking : ∀ {books world} link, audit.Kept books world →
    (audit.ownLinks → link ∈ books.links) →
    audit.Kept { books with links := books.links.erase link }
      (transport.answer (.destroyProxy link.proxy) world).2
  enlisting : ∀ {books world} props, audit.Kept books world →
    match transport.answer (.createNode props) world with
    | (some token, changed) => audit.Kept { books with nodes := books.nodes ++ [token] } changed
    | (none, changed) => audit.Kept books changed
  attending : ∀ {books world node request}, audit.Kept books world → request.Attends node →
    (audit.ownNodes → node ∈ books.nodes) → audit.Kept books (transport.answer request world).2
  dismissing : ∀ {books world} node, audit.Kept books world →
    (audit.ownNodes → node ∈ books.nodes) →
    audit.Kept { books with nodes := books.nodes.filter (· ≠ node) }
      (transport.answer (.destroyNode node) world).2
  disbanding : ∀ {books world node rest}, audit.Kept books world → books.nodes = node :: rest →
    audit.Kept { books with nodes := rest } (transport.answer (.destroyNode node) world).2
  leaving : ∀ {books world}, audit.Kept books world →
    audit.Kept { books with phase := .closed }
      (match books.phase with
        | .listening => (transport.answer .unsubscribeGlobals world).2
        | .uninitialized | .closed => world)
  ending : ∀ {links world}, audit.Kept { phase := .closed, links } world →
    audit.Ended links (transport.answer .disconnect world).2

/-- Proxies can be destroyed one after the other. -/
theorem Transport.Upholds.destroyProxies {transport : Transport σ} {audit : Audit σ}
    (upholds : transport.Upholds audit) {books : Books} {world : σ}
    (kept : audit.Kept books world) :
    audit.Kept { books with bound := .empty }
      (Subscriber.destroyProxies transport books.bound.values world) := by
  rcases books with ⟨phase, bound, links, nodes⟩
  simp only
  induction entries : bound.entries generalizing bound world with
  | nil =>
      have empty : bound = .empty := by
        cases bound
        cases entries
        rfl
      rw [empty] at kept ⊢
      exact kept
  | cons head rest ih =>
      have found : bound.get? head.1 = some head.2 :=
        (bound.get?_eq_some_iff head.1 head.2).2 (entries ▸ List.mem_cons_self)
      have erased := Table.entries_erase_head entries
      have values : bound.values = head.2 :: (bound.erase head.1).values := by
        simp [Table.values, entries, erased]
      rw [values]
      exact ih _ (upholds.releasing kept found) erased

theorem Transport.Upholds.destroyNodes {transport : Transport σ} {audit : Audit σ}
    (upholds : transport.Upholds audit) {books : Books} {world : σ}
    (kept : audit.Kept books world) :
    audit.Kept { books with nodes := [] } (Client.destroyNodes transport books.nodes world) := by
  rcases books with ⟨phase, bound, links, nodes⟩
  simp only
  induction nodes generalizing world with
  | nil => exact kept
  | cons node rest ih => exact ih (upholds.disbanding kept rfl)

/-! ## Subscribers -/

namespace Subscriber

def books (subscriber : Subscriber) (links : List Link) (nodes : List NodeToken) : Books where
  phase := subscriber.phase
  bound := subscriber.listened
  links := links
  nodes := nodes

variable {audit : Audit σ} {transport : Transport σ} (upholds : transport.Upholds audit)
  {subscriber after : Subscriber} {world changed : σ} {links : List Link} {nodes : List NodeToken}
  (kept : audit.Kept (subscriber.books links nodes) world)

include upholds kept

theorem kept_start :
    audit.Kept ((subscriber.start transport world).2.1.books links nodes)
      (subscriber.start transport world).2.2 := by
  simp only [start]
  split
  case h_1 fresh =>
    have subscribed := upholds.subscribing kept fresh
    generalize transport.answer .subscribeGlobals world = answered at subscribed ⊢
    rcases answered with ⟨failure | ⟨⟩, changed⟩
    · exact subscribed
    · exact subscribed
  case h_2 => exact kept
  case h_3 => exact kept

theorem kept_release (id : ObjectId) :
    audit.Kept ((subscriber.release transport id world).1.books links nodes)
      (subscriber.release transport id world).2 := by
  simp only [release]
  split
  case h_1 proxy listened => exact upholds.releasing kept listened
  case h_2 => exact kept

theorem kept_announce (id : ObjectId) :
    audit.Kept ((subscriber.announce transport id world).1.books links nodes)
      (subscriber.announce transport id world).2 := by
  have released := kept_release upholds kept id
  have free := listened_release transport id subscriber world id
  simp only [announce]
  generalize subscriber.release transport id world = result at released free ⊢
  rcases result with ⟨bare, between⟩
  have absent : bare.listened.get? id = none := by
    simpa using free
  have asked := upholds.binding id released absent
  rcases answered : transport.answer (.bindObject id .port) between with ⟨_ | proxy, given⟩
  · rw [answered] at asked
    exact asked
  · rw [answered] at asked
    exact asked

theorem kept_handle {event : Event}
    (handled : subscriber.handle transport event world = .ok (after, changed)) :
    audit.Kept (after.books links nodes) changed := by
  by_cases listening : subscriber.phase = .listening
  · rcases handle_cases listening handled with ⟨id, -, result⟩ | ⟨id, props, -, described, rfl⟩ |
      ⟨id, -, result⟩ | ⟨-, -, -, rfl, rfl⟩
    · have announced := kept_announce upholds kept id
      rw [← result] at announced
      exact announced
    · rcases describe_cases described with ⟨-, rfl⟩ | ⟨-, place, graph, -, rfl⟩
      · exact kept
      · exact kept
    · have withdrawn : audit.Kept ((subscriber.withdraw id).books links nodes) world := kept
      have released := kept_release upholds withdrawn id
      rw [← result] at released
      exact released
    · exact kept
  · rw [handle_of_not_listening event listening] at handled
    cases handled
    exact kept

/-- At the end the subscription is given up, and every proxy with it. -/
theorem kept_teardown :
    audit.Kept { phase := .closed, links, nodes } (subscriber.teardown transport world).2 :=
  upholds.destroyProxies (upholds.leaving kept)

end Subscriber

/-! ## Calls -/

namespace Client

variable {audit : Audit σ} {transport : Transport σ} {client after : Client σ}
  {world changed : σ} {links : List Link} {nodes : List NodeToken}

def books (client : Client σ) (links : List Link) : Books :=
  client.subscriber.books links client.localNodes

/-- The audit is in order for a client, whose calls have returned some links. -/
structure Stands (audit : Audit σ) (links : List Link) (client : Client σ) (world : σ) :
    Prop where
  kept : ∀ transport, client.transport = some transport →
    transport.Upholds audit ∧ audit.Kept (client.books links) world
  ended : client.transport = none → client.localNodes = [] ∧ audit.Ended links world

theorem Stands.of_open (opened : client.transport = some transport)
    (upholds : transport.Upholds audit) (kept : audit.Kept (client.books links) world) :
    client.Stands audit links world where
  kept other isOpen := by
    rw [← Option.some.inj (opened.symm.trans isOpen)]
    exact ⟨upholds, kept⟩
  ended closed := by
    rw [opened] at closed
    cases closed

theorem Stands.of_same (stands : client.Stands audit links world)
    (transport : after.transport = client.transport)
    (books : after.books links = client.books links) : after.Stands audit links world where
  kept connection opened := by
    rw [books]
    exact stands.kept connection (transport.symm.trans opened)
  ended closed := by
    have nodes : after.localNodes = client.localNodes := congrArg Books.nodes books
    rw [nodes]
    exact stands.ended (transport.symm.trans closed)

/-- The audit stands for a client with a certain connection and certain nodes. -/
structure Standing (audit : Audit σ) (links : List Link) (connection : Option (Transport σ))
    (nodes : List NodeToken) (state : Client σ × σ) : Prop where
  transport : state.1.transport = connection
  nodes : state.1.localNodes = nodes
  stands : state.1.Stands audit links state.2

variable {connection : Option (Transport σ)}

/-- A step keeps the audit in order, and leaves the connection and the nodes as they are. -/
def Upkeep (audit : Audit σ) (links : List Link) (connection : Option (Transport σ))
    (nodes : List NodeToken) (before after : Client σ × σ) : Prop :=
  Standing audit links connection nodes before → Standing audit links connection nodes after

theorem composes_upkeep : Call.Composes (Upkeep audit links connection nodes) where
  refl _ standing := standing
  trans start rest standing := rest (start standing)

theorem upkeep_answer {request : Request} (opened : client.transport = some transport)
    (answered : transport.Upholds audit → connection = some transport →
      ∀ books : Books, books.nodes = nodes → audit.Kept books world →
        audit.Kept books (transport.answer request world).2) :
    Upkeep audit links connection nodes (client, world)
      (client, (transport.answer request world).2) := by
  rintro ⟨isConnection, isNodes, stands⟩
  rcases stands.kept transport opened with ⟨upholds, kept⟩
  exact ⟨isConnection, isNodes, .of_open opened upholds
    (answered upholds (isConnection.symm.trans opened) _ isNodes kept)⟩

theorem upkeep_of_same (transport : after.transport = client.transport)
    (subscriber : after.subscriber = client.subscriber)
    (sameNodes : after.localNodes = client.localNodes) :
    Upkeep audit links connection nodes (client, world) (after, world) := by
  rintro ⟨isConnection, isNodes, stands⟩
  refine ⟨transport.trans isConnection, sameNodes.trans isNodes, stands.of_same transport ?_⟩
  simp only [books, subscriber, sameNodes]

/-! ## Batches -/

theorem kept_deliverAll (upholds : transport.Upholds audit) (events : List Event)
    (kept : audit.Kept (client.subscriber.books links nodes) world) :
    audit.Kept ((deliverAll transport events client world).2.1.subscriber.books links nodes)
      (deliverAll transport events client world).2.2 := by
  induction events generalizing client world with
  | nil => exact kept
  | cons event rest ih =>
      simp only [deliverAll]
      split
      case h_1 next between delivered =>
        exact ih (Subscriber.kept_handle upholds kept (handle_of_deliver delivered).1)
      case h_2 => exact kept

theorem upkeep_batch (events : List Event) (opened : client.transport = some transport) :
    Upkeep audit links connection nodes (client, world)
      (applyBatch transport events client world).2 := by
  rintro ⟨isConnection, isNodes, stands⟩
  rcases stands.kept transport opened with ⟨upholds, kept⟩
  have delivered := kept_deliverAll upholds events kept
  have frame := frame_of_deliverAll transport events client world
  simp only [applyBatch]
  generalize deliverAll transport events client world = result at delivered frame ⊢
  rcases result with ⟨_ | malformed, next, final⟩
  all_goals
    have sameConnection : next.transport = client.transport := congrArg (·.transport) frame
    have sameNodes : next.localNodes = client.localNodes := congrArg (·.localNodes) frame
    refine ⟨sameConnection.trans isConnection, sameNodes.trans isNodes,
      .of_open (sameConnection.trans opened) upholds ?_⟩
    simp only [books, notify, sameNodes]
    exact delivered

theorem looping_upkeep : Call.Looping (Upkeep audit links connection nodes) where
  toComposes := composes_upkeep
  driving _ _ _ _ opened := upkeep_answer opened fun upholds _ _ _ kept =>
    upholds.waiting (.drive _) kept rfl
  syncing _ _ _ _ opened := upkeep_answer opened fun upholds _ _ _ kept =>
    upholds.waiting (.sync _) kept rfl
  batch _ _ _ events opened := upkeep_batch events opened
  barrier _ _ _ := upkeep_of_same rfl rfl rfl
  poison _ _ _ := upkeep_of_same rfl rfl rfl

theorem attends_upkeep {node : NodeToken}
    (own : audit.ownNodes → connection.isSome → node ∈ nodes) :
    Call.Attends node fun {α : Type} (call : Call σ α) =>
      call.Within Halt.Never (Upkeep audit links connection nodes) where
  toComposable := Call.composable_within composes_upkeep
  attending _ attends := .request composes_upkeep fun _ _ _ opened =>
    upkeep_answer opened fun upholds isOpen _ isNodes kept =>
      upholds.attending kept attends fun owned => isNodes ▸ own owned (by simp [isOpen])
  synchronize := looping_upkeep.synchronize

/-- Calls that create and destroy nothing leave the connection and the nodes as they are. -/
theorem Stands.within {α : Type} {call : Call σ α} (stands : client.Stands audit links world)
    (kept : call.Within Halt.Never (Upkeep audit links client.transport client.localNodes)) :
    Standing audit links client.transport client.localNodes (call client world).2 :=
  kept.always client world ⟨rfl, rfl, stands⟩

/-! ## Links -/

theorem Stands.destroyLink (stands : client.Stands audit links world) (link : Link)
    (own : audit.ownLinks → client.isOpen → link ∈ links) :
    (Client.destroyLink link client world).2.1.Stands audit
      (if client.isOpen then links.erase link else links)
      (Client.destroyLink link client world).2.2 := by
  rcases Option.eq_none_or_eq_some client.transport with closed | ⟨transport, opened⟩
  · simp only [Client.destroyLink, dropProxy, Client.isOpen, closed]
    exact stands
  · have isOpen : client.isOpen := by simp [Client.isOpen, opened]
    rcases stands.kept transport opened with ⟨upholds, kept⟩
    simp only [Client.destroyLink, dropProxy, opened, isOpen]
    exact .of_open opened upholds (upholds.unlinking link kept fun owned => own owned isOpen)

/-- The link that a call returns is in the books; one that could not be waited for is not. -/
theorem Stands.createLink (stands : client.Stands audit links world) (output input : ObjectId) :
    (Client.createLink output input client world).2.1.Stands audit
      (match (Client.createLink output input client world).1 with
        | .ok link => link :: links
        | .error _ => links)
      (Client.createLink output input client world).2.2 := by
  rcases createLink_cases output input client world with
    ⟨reason, failed⟩ | ⟨transport, opened, asked⟩
  · rw [failed]
    exact stands
  · rcases stands.kept transport opened with ⟨upholds, kept⟩
    have linked := upholds.linking output input kept
    rcases answered : transport.answer
      (.createObject linkFactory .link (Link.properties output input)) world with
      ⟨_ | proxy, between⟩
    · rw [answered] at asked linked
      rw [asked]
      exact .of_open opened upholds linked
    · rw [answered] at asked linked
      rw [asked]
      have standing : client.Stands audit ({ proxy, output, input } :: links) between :=
        .of_open opened upholds linked
      have waiting := standing.within looping_upkeep.synchronize
      rcases waited : (synchronize : Call σ Unit) client between with
        ⟨reason | ⟨⟩, next, final⟩
      · rw [waited] at waiting
        have dropped := waiting.stands.destroyLink { proxy, output, input }
          fun _ _ => List.mem_cons_self
        have stillOpen : next.transport = some transport := waiting.transport.trans opened
        have isOpen : next.isOpen := by simp [Client.isOpen, stillOpen]
        rw [if_pos isOpen, List.erase_cons_head] at dropped
        have halted : (synchronize.onHalt fun _ => dropProxy proxy : Call σ Unit) client between =
            (.error reason, (Client.destroyLink { proxy, output, input } next final).2) := by
          simp only [Call.onHalt, waited, Client.destroyLink]
        rw [Call.bind_of_error _ halted]
        exact dropped
      · rw [waited] at waiting
        have returned : (synchronize.onHalt fun _ => dropProxy proxy : Call σ Unit) client between =
            (.ok (), next, final) := by
          simp only [Call.onHalt, waited]
        rw [Call.bind_of_ok _ returned]
        exact waiting.stands

/-! ## Nodes -/

theorem Stands.closeEndpoint (stands : client.Stands audit links world) (endpoint : Endpoint)
    (own : audit.ownNodes → client.isOpen → endpoint.token ∈ client.localNodes) :
    (Client.closeEndpoint endpoint client world).2.1.Stands audit links
      (Client.closeEndpoint endpoint client world).2.2 := by
  simp only [Client.closeEndpoint]
  split
  case h_1 transport opened =>
    have isOpen : client.isOpen := by simp [Client.isOpen, show client.transport = _ from opened]
    rcases stands.kept transport opened with ⟨upholds, kept⟩
    exact .of_open opened upholds
      (upholds.dismissing endpoint.token kept fun owned => own owned isOpen)
  case h_2 closed =>
    have nodes := (stands.ended closed).1
    exact stands.of_same rfl (by simp [books, nodes])

/-- A new node is in the books from the time that the server has given out its token. -/
theorem Stands.enlist (upholds : transport.Upholds audit)
    (kept : audit.Kept (client.books links) world) (opened : client.transport = some transport)
    {props : Properties} {token : NodeToken}
    (answered : transport.answer (.createNode props) world = (some token, changed)) :
    ({ client with localNodes := client.localNodes ++ [token] } : Client σ).Stands audit links
      changed := by
  have enlisted := upholds.enlisting props kept
  rw [answered] at enlisted
  exact .of_open opened upholds enlisted

theorem Stands.createEndpoint (stands : client.Stands audit links world) (name : String) :
    (Client.createEndpoint name client world).2.1.Stands audit links
      (Client.createEndpoint name client world).2.2 := by
  rcases createEndpoint_cases name client world with
    ⟨-, reason, failed⟩ | ⟨transport, opened, asked⟩
  · rw [failed]
    exact stands
  · rcases stands.kept transport opened with ⟨upholds, kept⟩
    rcases answered : transport.answer (.createNode (nodeProperties client.config name)) world with
      ⟨_ | token, between⟩
    · have refused := upholds.enlisting (nodeProperties client.config name) kept
      rw [answered] at asked refused
      rw [asked]
      exact .of_open opened upholds refused
    · rw [answered] at asked
      rw [asked]
      exact .enlist upholds kept opened answered

theorem Stands.publish (stands : client.Stands audit links world) (name : String)
    (inputs outputs : Nat) :
    (Client.publish name inputs outputs client world).2.1.Stands audit links
      (Client.publish name inputs outputs client world).2.2 := by
  rcases publish_cases name inputs outputs client world with
    ⟨-, reason, failed⟩ | ⟨transport, opened, -, -, asked⟩
  · rw [failed]
    exact stands
  · rcases stands.kept transport opened with ⟨upholds, kept⟩
    rcases answered : transport.answer (.createNode (nodeProperties client.config name)) world with
      ⟨_ | token, between⟩
    · have refused := upholds.enlisting (nodeProperties client.config name) kept
      rw [answered] at asked refused
      rw [asked]
      exact .of_open opened upholds refused
    · rw [answered] at asked
      rw [asked]
      have enlisted := Stands.enlist upholds kept opened answered
      have upkeep : (bringUp { token, name } (generatedPorts inputs outputs) : Call σ _).Within
          Halt.Never (Upkeep audit links client.transport (client.localNodes ++ [token])) :=
        (attends_upkeep fun _ _ => by simp).bringUp rfl _
      have brought := enlisted.within upkeep
      simp only [Call.onHalt]
      rcases ran : bringUp { token, name } (generatedPorts inputs outputs)
        { client with localNodes := client.localNodes ++ [token] } between with
        ⟨reason | published, next, final⟩
      · rw [ran] at brought
        apply brought.stands.closeEndpoint
        intro _ _
        rw [brought.nodes]
        simp
      · rw [ran] at brought
        exact brought.stands

/-! ## Opening and closing -/

theorem Stands.close (stands : client.Stands audit links world) :
    (client.close world).1.Stands audit links (client.close world).2 := by
  simp only [Client.close]
  split
  case h_1 => exact stands
  case h_2 transport opened =>
    rcases stands.kept transport opened with ⟨upholds, kept⟩
    have bare := upholds.destroyNodes (Subscriber.kept_teardown upholds kept)
    refine ⟨fun _ isOpen => ?_, fun _ => ⟨rfl, upholds.ending bare⟩⟩
    cases isOpen

theorem upkeep_subscribe :
    (subscribe : Call σ Unit).Within Halt.Never (Upkeep audit links connection nodes) := by
  intro client world _ standing
  have stands : client.Stands audit links world := standing.stands
  rcases Option.eq_none_or_eq_some client.transport with closed | ⟨transport, opened⟩
  · have failed : subscribe client world =
        (.error (.failed (.transport .disconnected)), client, world) := by
      simp [subscribe, Call.transport, bind, Call.bind, closed]
    rw [failed]
    exact standing
  · rcases stands.kept transport opened with ⟨upholds, kept⟩
    have begun := Subscriber.kept_start upholds kept
    have reached : (Call.transport : Call σ _) client world = (.ok transport, client, world) := by
      simp [Call.transport, opened]
    simp only [subscribe, bind, Call.bind, reached]
    generalize client.subscriber.start transport world = result at begun ⊢
    rcases result with ⟨failure | ⟨⟩, subscriber, changed⟩
    · exact ⟨standing.transport, standing.nodes, .of_open opened upholds begun⟩
    · exact ⟨standing.transport, standing.nodes, .of_open opened upholds begun⟩

theorem upkeep_start :
    (start : Call σ Unit).Within Halt.Never (Upkeep audit links connection nodes) :=
  .bind composes_upkeep upkeep_subscribe fun _ =>
    .bind composes_upkeep looping_upkeep.synchronize fun _ => looping_upkeep.synchronize

/-- A client has been opened with its books in order, or what is left of it is. -/
theorem stands_connect {backend : Backend σ} {config : Config} (observers : List Observer)
    {reached : σ} (connected : backend.connect config world = (.ok transport, reached))
    (upholds : transport.Upholds audit) (fresh : audit.Kept {} reached) :
    match connect backend config observers world with
    | (.ok client, changed) => client.transport = some transport ∧ client.Stands audit [] changed
    | (.error _, changed) => audit.Ended [] changed := by
  simp only [connect, connected]
  generalize begun : ({ config, backend := backend.name, transport := some transport, observers } :
    Client σ) = newcomer
  have opened : newcomer.transport = some transport := by rw [← begun]
  have stands : newcomer.Stands audit [] reached := by
    rw [← begun]
    exact .of_open rfl upholds fresh
  have started := stands.within upkeep_start
  generalize start newcomer reached = result at started ⊢
  rcases result with ⟨reason | ⟨⟩, ready, final⟩
  · have ended := started.stands.close
    have closed : (ready.close final).1.transport = none := by
      simp only [Client.close]
      split
      case h_1 isClosed => exact isClosed
      case h_2 => rfl
    exact (ended.ended closed).2
  · exact ⟨started.transport.trans opened, started.stands⟩

/-! ## Every invocation -/

/-- As far as the audit relies on it, an open client is only given back what is in its books. -/
def Permits (audit : Audit σ) (links : List Link) (client : Client σ) : Invocation → Prop
  | .destroyLink link => audit.ownLinks → client.isOpen → link ∈ links
  | .addPort endpoint .. | .renamePort endpoint .. | .removePort endpoint _ | .activate endpoint
  | .closeEndpoint endpoint =>
    audit.ownNodes → client.isOpen → endpoint.token ∈ client.localNodes
  | _ => True

theorem Stands.withoutLink {α : Type} {call : Call σ α}
    (stands : (call client world).2.1.Stands audit links (call client world).2.2) :
    (call.withoutLink client world).2.1.Stands audit links (call.withoutLink client world).2.2 := by
  rw [Call.state_withoutLink]
  exact stands

theorem Stands.unlinked (stands : client.Stands audit links world) {invocation : Invocation}
    (unlinked : invocation.isLinking = false) (permits : client.Permits audit links invocation) :
    (invocation.call client world).2.1.Stands audit links (invocation.call client world).2.2 := by
  have attends : ∀ endpoint : Endpoint,
      (audit.ownNodes → client.isOpen → endpoint.token ∈ client.localNodes) →
      Call.Attends endpoint.token fun {α : Type} (call : Call σ α) =>
        call.Within Halt.Never (Upkeep audit links client.transport client.localNodes) :=
    fun _ own => attends_upkeep own
  cases invocation with
  | createLink | linkByName | destroyLink => cases unlinked
  | pump => exact .withoutLink (stands.within looping_upkeep.pump).stands
  | synchronize => exact .withoutLink (stands.within looping_upkeep.synchronize).stands
  | createEndpoint name => exact .withoutLink (stands.createEndpoint name)
  | addPort endpoint name direction =>
      exact .withoutLink
        (stands.within ((attends endpoint permits).addPort rfl name direction)).stands
  | renamePort endpoint token name =>
      exact .withoutLink
        (stands.within ((attends endpoint permits).renamePort rfl token name)).stands
  | removePort endpoint token =>
      exact .withoutLink (stands.within ((attends endpoint permits).removePort rfl token)).stands
  | activate endpoint =>
      exact .withoutLink (stands.within ((attends endpoint permits).activate rfl)).stands
  | waitForEndpoint endpoint =>
      exact .withoutLink (stands.within ((Call.composable_within composes_upkeep).waitForEndpoint
        looping_upkeep.synchronize endpoint)).stands
  | publish name inputs outputs => exact .withoutLink (stands.publish name inputs outputs)
  | closeEndpoint endpoint => exact .withoutLink (stands.closeEndpoint endpoint permits)
  | observe observer => exact .withoutLink (stands.of_same rfl rfl)
  | close => exact stands.close

theorem Stands.withLink {call : Call σ Link} (leaves : Except Halt (Option Link) → List Link)
    (added : ∀ link, leaves (.ok (some link)) = link :: links)
    (failed : ∀ reason, leaves (.error reason) = links)
    (stands : (call client world).2.1.Stands audit
      (match (call client world).1 with
        | .ok link => link :: links
        | .error _ => links) (call client world).2.2) :
    (call.withLink client world).2.1.Stands audit (leaves (call.withLink client world).1)
      (call.withLink client world).2.2 := by
  rcases ran : call client world with ⟨reason | link, next, final⟩
  · rw [ran] at stands
    rw [Call.withLink, Call.bind_of_error _ ran, failed]
    exact stands
  · rw [ran] at stands
    rw [Call.withLink, Call.bind_of_ok _ ran, Call.pure_apply, added]
    exact stands

/-- Every call keeps the audit in order, with the links that it leaves in the books. -/
theorem Stands.call (stands : client.Stands audit links world) {invocation : Invocation}
    (permits : client.Permits audit links invocation) :
    (invocation.call client world).2.1.Stands audit
      (invocation.leaves client.isOpen links (invocation.call client world).1)
      (invocation.call client world).2.2 := by
  cases linking : invocation.isLinking with
  | false =>
      rw [Invocation.leaves_of_unlinked linking]
      exact stands.unlinked linking permits
  | true =>
      cases invocation with
      | createLink output input =>
          exact .withLink (Invocation.leaves client.isOpen links (.createLink output input))
            (fun _ => rfl) (fun _ => rfl) (stands.createLink output input)
      | linkByName output input =>
          apply Stands.withLink (Invocation.leaves client.isOpen links (.linkByName output input))
            (fun _ => rfl) (fun _ => rfl)
          rcases linkByName_cases output input client world with
            ⟨reason, failed⟩ | ⟨source, target, found⟩
          · rw [failed]
            exact stands
          · rw [found]
            exact stands.createLink source target
      | destroyLink link => exact .withoutLink (stands.destroyLink link permits)
      | _ => cases linking

end Client

end MediaGraph
