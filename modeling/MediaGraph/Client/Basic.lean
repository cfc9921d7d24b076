import MediaGraph.Barrier
import MediaGraph.Subscriber

/-!
# Clients and their calls

A `Client` is one connection to a server and the graph built from what the server tells. A call on
a client may change the client and the world, and either returns a value or halts; `Call` is the
monad of such calls. A call that halts keeps the changes made before.

Two things stand out in the record. A client without a transport is closed. A client with a
`poison` has met a malformed event and answers every later call with that failure.
-/

namespace MediaGraph

inductive Interest where
  | all
  | added
  | removed
  deriving DecidableEq

def Interest.hears : Interest → Change → Bool
  | all, _ => true
  | added, .added _ => true
  | removed, .removed _ => true
  | _, _ => false

/-- Someone who is told about the changes of a graph. -/
structure Observer where
  label : String
  interest : Interest := .all
  deriving DecidableEq

/-- A change told to one observer, who is given by position. -/
structure Notice where
  observer : Nat
  change : Change
  deriving DecidableEq

/-- One connection to a server, with the graph that it keeps. -/
structure Client (σ : Type) where
  config : Config
  backend : String
  /-- The connection, until it is closed. -/
  transport : Option (Transport σ)
  subscriber : Subscriber := {}
  barrier : Barrier := {}
  /-- The malformed event that ended the client's useful life. -/
  poison : Option Error := none
  /-- Local nodes that have not been destroyed, oldest first. -/
  localNodes : List NodeToken := []
  observers : List Observer := []
  /-- Everything that the observers have been told, oldest first. -/
  notices : List Notice := []

inductive Halt where
  | failed (error : Error)
  /-- The transport went on without acknowledging a sync for longer than it promised. -/
  | stalled
  deriving DecidableEq

/-- A call on a client: it may change the client and the world, and returns a value or halts. -/
def Call (σ α : Type) : Type := Client σ → σ → Except Halt α × Client σ × σ

namespace Call

variable {σ α β : Type}

protected def bind (first : Call σ α) (next : α → Call σ β) : Call σ β := fun client world =>
  match first client world with
  | (.ok value, client, world) => next value client world
  | (.error halt, client, world) => (.error halt, client, world)

instance : Monad (Call σ) where
  pure value := fun client world => (.ok value, client, world)
  bind := Call.bind

def halt (reason : Halt) : Call σ α := fun client world => (.error reason, client, world)

def fail (error : Error) : Call σ α := halt (.failed error)

/-- Does something more before a halted call ends. -/
def onHalt (call : Call σ α) (cleanUp : Halt → Call σ Unit) : Call σ α := fun client world =>
  match call client world with
  | (.error reason, client, world) =>
    let (_, client, world) := cleanUp reason client world
    (.error reason, client, world)
  | done => done

def client : Call σ (Client σ) := fun client world => (.ok client, client, world)

def reads (read : Client σ → σ → α) : Call σ α := fun client world =>
  (.ok (read client world), client, world)

def update (change : Client σ → Client σ) : Call σ Unit := fun client world =>
  (.ok (), change client, world)

/-- The value of a check, or its failure. -/
def require : Except Error α → Call σ α
  | .ok value => pure value
  | .error error => fail error

/-- The value of an answer, or the failure of the transport. -/
def received : Except TransportError α → Call σ α
  | .ok value => pure value
  | .error error => fail (.transport error)

/-- The handle that a request was answered with, or the failure that the refusal means. -/
def granted (refusal : Error) : Option α → Call σ α
  | some handle => pure handle
  | none => fail refusal

/-- The open transport; a closed client is disconnected. -/
def transport : Call σ (Transport σ) := fun client world =>
  match client.transport with
  | some transport => (.ok transport, client, world)
  | none => (.error (.failed (.transport .disconnected)), client, world)

def request (request : Request) : Call σ request.Answer := do
  let transport ← transport
  fun client world =>
    let (answer, world) := transport.answer request world
    (.ok answer, client, world)

def check : Call σ Unit := do
  match (← client).poison with
  | some error => fail error
  | none => pure ()

def poisoning (call : Call σ α) : Call σ α :=
  call.onHalt fun
    | .failed (.malformedEvent port nodeId) =>
      update fun client => { client with poison := some (.malformedEvent port nodeId) }
    | _ => pure ()

/-! ## How calls run -/

theorem pure_apply (value : α) (client : Client σ) (world : σ) :
    (pure value : Call σ α) client world = (.ok value, client, world) := rfl

theorem bind_of_ok {first : Call σ α} (next : α → Call σ β) {before after : Client σ}
    {world changed : σ} {value : α} (ran : first before world = (.ok value, after, changed)) :
    (first >>= next) before world = next value after changed := by
  simp only [bind, Call.bind, ran]

theorem bind_of_error {first : Call σ α} (next : α → Call σ β) {before after : Client σ}
    {world changed : σ} {reason : Halt}
    (ran : first before world = (.error reason, after, changed)) :
    (first >>= next) before world = (.error reason, after, changed) := by
  simp only [bind, Call.bind, ran]

theorem id_map (call : Call σ α) : id <$> call = call := by
  funext client world
  rcases ran : call client world with ⟨reason | value, after, changed⟩
  · simp only [Functor.map, Call.bind, ran]
  · simp only [Functor.map, Call.bind, ran]
    rfl

theorem bind_assoc {γ : Type} (first : Call σ α) (second : α → Call σ β) (third : β → Call σ γ) :
    first >>= second >>= third = first >>= fun value => second value >>= third := by
  funext client world
  rcases ran : first client world with ⟨_ | _, _, _⟩ <;> simp [bind, Call.bind, ran]

instance : LawfulMonad (Call σ) :=
  LawfulMonad.mk' (Call σ) id_map (fun _ _ => rfl) bind_assoc

theorem check_of_poison {client : Client σ} {error : Error} (poisoned : client.poison = some error)
    (world : σ) : check client world = (.error (.failed error), client, world) := by
  simp [check, Call.client, bind, Call.bind, fail, halt, poisoned]

theorem check_of_healthy {client : Client σ} (healthy : client.poison = none) (world : σ) :
    check client world = (.ok (), client, world) := by
  simp [check, Call.client, bind, Call.bind, pure, healthy]

theorem request_of_open {client : Client σ} {connection : Transport σ}
    (opened : client.transport = some connection) (request : Request) (world : σ) :
    Call.request request client world =
      (.ok (connection.answer request world).1, client, (connection.answer request world).2) := by
  simp [Call.request, Call.transport, bind, Call.bind, opened]

theorem request_of_closed {client : Client σ} (closed : client.transport = none)
    (request : Request) (world : σ) :
    Call.request request client world =
      (.error (.failed (.transport .disconnected)), client, world) := by
  simp [Call.request, Call.transport, bind, Call.bind, closed]

end Call

namespace Client

variable {σ : Type}

/-- The graph of a client. It can be read at any time, also when the client is closed. -/
def graph (client : Client σ) : Graph := client.subscriber.graph

def isOpen (client : Client σ) : Bool := client.transport.isSome

def isPoisoned (client : Client σ) : Bool := client.poison.isSome

/-- The descriptor to wait on, as long as waiting makes sense. -/
def descriptor (client : Client σ) (world : σ) : Option Int :=
  if client.isPoisoned then none else client.transport.bind fun transport =>
    transport.descriptor world

def observe (client : Client σ) (observer : Observer) : Client σ :=
  { client with observers := client.observers ++ [observer] }

def inspect (client : Client σ) : String :=
  Text.record "GraphClient"
    [("client_name", Text.quoted client.config.clientName),
     ("backend", Text.quoted client.backend),
     ("open", Text.truth client.isOpen),
     ("poisoned", Text.truth client.isPoisoned),
     ("subscriber", client.subscriber.inspect),
     ("observers", Text.decimal client.observers.length)]

end Client

def Graph.inspectReader (graph : Graph) : String :=
  Text.record "GraphReader" [("ports", Text.decimal graph.portCount)]

end MediaGraph
