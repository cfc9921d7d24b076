import MediaGraph.Error
import MediaGraph.Graph.Change
import MediaGraph.Transport.Basic

/-!
# The subscriber

The subscriber turns the events of a server into the graph of a client; nothing else writes that
graph. A port passes through three events:

* when it is announced, a proxy is bound to it and asked for its properties;
* when its properties arrive, its record is filed in the graph;
* when it is gone, its record is dropped and its proxy destroyed.

Each event that files, replaces or drops a record leaves a `Change` in a queue. An event that fails
changes nothing.
-/

namespace MediaGraph

inductive Phase where
  | uninitialized
  | listening
  | closed
  deriving DecidableEq

def Phase.name : Phase → String
  | uninitialized => "Uninitialized"
  | listening => "Listening"
  | closed => "Closed"

/-- The graph of a client and what keeps it current. -/
structure Subscriber where
  phase : Phase := .uninitialized
  /-- The proxy bound to each announced port. -/
  listened : Table ObjectId ProxyId := .empty
  graph : Graph := .empty
  /-- Changes that no observer has heard of yet, oldest first. -/
  changes : List Change := []
  deriving DecidableEq

namespace Subscriber

variable {σ : Type}

/-- Whether a proxy is bound to a port. -/
def isListeningTo (subscriber : Subscriber) (id : ObjectId) : Bool :=
  subscriber.listened.contains id

/-- Subscribes to the objects of the server, once. -/
def start (transport : Transport σ) (subscriber : Subscriber) (world : σ) :
    Except TransportError Unit × Subscriber × σ :=
  match subscriber.phase with
  | .uninitialized =>
    match transport.answer .subscribeGlobals world with
    | (.ok (), world) => (.ok (), { subscriber with phase := .listening }, world)
    | (.error failure, world) => (.error failure, subscriber, world)
  | .listening | .closed => (.ok (), subscriber, world)

/-- Destroys the proxy bound to a port, if there is one. -/
def release (transport : Transport σ) (id : ObjectId) (subscriber : Subscriber) (world : σ) :
    Subscriber × σ :=
  match subscriber.listened.get? id with
  | some proxy =>
    ({ subscriber with listened := subscriber.listened.erase id },
      (transport.answer (.destroyProxy proxy) world).2)
  | none => (subscriber, world)

/-- Binds a proxy to an announced port, in place of a stale one, and asks for the properties. -/
def announce (transport : Transport σ) (id : ObjectId) (subscriber : Subscriber) (world : σ) :
    Subscriber × σ :=
  let (subscriber, world) := subscriber.release transport id world
  match transport.answer (.bindObject id .port) world with
  | (some proxy, world) =>
    ({ subscriber with listened := subscriber.listened.insert id proxy },
      (transport.answer (.subscribeInfo proxy) world).2)
  | (none, world) => (subscriber, world)

/-- What filing a port changed, given its former record and whether it was filed. -/
def changeOf (current : Port) : Option Port → Option Place → Option Change
  | none, some _ => some (.added current)
  | some previous, some _ => some (.updated previous current)
  | some previous, none => some (.removed previous)
  | none, none => none

def describe (id : ObjectId) (props : Properties) (subscriber : Subscriber) :
    Except MalformedNode Subscriber :=
  if subscriber.isListeningTo id then
    let port := Port.ofProperties id props
    let previous := (subscriber.graph.find? id).map (·.2)
    match subscriber.graph.insert port with
    | .error malformed => .error malformed
    | .ok (place, graph) =>
      .ok { subscriber with
        graph := graph
        changes := subscriber.changes ++ (changeOf port previous place).toList }
  else .ok subscriber

def withdraw (id : ObjectId) (subscriber : Subscriber) : Subscriber :=
  let (removed, graph) := subscriber.graph.remove id
  { subscriber with
    graph := graph
    changes := subscriber.changes ++ (removed.map Change.removed).toList }

/--
Applies one event. Nothing is heard before the start and after the teardown, and acknowledgements
concern the barrier alone.
-/
def handle (transport : Transport σ) (event : Event) (subscriber : Subscriber) (world : σ) :
    Except MalformedNode (Subscriber × σ) :=
  match subscriber.phase, event with
  | .listening, .global id .port => .ok (subscriber.announce transport id world)
  | .listening, .info id props =>
    match subscriber.describe id props with
    | .ok subscriber => .ok (subscriber, world)
    | .error malformed => .error malformed
  | .listening, .removed id => .ok ((subscriber.withdraw id).release transport id world)
  | _, _ => .ok (subscriber, world)

def destroyProxies (transport : Transport σ) (proxies : List ProxyId) (world : σ) : σ :=
  proxies.foldl (fun world proxy => (transport.answer (.destroyProxy proxy) world).2) world

/-- Unsubscribes, if the subscriber was listening, and destroys every proxy. The graph stays. -/
def teardown (transport : Transport σ) (subscriber : Subscriber) (world : σ) : Subscriber × σ :=
  let world := match subscriber.phase with
    | .listening => (transport.answer .unsubscribeGlobals world).2
    | .uninitialized | .closed => world
  ({ subscriber with phase := .closed, listened := .empty },
    destroyProxies transport subscriber.listened.values world)

def drain (subscriber : Subscriber) : List Change × Subscriber :=
  (subscriber.changes, { subscriber with changes := [] })

def inspect (subscriber : Subscriber) : String :=
  Text.record "EventSubscriber"
    [("state", subscriber.phase.name), ("listened", Text.decimal subscriber.listened.size)]

end Subscriber

end MediaGraph
