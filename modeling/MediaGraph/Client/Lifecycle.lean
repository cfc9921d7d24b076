import MediaGraph.Client.Loop

/-!
# Opening and closing a client

A client is open when it has subscribed and its graph shows what the server held. Two barriers are
needed for that: the first delivers the announcements, and since the ports are bound while they
are delivered, the second delivers their properties.

A client that cannot be opened is closed again at once, so that nothing of it stays behind.
-/

namespace MediaGraph

/-- Why a client could not be opened, and what its observers had been told by then. -/
structure Refusal where
  reason : Halt
  notices : List Notice := []
  deriving DecidableEq

namespace Client

variable {σ : Type}

def destroyNodes (transport : Transport σ) (nodes : List NodeToken) (world : σ) : σ :=
  nodes.foldl (fun world node => (transport.answer (.destroyNode node) world).2) world

/-- Ends the connection: proxies first, then local nodes, then the transport itself. -/
def close (client : Client σ) (world : σ) : Client σ × σ :=
  match client.transport with
  | none => (client, world)
  | some transport =>
    let (subscriber, world) := client.subscriber.teardown transport world
    let world := destroyNodes transport client.localNodes world
    let world := (transport.answer .disconnect world).2
    ({ client with transport := none, subscriber := subscriber, localNodes := [] }, world)

def subscribe : Call σ Unit := do
  let transport ← Call.transport
  fun client world =>
    match client.subscriber.start transport world with
    | (.ok (), subscriber, world) => (.ok (), { client with subscriber := subscriber }, world)
    | (.error failure, subscriber, world) =>
      (.error (.failed (.transport failure)), { client with subscriber := subscriber }, world)

/-- Subscribes and waits until the graph shows what the server holds. -/
def start : Call σ Unit := do
  subscribe
  synchronize
  synchronize

/-- While a client is being opened, a failure of its transport counts as one of its setup. -/
def openingFailure : Halt → Halt
  | .failed (.transport failure) => .failed (.initFailed failure.message)
  | reason => reason

/-- Opens a client, with observers who hear of the ports that are already there. -/
def connect (backend : Backend σ) (config : Config) (observers : List Observer) (world : σ) :
    Except Refusal (Client σ) × σ :=
  match backend.connect config world with
  | (.error failure, world) => (.error { reason := .failed (.initFailed failure.message) }, world)
  | (.ok transport, world) =>
    let client : Client σ :=
      { config, backend := backend.name, transport := some transport, observers }
    match start client world with
    | (.ok (), client, world) => (.ok client, world)
    | (.error reason, client, world) =>
      let (client, world) := client.close world
      (.error { reason := openingFailure reason, notices := client.notices }, world)

end Client

end MediaGraph
