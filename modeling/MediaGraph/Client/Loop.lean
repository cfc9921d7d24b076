import MediaGraph.Client.Basic

/-!
# The event loop of a client

One turn of the loop drives the transport once and applies the batch that comes back, event by
event, up to the first that fails. Observers are told after the batch, about the changes that were
made before a failure too.

A barrier is a sync followed by as many turns as it takes until the sync is acknowledged. How many
that can be is promised by the transport; a transport that breaks its promise stalls the call.
-/

namespace MediaGraph

namespace Client

variable {σ : Type}

def noticesOf (observers : List Observer) (change : Change) : List Notice :=
  observers.zipIdx.filterMap fun (observer, position) =>
    if observer.interest.hears change then some ⟨position, change⟩ else none

def notify (client : Client σ) : Client σ :=
  let (changes, subscriber) := client.subscriber.drain
  { client with
    subscriber := subscriber
    notices := client.notices ++ changes.flatMap (noticesOf client.observers) }

/-- Applies one event: an acknowledgement goes to the barrier, the rest to the subscriber. -/
def deliver (transport : Transport σ) (event : Event) (client : Client σ) (world : σ) :
    Except MalformedNode (Client σ × σ) :=
  match event with
  | .done sequence =>
    .ok ({ client with barrier := (client.barrier.acknowledge sequence).2 }, world)
  | event =>
    match client.subscriber.handle transport event world with
    | .ok (subscriber, world) => .ok ({ client with subscriber := subscriber }, world)
    | .error malformed => .error malformed

/-- Applies events in order and stops at the first that fails. -/
def deliverAll (transport : Transport σ) :
    List Event → Client σ → σ → Option MalformedNode × Client σ × σ
  | [], client, world => (none, client, world)
  | event :: rest, client, world =>
    match client.deliver transport event world with
    | .ok (client, world) => deliverAll transport rest client world
    | .error malformed => (some malformed, client, world)

def applyBatch (transport : Transport σ) (events : List Event) : Call σ Unit := fun client world =>
  match deliverAll transport events client world with
  | (none, client, world) => (.ok (), client.notify, world)
  | (some malformed, client, world) =>
    (.error (.failed (.ofMalformed malformed)), client.notify, world)

def turn : Call σ Unit := do
  let transport ← Call.transport
  let timeout := (← Call.client).config.loopTimeoutMs.toNat
  let events ← Call.received (← Call.request (.drive timeout))
  Call.update fun client => { client with barrier := client.barrier.recordIteration }
  applyBatch transport events

def pump : Call σ Unit := do
  Call.check
  Call.poisoning turn

/-- Turns the loop until the barrier is complete. -/
def settle : Nat → Call σ Unit
  | 0 => do
    if (← Call.client).barrier.complete then pure () else Call.halt .stalled
  | patience + 1 => do
    if (← Call.client).barrier.complete then pure ()
    else
      turn
      settle patience

/-- Sends a sync and waits for its acknowledgement. The number is used up even if sending fails. -/
def awaitSync : Call σ Unit := do
  let (sequence, barrier) := (← Call.client).barrier.nextSequence
  Call.update fun client => { client with barrier := barrier }
  let transport ← Call.transport
  let reply ← Call.received (← Call.request (.sync sequence))
  Call.update fun client => { client with barrier := client.barrier.begin reply }
  settle (← Call.reads fun _ world => transport.patience world)

/-- A barrier: returns when the server has told everything that came before. -/
def synchronize : Call σ Unit := do
  Call.check
  Call.poisoning awaitSync

end Client

end MediaGraph
