import MediaGraph.Client.Setup

/-!
# Instances and who holds them

An instance is a backend that has been set up. Handles to it and clients opened with it all hold
it, and it is taken down when the last of them lets go. A `Host` is a world together with its live
instances and the number of their holders.

Closing a client does not let go of the instance; only dropping the client does.
-/

namespace MediaGraph

/-- The number of an instance; numbers are not used again. -/
abbrev InstanceId := Nat

structure Instance (σ : Type) where
  backend : Backend σ
  /-- Handles and clients that still need it. -/
  holders : Nat

def Instance.inspect {σ : Type} (live : Instance σ) : String :=
  Text.record "Instance" [("backend", Text.quoted live.backend.name)]

structure Host (σ : Type) where
  world : σ
  instances : Table InstanceId (Instance σ) := .empty
  next : InstanceId := 0

namespace Host

variable {σ : Type}

/-- Sets up a backend; whoever asked for it is the first holder. -/
def create (backend : Backend σ) (host : Host σ) : Except TransportError InstanceId × Host σ :=
  match backend.init host.world with
  | (.ok (), world) =>
    (.ok host.next, {
      world
      instances := host.instances.insert host.next { backend, holders := 1 }
      next := host.next + 1 })
  | (.error failure, world) => (.error failure, { host with world })

def hold (id : InstanceId) (host : Host σ) : Host σ :=
  { host with instances := host.instances.modify id fun live =>
      { live with holders := live.holders + 1 } }

/-- Lets a holder go, and takes the instance down if it was the last. -/
def release (id : InstanceId) (host : Host σ) : Host σ :=
  match host.instances.get? id with
  | none => host
  | some live =>
    if live.holders ≤ 1 then
      { host with world := live.backend.deinit host.world, instances := host.instances.erase id }
    else
      { host with instances := host.instances.insert id { live with holders := live.holders - 1 } }

def instance? (id : InstanceId) (host : Host σ) : Option (Instance σ) := host.instances.get? id

/--
Opens a client that holds an instance, if the instance is live. A client that cannot be opened
holds nothing.
-/
def openClient (id : InstanceId) (setup : Setup) (host : Host σ) :
    Option (Except Refusal (Client σ) × Host σ) :=
  (host.instance? id).map fun live =>
    let host := host.hold id
    match setup.connect live.backend host.world with
    | (.ok client, world) => (.ok client, { host with world })
    | (.error refusal, world) => (.error refusal, ({ host with world } : Host σ).release id)

def dropClient (id : InstanceId) (client : Client σ) (host : Host σ) : Host σ :=
  ({ host with world := (client.close host.world).2 } : Host σ).release id

end Host

end MediaGraph
