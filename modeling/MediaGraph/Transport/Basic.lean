import MediaGraph.Config
import MediaGraph.Port.Basic
import MediaGraph.Transport.Error

/-!
# Transports

A client reaches its server through a `Transport`. Everything that a client can ask for is a
`Request`, whose answer has a type that depends on the request; everything that the server tells
unasked is an `Event`, handed over in batches when the transport is driven.

A transport works on a world of any type: it answers a request and changes the world, and it can
be asked two things about the world without changing it. So a statement about every transport
ranges over every way of refusing, failing, renumbering and batching.
-/

namespace MediaGraph

/-- The handle of a bound or created object on one connection. -/
abbrev ProxyId := UInt32

/-- The handle of a local node on one connection. -/
abbrev NodeToken := UInt32

/-- The handle of a local port on one connection. -/
abbrev PortToken := UInt32

def unassigned : ObjectId := 4294967295

def linkFactory : String := "link-factory"

inductive ObjectKind where
  | port
  | node
  | link
  | device
  | client
  | other
  deriving DecidableEq

namespace ObjectKind

def names : List (String × ObjectKind) :=
  [("Port", port), ("Node", node), ("Link", link), ("Device", device), ("Client", client),
   ("Other", other)]

def name : ObjectKind → String
  | port => "Port"
  | node => "Node"
  | link => "Link"
  | device => "Device"
  | client => "Client"
  | other => "Other"

def ofName? (text : String) : Option ObjectKind := names.lookup text

end ObjectKind

/-- What a server tells a client. -/
inductive Event where
  | global (id : ObjectId) (kind : ObjectKind)
  | removed (id : ObjectId)
  /-- The properties of a port that is listened to. -/
  | info (id : ObjectId) (props : Properties)
  /-- Everything before the sync with this number has been told. -/
  | done (sequence : UInt32)
  deriving DecidableEq

/-- What a client asks of a transport. -/
inductive Request where
  | subscribeGlobals
  | unsubscribeGlobals
  | bindObject (id : ObjectId) (kind : ObjectKind)
  | subscribeInfo (proxy : ProxyId)
  | destroyProxy (proxy : ProxyId)
  | sync (sequence : UInt32)
  | createObject (factory : String) (kind : ObjectKind) (props : Properties)
  | createNode (props : Properties)
  | addPort (node : NodeToken) (direction : Direction) (props : Properties)
  | updatePort (node : NodeToken) (port : PortToken) (props : Properties)
  | removePort (node : NodeToken) (port : PortToken)
  | activateNode (node : NodeToken)
  | destroyNode (node : NodeToken)
  | drive (timeoutMs : Nat)
  | disconnect
  deriving DecidableEq

/--
The answer to a request: a handle or a refusal, success or failure, the number under which a sync
will be acknowledged, a batch of events, or nothing.
-/
@[reducible]
def Request.Answer : Request → Type
  | bindObject .. | createObject .. | createNode _ | addPort .. => Option UInt32
  | subscribeGlobals | activateNode _ => Except TransportError Unit
  | sync _ => Except TransportError UInt32
  | drive _ => Except TransportError (List Event)
  | unsubscribeGlobals | subscribeInfo _ | destroyProxy _ | updatePort .. | removePort ..
  | destroyNode _ | disconnect => Unit

/-- One end of a connection to a server in a world of type `σ`. -/
structure Transport (σ : Type) where
  answer : (request : Request) → σ → request.Answer × σ
  /-- The id that the server gave a local node, `unassigned` if none yet. -/
  nodeId : NodeToken → σ → ObjectId
  /-- The descriptor to wait on for events, if there is one. -/
  descriptor : σ → Option Int
  /-- How many batches may pass, at most, until a sync is acknowledged or fails. -/
  patience : σ → Nat

/-- A way to reach a server: how to set it up, how to connect, how to take it down. -/
structure Backend (σ : Type) where
  name : String
  /-- Sets up what all connections share. -/
  init : σ → Except TransportError Unit × σ := fun world => (.ok (), world)
  /-- Releases what all connections shared. -/
  deinit : σ → σ := id
  connect : Config → σ → Except TransportError (Transport σ) × σ

end MediaGraph
