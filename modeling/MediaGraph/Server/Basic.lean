import MediaGraph.Transport.Basic

/-!
# The in-process server

A `Server` holds a set of objects and a set of connections. Each connection has an inbox: the
events that its client has not fetched yet, in the order in which they arose.

The server drops a connection either because the client disconnects or on its own. In the second
case the events of the inbox can still be fetched, so they are kept until the client disconnects.
-/

namespace MediaGraph

/-- The number of a connection. No client sees it, and numbers are not used again. -/
abbrev ConnectionId := Nat

structure Object where
  kind : ObjectKind
  props : Properties
  /-- The connection that the object goes away with. -/
  owner : Option ConnectionId
  deriving DecidableEq

/-- A connection's handle on an object. -/
structure Proxy where
  object : ObjectId
  /-- Whether the connection listens to the object's properties. -/
  listening : Bool
  /-- Whether the object goes away with the handle. -/
  owned : Bool
  deriving DecidableEq

structure OfferedPort where
  token : PortToken
  direction : Direction
  props : Properties
  /-- The object that shows the port, once it is published. -/
  published : Option ObjectId
  deriving DecidableEq

structure OfferedNode where
  props : Properties
  ports : List OfferedPort
  active : Bool
  /-- The object that shows the node, once it is assigned. -/
  nodeId : Option ObjectId
  deriving DecidableEq

/-- What the server knows of one client. -/
structure Connection where
  name : String
  subscribed : Bool := false
  proxies : Table ProxyId Proxy := .empty
  nodes : Table NodeToken OfferedNode := .empty
  /-- How many handles have been given out; all kinds of handles share one count. -/
  handles : Nat := 0
  inbox : List Event := []
  deriving DecidableEq

/-- What the server allows and does by itself. -/
structure Policy where
  refuseConnections : Bool := false
  rejectLinks : Bool := false
  allowDuplicateLinks : Bool := true
  assignNodeIds : Bool := true
  publishLocalPorts : Bool := true
  deriving DecidableEq

/-- The lowest id that the server gives out by itself. -/
def firstObjectId : ObjectId := 32

structure Server where
  /-- Where the search for a free id starts. -/
  nextId : ObjectId := firstObjectId
  objects : Table ObjectId Object := .empty
  connections : Table ConnectionId Connection := .empty
  lastConnection : ConnectionId := 0
  policy : Policy := {}
  syncRequests : Nat := 0
  inits : Nat := 0
  deinits : Nat := 0
  /-- What clients can still fetch whose connections the server dropped. -/
  undelivered : Table ConnectionId (List Event) := .empty
  deriving DecidableEq

namespace Connection

def send (connection : Connection) (events : List Event) : Connection :=
  { connection with inbox := connection.inbox ++ events }

/-- Gives out a handle: the count as a word, so that handles come back after all words are used. -/
def takeHandle (connection : Connection) : UInt32 × Connection :=
  let handles := connection.handles + 1
  (UInt32.ofNat handles, { connection with handles })

/-- How many of the connection's handles listen to an object. -/
def listeners (connection : Connection) (id : ObjectId) : Nat :=
  connection.proxies.values.countP fun proxy => proxy.object = id && proxy.listening

end Connection

namespace Server

def setConnection (server : Server) (id : ConnectionId) (connection : Connection) : Server :=
  { server with connections := server.connections.insert id connection }

def node? (server : Server) (id : ConnectionId) (token : NodeToken) : Option OfferedNode :=
  (server.connections.get? id).bind fun connection => connection.nodes.get? token

def updateNode (server : Server) (id : ConnectionId) (token : NodeToken)
    (change : OfferedNode → OfferedNode) : Server :=
  { server with connections := server.connections.modify id fun connection =>
      { connection with nodes := connection.nodes.modify token change } }

def broadcast (server : Server) (event : Event) : Server :=
  { server with connections := server.connections.mapValues fun _ connection =>
      if connection.subscribed then connection.send [event] else connection }

/-- Tells the properties of an object to whoever listens, once for each handle that does. -/
def sendInfo (server : Server) (id : ObjectId) : Server :=
  match server.objects.get? id with
  | none => server
  | some object =>
    { server with connections := server.connections.mapValues fun _ connection =>
        connection.send (List.replicate (connection.listeners id) (.info id object.props)) }

/-! ## Objects -/

/-- Where the search for a free id goes on behind an id. -/
def idAfter (id : ObjectId) : ObjectId := if unassigned - 1 ≤ id then firstObjectId else id + 1

/--
The first id from a start on that can be given out. Among one more ids than there are objects one
is free, and one more step skips the reserved id, so the number of objects bounds the search.
-/
def freeIdFrom (objects : Table ObjectId Object) : Nat → ObjectId → ObjectId
  | 0, id => id
  | steps + 1, id =>
    if id ≠ unassigned && !objects.contains id then id
    else freeIdFrom objects steps (idAfter id)

/-- Picks a free id and moves the start of the next search behind it. -/
def allocateId (server : Server) : ObjectId × Server :=
  let id := freeIdFrom server.objects (server.objects.size + 2) server.nextId
  (id, { server with nextId := idAfter id })

def successor (id : ObjectId) : ObjectId := if id = unassigned then id else id + 1

/-- Adds an object and tells the subscribers; one that had its id is told to be gone first. -/
def insertObject (server : Server) (id : ObjectId) (object : Object) : Server :=
  let replaced := server.objects.contains id
  let server := { server with objects := server.objects.insert id object }
  let server := if replaced then server.broadcast (.removed id) else server
  let server := if server.nextId ≤ id then { server with nextId := successor id } else server
  server.broadcast (.global id object.kind)

def removeObject (server : Server) (id : ObjectId) : Server :=
  if server.objects.contains id then
    ({ server with objects := server.objects.erase id } : Server).broadcast (.removed id)
  else server

def removeObjects (server : Server) (ids : List ObjectId) : Server :=
  ids.foldl removeObject server

def createObject (server : Server) (object : Object) : ObjectId × Server :=
  let (id, server) := server.allocateId
  (id, server.insertObject id object)

end Server

end MediaGraph
