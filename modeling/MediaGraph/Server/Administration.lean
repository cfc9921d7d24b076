import MediaGraph.Server.Request

/-!
# Administration of a server

What can be done to a server from the outside: putting objects in and taking them out, making it
catch up on assignments, dropping its connections, and looking at its state.
-/

namespace MediaGraph.Server

/-! ## Objects -/

/-- Adds an object that belongs to nobody, under a free id. -/
def addObject (server : Server) (kind : ObjectKind) (props : Properties) : ObjectId × Server :=
  server.createObject { kind, props, owner := none }

/-- Adds an object that belongs to nobody, under a given id that is not reserved. -/
def addObjectAt (server : Server) (id : ObjectId) (kind : ObjectKind) (props : Properties) :
    Bool × Server :=
  if id = unassigned then (false, server)
  else (true, server.insertObject id { kind, props, owner := none })

/-- Replaces the properties of a port and tells whoever listens. -/
def replaceProperties (server : Server) (id : ObjectId) (props : Properties) : Bool × Server :=
  match server.objects.get? id with
  | none => (false, server)
  | some object =>
    if object.kind = .port then
      let objects := server.objects.insert id { object with props }
      (true, ({ server with objects } : Server).sendInfo id)
    else (false, server)

def takeObject (server : Server) (id : ObjectId) : Bool × Server :=
  (server.objects.contains id, server.removeObject id)

/-! ## Connections -/

def offeredNodes (server : Server) : List (ConnectionId × NodeToken) :=
  server.connections.entries.flatMap fun entry =>
    entry.2.nodes.keys.map fun token => (entry.1, token)

/-- Gives every active node an id that has none, as far as the policy lets it. -/
def assignPending (server : Server) : Server :=
  server.offeredNodes.foldl (fun server node => server.assignNode node.1 node.2) server

def disconnectAll (server : Server) : Server :=
  server.connections.keys.foldl dropConnection server

def setPolicy (server : Server) (change : Policy → Policy) : Server :=
  { server with policy := change server.policy }

/-! ## State -/

def kind? (server : Server) (id : ObjectId) : Option ObjectKind :=
  (server.objects.get? id).map (·.kind)

def properties? (server : Server) (id : ObjectId) : Option Properties :=
  (server.objects.get? id).map (·.props)

def portIds (server : Server) : List ObjectId :=
  server.objects.entries.filterMap fun entry =>
    if entry.2.kind = .port then some entry.1 else none

def connectionCount (server : Server) : Nat := server.connections.size

/-- The number of handles on objects, over all connections. -/
def proxyCount (server : Server) : Nat :=
  (server.connections.values.flatMap fun connection => connection.proxies.keys).length

/-- How often the server was set up and taken down as a backend. -/
def runtimeCalls (server : Server) : Nat × Nat := (server.inits, server.deinits)

def inspect (server : Server) : String :=
  Text.record "MemoryServer"
    [("objects", Text.decimal server.objects.size),
     ("connections", Text.decimal server.connectionCount)]

def inspectBackend (server : Server) : String :=
  Text.record "MemoryBackend" [("server", server.inspect)]

end MediaGraph.Server
