import MediaGraph.Server.Link
import MediaGraph.Server.Node

/-!
# Requests of a connection

How the server answers each request. A connection that the server no longer has is answered with
the request's failure, and nothing changes; only the events that were waiting for it can still be
fetched.
-/

namespace MediaGraph.Server

/-! ## Objects and handles -/

/-- Subscribes to the objects; those that exist are announced at once. -/
def subscribeGlobals (server : Server) (id : ConnectionId) :
    Except TransportError Unit × Server :=
  match server.connections.get? id with
  | none => (.error .disconnected, server)
  | some connection =>
    let present := server.objects.entries.map fun entry => Event.global entry.1 entry.2.kind
    (.ok (), server.setConnection id ({ connection with subscribed := true }.send present))

def unsubscribeGlobals (server : Server) (id : ConnectionId) : Server :=
  match server.connections.get? id with
  | none => server
  | some connection => server.setConnection id { connection with subscribed := false }

def bindObject (server : Server) (id : ConnectionId) (object : ObjectId) (kind : ObjectKind) :
    Option ProxyId × Server :=
  match server.connections.get? id, server.objects.get? object with
  | some connection, some found =>
    if found.kind = kind then
      let (proxy, connection) := connection.takeHandle
      let proxies := connection.proxies.insert proxy { object, listening := false, owned := false }
      (some proxy, server.setConnection id { connection with proxies })
    else (none, server)
  | _, _ => (none, server)

/-- Listens to the properties of a port; those it has are told at once. -/
def subscribeInfo (server : Server) (id : ConnectionId) (proxy : ProxyId) : Server :=
  match server.connections.get? id with
  | none => server
  | some connection =>
    match connection.proxies.get? proxy with
    | none => server
    | some bound =>
      match server.objects.get? bound.object with
      | none => server
      | some object =>
        if object.kind = .port then
          let proxies := connection.proxies.insert proxy { bound with listening := true }
          server.setConnection id
            ({ connection with proxies }.send [.info bound.object object.props])
        else server

/-- Gives a handle back; an owned object goes with it. -/
def destroyProxy (server : Server) (id : ConnectionId) (proxy : ProxyId) : Server :=
  match server.connections.get? id with
  | none => server
  | some connection =>
    match connection.proxies.get? proxy with
    | none => server
    | some bound =>
      let server := server.setConnection id
        { connection with proxies := connection.proxies.erase proxy }
      if bound.owned then server.removeObject bound.object else server

/-- Acknowledges a sync behind everything told so far. -/
def sync (server : Server) (id : ConnectionId) (sequence : UInt32) :
    Except TransportError UInt32 × Server :=
  match server.connections.get? id with
  | none => (.error .disconnected, server)
  | some connection =>
    let server := server.setConnection id (connection.send [.done sequence])
    (.ok sequence, { server with syncRequests := server.syncRequests + 1 })

/-- Creates an object; the server knows how to make links only. -/
def createByFactory (server : Server) (id : ConnectionId) (factory : String) (kind : ObjectKind)
    (props : Properties) : Option ProxyId × Server :=
  if factory = linkFactory ∧ kind = .link ∧ server.connections.contains id then
    server.createLink id props
  else (none, server)

/-! ## Offered nodes -/

def createNode (server : Server) (id : ConnectionId) (props : Properties) :
    Option NodeToken × Server :=
  match server.connections.get? id with
  | none => (none, server)
  | some connection =>
    let (token, connection) := connection.takeHandle
    let offered : OfferedNode := { props, ports := [], active := false, nodeId := none }
    let nodes := connection.nodes.insert token offered
    (some token, server.setConnection id { connection with nodes })

/-- Adds a port to a node. A handle is used up even if there is no such node. -/
def addPort (server : Server) (id : ConnectionId) (node : NodeToken) (direction : Direction)
    (props : Properties) : Option PortToken × Server :=
  match server.connections.get? id with
  | none => (none, server)
  | some connection =>
    let (token, connection) := connection.takeHandle
    let server := server.setConnection id connection
    match connection.nodes.get? node with
    | none => (none, server)
    | some _ =>
      let server := server.updateNode id node fun offered =>
        { offered with
          ports := offered.ports ++ [{ token, direction, props, published := none }] }
      (some token, server.publishPorts id node)

/-- Writes properties over those of a shown object and tells whoever listens. -/
def extendObject (server : Server) (id : ObjectId) (props : Properties) : Server :=
  match server.objects.get? id with
  | none => server
  | some object =>
    let objects := server.objects.insert id { object with props := object.props.extend props }
    ({ server with objects } : Server).sendInfo id

/-- Writes properties over those of a port, and over those it is shown with. -/
def updatePort (server : Server) (id : ConnectionId) (node : NodeToken) (port : PortToken)
    (props : Properties) : Server :=
  match server.node? id node with
  | none => server
  | some offered =>
    match offered.ports.find? (·.token = port) with
    | none => server
    | some found =>
      let position := offered.ports.findIdx (·.token = port)
      let server := server.updateNode id node fun offered =>
        { offered with ports := offered.ports.modify position fun port =>
            { port with props := port.props.extend props } }
      match found.published with
      | none => server
      | some object => server.extendObject object props

def removePort (server : Server) (id : ConnectionId) (node : NodeToken) (port : PortToken) :
    Server :=
  match server.node? id node with
  | none => server
  | some offered =>
    match offered.ports.find? (·.token = port) with
    | none => server
    | some found =>
      let server := server.updateNode id node fun offered =>
        { offered with ports := offered.ports.eraseP (·.token = port) }
      server.removeObjects found.published.toList

/-- Makes a node active, so that it can be given an id. -/
def activateNode (server : Server) (id : ConnectionId) (node : NodeToken) :
    Except TransportError Unit × Server :=
  match server.connections.get? id with
  | none => (.error .disconnected, server)
  | some connection =>
    match connection.nodes.get? node with
    | none => (.error (.rejected "unknown node"), server)
    | some _ =>
      let server := server.updateNode id node fun offered => { offered with active := true }
      (.ok (), server.assignNode id node)

def destroyNode (server : Server) (id : ConnectionId) (node : NodeToken) : Server :=
  match server.connections.get? id with
  | none => server
  | some connection =>
    match connection.nodes.get? node with
    | none => server
    | some offered =>
      let server := server.setConnection id
        { connection with nodes := connection.nodes.erase node }
      server.removeObjects offered.shownObjects

/-- The id of a node, `unassigned` while it has none. -/
def assignedId (server : Server) (id : ConnectionId) (node : NodeToken) : ObjectId :=
  ((server.node? id node).bind (·.nodeId)).getD unassigned

/-! ## Connections -/

def ownedObjects (server : Server) (id : ConnectionId) : List ObjectId :=
  server.objects.entries.filterMap fun entry =>
    if entry.2.owner = some id then some entry.1 else none

/--
Drops a connection with all it owns: its nodes, then its other objects. What was waiting for it,
the news of this removal included, can still be fetched.
-/
def dropConnection (server : Server) (id : ConnectionId) : Server :=
  match server.connections.get? id with
  | none => server
  | some connection =>
    let server := connection.nodes.keys.foldl (fun server node => server.destroyNode id node) server
    let server := server.removeObjects (server.ownedObjects id)
    match server.connections.get? id with
    | none => server
    | some dropped =>
      { server with
        connections := server.connections.erase id
        undelivered := server.undelivered.insert id dropped.inbox }

/-- Ends a connection at the wish of its client, who will fetch nothing more. -/
def disconnect (server : Server) (id : ConnectionId) : Server :=
  let server := server.dropConnection id
  { server with undelivered := server.undelivered.erase id }

/-- Hands over all events that wait. When a dropped connection has none left, it is disconnected. -/
def drive (server : Server) (id : ConnectionId) : Except TransportError (List Event) × Server :=
  match server.connections.get? id, server.undelivered.get? id with
  | some connection, _ =>
    (.ok connection.inbox, server.setConnection id { connection with inbox := [] })
  | none, some (first :: rest) =>
    (.ok (first :: rest), { server with undelivered := server.undelivered.insert id [] })
  | none, _ => (.error .disconnected, server)

def answer (id : ConnectionId) : (request : Request) → Server → request.Answer × Server
  | .subscribeGlobals, server => server.subscribeGlobals id
  | .unsubscribeGlobals, server => ((), server.unsubscribeGlobals id)
  | .bindObject object kind, server => server.bindObject id object kind
  | .subscribeInfo proxy, server => ((), server.subscribeInfo id proxy)
  | .destroyProxy proxy, server => ((), server.destroyProxy id proxy)
  | .sync sequence, server => server.sync id sequence
  | .createObject factory kind props, server => server.createByFactory id factory kind props
  | .createNode props, server => server.createNode id props
  | .addPort node direction props, server => server.addPort id node direction props
  | .updatePort node port props, server => ((), server.updatePort id node port props)
  | .removePort node port, server => ((), server.removePort id node port)
  | .activateNode node, server => server.activateNode id node
  | .destroyNode node, server => ((), server.destroyNode id node)
  | .drive _, server => server.drive id
  | .disconnect, server => ((), server.disconnect id)

end MediaGraph.Server
