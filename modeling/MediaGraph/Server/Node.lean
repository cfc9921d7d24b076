import MediaGraph.Server.Basic
import MediaGraph.Text.Numeral

/-!
# Offered nodes

A node that a client offers becomes visible in two steps. When it is active and the policy lets
the server assign ids, it gets a node object, once. From then on its ports get port objects, if
the policy lets the server publish them.
-/

namespace MediaGraph

/-- The properties under which a port is shown: those of the client, with the facts set right. -/
def OfferedPort.shownProperties (port : OfferedPort) (node : ObjectId) (index : Nat) : Properties :=
  ((port.props.insert Key.nodeId (Text.decimal node.toNat)).insert
    Key.portDirection port.direction.property).insert Key.portIndex (Text.decimal index)

/-- The ports of an assigned node that are not shown yet, by position. -/
def OfferedNode.hiddenPorts (node : OfferedNode) : List (Nat × Properties) :=
  match node.nodeId with
  | none => []
  | some id => node.ports.zipIdx.filterMap fun (port, index) =>
      if port.published.isNone then some (index, port.shownProperties id index) else none

/-- The objects that show a node: those of its ports, then its own. -/
def OfferedNode.shownObjects (node : OfferedNode) : List ObjectId :=
  node.ports.filterMap (·.published) ++ node.nodeId.toList

namespace Server

def publishPort (id : ConnectionId) (token : NodeToken) (server : Server)
    (entry : Nat × Properties) : Server :=
  let (object, server) :=
    server.createObject { kind := .port, props := entry.2, owner := some id }
  server.updateNode id token fun node =>
    { node with ports := node.ports.modify entry.1 fun port =>
        { port with published := some object } }

/-- Shows the ports of an assigned node that are not shown yet. -/
def publishPorts (server : Server) (id : ConnectionId) (token : NodeToken) : Server :=
  if server.policy.publishLocalPorts then
    match server.node? id token with
    | some node => node.hiddenPorts.foldl (publishPort id token) server
    | none => server
  else server

/-- Gives an active node its id, if it has none, and shows its ports. -/
def assignNode (server : Server) (id : ConnectionId) (token : NodeToken) : Server :=
  if server.policy.assignNodeIds then
    match server.node? id token with
    | some node =>
      if node.active && node.nodeId.isNone then
        let (object, server) :=
          server.createObject { kind := .node, props := node.props, owner := some id }
        let server := server.updateNode id token fun node => { node with nodeId := some object }
        server.publishPorts id token
      else server
    | none => server
  else server

end Server

end MediaGraph
