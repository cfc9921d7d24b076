import MediaGraph.Server.Basic
import MediaGraph.Text.Numeral

/-!
# Links on the server

A link is an object whose properties name an output port and an input port by id. The server
creates one only between ports that exist and run the right way, and only if its policy allows.
-/

namespace MediaGraph.Server

def linkEnds? (props : Properties) : Option (ObjectId × ObjectId) := do
  let output ← Text.readWord? (← props.get? Key.linkOutput)
  let input ← Text.readWord? (← props.get? Key.linkInput)
  return (output, input)

/-- The ends of all links, by the id of the link. -/
def links (server : Server) : List (ObjectId × ObjectId) :=
  server.objects.values.filterMap fun object =>
    if object.kind = .link then linkEnds? object.props else none

/-- Whether a link names these ends, in the decimal form in which clients write them. -/
def linkExists (server : Server) (output input : ObjectId) : Bool :=
  server.objects.values.any fun object =>
    object.kind = .link && object.props.get? Key.linkOutput = some (Text.decimal output.toNat) &&
      object.props.get? Key.linkInput = some (Text.decimal input.toNat)

def portDirection? (server : Server) (id : ObjectId) : Option Direction :=
  match server.objects.get? id with
  | some object =>
    if object.kind = .port then
      some (Direction.ofProperty (object.props.text Key.portDirection))
    else none
  | none => none

/-- Whether the server creates the link that a dictionary asks for. -/
def acceptsLink (server : Server) (props : Properties) : Bool :=
  match linkEnds? props with
  | none => false
  | some (output, input) =>
    !server.policy.rejectLinks && server.portDirection? output = some .output &&
      server.portDirection? input = some .input &&
      (server.policy.allowDuplicateLinks || !server.linkExists output input)

/-- Creates a link that goes away with its handle. -/
def createLink (server : Server) (id : ConnectionId) (props : Properties) :
    Option ProxyId × Server :=
  if server.acceptsLink props then
    let (link, server) := server.createObject { kind := .link, props, owner := some id }
    match server.connections.get? id with
    | none => (none, server)
    | some connection =>
      let (proxy, connection) := connection.takeHandle
      let proxies := connection.proxies.insert proxy
        { object := link, listening := false, owned := true }
      (some proxy, server.setConnection id { connection with proxies })
  else (none, server)

end MediaGraph.Server
