import MediaGraph.Server.Request

/-!
# The server as a backend

A client connects to the server as to any other backend. The world of its transport is the state
of the server, which it shares with all other clients.
-/

namespace MediaGraph.Server

/--
The client's end of a connection. The server acknowledges a sync as soon as it is sent, so the
next batch always ends with the acknowledgement.
-/
def transport (id : ConnectionId) : Transport Server where
  answer := answer id
  nodeId token server := server.assignedId id token
  descriptor _ := none
  patience _ := 1

def connect (config : Config) (server : Server) :
    Except TransportError (Transport Server) × Server :=
  if server.policy.refuseConnections then
    (.error (.connectFailed "server refused connection"), server)
  else
    let id := server.lastConnection + 1
    let server := server.setConnection id { name := config.clientName }
    (.ok (transport id), { server with lastConnection := id })

/-- The backend that reaches the server and counts how often it is set up and taken down. -/
def backend : Backend Server where
  name := "memory"
  init server := (.ok (), { server with inits := server.inits + 1 })
  deinit server := { server with deinits := server.deinits + 1 }
  connect := connect

end MediaGraph.Server
