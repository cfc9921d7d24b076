import MediaGraph.Text.Record

/-!
# Failures of a transport

What can go wrong between a client and its server, with the text for a user and the inspection
text.
-/

namespace MediaGraph

inductive TransportError where
  | connectFailed (reason : String)
  | disconnected
  | rejected (reason : String)
  deriving DecidableEq

namespace TransportError

def message : TransportError → String
  | connectFailed reason => "Connection failed: " ++ reason
  | disconnected => "Transport disconnected"
  | rejected reason => "Request rejected: " ++ reason

def inspect : TransportError → String
  | connectFailed reason => Text.wrapped "ConnectFailed" (Text.quoted reason)
  | disconnected => "Disconnected"
  | rejected reason => Text.wrapped "Rejected" (Text.quoted reason)

end TransportError

end MediaGraph
