import MediaGraph.Port.Basic
import MediaGraph.Transport.Error

/-!
# Failures of a client call

Each constructor of `Error` is one cause. `message` is the text for a user and `inspect` the
inspection text. `AnyError` joins the causes of all layers, for a caller who uses more than one.
-/

namespace MediaGraph

inductive Error where
  | initFailed (reason : String)
  /-- The server described a port whose node id is no 32-bit word. -/
  | malformedEvent (port : ObjectId) (nodeId : String)
  | linkRefused (output input : ObjectId)
  | nodeRefused (name : String)
  | portRefused (name : String)
  | nameTooLong (length limit : Nat)
  | invalidName (reason : String)
  | portNotFound (name : String)
  | wrongDirection (port : ObjectId) (expected : Direction)
  | unknownLocalPort
  | transport (error : TransportError)
  deriving DecidableEq

namespace Error

def ofMalformed (malformed : MalformedNode) : Error := malformedEvent malformed.port malformed.value

def message : Error → String
  | initFailed reason => "Transport initialization failed: " ++ reason
  | malformedEvent port nodeId =>
    "Malformed graph event: port " ++ Text.decimal port.toNat ++ " has node id " ++
      Text.quoted nodeId
  | linkRefused output input =>
    "Server refused link " ++ Text.decimal output.toNat ++ " -> " ++ Text.decimal input.toNat
  | nodeRefused name => "Server refused to create node " ++ Text.quoted name
  | portRefused name => "Server refused to create port " ++ Text.quoted name
  | nameTooLong length limit =>
    "Name is " ++ Text.decimal length ++ " bytes, limit is " ++ Text.decimal limit
  | invalidName reason => "Invalid name: " ++ reason
  | portNotFound name => "Port not found: " ++ name
  | wrongDirection port expected =>
    "Port " ++ Text.decimal port.toNat ++ " is not an " ++ expected.name ++ " port"
  | unknownLocalPort => "Unknown local port"
  | transport error => "Transport: " ++ error.message

def inspect : Error → String
  | initFailed reason => Text.wrapped "TransportInitFailed" (Text.quoted reason)
  | malformedEvent port nodeId =>
    Text.record "MalformedGraphEvent"
      [("port_id", Text.decimal port.toNat), ("node_id", Text.quoted nodeId)]
  | linkRefused output input =>
    Text.record "AllocationFailed"
      [("output_port", Text.decimal output.toNat), ("input_port", Text.decimal input.toNat)]
  | nodeRefused name => Text.wrapped "NodeAllocationFailed" (Text.quoted name)
  | portRefused name => Text.wrapped "PortAllocationFailed" (Text.quoted name)
  | nameTooLong length limit =>
    Text.record "PortNameTooLong" [("len", Text.decimal length), ("max", Text.decimal limit)]
  | invalidName reason => Text.wrapped "InvalidName" (Text.quoted reason)
  | portNotFound name => Text.wrapped "PortNotFound" (Text.quoted name)
  | wrongDirection port expected =>
    Text.record "WrongDirection"
      [("port_id", Text.decimal port.toNat), ("expected", expected.name)]
  | unknownLocalPort => "UnknownLocalPort"
  | transport error => Text.wrapped "Transport" error.inspect

end Error

inductive AnyError where
  | graph (error : MalformedNode)
  | client (error : Error)
  | transport (error : TransportError)
  deriving DecidableEq

/-- The text shown to a user; a client's failure speaks for itself. -/
def AnyError.message : AnyError → String
  | graph error => "Graph: " ++ error.message
  | client error => error.message
  | transport error => "Transport: " ++ error.message

end MediaGraph
