import MediaGraph.Client.Loop

/-!
# Local endpoints

An endpoint is a local node with its ports, as the client that offers it knows it. It is built up
while it is inactive, then activated; the server gives it a node id and shows its ports in the
graph in its own time. `publish` does all of it and waits, for a bounded number of barriers.

Names are checked before anything is asked of the server. A port is addressed by the name of its
node, a colon and its own name, so the limit on names applies to the three together. Lengths are
counted in bytes of UTF-8.
-/

namespace MediaGraph

def midiFormat : String := "8 bit raw midi"

structure LocalPort where
  token : PortToken
  name : String
  direction : Direction
  deriving DecidableEq

/-- A local node, as its client knows it. -/
structure Endpoint where
  token : NodeToken
  name : String
  ports : List LocalPort := []
  active : Bool := false
  deriving DecidableEq

namespace Endpoint

def expectedCounts (endpoint : Endpoint) : Nat × Nat :=
  let inputs := endpoint.ports.countP (·.direction = .input)
  (inputs, endpoint.ports.length - inputs)

def hasPort (endpoint : Endpoint) (token : PortToken) : Bool :=
  endpoint.ports.any (·.token = token)

def renamePort (endpoint : Endpoint) (token : PortToken) (name : String) : Endpoint :=
  let position := endpoint.ports.findIdx (·.token = token)
  { endpoint with ports := endpoint.ports.modify position fun port => { port with name } }

def removePort (endpoint : Endpoint) (token : PortToken) : Endpoint :=
  { endpoint with ports := endpoint.ports.eraseP (·.token = token) }

end Endpoint

/-- What became of an endpoint while its client waited for it. -/
structure Publication where
  nodeId : Option ObjectId
  ready : Bool
  syncAttempts : Nat
  deriving DecidableEq

namespace Client

variable {σ : Type}

/-! ## Names -/

def validateName (config : Config) (name : String) : Except Error Unit :=
  if name = "" then .error (.invalidName "name is empty")
  else if '\x00' ∈ name.toList then .error (.invalidName (Text.quoted name ++ " contains NUL"))
  else if config.maxNameLen.toNat < name.utf8ByteSize then
    .error (.nameTooLong name.utf8ByteSize config.maxNameLen.toNat)
  else .ok ()

/-- The length of the name that addresses a node's port. -/
def fullNameLength (node port : String) : Nat := node.utf8ByteSize + 1 + port.utf8ByteSize

/-- Whether a node's port can have a name. -/
def validatePortName (config : Config) (node port : String) : Except Error Unit :=
  match validateName config port with
  | .error error => .error error
  | .ok () =>
    if config.maxNameLen.toNat < fullNameLength node port then
      .error (.nameTooLong (fullNameLength node port) config.maxNameLen.toNat)
    else .ok ()

/-- The properties of a local node; those of the configuration go over the standard ones. -/
def nodeProperties (config : Config) (name : String) : Properties :=
  let standard : Properties := .ofList
    [(Key.nodeName, name), (Key.mediaType, "Midi"), (Key.mediaCategory, "Filter"),
     (Key.mediaRole, "DSP"), (Key.mediaName, config.clientName), (Key.lockRate, "true"),
     (Key.alwaysProcess, "true"), (Key.pauseOnIdle, "false"), (Key.suspendOnIdle, "false")]
  standard.extend config.nodeProperties

/-! ## Building an endpoint -/

def createEndpoint (name : String) : Call σ Endpoint := do
  Call.check
  let config := (← Call.client).config
  Call.require (validateName config name)
  let token ← Call.granted (.nodeRefused name)
    (← Call.request (.createNode (nodeProperties config name)))
  Call.update fun client => { client with localNodes := client.localNodes ++ [token] }
  return { token, name }

def addPort (endpoint : Endpoint) (name : String) (direction : Direction) :
    Call σ (PortToken × Endpoint) := do
  Call.check
  let config := (← Call.client).config
  Call.require (validatePortName config endpoint.name name)
  let props := .ofList [(Key.format, midiFormat), (Key.portName, name)]
  let token ← Call.granted (.portRefused name)
    (← Call.request (.addPort endpoint.token direction props))
  return (token, { endpoint with ports := endpoint.ports ++ [{ token, name, direction }] })

def renamePort (endpoint : Endpoint) (token : PortToken) (name : String) : Call σ Endpoint := do
  Call.check
  let config := (← Call.client).config
  Call.require (validatePortName config endpoint.name name)
  if endpoint.hasPort token then
    Call.request (.updatePort endpoint.token token (.ofList [(Key.portName, name)]))
    return endpoint.renamePort token name
  else Call.fail .unknownLocalPort

def removePort (endpoint : Endpoint) (token : PortToken) : Call σ Endpoint := do
  Call.check
  if endpoint.hasPort token then
    Call.request (.removePort endpoint.token token)
    return endpoint.removePort token
  else Call.fail .unknownLocalPort

/-- Lets the server give an endpoint its node id. An active endpoint stays as it is. -/
def activate (endpoint : Endpoint) : Call σ Endpoint := do
  Call.check
  if endpoint.active then return endpoint
  else
    Call.received (← Call.request (.activateNode endpoint.token))
    return { endpoint with active := true }

/-- Removes an endpoint with its ports, without waiting. -/
def closeEndpoint (endpoint : Endpoint) : Call σ Unit := fun client world =>
  let client := { client with localNodes := client.localNodes.filter (· ≠ endpoint.token) }
  match client.transport with
  | some transport => (.ok (), client, (transport.answer (.destroyNode endpoint.token) world).2)
  | none => (.ok (), client, world)

/-! ## Waiting for an endpoint -/

def endpointNodeId (endpoint : Endpoint) (client : Client σ) (world : σ) : Option ObjectId :=
  match client.transport with
  | some transport =>
    let id := transport.nodeId endpoint.token world
    if id = unassigned then none else some id
  | none => none

/-- Whether the graph shows at least as many ports at the endpoint's node as the endpoint has. -/
def endpointReady (endpoint : Endpoint) (client : Client σ) (world : σ) : Bool :=
  match endpointNodeId endpoint client world with
  | some node =>
    let (wantedInputs, wantedOutputs) := endpoint.expectedCounts
    let (inputs, outputs) := client.graph.portCounts node
    wantedInputs ≤ inputs && wantedOutputs ≤ outputs
  | none => false

/-- Repeats a barrier until something holds, within a limit, and counts the barriers. -/
def synchronizeUntil (holds : Client σ → σ → Bool) : Nat → Call σ Nat
  | 0 => return 0
  | limit + 1 => do
    if ← Call.reads holds then return 0
    else
      synchronize
      return (← synchronizeUntil holds limit) + 1

/--
Waits until an endpoint has a node id, and then until the graph shows its ports, each within the
configured number of barriers. Running out of them is not a failure.
-/
def waitForEndpoint (endpoint : Endpoint) : Call σ Publication := do
  Call.check
  let limit := (← Call.client).config.syncRetryLimit.toNat
  let assigning ← synchronizeUntil
    (fun client world => (endpointNodeId endpoint client world).isSome) limit
  match ← Call.reads (endpointNodeId endpoint) with
  | none => return { nodeId := none, ready := false, syncAttempts := assigning }
  | some node =>
    let showing ← synchronizeUntil (endpointReady endpoint) limit
    let ready ← Call.reads (endpointReady endpoint)
    return { nodeId := some node, ready, syncAttempts := assigning + showing }

/-! ## Publishing -/

/-- The ports of a published endpoint: its inputs, then its outputs, numbered from one. -/
def generatedPorts (inputs outputs : Nat) : List (String × Direction) :=
  (List.range inputs).map (fun index => ("midi_in_" ++ Text.decimal (index + 1), .input)) ++
    (List.range outputs).map fun index => ("midi_out_" ++ Text.decimal (index + 1), .output)

def validateAll (config : Config) (name : String) (ports : List (String × Direction)) :
    Except Error Unit :=
  match validateName config name with
  | .error error => .error error
  | .ok () => ports.forM fun port => validatePortName config name port.1

def addPorts (endpoint : Endpoint) : List (String × Direction) → Call σ Endpoint
  | [] => return endpoint
  | (name, direction) :: rest => do
    let (_, endpoint) ← addPort endpoint name direction
    addPorts endpoint rest

def bringUp (endpoint : Endpoint) (ports : List (String × Direction)) :
    Call σ (Publication × Endpoint) := do
  let endpoint ← addPorts endpoint ports
  let endpoint ← activate endpoint
  let publication ← waitForEndpoint endpoint
  return (publication, endpoint)

/-- Creates an endpoint with numbered ports and waits for it; after a failure nothing is left. -/
def publish (name : String) (inputs outputs : Nat) : Call σ (Publication × Endpoint) := do
  Call.check
  let ports := generatedPorts inputs outputs
  Call.require (validateAll (← Call.client).config name ports)
  let endpoint ← createEndpoint name
  (bringUp endpoint ports).onHalt fun _ => closeEndpoint endpoint

end Client

end MediaGraph
