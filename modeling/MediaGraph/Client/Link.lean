import MediaGraph.Client.Loop

/-!
# Links

A link leads from an output port to an input port and belongs to the connection that asked for it.
When a link has been asked for but the barrier behind it fails, the link is taken back.
-/

namespace MediaGraph

structure Link where
  proxy : ProxyId
  output : ObjectId
  input : ObjectId
  deriving DecidableEq

def Link.properties (output input : ObjectId) : Properties :=
  .ofList
    [(Key.linkOutput, Text.decimal output.toNat), (Key.linkInput, Text.decimal input.toNat)]

namespace Client

variable {σ : Type}

def dropProxy (proxy : ProxyId) : Call σ Unit := fun client world =>
  match client.transport with
  | some transport => (.ok (), client, (transport.answer (.destroyProxy proxy) world).2)
  | none => (.ok (), client, world)

/-- Asks for a link between two ports and waits until the server has dealt with it. -/
def createLink (output input : ObjectId) : Call σ Link := do
  Call.check
  let proxy ← Call.granted (.linkRefused output input)
    (← Call.request (.createObject linkFactory .link (Link.properties output input)))
  synchronize.onHalt fun _ => dropProxy proxy
  return { proxy, output, input }

/-- Takes a link back, without waiting. -/
def destroyLink (link : Link) : Call σ Unit := dropProxy link.proxy

/-- The port that a text names, if it runs in the expected direction. -/
def namedPort (graph : Graph) (name : String) (expected : Direction) : Except Error ObjectId :=
  match graph.findNamed? name with
  | none => .error (.portNotFound name)
  | some port =>
    if port.direction = expected then .ok port.id else .error (.wrongDirection port.id expected)

/-- Asks for a link between two ports given by name; the output is looked up first. -/
def linkByName (output input : String) : Call σ Link := do
  Call.check
  let graph := (← Call.client).graph
  let outputPort ← Call.require (namedPort graph output .output)
  let inputPort ← Call.require (namedPort graph input .input)
  createLink outputPort inputPort

end Client

end MediaGraph
