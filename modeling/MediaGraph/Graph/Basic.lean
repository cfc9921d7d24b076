import MediaGraph.Graph.Place

/-!
# The classified graph

A `Graph` files every port that has a node id and a recognised format at its place: under its
category and its node, among the inputs or the outputs of that node, in order of arrival. A port
that cannot be filed is dropped. At most one port has a given id, because filing a port first
removes the one that had its id.

A node stays, empty, when its last port leaves; only `clear` forgets it.
-/

namespace MediaGraph

/-- The ports of one node in one category, in order of arrival. -/
structure Node where
  inputs : List Port := []
  outputs : List Port := []
  deriving DecidableEq

namespace Node

def empty : Node := {}

def ports (node : Node) : Direction → List Port
  | .input => node.inputs
  | .output => node.outputs

def all (node : Node) : List Port := node.inputs ++ node.outputs

def size (node : Node) : Nat := node.inputs.length + node.outputs.length

/-- Adds a port behind those of its direction. -/
def push (node : Node) (port : Port) : Node :=
  match port.direction with
  | .input => { node with inputs := node.inputs ++ [port] }
  | .output => { node with outputs := node.outputs ++ [port] }

/-- Takes out the first port with an id, if there is one. Inputs are searched before outputs. -/
def remove? (node : Node) (id : ObjectId) : Option (Port × Node) :=
  match node.inputs.find? (·.id = id) with
  | some port => some (port, { node with inputs := node.inputs.eraseP (·.id = id) })
  | none => (node.outputs.find? (·.id = id)).map fun port =>
      (port, { node with outputs := node.outputs.eraseP (·.id = id) })

end Node

/-- Where a port belongs, if it can be filed at all. -/
def Port.place? (port : Port) : Except MalformedNode (Option Place) :=
  match port.nodeId? with
  | .error malformed => .error malformed
  | .ok none => .ok none
  | .ok (some node) => .ok (port.category?.map fun category => ⟨category, node⟩)

structure Graph where
  nodes : Table Place Node
  deriving DecidableEq

namespace Graph

def empty : Graph := ⟨.empty⟩

/-! ## Queries -/

def node? (graph : Graph) (place : Place) : Option Node := graph.nodes.get? place

/-- The ports of one direction at a place. -/
def ports (graph : Graph) (place : Place) (direction : Direction) : List Port :=
  match graph.node? place with
  | some node => node.ports direction
  | none => []

/-- The nodes of one category with their ids, increasing. -/
def nodesOf (graph : Graph) (category : Category) : List (ObjectId × Node) :=
  graph.nodes.entries.filterMap fun entry =>
    if entry.1.category = category then some (entry.1.node, entry.2) else none

/-- Every port with its category, in the order of the places. -/
def located (graph : Graph) : List (Category × Port) :=
  graph.nodes.entries.flatMap fun entry => entry.2.all.map fun port => (entry.1.category, port)

def allPorts (graph : Graph) : List Port := graph.nodes.values.flatMap Node.all

/-- Visits every port: of each node the inputs before the outputs. -/
def forEach {σ : Type} (visit : Port → σ → σ) (graph : Graph) (world : σ) : σ :=
  graph.allPorts.foldl (fun world port => visit port world) world

/-- The port with an id, and its category. -/
def find? (graph : Graph) (id : ObjectId) : Option (Category × Port) :=
  graph.located.find? fun entry => entry.2.id = id

def findNamed? (graph : Graph) (text : String) : Option Port :=
  graph.allPorts.find? fun port => port.isNamed text

def portCount (graph : Graph) : Nat := graph.allPorts.length

/-- Whether there is no port, though there may be nodes. -/
def isEmpty (graph : Graph) : Bool := graph.portCount = 0

/-- The number of inputs and of outputs that a node has in all categories together. -/
def portCounts (graph : Graph) (node : ObjectId) : Nat × Nat :=
  let found := Category.all.filterMap fun category => graph.node? ⟨category, node⟩
  ((found.flatMap (·.inputs)).length, (found.flatMap (·.outputs)).length)

/-- The ports of one kind and direction with their node's id, in the order of the places. -/
def selection (graph : Graph) (kind : MediaKind) (direction : Direction) :
    List (ObjectId × Port) :=
  graph.nodes.entries.flatMap fun entry =>
    if entry.1.category.kind = kind then
      (entry.2.ports direction).map fun port => (entry.1.node, port)
    else []

/-- Whether the first port is listed before the second: by node id, then by port id. -/
def listedBefore (first second : ObjectId × Port) : Bool :=
  first.1 < second.1 || (first.1 = second.1 && first.2.id ≤ second.2.id)

/-- The ports of one kind and direction, sorted by node id and then by port id. -/
def listPorts (graph : Graph) (kind : MediaKind) (direction : Direction) : List Port :=
  ((graph.selection kind direction).mergeSort listedBefore).map (·.2)

/-! ## Changes -/

/-- Searches the nodes for a port with the given id; what is left of its node stays there. -/
def remove (graph : Graph) (id : ObjectId) : Option Port × Graph :=
  let found := graph.nodes.entries.findSome? fun entry =>
    (entry.2.remove? id).map fun rest => (entry.1, rest)
  match found with
  | some (place, port, node) => (some port, ⟨graph.nodes.insert place node⟩)
  | none => (none, graph)

def file (graph : Graph) (place : Place) (port : Port) : Graph :=
  ⟨graph.nodes.insert place (((graph.node? place).getD .empty).push port)⟩

/--
Files a port in place of the one with its id, and says where. A port with a malformed node id
changes nothing; one without a node or without a category only removes its former record.
-/
def insert (graph : Graph) (port : Port) : Except MalformedNode (Option Place × Graph) :=
  match port.place? with
  | .error malformed => .error malformed
  | .ok none => .ok (none, (graph.remove port.id).2)
  | .ok (some place) => .ok (some place, (graph.remove port.id).2.file place port)

def clear (_graph : Graph) : Graph := empty

end Graph

end MediaGraph
