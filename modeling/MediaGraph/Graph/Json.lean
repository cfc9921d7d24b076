import MediaGraph.Graph.Change
import MediaGraph.Port.Json

/-!
# JSON forms of a graph

The full form of a graph is the list of its categories, each an object from node id to the two
port lists of that node. There is no reader: a graph is built from ports.

Beside it there are short forms for logs and overviews. A port is shown by its id, its node, its
category, its direction and the name to display; a graph by the ids of its ports.
-/

namespace MediaGraph

def Node.toJson (node : Node) : Json :=
  .ofFields
    [("inputs", .array (node.inputs.map Port.toJson)),
     ("outputs", .array (node.outputs.map Port.toJson))]

/-- The nodes of each category, in the order of the categories. -/
def Graph.toJson (graph : Graph) : Json :=
  .ofFields [("categories", .array (Category.all.map fun category =>
    .ofFields ((graph.nodesOf category).map fun (node, ports) =>
      (Text.decimal node.toNat, ports.toJson))))]

/-! ## Short forms -/

def Port.brief (port : Port) : Json :=
  .array [.natural port.id.toNat, .text port.node,
    .ofOption (fun category => .text category.name) port.category?,
    .text port.direction.property, .text port.displayName]

/-- The short form of a change: what it did, the ports, and for an update the id again. -/
def Change.brief : Change → Json
  | added port => .array [.text "added", port.brief]
  | removed port => .array [.text "removed", port.brief]
  | updated previous current =>
    .array [.text "updated", previous.brief, current.brief,
      .natural (updated previous current).port.id.toNat]

def Port.ids (ports : List Port) : Json := .array (ports.map fun port => .natural port.id.toNat)

/-- The short form of a graph: by category and node, the ids of the inputs and of the outputs. -/
def Graph.brief (graph : Graph) : Json :=
  .ofFields (Category.all.filterMap fun category =>
    match graph.nodesOf category with
    | [] => none
    | nodes => some (category.name, .ofFields (nodes.map fun (id, node) =>
        (Text.decimal id.toNat, .array [Port.ids node.inputs, Port.ids node.outputs]))))

end MediaGraph
