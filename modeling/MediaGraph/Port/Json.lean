import MediaGraph.Port.Basic

/-!
# The JSON form of a port

A port is a record of eleven fields, all of which have to be given. A direction is written as its
name; an object with that name as its only key and `null` as its value is read as well.
-/

namespace MediaGraph

namespace Direction

def toJson (direction : Direction) : Json := .text direction.name

/-- Reads a name, or an object that maps the name to nothing. -/
def ofJson? : Json → Option Direction
  | .text name => ofName? name
  | .object [(some name, .null)] => ofName? name
  | _ => none

end Direction

namespace Port

def fieldNames : List String :=
  ["id", "format", "port_name", "port_alias", "object_path", "node_id", "port_id", "physical",
   "terminal", "monitor", "direction"]

def fieldValues (port : Port) : List Json :=
  [.natural port.id.toNat, .text port.format, .text port.name, .text port.aliasName,
   .text port.path, .text port.node, .text port.index, .bool port.physical, .bool port.terminal,
   .bool port.monitor, port.direction.toJson]

def toJson (port : Port) : Json := .ofFields (fieldNames.zip port.fieldValues)

def ofFieldValues? : List (Option Json) → Option Port
  | [some id, some format, some name, some aliasName, some path, some node, some index,
     some physical, some terminal, some monitor, some direction] => do
    return {
      id := ← id.word?
      format := ← format.text?
      name := ← name.text?
      aliasName := ← aliasName.text?
      path := ← path.text?
      node := ← node.text?
      index := ← index.text?
      physical := ← physical.bool?
      terminal := ← terminal.bool?
      monitor := ← monitor.bool?
      direction := ← Direction.ofJson? direction }
  | _ => none

def ofJson? (json : Json) : Option Port := (json.record? fieldNames).bind ofFieldValues?

end Port

end MediaGraph
