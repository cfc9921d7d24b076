import MediaGraph.Properties
import MediaGraph.Port.Category
import MediaGraph.Text.Numeral

/-!
# Port records

A `Port` holds the properties of a port that classification and display need. All of them are kept
as the server wrote them; the owning node's id is parsed only when the port is filed, because a
malformed one has to be reported with its text.
-/

namespace MediaGraph

abbrev ObjectId := UInt32

structure Port where
  id : ObjectId
  format : String
  name : String
  aliasName : String
  path : String
  node : String
  index : String
  physical : Bool
  terminal : Bool
  monitor : Bool
  direction : Direction
  deriving DecidableEq

/-- A port says that its node has an id which is no 32-bit word. -/
structure MalformedNode where
  port : ObjectId
  value : String
  deriving DecidableEq

namespace MalformedNode

def message (error : MalformedNode) : String :=
  "port " ++ Text.decimal error.port.toNat ++ " has malformed node id " ++ Text.quoted error.value

def inspect (error : MalformedNode) : String :=
  Text.record "MalformedNodeId"
    [("port_id", Text.decimal error.port.toNat), ("value", Text.quoted error.value)]

end MalformedNode

namespace Port

def blank : Port where
  id := 0
  format := ""
  name := ""
  aliasName := ""
  path := ""
  node := ""
  index := ""
  physical := false
  terminal := false
  monitor := false
  direction := .input

/-- The record that a dictionary describes; a missing text is empty, a missing flag is off. -/
def ofProperties (id : ObjectId) (props : Properties) : Port where
  id := id
  format := props.text Key.format
  name := props.text Key.portName
  aliasName := props.text Key.portAlias
  path := props.text Key.objectPath
  node := props.text Key.nodeId
  index := props.text Key.portIndex
  physical := props.flag Key.portPhysical
  terminal := props.flag Key.portTerminal
  monitor := props.flag Key.portMonitor
  direction := Direction.ofProperty (props.text Key.portDirection)

/-- The id of the owning node, if the port names one. -/
def nodeId? (port : Port) : Except MalformedNode (Option ObjectId) :=
  if port.node = "" then .ok none
  else match Text.readWord? port.node with
    | some node => .ok (some node)
    | none => .error ⟨port.id, port.node⟩

def kind? (port : Port) : Option MediaKind := MediaKind.ofFormat? port.format

def origin (port : Port) : Origin := if port.physical then .physical else .software

def category? (port : Port) : Option Category := port.kind?.map (Category.mk port.origin)

/-- The name to show: the alias, else the name, else the path. -/
def displayName (port : Port) : String :=
  if port.aliasName ≠ "" then port.aliasName else if port.name ≠ "" then port.name else port.path

/-- Whether a text names the port in any of its three ways; the empty text names none. -/
def isNamed (port : Port) (text : String) : Bool :=
  text ≠ "" && (port.name = text || port.aliasName = text || port.path = text)

end Port

end MediaGraph
