import MediaGraph.Table
import MediaGraph.Json.Text
import MediaGraph.Text.Record

/-!
# Property dictionaries

Every object that the server announces carries a flat dictionary from key to value. Values are
always strings; whoever reads a number or a flag parses it. A dictionary is a `Table`, so it is
walked in key order (by code point) and two dictionaries with the same lookups are equal.
-/

namespace MediaGraph

abbrev Properties := Table String String

/-!
## Keys

The keys that this library reads or writes: those of ports and nodes, the two ends of a link, and
the ones that describe a local node to the server.
-/

namespace Key

def format : String := "format.dsp"
def portName : String := "port.name"
def portAlias : String := "port.alias"
def portIndex : String := "port.id"
def portDirection : String := "port.direction"
def portPhysical : String := "port.physical"
def portTerminal : String := "port.terminal"
def portMonitor : String := "port.monitor"
def objectPath : String := "object.path"
def nodeId : String := "node.id"
def nodeName : String := "node.name"
def linkOutput : String := "link.output.port"
def linkInput : String := "link.input.port"
def mediaType : String := "media.type"
def mediaCategory : String := "media.category"
def mediaRole : String := "media.role"
def mediaName : String := "media.name"
def lockRate : String := "node.lock-rate"
def alwaysProcess : String := "node.always-process"
def pauseOnIdle : String := "node.pause-on-idle"
def suspendOnIdle : String := "node.suspend-on-idle"

/-- All keys: of ports, of nodes, of links, then of local nodes. -/
def all : List String :=
  [format, portName, portAlias, portIndex, portDirection, portPhysical, portTerminal, portMonitor,
   objectPath, nodeId, nodeName, linkOutput, linkInput, mediaType, mediaCategory, mediaRole,
   mediaName, lockRate, alwaysProcess, pauseOnIdle, suspendOnIdle]

end Key

namespace Properties

/-- The value of a key, empty where there is none. -/
def text (props : Properties) (key : String) : String := (props.get? key).getD ""

/-- Whether a key has exactly the value `true`. -/
def flag (props : Properties) (key : String) : Bool := props.get? key = some "true"

/-- Gives a key a value; the value that it had before comes along. -/
def put (props : Properties) (key value : String) : Option String × Properties :=
  (props.get? key, props.insert key value)

/-- Takes the value of a key away; the value comes along. -/
def remove (props : Properties) (key : String) : Option String × Properties :=
  (props.get? key, props.erase key)

/-- Writes the entries of another dictionary over those that there are. -/
def extend (props additions : Properties) : Properties := props.insertMany additions.entries

def toJson (props : Properties) : Json :=
  .ofFields (props.entries.map fun entry => (entry.1, .text entry.2))

/-- A member whose key and value are both readable strings. -/
def entry? (member : Option String × Json) : Option (String × String) := do
  let key ← member.1
  let value ← member.2.text?
  return (key, value)

/-- Reads an object of strings; the last value of a repeated key stays. -/
def ofJson? : Json → Option Properties
  | .object members => (members.mapM entry?).map Table.ofList
  | _ => none

def inspect (props : Properties) : String :=
  Text.record "Properties" [("items", Text.pairs (props.entries.map fun entry =>
    (Text.quoted entry.1, Text.quoted entry.2)))]

end Properties

end MediaGraph
