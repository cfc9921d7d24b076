import MediaGraph.Transport.Basic

/-!
# JSON forms of what passes over a transport

A failure is its name, or an object from its name to its reason. An event is an object that says
its kind in the member `e`; in a log it is an array of its kind and its parts, and so is a request.
-/

namespace MediaGraph

namespace ObjectKind

def toJson (kind : ObjectKind) : Json := .text kind.name

def ofJson? (json : Json) : Option ObjectKind := json.text?.bind ofName?

end ObjectKind

/-- Reads a failure. -/
def TransportError.ofJson? : Json → Option TransportError
  | .text "Disconnected" => some .disconnected
  | .object [(some "ConnectFailed", .text reason)] => some (.connectFailed reason)
  | .object [(some "Rejected", .text reason)] => some (.rejected reason)
  | _ => none

namespace Event

/-- Reads an event. -/
def ofJson? (json : Json) : Option Event := do
  let id := (json.field? "id").bind Json.word?
  match ← (← json.field? "e").text? with
  | "global" => return .global (← id) (← ObjectKind.ofJson? (← json.field? "kind"))
  | "removed" => return .removed (← id)
  | "info" => return .info (← id) (← json.fieldOr? "props" .empty Properties.ofJson?)
  | "done" => return .done (← (← json.field? "seq").word?)
  | _ => none

/-- The form of an event in a log. -/
def toJson : Event → Json
  | global id kind => .array [.text "global", .natural id.toNat, kind.toJson]
  | removed id => .array [.text "removed", .natural id.toNat]
  | info id props => .array [.text "info", .natural id.toNat, props.toJson]
  | done sequence => .array [.text "done", .natural sequence.toNat]

end Event

/-- The form of a request in a log, with the handle that it was granted. -/
def Request.toJson (handle : Option UInt32) (request : Request) : Json :=
  let word (value : UInt32) : Json := .natural value.toNat
  let granted : Json := .ofOption word handle
  .array (match request with
    | subscribeGlobals => [.text "subscribe_globals"]
    | unsubscribeGlobals => [.text "unsubscribe_globals"]
    | bindObject id kind => [.text "bind_object", word id, kind.toJson, granted]
    | subscribeInfo proxy => [.text "subscribe_object_info", word proxy]
    | destroyProxy proxy => [.text "destroy_proxy", word proxy]
    | sync sequence => [.text "sync", word sequence]
    | createObject factory kind props =>
      [.text "create_object", .text factory, kind.toJson, props.toJson, granted]
    | createNode props => [.text "create_local_node", props.toJson, granted]
    | addPort node direction props =>
      [.text "add_local_port", word node, .text direction.name, props.toJson, granted]
    | updatePort node port props =>
      [.text "update_local_port", word node, word port, props.toJson]
    | removePort node port => [.text "remove_local_port", word node, word port]
    | activateNode node => [.text "activate_local_node", word node]
    | destroyNode node => [.text "destroy_local_node", word node]
    | drive timeout => [.text "drive", .text (Text.decimal timeout)]
    | disconnect => [.text "disconnect"])

end MediaGraph
