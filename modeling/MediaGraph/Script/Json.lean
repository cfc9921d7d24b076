import MediaGraph.Script.Basic
import MediaGraph.Transport.Json

/-!
# Scripts in JSON

A script is laid down by an object that names the answers to change. Batches and replies are added
behind those that wait; every other answer replaces the one before, and `null` takes back a
failure, an assignment or a descriptor.
-/

namespace MediaGraph

namespace Cue

/-- Reads an event, or the acknowledgement of the sync answered last. -/
def ofJson? (json : Json) : Option Cue :=
  match json.field? "seq" with
  | some (.text "last") => some .doneLast
  | _ => (Event.ofJson? json).map .event

end Cue

namespace SyncReply

/-- Reads an echo, a number or a failure. -/
def ofJson? : Json → Option SyncReply
  | .text "echo" => some .echo
  | .natural value => (Json.natural value).word?.map .sequence
  | json => (TransportError.ofJson? json).map .failure

end SyncReply

def Grant.ofJson? : Json → Option Grant
  | .text "bind" => some .bind
  | .text "object" => some .object
  | .text "node" => some .node
  | .text "port" => some .port
  | _ => none

def Record.toJson : Record → Json
  | init => .array [.text "init"]
  | deinit => .array [.text "deinit"]
  | connect clientName => .array [.text "connect", .text clientName]
  | asked request handle => request.toJson handle

namespace Script

/-- Reads a batch of events, or a failure in its place. -/
def batchOfJson? (json : Json) : Option (Except TransportError (List Cue)) :=
  match json.list? Cue.ofJson? with
  | some cues => some (.ok cues)
  | none => (TransportError.ofJson? json).map .error

/-- Reads the number of syncs after which a node has an id, and that id. -/
def assignmentOfJson? (json : Json) : Option (Nat × ObjectId) := do
  return (← (← json.field? "after").natural?, ← (← json.field? "id").word?)

def lay? (script : Script) (json : Json) : Option Script := do
  let failure (key : String) (current : Option TransportError) : Option (Option TransportError) :=
    json.fieldOr? key current (Json.nullable? TransportError.ofJson?)
  return { script with
    batches := script.batches ++ (← json.fieldOr? "batches" [] (Json.list? batchOfJson?))
    replies := script.replies ++ (← json.fieldOr? "sync" [] (Json.list? SyncReply.ofJson?))
    acknowledges := ← json.fieldOr? "auto" script.acknowledges Json.bool?
    initFailure := ← failure "init" script.initFailure
    connectFailure := ← failure "connect" script.connectFailure
    subscribeFailure := ← failure "subscribe" script.subscribeFailure
    activateFailure := ← failure "activate" script.activateFailure
    unbindable := ← json.fieldOr? "bind_none" script.unbindable (Json.list? Json.word?)
    refused := ← json.fieldOr? "refuse" script.refused (Json.list? Grant.ofJson?)
    assignment := ← json.fieldOr? "assign" script.assignment (Json.nullable? assignmentOfJson?)
    descriptor := ← json.fieldOr? "fd" script.descriptor (Json.nullable? Json.integer?) }

def destroyed? : Record → Option ProxyId
  | .asked (.destroyProxy proxy) _ => some proxy
  | _ => none

/--
Puts the proxies destroyed directly behind the end of a subscription into increasing order, since
the order in which a subscription gives back its proxies means nothing.
-/
def settleTeardown : List Record → List Record
  | [] => []
  | .asked .unsubscribeGlobals handle :: rest =>
    let run := (rest.map destroyed?).takeWhile Option.isSome
    let proxies := (run.filterMap id).mergeSort
    .asked .unsubscribeGlobals handle ::
      proxies.map (fun proxy => .asked (.destroyProxy proxy) none) ++
        settleTeardown (rest.drop run.length)
  | record :: rest => record :: settleTeardown rest
termination_by records => records.length
decreasing_by all_goals simp only [List.length_cons, List.length_drop]; omega

/-- Takes what has been recorded, in the form of a log. -/
def takeLog (script : Script) : Json × Script :=
  let (records, script) := script.drain
  (.array ((settleTeardown records).map Record.toJson), script)

end Script

end MediaGraph
