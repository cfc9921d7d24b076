import MediaGraph.Transport.Basic

/-!
# A scripted transport

A `Script` plays the part of a server whose answers are laid down in advance: which batches the
loop gets, under which numbers syncs are acknowledged, what is refused and what fails. It records
everything that is asked of it. With nothing laid down it grants every handle and acknowledges
every sync, so a script only has to say where it differs from that.
-/

namespace MediaGraph

/-- An event of a script: a fixed one, or the acknowledgement of the sync answered last. -/
inductive Cue where
  | event (event : Event)
  | doneLast
  deriving DecidableEq

/-- What a script answers a sync with: the number it came with, another one, or a failure. -/
inductive SyncReply where
  | echo
  | sequence (number : UInt32)
  | failure (error : TransportError)
  deriving DecidableEq

/-- The requests that a handle can be granted for. -/
inductive Grant where
  | bind
  | object
  | node
  | port
  deriving DecidableEq

inductive Record where
  | init
  | deinit
  | connect (clientName : String)
  /-- A request and the handle that it was granted, if it asked for one and got it. -/
  | asked (request : Request) (handle : Option UInt32)
  deriving DecidableEq

/-- The answers that are laid down, and what has been asked. -/
structure Script where
  /-- The batches to come, or failures in their place. -/
  batches : List (Except TransportError (List Cue)) := []
  replies : List SyncReply := []
  /-- Whether the loop is given an acknowledgement when no batch is left. -/
  acknowledges : Bool := true
  initFailure : Option TransportError := none
  connectFailure : Option TransportError := none
  subscribeFailure : Option TransportError := none
  activateFailure : Option TransportError := none
  unbindable : List ObjectId := []
  refused : List Grant := []
  /-- The id that every node has after so many syncs. -/
  assignment : Option (Nat × ObjectId) := none
  descriptor : Option Int := none
  lastHandle : UInt32 := 0
  lastSequence : UInt32 := 0
  syncs : Nat := 0
  /-- Oldest first. -/
  records : List Record := []

namespace Script

def note (script : Script) (record : Record) : Script :=
  { script with records := script.records ++ [record] }

def drain (script : Script) : List Record × Script :=
  (script.records, { script with records := [] })

/-- The outcome of something that a failure may be laid down for. -/
def outcome : Option TransportError → Except TransportError Unit
  | none => .ok ()
  | some error => .error error

/-- The next handle, unless its kind is refused. -/
def grant (script : Script) (kind : Grant) : Option UInt32 × Script :=
  if kind ∈ script.refused then (none, script)
  else
    let handle := script.lastHandle + 1
    (some handle, { script with lastHandle := handle })

/-- Grants or refuses the handle that a request asks for. -/
def grantFor : Request → Script → Option UInt32 × Script
  | .bindObject id _, script =>
    if id ∈ script.unbindable then (none, script) else script.grant .bind
  | .createObject .., script => script.grant .object
  | .createNode _, script => script.grant .node
  | .addPort .., script => script.grant .port
  | _, script => (none, script)

/-- Answers a sync with a number, which is then the last one answered. -/
def replyWith (script : Script) (number : UInt32) : Except TransportError UInt32 × Script :=
  (.ok number, { script with lastSequence := number })

def reply (script : Script) (sequence : UInt32) : Except TransportError UInt32 × Script :=
  let script := { script with syncs := script.syncs + 1 }
  match script.replies with
  | [] => script.replyWith sequence
  | .echo :: rest => ({ script with replies := rest } : Script).replyWith sequence
  | .sequence number :: rest => ({ script with replies := rest } : Script).replyWith number
  | .failure error :: rest => (.error error, { script with replies := rest })

def play (script : Script) : Cue → Event
  | .event event => event
  | .doneLast => .done script.lastSequence

def nextBatch (script : Script) : Except TransportError (List Event) × Script :=
  match script.batches with
  | .ok cues :: rest => (.ok (cues.map script.play), { script with batches := rest })
  | .error error :: rest => (.error error, { script with batches := rest })
  | [] =>
    if script.acknowledges then (.ok [.done script.lastSequence], script)
    else (.error .disconnected, script)

/-- Answers a request that has been recorded, given the handle that it was granted. -/
def respond (handle : Option UInt32) : (request : Request) → Script → request.Answer × Script
  | .bindObject .., script | .createObject .., script | .createNode _, script
  | .addPort .., script => (handle, script)
  | .subscribeGlobals, script => (outcome script.subscribeFailure, script)
  | .activateNode _, script => (outcome script.activateFailure, script)
  | .sync sequence, script => script.reply sequence
  | .drive _, script => script.nextBatch
  | .unsubscribeGlobals, script | .subscribeInfo _, script | .destroyProxy _, script
  | .updatePort .., script | .removePort .., script | .destroyNode _, script
  | .disconnect, script => ((), script)

def answer (request : Request) (script : Script) : request.Answer × Script :=
  let (handle, script) := grantFor request script
  respond handle request (script.note (.asked request handle))

/-- The id of every node, once enough syncs have been counted. -/
def nodeId (script : Script) : ObjectId :=
  match script.assignment with
  | some (needed, id) => if needed ≤ script.syncs then id else unassigned
  | none => unassigned

/--
The transport that plays a script. When no batch is left the sync answered last is acknowledged or
the loop fails, so a sync never outlasts the batches by more than one.
-/
def transport : Transport Script where
  answer := answer
  nodeId _ script := script.nodeId
  descriptor script := script.descriptor
  patience script := script.batches.length + 1

def backend : Backend Script where
  name := "script"
  init script := (outcome script.initFailure, script.note .init)
  deinit script := script.note .deinit
  connect config script :=
    let script := script.note (.connect config.clientName)
    match script.connectFailure with
    | none => (.ok transport, script)
    | some error => (.error error, script)

end Script

end MediaGraph
