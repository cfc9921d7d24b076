import MediaGraph.Proofs.Client.Showing
import MediaGraph.Proofs.Network

/-!
# What is published comes to be shown

A client that may publish gets its node and the ports of it at once, and then waits for two
barriers: in the first it hears of the ports, and in the second it is told what they are. If it
waits for fewer, it finds out no more than the id of its node (`Network.publish_shown`).

A link that is taken back through another client than its own is an exception. The client may hear
no more of a port whose handle has been given back with it, and go on showing it as it was.
-/

namespace MediaGraph

namespace Server

variable {id : ConnectionId} {before after server : Server} {given : ObjectId}

/-- The server has no port at a node. -/
def Omits (server : Server) (node : ObjectId) : Prop :=
  ∀ object props, server.portProperties? object = some props →
    (Port.ofProperties object props).nodeId? ≠ .ok (some node)

instance (server : Server) (node : ObjectId) : Decidable (server.Omits node) :=
  decidable_of_iff (∀ port ∈ server.portObjects,
    (Port.ofProperties port.1 port.2).nodeId? ≠ .ok (some node))
    ⟨fun omits object props isPort => omits (object, props) (mem_portObjects_iff.2
      (portProperties?_eq_some_iff.1 isPort)), fun omits port member =>
        omits port.1 port.2 (portProperties?_eq_some_iff.2 (mem_portObjects_iff.1 member))⟩

end Server

namespace Client

variable {id : ConnectionId} {client : Client Server} {endpoint : Endpoint} {name : String}
  {ports : List (String × Direction)} {given : ObjectId} {props : Properties}
  {added : List (ObjectId × Object)} {before after : Server}

/-! ## What has been brought to light -/

namespace Brought

variable (brought : Brought id ports endpoint given props added before after)

include brought

theorem present {entry : ObjectId × Object} (member : entry ∈ added) :
    after.portProperties? entry.1 = some entry.2.props := by
  have isObject := brought.unveils.present entry (List.mem_cons_of_mem _ member)
  rcases brought.eq_of_mem member with ⟨index, port, same⟩
  exact Server.portProperties?_eq_some_iff.2 ⟨entry.2, isObject, by rw [same], rfl⟩

/-- The ports are those that there were, and those of the endpoint. -/
theorem portProperties?_cases {object : ObjectId} {found : Properties}
    (isPort : after.portProperties? object = some found) :
    (∃ entry ∈ added, entry.1 = object ∧ entry.2.props = found) ∨
      before.portProperties? object = some found := by
  rcases Server.portProperties?_eq_some_iff.1 isPort with ⟨present, isObject, kind, rfl⟩
  by_cases isNew : object ∈ ((given,
      ({ kind := .node, props, owner := some id } : Object)) :: added).map (·.1)
  · rcases List.mem_map.1 isNew with ⟨entry, member, rfl⟩
    cases isObject.symm.trans (brought.unveils.present entry member)
    rcases List.mem_cons.1 member with rfl | member
    · cases kind
    · exact .inl ⟨entry, member, rfl, rfl⟩
  · rw [brought.unveils.kept object isNew] at isObject
    exact .inr (Server.portProperties?_eq_some_iff.2 ⟨present, isObject, kind, rfl⟩)

theorem legible (legible : before.Legible id) (connected : (before.connections.get? id).isSome) :
    after.Legible id := by
  refine ⟨fun object found isPort => ?_, fun later isLater object found member => ?_⟩
  · rcases brought.portProperties?_cases isPort with ⟨entry, isAdded, rfl, rfl⟩ | old
    · have place := brought.placed isAdded
      rw [(Port.place?_eq_some_iff.1 place).1]
      rfl
    · exact legible.ports object found old
  · rcases Option.isSome_iff_exists.1 connected with ⟨connection, isConnected⟩
    rcases brought.unveils.told connection isConnected with ⟨last, isLast, -, inbox⟩
    cases isLater.symm.trans isLast
    rw [inbox] at member
    rcases List.mem_append.1 member with old | isNew
    · exact legible.told connection isConnected object found old
    · split at isNew
      · simp at isNew
      · cases isNew

/-- The ports are new to the client, and the only ones at the node. -/
theorem unseen (connected : (before.connections.get? id).isSome)
    (subscribed : ∀ later, after.connections.get? id = some later → later.subscribed)
    (free : before.Omits given) (omits : client.graph.Omits given) :
    Unseen id given added client after where
  told later isLater := by
    rcases Option.isSome_iff_exists.1 connected with ⟨connection, isConnected⟩
    rcases brought.unveils.told connection isConnected with ⟨last, isLast, same, inbox⟩
    cases isLater.symm.trans isLast
    refine ⟨connection.inbox, ?_⟩
    rw [inbox, if_pos (same.symm.trans (subscribed later isLater)), List.map_cons, announcements]
    congr 2
    apply List.map_congr_left
    intro entry member
    rcases brought.eq_of_mem member with ⟨index, port, isPort⟩
    rw [isPort]
  once := (List.nodup_cons.1 brought.unveils.once).2
  present _ member := brought.present member
  only object found isPort isNode := by
    rcases brought.portProperties?_cases isPort with ⟨entry, member, rfl, -⟩ | old
    · exact List.mem_map_of_mem member
    · exact absurd isNode (free object found old)
  omits := omits

/-- The records at the node have the names of the ports in each direction, in order. -/
theorem names (direction : Direction) :
    ((recordsOf added).filter (·.liesAt ⟨⟨.software, .midi⟩, given⟩ direction)).map (·.name) =
      (ports.filter (·.2 = direction)).map (·.1) := by
  have here : (recordsOf added).filter (·.liesAt ⟨⟨.software, .midi⟩, given⟩ direction) =
      (recordsOf added).filter (·.direction = direction) := by
    apply List.filter_congr
    intro record member
    rcases List.mem_map.1 member with ⟨entry, isAdded, rfl⟩
    simp [Port.liesAt, brought.placed isAdded]
  rw [here, ← brought.labels]
  simp only [List.filter_map, List.map_map]
  rfl

theorem count (direction : Direction) :
    ((recordsOf added).filter (·.liesAt ⟨⟨.software, .midi⟩, given⟩ direction)).length =
      ports.countP (·.2 = direction) := by
  have lengths := congrArg List.length (brought.names direction)
  rw [List.length_map, List.length_map] at lengths
  rw [lengths, List.countP_eq_length_filter]

end Brought

/-- The names that the ports of a published endpoint are to have. -/
def generatedNames (inputs outputs : Nat) : Direction → List String
  | .input => (List.range inputs).map fun index => "midi_in_" ++ Text.decimal (index + 1)
  | .output => (List.range outputs).map fun index => "midi_out_" ++ Text.decimal (index + 1)

theorem names_generatedPorts (inputs outputs : Nat) (direction : Direction) :
    ((generatedPorts inputs outputs).filter (·.2 = direction)).map (·.1) =
      generatedNames inputs outputs direction := by
  cases direction <;> simp [generatedPorts, generatedNames, List.filter_append, List.filter_map,
    Function.comp_def]

theorem countP_generatedPorts (inputs outputs : Nat) :
    (generatedPorts inputs outputs).countP (·.2 = .input) = inputs ∧
      (generatedPorts inputs outputs).countP (·.2 = .output) = outputs := by
  constructor <;> simp [generatedPorts, List.countP_append, List.countP_map, Function.comp_def]

/-! ## Publishing -/

/--
What publishing comes to, within a limit of barriers, when the ports of the endpoint are the only
ones at its node.
-/
structure Shows (inputs outputs limit : Nat) (graph : Graph) (node : ObjectId)
    (publication : Publication) : Prop where
  attempts : publication.syncAttempts = if inputs + outputs = 0 then 0 else min 2 limit
  ready : publication.ready ↔ inputs + outputs = 0 ∨ 2 ≤ limit
  names : publication.ready → ∀ direction,
    (graph.ports ⟨⟨.software, .midi⟩, node⟩ direction).map (·.name) =
      generatedNames inputs outputs direction

theorem Brought.fit (brought : Brought id ports endpoint given props added before after)
    (healthy : client.Healthy) (opened : client.transport = some (Server.transport id))
    (connected : (before.connections.get? id).isSome) (legible : before.Legible id) :
    client.Fit id after := by
  refine ⟨healthy, opened, ?_, brought.legible legible connected⟩
  rcases Option.isSome_iff_exists.1 connected with ⟨connection, isThere⟩
  rcases brought.unveils.told connection isThere with ⟨later, isLater, -⟩
  simp [isLater]

/-- A client that waits for an endpoint that has just been brought to light comes to show it. -/
theorem Brought.shows {links : List ProxyId} {inputs outputs attempts limit : Nat}
    {final : Client Server} {changed : Server}
    (brought : Brought id (generatedPorts inputs outputs) endpoint given props added before after)
    (connected : (before.connections.get? id).isSome) (free : before.Omits given)
    (omits : client.graph.Omits given) (steady : client.Steady id links after)
    (ran : synchronizeUntil (endpointReady endpoint) limit client after =
      (.ok attempts, final, changed)) (few : changed.HasHandles id) :
    Shows inputs outputs limit final.graph given
      { nodeId := some given
        ready := endpointReady endpoint final changed
        syncAttempts := attempts } := by
  have subscribed : ∀ later, after.connections.get? id = some later → later.subscribed := by
    intro later isLater
    rcases steady.follows ((steady.admits_synchronizeUntil ran).few few) isLater with
      ⟨-, -, known, tracks⟩
    exact tracks.subscribed
  have unseen : Unseen id given added client after :=
    brought.unseen connected subscribed free omits
  have counts := brought.expectedCounts
  rcases countP_generatedPorts inputs outputs with ⟨isInputs, isOutputs⟩
  rw [isInputs, isOutputs] at counts
  have none : endpoint.expectedCounts = (0, 0) ↔ inputs + outputs = 0 := by
    rw [counts, Prod.mk.injEq, Nat.add_eq_zero_iff]
  rcases unseen.shown steady brought.isGiven brought.real
    ((brought.count .input).trans (by rw [isInputs, counts]))
    ((brought.count .output).trans (by rw [isOutputs, counts])) ran few with
    ⟨waits, ready, ports⟩
  rw [none] at ready
  refine ⟨by simpa only [none] using waits, ready, fun isReady direction => ?_⟩
  rw [ports isReady, brought.names, names_generatedPorts]

end Client

namespace Network

variable {network : Network} {id : ConnectionId} {client : Client Server}

/-- A client on a network is not poisoned by anything but events. -/
theorem Reachable.settled (reachable : network.Reachable)
    (found : network.clients.get? id = some client) : client.Settled := by
  induction reachable generalizing id client with
  | initial => cases found
  | @perform network action _ _ ih =>
      cases action with
      | setUp | takeDown | inject => exact ih found
      | connect setup =>
          simp only [Network.perform, Setup.connect] at found
          rcases ran : Client.connect Server.backend setup.config setup.observers network.server
            with ⟨refusal | opened, server⟩
          · rw [ran] at found
            exact ih found
          · simp only [ran, Table.get?_insert] at found
            split at found
            · cases found
              exact .inl (Client.healthy_of_connect ran)
            · exact ih found
      | call caller invocation =>
          cases present : network.clients.get? caller with
          | none =>
              simp only [Network.perform, present] at found
              exact ih found
          | some former =>
              rw [(perform_call present).2.1, Table.get?_insert] at found
              split at found
              · cases found
                exact Client.Reaches.settled (.call (.refl former) invocation network.server)
                  (ih present)
              · exact ih found

/-- Putting an endpoint together leaves a client in step. -/
theorem Sound.reflects_of_assemble {name : String} {ports : List (String × Direction)}
    {endpoint : Endpoint} {after : Client Server} {changed : Server} (sound : network.Sound)
    (found : network.clients.get? id = some client)
    (ran : Client.assemble name ports client network.server = (.ok endpoint, after, changed)) :
    after.Reflects id (network.linksOf id) changed := by
  have ordinary : Call.Ordinary fun {α : Type} (call : Call Server α) =>
      call.Within Halt.Never (Client.StillReflects id (network.linksOf id)) :=
    Client.respected_stillReflects.toRegular.ordinary
  have kept := (Client.holds_assemble ordinary name ports).always client network.server
    (sound.connected id client found)
  rw [ran] at kept
  exact kept.2 ⟨sound.inStep id client found, sound.mirrors id client found⟩

/-- Nothing stands in the way of what a client is to publish. -/
structure Prepared (network : Network) (id : ConnectionId) (client : Client Server)
    (name : String) (inputs outputs : Nat) : Prop where
  found : network.clients.get? id = some client
  able : client.CanPublish name inputs outputs
  connected : (network.server.connections.get? id).isSome
  assigns : network.server.policy.assignNodeIds
  publishes : network.server.policy.publishLocalPorts
  legible : network.server.Legible id
  /-- There are ids for the node and its ports. -/
  free : network.server.Free (inputs + outputs + 1)

/--
On a network where every link is taken back through the client that it came from, publishing
succeeds if nothing stands in its way, and the node has an id then. If the handles of the connection
have not been used up, the node is an object of the server; and if nobody had a port there before,
the client shows the ports in the second barrier, or not at all if it waits for fewer.
-/
theorem publish_shown {name : String} {inputs outputs : Nat} (reachable : network.Reachable)
    (prepared : network.Prepared id client name inputs outputs) :
    ∃ publication endpoint after changed node,
      client.publish name inputs outputs network.server =
        (.ok (publication, endpoint), after, changed) ∧
      publication.nodeId = some node ∧
      (changed.HasHandles id → changed.kind? node = some .node ∧
        (network.server.Omits node → client.graph.Omits node →
          Client.Shows inputs outputs client.config.syncRetryLimit.toNat after.graph node
            publication)) := by
  rcases prepared with ⟨found, able, connected, assigns, publishes, legible, free⟩
  rcases Option.isSome_iff_exists.1 able.opened with ⟨transport, opened⟩
  have isConnected := reachable.sound.connected id client found
  rw [isConnected transport opened] at opened
  have healthy : client.Healthy := by
    rcases reachable.settled found with healthy | ⟨malformed, poisoned⟩
    · exact healthy
    · cases able.healthy.symm.trans poisoned
  have many : (Client.generatedPorts inputs outputs).length = inputs + outputs := by
    simp [Client.generatedPorts]
  rcases Client.assemble_ok opened able.healthy (Client.publishable_iff.2 able.publishable)
    connected assigns publishes (many ▸ free) with
    ⟨endpoint, node, props, added, middle, ran, brought⟩
  let keeper : Client Server := { client with localNodes := client.localNodes ++ [endpoint.token] }
  have stillHealthy : keeper.Healthy := ⟨healthy.clean, healthy.attentive⟩
  have fit : keeper.Fit id middle := brought.fit stillHealthy opened connected legible
  have given := fit.endpointNodeId_eq brought.isGiven brought.real
  rcases fit.waitForEndpoint_eq_ok given with ⟨attempts, after, changed, waiting, waited⟩
  refine ⟨_, endpoint, after, changed, node, Client.publish_of_waited able ran waited, rfl, ?_⟩
  intro few
  have steady : keeper.Steady id (network.linksOf id) middle :=
    ⟨fit, reachable.sound.reflects_of_assemble found ran⟩
  have objects := steady.objects_synchronizeUntil waiting few
  refine ⟨?_, fun free omits => ?_⟩
  · rw [Server.kind?, objects, brought.unveils.present _ List.mem_cons_self]
    rfl
  · have stillOmits : keeper.graph.Omits node := omits
    exact brought.shows connected free stillOmits steady waiting few

/-! ## Fixed runs -/

/-- Whether nothing stands in the way of what a client is to publish, if these ids are free. -/
def isPrepared (network : Network) (id : ConnectionId) (client : Client Server)
    (name : String) (inputs outputs : Nat) (ids : List ObjectId) : Bool :=
  client.poison.isNone && client.isOpen &&
    (Client.validateAll client.config name (Client.generatedPorts inputs outputs)).isOk &&
    (network.server.connections.get? id).isSome && network.server.policy.assignNodeIds &&
    network.server.policy.publishLocalPorts && decide (network.server.Legible id) &&
    decide (ids.Nodup ∧ inputs + outputs + 1 ≤ ids.length) &&
    ids.all fun object => decide (firstObjectId ≤ object ∧ object < unassigned) &&
      (network.server.objects.get? object).isNone

theorem prepared_of_isPrepared {name : String} {inputs outputs : Nat} {ids : List ObjectId}
    (found : network.clients.get? id = some client)
    (isPrepared : network.isPrepared id client name inputs outputs ids) :
    network.Prepared id client name inputs outputs := by
  simp only [Network.isPrepared, Bool.and_eq_true, Option.isNone_iff_eq_none, List.all_eq_true,
    decide_eq_true_eq] at isPrepared
  rcases isPrepared with
    ⟨⟨⟨⟨⟨⟨⟨⟨healthy, opened⟩, valid⟩, connected⟩, assigns⟩, publishes⟩, legible⟩, ids⟩, free⟩
  have checked : Client.validateAll client.config name
      (Client.generatedPorts inputs outputs) = .ok () := by
    rcases result : Client.validateAll client.config name
      (Client.generatedPorts inputs outputs) with error | ⟨⟩
    · simp [result, Except.isOk, Except.toBool] at valid
    · rfl
  exact ⟨found, ⟨healthy, opened, Client.publishable_iff.1 checked⟩, connected, assigns, publishes,
    legible, _, ids.1, ids.2, fun object member => ⟨(free object member).1.1,
      (free object member).1.2, (free object member).2⟩⟩

/--
What comes of publishing: whether nothing stands in its way, whether nobody has a port at a node
before, the limit of barriers, the publication and the handles that are used up by then.
-/
def trial (network : Network) (id : ConnectionId) (inputs outputs : Nat) (node : ObjectId)
    (ids : List ObjectId) : Option (Bool × Bool × Nat × Publication × Option Nat) :=
  (network.clients.get? id).bind fun client =>
    match client.publish "synth" inputs outputs network.server with
    | (.ok (publication, _), _, changed) =>
      some (network.isPrepared id client "synth" inputs outputs ids,
        decide (network.server.Omits node ∧ client.graph.Omits node),
        client.config.syncRetryLimit.toNat, publication,
        (changed.connections.get? id).map (·.handles))
    | (.error _, _) => none

theorem of_trial {inputs outputs limit handles : Nat} {node : ObjectId} {ids : List ObjectId}
    {publication : Publication}
    (tried : network.trial id inputs outputs node ids =
      some (true, true, limit, publication, some handles))
    (few : handles < UInt32.size) :
    ∃ client endpoint after changed, network.Prepared id client "synth" inputs outputs ∧
      client.publish "synth" inputs outputs network.server =
        (.ok (publication, endpoint), after, changed) ∧
      changed.HasHandles id ∧ network.server.Omits node ∧ client.graph.Omits node ∧
      client.config.syncRetryLimit.toNat = limit := by
  rcases Option.bind_eq_some_iff.1 tried with ⟨client, found, tried⟩
  rcases ran : client.publish "synth" inputs outputs network.server with
    ⟨reason | ⟨published, endpoint⟩, after, changed⟩
  · simp [ran] at tried
  · simp only [ran, Option.some.injEq, Prod.mk.injEq, decide_eq_true_eq,
      Option.map_eq_some_iff] at tried
    rcases tried with ⟨isPrepared, ⟨free, omits⟩, limited, rfl, ⟨connection, connected, count⟩⟩
    refine ⟨client, endpoint, after, changed, prepared_of_isPrepared found isPrepared, ran, ?_,
      free, omits, limited⟩
    intro other isOther
    cases connected.symm.trans isOther
    rwa [count]

/-- A client that shows a port of another node publishes one input and two outputs. -/
theorem publish_shown_new :
    let described : Properties := .ofList [(Key.nodeId, "10"), (Key.format, "8 bit raw midi")]
    let network : Network := ({} : Network)
      |>.perform (.inject (.addObject .port described))
      |>.perform (.connect {})
    ∃ client publication endpoint after changed, network.Prepared 1 client "synth" 1 2 ∧
      client.publish "synth" 1 2 network.server =
        (.ok (publication, endpoint), after, changed) ∧
      changed.HasHandles 1 ∧ changed.kind? 33 = some .node ∧
      Client.Shows 1 2 client.config.syncRetryLimit.toNat after.graph 33 publication ∧
      publication.ready := by
  intro described network
  have reachable : network.Reachable := .perform (.perform .initial trivial) trivial
  have tried : network.trial 1 1 2 33 [40, 41, 42, 43] =
      some (true, true, 100, { nodeId := some 33, ready := true, syncAttempts := 2 }, some 8) := by
    decide +kernel
  rcases of_trial tried (by decide) with
    ⟨client, endpoint, after, changed, prepared, ran, few, free, omits, -⟩
  rcases publish_shown reachable prepared with
    ⟨publication, other, later, final, node, again, isNode, shown⟩
  cases ran.symm.trans again
  cases isNode
  rcases shown few with ⟨isObject, shows⟩
  exact ⟨client, _, endpoint, after, changed, prepared, ran, few, isObject, shows free omits, rfl⟩

/--
The first client creates a link under its third handle, and the second is made to give it back, with
whose third handle it listens to a port. That port is told to be at node 36, then moves on to node
7, of which the second client does not hear. So when it publishes, under node 36, it finds the port
there in the first barrier and waits no longer.
-/
theorem not_shown_of_mixed_links :
    let at36 : Properties := .ofList [(Key.nodeId, "36"), (Key.format, "8 bit raw midi")]
    let at7 : Properties := .ofList [(Key.nodeId, "7"), (Key.format, "8 bit raw midi")]
    let network : Network :=
      [.inject (.addObject .port (.ofList [(Key.portDirection, "out")])),
        .inject (.addObject .port .empty), .connect {}, .call 1 (.createLink 32 33),
        .inject (.addObject .port (.ofList [(Key.format, "8 bit raw midi")])), .connect {},
        .inject (.replaceProperties 35 at36),
        .call 2 (.destroyLink { proxy := 3, output := 32, input := 33 }),
        .inject (.replaceProperties 35 at7)].foldl perform {}
    ∃ client publication endpoint after changed, network.Prepared 2 client "synth" 1 0 ∧
      client.publish "synth" 1 0 network.server =
        (.ok (publication, endpoint), after, changed) ∧
      changed.HasHandles 2 ∧ publication.nodeId = some 36 ∧ network.server.Omits 36 ∧
      client.graph.Omits 36 ∧
      ¬Client.Shows 1 0 client.config.syncRetryLimit.toNat after.graph 36 publication := by
  intro at36 at7 network
  have tried : network.trial 2 1 0 36 [40, 41] =
      some (true, true, 100, { nodeId := some 36, ready := true, syncAttempts := 1 }, some 6) := by
    decide +kernel
  rcases of_trial tried (by decide) with
    ⟨client, endpoint, after, changed, prepared, ran, few, free, omits, limit⟩
  refine ⟨client, _, endpoint, after, changed, prepared, ran, few, rfl, free, omits, ?_⟩
  intro shows
  have attempts := shows.attempts
  rw [limit] at attempts
  cases attempts

end Network

end MediaGraph
