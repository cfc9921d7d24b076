import MediaGraph.Proofs.Client.Barriers
import MediaGraph.Proofs.Network

/-!
# Clients converge to the server

Whatever has happened on a server and its clients, two barriers in a row bring a client up to date:
its graph holds the records of exactly the ports that can be classified, and it listens to exactly
the ports that there are (`mirror_converges`). The invariant behind this is `Tracks`; what is left
here is to read it with nothing pending.

A link taken back through another client than its own is an exception. Its handle may be the one
that the other client listens to a port with, and then the client hears of the port no more.
-/

namespace MediaGraph

namespace Server

/-- The records of the ports that name a node and have a recognised format. -/
def classifiedPorts (server : Server) : List Port :=
  server.objects.entries.filterMap fun entry =>
    let port := Port.ofProperties entry.1 entry.2.props
    if entry.2.kind = .port ∧ port.node ≠ "" ∧ port.category?.isSome then some port else none

variable {server : Server}

theorem mem_classifiedPorts {port : Port} :
    port ∈ server.classifiedPorts ↔
      ∃ object, server.objects.get? port.id = some object ∧ object.kind = .port ∧
        port = Port.ofProperties port.id object.props ∧ port.node ≠ "" ∧
          port.category?.isSome := by
  simp only [classifiedPorts, List.mem_filterMap, Prod.exists, Option.ite_none_right_eq_some,
    Option.some.injEq, Table.get?_eq_some_iff]
  constructor
  · rintro ⟨id, object, present, ⟨isPort, named, classified⟩, rfl⟩
    exact ⟨object, present, isPort, rfl, named, classified⟩
  · rintro ⟨object, present, isPort, record, named, classified⟩
    rw [record] at named classified
    exact ⟨port.id, object, present, ⟨isPort, named, classified⟩, record.symm⟩

theorem nodup_classifiedPorts (server : Server) : server.classifiedPorts.Nodup := by
  have apart : server.objects.entries.Pairwise fun first second => first.1 ≠ second.1 :=
    List.pairwise_map.1 server.objects.keys_nodup
  refine apart.filterMap _ fun first second differ port isFirst other isOther same => differ ?_
  simp only [Option.ite_none_right_eq_some, Option.some.injEq] at isFirst isOther
  rw [← isFirst.2, ← isOther.2] at same
  exact congrArg Port.id same

theorem mem_portIds {id : ObjectId} : id ∈ server.portIds ↔ server.kind? id = some .port := by
  simp only [portIds, List.mem_filterMap, Prod.exists, Option.ite_none_right_eq_some,
    Option.some.injEq, kind?, Option.map_eq_some_iff, Table.get?_eq_some_iff]
  constructor
  · rintro ⟨other, object, present, isPort, rfl⟩
    exact ⟨object, present, isPort⟩
  · rintro ⟨object, present, isPort⟩
    exact ⟨id, object, present, isPort, rfl⟩

end Server

namespace Client

/-- The graph of the client and what it listens to are what the server has. -/
structure UpToDate (client : Client Server) (server : Server) : Prop where
  /-- There is one record for each classified port, with its present properties, and no other. -/
  records : client.graph.allPorts.Perm server.classifiedPorts
  once : (client.graph.allPorts.map (·.id)).Nodup
  /-- Each record is under its own category, node and direction. -/
  placed : ∀ port ∈ client.graph.allPorts, ∃ category node,
    port.category? = some category ∧ port.nodeId? = .ok (some node) ∧
      port ∈ client.graph.ports ⟨category, node⟩ port.direction
  listens : ∀ id, client.subscriber.isListeningTo id ↔ id ∈ server.portIds

end Client

section Tracks

variable {subscriber : Subscriber} {server : Server} {connection : Connection}
  {links : List ProxyId} {client : Client Server}

theorem Tracks.listens_iff (tracks : Tracks server.kinds links [] subscriber server connection)
    (id : ObjectId) : subscriber.isListeningTo id ↔ id ∈ server.portIds := by
  rw [Server.mem_portIds, ← Server.get?_kinds]
  constructor
  · intro listening
    apply Decidable.byContradiction
    intro other
    rcases Subscriber.isListeningTo_iff.1 listening with ⟨proxy, listened⟩
    rw [(tracks.absent id other).1] at listened
    cases listened
  · intro isPort
    exact Subscriber.isListeningTo_iff.2 (tracks.present id isPort Event.untouched_nil)

/-- With nothing pending the graph shows every port as it is. -/
theorem Tracks.shows (tracks : Tracks server.kinds links [] subscriber server connection)
    {id : ObjectId} {object : Object} (present : server.objects.get? id = some object)
    (isPort : object.kind = .port) : subscriber.graph.Shows id object.props := by
  have known : server.kinds.get? id = some .port := by
    simp [Server.kind?, present, isPort]
  have isProps : server.properties? id = some object.props := by
    simp [Server.properties?, present]
  rcases tracks.shown id known Event.untouched_nil object.props isProps with told | ⟨-, shows⟩
  · cases told
  · exact shows

theorem Tracks.mem_allPorts_iff (tracks : Tracks server.kinds links [] subscriber server connection)
    {port : Port} : port ∈ subscriber.graph.allPorts ↔ port ∈ server.classifiedPorts := by
  rw [Server.mem_classifiedPorts]
  constructor
  · intro member
    rcases tracks.filed.mem_ports member with ⟨place, isPlace, -⟩
    have found : subscriber.graph.find? port.id = some (place.category, port) :=
      tracks.filed.find?_eq_some_iff.2 ⟨member, rfl, place.node, isPlace⟩
    have known : server.kinds.get? port.id = some .port := by
      apply Decidable.byContradiction
      intro other
      rw [(tracks.absent port.id other).2] at found
      cases found
    rw [Server.get?_kinds, Server.kind?] at known
    rcases Option.map_eq_some_iff.1 known with ⟨object, present, isPort⟩
    rcases tracks.shows present isPort with ⟨described, isDescribed, shown⟩
    rw [found] at shown
    rcases Option.map_eq_some_iff.1 shown.symm with ⟨_, -, same⟩
    have record : port = Port.ofProperties port.id object.props := (congrArg Prod.snd same).symm
    rcases (Port.isSome_place isPlace).1 rfl with ⟨named, classified⟩
    exact ⟨object, present, isPort, record, named, classified⟩
  · rintro ⟨object, present, isPort, record, named, classified⟩
    rcases tracks.shows present isPort with ⟨place, isPlace, found⟩
    rw [← record] at isPlace found
    rcases Option.isSome_iff_exists.1 ((Port.isSome_place isPlace).2 ⟨named, classified⟩) with
      ⟨place, rfl⟩
    exact (tracks.filed.find?_eq_some_iff.1 found).1

theorem Tracks.upToDate
    (tracks : Tracks server.kinds links [] client.subscriber server connection) :
    client.UpToDate server where
  records := by
    apply (List.perm_ext_iff_of_nodup tracks.filed.unique.of_map server.nodup_classifiedPorts).2
    exact fun port => tracks.mem_allPorts_iff
  once := tracks.filed.unique
  placed port member := by
    rcases tracks.filed.mem_ports member with ⟨place, isPlace, present⟩
    rcases Port.place?_eq_some_iff.1 isPlace with ⟨isNode, isCategory⟩
    exact ⟨place.category, place.node, isCategory, isNode, present⟩
  listens := tracks.listens_iff

end Tracks

namespace Network

variable {network : Network} {id : ConnectionId} {client between after : Client Server}
  {middle changed : Server}

/--
On a network where every link is taken back through the client that it came from, a client that gets
through two barriers in a row is up to date, unless its handles have been used up.
-/
theorem mirror_converges (reachable : network.Reachable)
    (member : network.clients.get? id = some client)
    (first : client.synchronize network.server = (.ok (), between, middle))
    (second : between.synchronize middle = (.ok (), after, changed))
    (few : ∀ connection, changed.connections.get? id = some connection →
      connection.handles < UInt32.size) : after.UpToDate changed := by
  have sound := reachable.sound
  rcases Client.tracks_of_two_barriers (sound.connected id client member)
    (sound.inStep id client member) first second few with ⟨connection, tracks⟩
  exact tracks.upToDate

/--
What two barriers come to for a client: whether they succeed, the handles that its connection has
used, the number of its records and the number of those that there should be.
-/
def probe (network : Network) (id : ConnectionId) :
    Option (Bool × Bool × Option Nat × Nat × Nat) :=
  (network.clients.get? id).map fun client =>
    let (first, between, middle) := client.synchronize network.server
    let (second, after, changed) := between.synchronize middle
    (first.isOk, second.isOk, (changed.connections.get? id).map (·.handles),
      after.graph.portCount, changed.classifiedPorts.length)

theorem of_probe {handles records due : Nat}
    (probed : network.probe id = some (true, true, some handles, records, due)) :
    ∃ client between after middle changed, network.clients.get? id = some client ∧
      client.synchronize network.server = (.ok (), between, middle) ∧
      between.synchronize middle = (.ok (), after, changed) ∧
      (∀ connection, changed.connections.get? id = some connection →
        connection.handles = handles) ∧
      after.graph.portCount = records ∧ changed.classifiedPorts.length = due := by
  rcases Option.map_eq_some_iff.1 probed with ⟨client, member, probed⟩
  rcases first : client.synchronize network.server with ⟨reason | ⟨⟩, between, middle⟩
  · simp [first, Except.isOk, Except.toBool] at probed
  · rcases second : between.synchronize middle with ⟨reason | ⟨⟩, after, changed⟩
    · simp [first, second, Except.isOk, Except.toBool] at probed
    · simp only [first, second, Prod.mk.injEq, Option.map_eq_some_iff] at probed
      rcases probed with ⟨-, -, ⟨connection, found, counted⟩, shown, classified⟩
      refine ⟨client, between, after, middle, changed, member, first, second, ?_, shown, classified⟩
      intro other present
      rw [← counted, show other = connection from Option.some.inj (present.symm.trans found)]

/-- A port that comes while a client is open, and a link between two others. -/
theorem mirror_converges_with_link :
    let described : Properties := .ofList [(Key.nodeId, "10"), (Key.format, "8 bit raw midi")]
    let network : Network := ({} : Network)
      |>.perform (.inject (.addObject .port (.ofList [(Key.portDirection, "out")])))
      |>.perform (.inject (.addObject .port .empty))
      |>.perform (.connect {})
      |>.perform (.call 1 (.createLink 32 33))
      |>.perform (.inject (.addObject .port described))
    ∃ client between after middle changed, network.clients.get? 1 = some client ∧
      client.synchronize network.server = (.ok (), between, middle) ∧
      between.synchronize middle = (.ok (), after, changed) ∧ after.UpToDate changed ∧
      after.graph.portCount = 1 := by
  intro described network
  have reachable : network.Reachable :=
    .perform (.perform (.perform (.perform (.perform .initial trivial) trivial) trivial) trivial)
      trivial
  have probed : network.probe 1 = some (true, true, some 4, 1, 1) := by decide +kernel
  rcases of_probe probed with
    ⟨client, between, after, middle, changed, member, first, second, used, shown, -⟩
  have few : ∀ connection, changed.connections.get? 1 = some connection →
      connection.handles < UInt32.size := by
    intro connection present
    rw [used connection present]
    decide
  exact ⟨client, between, after, middle, changed, member, first, second,
    mirror_converges reachable member first second few, shown⟩

/--
The first client creates a link, under its third handle. With its third handle the second client
listens to the last port, until it is made to take the link of the first back.
-/
theorem not_upToDate_of_mixed_links :
    let described : Properties := .ofList [(Key.nodeId, "10"), (Key.format, "8 bit raw midi")]
    let actions : List Action :=
      [.inject (.addObject .port (.ofList [(Key.portDirection, "out")])),
        .inject (.addObject .port .empty), .connect {}, .call 1 (.createLink 32 33),
        .inject (.addObject .port .empty), .connect {},
        .call 2 (.destroyLink { proxy := 3, output := 32, input := 33 }),
        .inject (.replaceProperties 35 described)]
    ∃ client between after middle changed,
      (actions.foldl perform {}).clients.get? 2 = some client ∧
      client.synchronize (actions.foldl perform {}).server = (.ok (), between, middle) ∧
      between.synchronize middle = (.ok (), after, changed) ∧
      (∀ connection, changed.connections.get? 2 = some connection →
        connection.handles < UInt32.size) ∧ ¬after.UpToDate changed := by
  intro described actions
  have probed : (actions.foldl perform {}).probe 2 = some (true, true, some 3, 0, 1) := by
    decide +kernel
  rcases of_probe probed with
    ⟨client, between, after, middle, changed, member, first, second, used, shown, classified⟩
  refine ⟨client, between, after, middle, changed, member, first, second, ?_, ?_⟩
  · intro connection present
    rw [used connection present]
    decide
  · intro upToDate
    have same := upToDate.records.length_eq
    rw [classified, show after.graph.allPorts.length = 0 from shown] at same
    cases same

end Network

end MediaGraph
