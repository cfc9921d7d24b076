import MediaGraph.Proofs.Client.Holdings
import MediaGraph.Proofs.Client.Mirrored
import MediaGraph.Proofs.Network
import Mathlib.Algebra.GroupWithZero.Nat

/-!
# Clients and the server agree on proxies

A client keeps a table of the ports that it listens to, and its holder keeps the links that calls
have returned. The server keeps the proxies of each connection. They agree at all times, up to
handles that have been used up (`Network.proxies_agree`), if links are given back through the client
that they came from: then the server has no proxies but those which somebody holds.

A link that is given back through another client is lost. Its own client cannot give it back any
more, and the server keeps its proxy until that client is gone.
-/

namespace MediaGraph

/-- What a client holds is what its connection has, and its graph shows no more than that. -/
structure Client.Agrees (client : Client Server) (held : List Link) (connection : Connection) :
    Prop where
  listens : ∀ object proxy, client.subscriber.listened.get? object = some proxy ↔
    connection.proxies.get? proxy = some { object, listening := true, owned := false }
  owns : ∀ proxy, (∃ bound, connection.proxies.get? proxy = some bound ∧ bound.owned) ↔
    proxy ∈ held.map Link.proxy
  /-- No two links are held under one proxy. -/
  once : (held.map Link.proxy).Nodup
  shows : ∀ port ∈ client.graph.allPorts, client.subscriber.isListeningTo port.id

theorem Invocation.mem_leaves {isOpen : Bool} {held : List Link} {invocation : Invocation}
    {result : Except Halt (Option Link)} {link : Link}
    (member : link ∈ invocation.leaves isOpen held result) :
    link ∈ held ∨ result = .ok (some link) := by
  simp only [leaves] at member
  split at member
  case h_1 =>
    split at member
    · exact .inl (List.mem_of_mem_erase member)
    · exact .inl member
  case h_2 returned _ =>
    rcases List.mem_cons.1 member with rfl | old
    · exact .inr rfl
    · exact .inl old
  case h_3 => exact .inl member

namespace Network

/-! ## Who holds which links -/

/-- The links in the hands of each client's holder after an action. -/
def leaves (network : Network) (held : ConnectionId → List Link) :
    Action → ConnectionId → List Link
  | .call caller invocation, id =>
    match network.clients.get? id with
    | none => held id
    | some client =>
      if caller = id then
        invocation.leaves client.isOpen (held id) (invocation.call client network.server).1
      else held id
  | _, id => held id

/-- A link is only given back through the client whose call returned it, and only once. -/
def Returns (held : ConnectionId → List Link) : Action → Prop
  | .call id (.destroyLink link) => link ∈ held id
  | _ => True

/-- Networks as they come about when links are given back as they should be. -/
inductive Holds : Network → (ConnectionId → List Link) → Prop where
  | initial : Holds {} fun _ => []
  | perform {network : Network} {held : ConnectionId → List Link} (action : Action) :
      Holds network held → Returns held action →
      Holds (network.perform action) (network.leaves held action)

variable {network later : Network} {held kept : ConnectionId → List Link} {id : ConnectionId}
  {client : Client Server} {invocation : Invocation}

theorem leaves_call (found : network.clients.get? id = some client) :
    network.leaves held (.call id invocation) id =
      invocation.leaves client.isOpen (held id) (invocation.call client network.server).1 := by
  simp [leaves, found]

theorem leaves_call_of_ne {other : ConnectionId} (apart : other ≠ id) :
    network.leaves held (.call id invocation) other = held other := by
  simp only [leaves]
  split
  case h_1 => rfl
  case h_2 => exact if_neg (Ne.symm apart)

theorem leaves_of_nobody (nobody : network.clients.get? id = none) :
    network.leaves held (.call id invocation) = held := by
  funext other
  by_cases same : other = id
  · simp [leaves, same, nobody]
  · exact leaves_call_of_ne same

/-! ## Opening a client -/

end Network

namespace Client

open Server

variable {config : Config} {observers : List Observer} {server changed : Server}

theorem retains_accepting {id : ConnectionId} (apart : id ≠ server.lastConnection + 1)
    (config : Config) : Retains id server (accepting config server) := by
  intro later isLater
  simp only [accepting, setConnection, Table.get?_insert, if_neg apart] at isLater
  exact ⟨later, isLater, Nat.le_refl _, rfl⟩

theorem kept_accepting :
    (agreement (server.lastConnection + 1)).Kept {} (accepting config server) := by
  intro connection connected _
  rw [get?_accepting] at connected
  cases connected
  exact ⟨nofun, .nil, nofun, nofun⟩

/-- A client that has been opened holds nothing yet; one that could not be opened is no matter. -/
theorem connect_agrees {result : Except Refusal (Client Server)}
    (ran : Client.connect Server.backend config observers server = (result, changed)) :
    (∀ other, other ≠ server.lastConnection + 1 → Retains other server changed) ∧
      match result with
      | .ok client => client.Stands (agreement (server.lastConnection + 1)) [] changed
      | .error _ => Retains (server.lastConnection + 1) server changed := by
  refine ⟨fun other apart => ?_, ?_⟩
  · have related : Retains other server
        (Client.connect Server.backend config observers server).2 ∧ _ :=
      related_connect (serves_retains apart).spans fun _ => retains_accepting apart config
    rw [ran] at related
    exact related.1
  · cases refuses : server.policy.refuseConnections with
    | true =>
        rw [connect_of_refused refuses] at ran
        cases ran
        exact .refl _ _
    | false =>
        have accepted : Server.backend.connect config server =
            (.ok (Server.transport (server.lastConnection + 1)), accepting config server) := by
          simp [Server.backend, Server.connect, refuses, accepting]
        have opened := stands_connect observers accepted (upholds_agreement _) kept_accepting
        rw [ran] at opened
        rcases result with refusal | client
        · exact retains_of_gone opened
        · exact opened.2

end Client

namespace Network

variable {network later : Network} {held kept : ConnectionId → List Link} {id : ConnectionId}
  {client : Client Server} {invocation : Invocation}

/-! ## The invariant -/

/-- The network is sound, every client stands as the server has it, and nobody else does. -/
structure Settled (network : Network) (held : ConnectionId → List Link) : Prop where
  sound : network.Sound
  own : ∀ id, ∀ link ∈ held id, (id, link) ∈ network.links
  stands : ∀ id client, network.clients.get? id = some client →
    client.Stands (Server.agreement id) (held id) network.server
  hosted : ∀ id, (network.server.connections.get? id).isSome →
    ∃ client, network.clients.get? id = some client ∧ client.isOpen

namespace Settled

theorem initial : Settled {} fun _ => [] where
  sound := .initial
  own _ _ member := by cases member
  stands _ _ found := by cases found
  hosted _ connected := by cases connected

/-- What leaves every connection its proxies keeps the network settled. -/
theorem of_retains (settled : network.Settled held) {changed : Server}
    (sound : ({ network with server := changed } : Network).Sound)
    (retains : ∀ id, Server.Retains id network.server changed) :
    ({ network with server := changed } : Network).Settled held where
  sound := sound
  own := settled.own
  stands id client found := (settled.stands id client found).retains (retains id)
  hosted id connected := settled.hosted id ((retains id).isSome connected)

/-- A client may come in or change if all others are left their proxies. -/
theorem of_insert (settled : network.Settled held) (sound : later.Sound)
    (clients : later.clients = network.clients.insert id client)
    (own : ∀ id, ∀ link ∈ kept id, (id, link) ∈ later.links)
    (stands : client.Stands (Server.agreement id) (kept id) later.server)
    (others : ∀ other, other ≠ id → kept other = held other)
    (retains : ∀ other, other ≠ id → Server.Retains other network.server later.server) :
    later.Settled kept where
  sound := sound
  own := own
  stands other present found := by
    rw [clients, Table.get?_insert] at found
    split at found
    case isTrue same =>
      cases found
      rw [same]
      exact stands
    case isFalse apart =>
      rw [others other apart]
      exact (settled.stands other present found).retains (retains other apart)
  hosted other connected := by
    simp only [clients, Table.get?_insert]
    split
    case isTrue same =>
      refine ⟨client, rfl, ?_⟩
      rw [Client.isOpen, Option.isSome_iff_ne_none]
      -- A client that is closed has no connection any more.
      intro closed
      have gone : later.server.connections.get? id = none := (stands.ended closed).2
      rw [same, gone] at connected
      cases connected
    case isFalse apart => exact settled.hosted other ((retains other apart).isSome connected)

theorem connect (settled : network.Settled held) (setup : Setup) :
    (network.perform (.connect setup)).Settled held := by
  have sound := settled.sound.connect setup
  simp only [Network.perform, Setup.connect] at sound ⊢
  rcases ran : Client.connect Server.backend setup.config setup.observers network.server with
    ⟨refusal | client, changed⟩
  · simp only [ran] at sound ⊢
    rcases Client.connect_agrees ran with ⟨others, own⟩
    refine settled.of_retains sound fun id => ?_
    by_cases isNew : id = network.server.lastConnection + 1
    · exact isNew ▸ own
    · exact others id isNew
  · simp only [ran] at sound ⊢
    rcases Client.connect_agrees ran with ⟨others, stands⟩
    -- The connection is new, so no link has been returned on it yet.
    have unused : held (network.server.lastConnection + 1) = [] := by
      rw [List.eq_nil_iff_forall_not_mem]
      intro link member
      have early := settled.sound.issued _ (settled.own _ link member)
      exact Nat.not_succ_le_self _ early
    refine settled.of_insert sound rfl settled.own ?_ (fun _ _ => rfl) others
    rw [unused]
    exact stands

theorem permits (settled : network.Settled held) {action : Action} (returns : Returns held action) :
    network.Permits action := by
  cases action with
  | call id invocation =>
      cases invocation with
      | destroyLink link => exact settled.own id link returns
      | _ => trivial
  | _ => trivial

theorem permits_of_returns (client : Client Server) (returns : Returns held (.call id invocation)) :
    client.Permits (Server.agreement id) (held id) invocation := by
  cases invocation with
  | destroyLink link => exact fun _ _ => returns
  | addPort | renamePort | removePort | activate | closeEndpoint => exact False.elim
  | _ => trivial

/-- A call changes nothing for other clients, and leaves its own the links that it should have. -/
theorem call (settled : network.Settled held) (returns : Returns held (.call id invocation)) :
    (network.perform (.call id invocation)).Settled
      (network.leaves held (.call id invocation)) := by
  cases found : network.clients.get? id with
  | none =>
      rw [leaves_of_nobody found]
      simp only [Network.perform, found]
      exact settled
  | some client =>
      have connected := settled.sound.connected id client found
      have sound := settled.sound.call (settled.permits returns)
      rcases perform_call found with ⟨server, clients, former, returned⟩
      have others : ∀ other, other ≠ id → Server.Retains other network.server
          (network.perform (.call id invocation)).server := by
        intro other apart
        rw [server]
        have elementary := Client.elementary_spans (Server.serves_retains apart).spans
        exact ((elementary.invocation invocation).always client network.server connected).2
      refine settled.of_insert sound clients ?_ ?_ (fun _ => leaves_call_of_ne) others
      · intro other link member
        by_cases same : other = id
        · subst same
          rw [leaves_call found] at member
          rcases Invocation.mem_leaves member with old | isNew
          · exact former _ (settled.own other link old)
          · exact returned link isNew
        · rw [leaves_call_of_ne same] at member
          exact former _ (settled.own other link member)
      · rw [server, leaves_call found]
        exact (settled.stands id client found).call (permits_of_returns client returns)

theorem perform (settled : network.Settled held) {action : Action} (returns : Returns held action) :
    (network.perform action).Settled (network.leaves held action) := by
  have sound := settled.sound.perform (settled.permits returns)
  cases action with
  | setUp => exact settled.of_retains sound fun id => .of_connections rfl
  | takeDown => exact settled.of_retains sound fun id => .of_connections rfl
  | inject injection =>
      exact settled.of_retains sound fun id =>
        (Server.carries_retains id).inject network.server injection
  | connect setup => exact settled.connect setup
  | call id invocation => exact settled.call returns

end Settled

theorem Holds.settled (holds : network.Holds held) : network.Settled held := by
  induction holds with
  | initial => exact .initial
  | perform action _ returns ih => exact ih.perform returns

/-! ## Agreement -/

theorem Settled.agrees (settled : network.Settled held) {connection : Connection}
    (found : network.clients.get? id = some client) (isOpen : client.isOpen)
    (connected : network.server.connections.get? id = some connection)
    (few : connection.handles < UInt32.size) :
    (client.books (held id)).Tallies connection ∧ client.subscriber.Mirrored := by
  rcases Option.isSome_iff_exists.1 isOpen with ⟨transport, opened⟩
  rcases (settled.stands id client found).kept transport opened with ⟨-, kept⟩
  exact ⟨kept connection connected few,
    settled.sound.mirrors id client found isOpen connection connected few⟩

/-- The clients that are open, on connections that the server has not dropped. -/
def attached (network : Network) : List (ConnectionId × Client Server) :=
  network.clients.entries.filter fun entry =>
    entry.2.isOpen && network.server.connections.contains entry.1

/-- The ports that clients listen to, and the links that their holders have. -/
def handleCount (network : Network) (held : ConnectionId → List Link) : Nat :=
  (network.attached.map fun entry =>
    entry.2.subscriber.listened.size + (held entry.1).length).sum

theorem mem_attached {entry : ConnectionId × Client Server} :
    entry ∈ network.attached ↔ network.clients.get? entry.1 = some entry.2 ∧ entry.2.isOpen ∧
      (network.server.connections.get? entry.1).isSome := by
  simp [attached, Table.get?_eq_some_iff, Table.contains]

/-- Every connection is one of a client that is open. -/
theorem Settled.attached_perm (settled : network.Settled held) :
    (network.attached.map Prod.fst).Perm network.server.connections.keys := by
  have once : (network.attached.map Prod.fst).Nodup :=
    (List.filter_sublist.map Prod.fst).nodup network.clients.keys_nodup
  refine (List.perm_ext_iff_of_nodup once network.server.connections.keys_nodup).2 fun id => ?_
  constructor
  · intro member
    rcases List.mem_map.1 member with ⟨entry, isAttached, rfl⟩
    rcases Option.isSome_iff_exists.1 (mem_attached.1 isAttached).2.2 with ⟨connection, connected⟩
    exact List.mem_map.2 ⟨(entry.1, connection), (Table.get?_eq_some_iff _ _ _).1 connected, rfl⟩
  · intro member
    rcases List.mem_map.1 member with ⟨entry, isEntry, rfl⟩
    have connected := (Table.get?_eq_some_iff network.server.connections _ _).2 isEntry
    rcases settled.hosted entry.1 (by simp [connected]) with ⟨client, found, isOpen⟩
    exact List.mem_map.2 ⟨(entry.1, client),
      mem_attached.2 ⟨found, isOpen, by simp [connected]⟩, rfl⟩

theorem Settled.proxyCount_eq (settled : network.Settled held)
    (few : ∀ id connection, network.server.connections.get? id = some connection →
      connection.handles < UInt32.size) :
    network.server.proxyCount = network.handleCount held := by
  -- Each side adds up what the connections have, one in the order of clients and one in its own.
  let count (id : ConnectionId) : Nat :=
    ((network.server.connections.get? id).map fun connection =>
      connection.proxies.keys.length).getD 0
  have served : network.server.proxyCount = (network.server.connections.keys.map count).sum := by
    simp only [Server.proxyCount, Table.values, Table.keys, List.length_flatMap, List.map_map]
    congr 1
    refine List.map_congr_left fun entry member => ?_
    have connected := (Table.get?_eq_some_iff network.server.connections _ _).2 member
    simp [count, connected, Table.keys]
  have holding : network.handleCount held = ((network.attached.map Prod.fst).map count).sum := by
    simp only [handleCount, List.map_map]
    congr 1
    refine List.map_congr_left fun entry member => ?_
    rcases mem_attached.1 member with ⟨found, isOpen, isConnected⟩
    rcases Option.isSome_iff_exists.1 isConnected with ⟨connection, connected⟩
    have tallies := (settled.agrees found isOpen connected (few _ _ connected)).1
    simp only [Function.comp, count, connected, Option.map_some, Option.getD_some,
      tallies.size_eq]
    rfl
  rw [served, holding]
  exact (settled.attached_perm.map count).sum_nat.symm

/--
On a network where every link is given back through the client that it came from, an open client
and its connection agree on proxies, unless its handles have been used up. So as long as there are
handles left everywhere, the server has just the proxies that its clients hold.
-/
theorem proxies_agree (holds : network.Holds held) :
    (∀ id client connection, network.clients.get? id = some client → client.isOpen →
      network.server.connections.get? id = some connection →
      connection.handles < UInt32.size → client.Agrees (held id) connection) ∧
    ((∀ id connection, network.server.connections.get? id = some connection →
      connection.handles < UInt32.size) →
        network.server.proxyCount = network.handleCount held) := by
  have settled := holds.settled
  refine ⟨fun id client connection found isOpen connected few => ?_, settled.proxyCount_eq⟩
  rcases settled.agrees found isOpen connected few with ⟨tallies, mirrored⟩
  exact ⟨fun _ _ => tallies.bound_iff, fun _ => tallies.owned_iff,
    (List.nodup_append.1 tallies.nodup).2.1, fun _ => mirrored.listens⟩

/-- The first client holds a link and listens to two ports, as the second one does. -/
theorem proxies_agree_with_link :
    let network : Network := ({} : Network)
      |>.perform (.inject (.addObject .port (.ofList [(Key.portDirection, "out")])))
      |>.perform (.inject (.addObject .port .empty))
      |>.perform (.connect {})
      |>.perform (.call 1 (.createLink 32 33))
      |>.perform (.connect {})
    ∃ held client connection, network.Holds held ∧ network.clients.get? 1 = some client ∧
      network.server.connections.get? 1 = some connection ∧
      held 1 = [{ proxy := 3, output := 32, input := 33 }] ∧ client.Agrees (held 1) connection ∧
      network.server.proxyCount = 5 ∧ network.handleCount held = 5 := by
  intro network
  have ran : ∃ held, network.Holds held ∧ held 1 = [{ proxy := 3, output := 32, input := 33 }] :=
    ⟨_, .perform (.connect {}) (.perform (.call 1 (.createLink 32 33)) (.perform (.connect {})
      (.perform (.inject (.addObject .port .empty)) (.perform (.inject (.addObject .port
        (.ofList [(Key.portDirection, "out")]))) .initial trivial) trivial) trivial) trivial)
          trivial, by decide +kernel⟩
  rcases ran with ⟨held, holds, link⟩
  have open1 : (network.clients.get? 1).map Client.isOpen = some true := by decide +kernel
  have used1 : (network.server.connections.get? 1).map Connection.handles = some 3 := by
    decide +kernel
  have used : network.server.connections.values.all fun connection =>
      connection.handles < UInt32.size := by decide +kernel
  have total : network.server.proxyCount = 5 := by decide +kernel
  rcases Option.map_eq_some_iff.1 open1 with ⟨client, found, isOpen⟩
  rcases Option.map_eq_some_iff.1 used1 with ⟨connection, connected, three⟩
  rcases proxies_agree holds with ⟨agrees, counts⟩
  have few : ∀ id connection, network.server.connections.get? id = some connection →
      connection.handles < UInt32.size := by
    intro id other isOther
    simpa using List.all_eq_true.1 used other ((Table.mem_values_iff _ _).2 ⟨id, isOther⟩)
  exact ⟨held, client, connection, holds, found, connected, link,
    agrees 1 client connection found isOpen connected (few 1 connection connected), total,
    (counts few).symm.trans total⟩

/--
The first client creates a link, and the second is made to give it back. Nobody holds the link any
more, and the server still has its proxy. Besides, clients do not notice at once when the server
drops their connections: the one that was opened last still listens to a port.
-/
theorem not_agrees_of_mixed_links :
    let link : Link := { proxy := 3, output := 32, input := 33 }
    let mixed : Network := [.inject (.addObject .port (.ofList [(Key.portDirection, "out")])),
        .inject (.addObject .port .empty), .connect {}, .call 1 (.createLink 32 33), .connect {},
        .call 2 (.destroyLink link)].foldl perform {}
    let dropped : Network := [.inject (.addObject .port .empty), .connect {},
      .inject .disconnectAll].foldl perform {}
    (mixed.links = [(1, link)] ∧
      ∃ client connection, mixed.clients.get? 1 = some client ∧ client.isOpen ∧
        mixed.server.connections.get? 1 = some connection ∧ connection.handles < UInt32.size ∧
        ¬client.Agrees [] connection ∧ mixed.server.proxyCount ≠ mixed.handleCount fun _ => []) ∧
    ∃ client, dropped.clients.get? 1 = some client ∧ client.isOpen ∧
      client.subscriber.listened.size = 1 ∧ dropped.server.proxyCount = 0 := by
  intro link mixed dropped
  have probed : (mixed.clients.get? 1).map Client.isOpen = some true ∧
      (mixed.server.connections.get? 1).map (fun connection =>
        (connection.handles, connection.proxies.get? 3)) =
          some (3, some { object := 34, listening := false, owned := true }) := by
    decide +kernel
  have left : (dropped.clients.get? 1).map (fun client =>
      (client.isOpen, client.subscriber.listened.size)) = some (true, 1) := by decide +kernel
  refine ⟨⟨by decide +kernel, ?_⟩, ?_⟩
  · rcases Option.map_eq_some_iff.1 probed.1 with ⟨client, found, isOpen⟩
    rcases Option.map_eq_some_iff.1 probed.2 with ⟨connection, connected, same⟩
    simp only [Prod.mk.injEq] at same
    refine ⟨client, connection, found, isOpen, connected, ?_, fun agrees => ?_, by decide +kernel⟩
    · rw [same.1]
      decide
    · have member := (agrees.owns 3).1 ⟨_, same.2, rfl⟩
      cases member
  · rcases Option.map_eq_some_iff.1 left with ⟨client, found, same⟩
    simp only [Prod.mk.injEq] at same
    exact ⟨client, found, same.1, same.2, by decide +kernel⟩

end Network

end MediaGraph
