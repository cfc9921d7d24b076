import MediaGraph.Client.Setup
import MediaGraph.Proofs.Client.Mirrored

/-!
# A server and its clients

A `Network` is a server with the clients that have been opened on it. It changes by what is done to
the server from the outside, by opening clients and by calls on them, one after the other and in
any order.

A link is a handle on the connection of the client that created it, and nothing tells it from other
handles there. So a link must be given back through the client that it came from. The network keeps
account of who got which link, and `Network.Permits` rules out that they are mixed up.
-/

namespace MediaGraph

/-- A server and the clients that have been opened on it, by the number of their connection. -/
structure Network where
  server : Server := {}
  clients : Table ConnectionId (Client Server) := .empty
  /-- The links that calls have returned, each with the client of the call. -/
  links : List (ConnectionId × Link) := []

inductive Action where
  | setUp
  | takeDown
  | inject (injection : Injection)
  | connect (setup : Setup)
  | call (id : ConnectionId) (invocation : Invocation)

namespace Network

/-- Does one step. A client that cannot be opened is no client; a call on nobody is none. -/
def perform (network : Network) : Action → Network
  | .setUp => { network with server := (Server.backend.init network.server).2 }
  | .takeDown => { network with server := Server.backend.deinit network.server }
  | .inject injection => { network with server := network.server.inject injection }
  | .connect setup =>
    match setup.connect Server.backend network.server with
    | (.error _, server) => { network with server }
    | (.ok client, server) =>
      let id := network.server.lastConnection + 1
      { network with server, clients := network.clients.insert id client }
  | .call id invocation =>
    match network.clients.get? id with
    | none => network
    | some client =>
      match invocation.call client network.server with
      | (.ok (some link), client, server) =>
        let links := (id, link) :: network.links
        { server, clients := network.clients.insert id client, links }
      | (_, client, server) =>
        { network with server, clients := network.clients.insert id client }

/-- Only links that a client got from its own calls may be taken back through it. -/
def Permits (network : Network) : Action → Prop
  | .call id (.destroyLink link) => (id, link) ∈ network.links
  | _ => True

/-- The networks that a server without objects can come to be part of. -/
inductive Reachable : Network → Prop where
  | initial : Reachable {}
  | perform {network : Network} {action : Action} :
      Reachable network → network.Permits action → Reachable (network.perform action)

/-- A call changes the client and the server, and adds the link that it returns to the account. -/
theorem perform_call {network : Network} {id : ConnectionId} {invocation : Invocation}
    {client : Client Server} (found : network.clients.get? id = some client) :
    (network.perform (.call id invocation)).server =
        (invocation.call client network.server).2.2 ∧
      (network.perform (.call id invocation)).clients =
        network.clients.insert id (invocation.call client network.server).2.1 ∧
      (∀ entry ∈ network.links, entry ∈ (network.perform (.call id invocation)).links) ∧
      ∀ link, (invocation.call client network.server).1 = .ok (some link) →
        (id, link) ∈ (network.perform (.call id invocation)).links := by
  simp only [Network.perform, found]
  rcases invocation.call client network.server with ⟨reason | (_ | link), after, changed⟩
  · simp
  · simp
  · simp +contextual

def linksOf (network : Network) (id : ConnectionId) : List ProxyId :=
  (network.links.filter fun entry => entry.1 = id).map fun entry => entry.2.proxy

/-- Every client is connected under its own number, in step, and shows what it listens to. -/
structure Sound (network : Network) : Prop where
  numbered : ∀ id client, network.clients.get? id = some client →
    id ≤ network.server.lastConnection
  issued : ∀ entry ∈ network.links, entry.1 ≤ network.server.lastConnection
  connected : ∀ id client, network.clients.get? id = some client → client.Connected id
  inStep : ∀ id client, network.clients.get? id = some client →
    client.InStep id (network.linksOf id) network.server
  mirrors : ∀ id client, network.clients.get? id = some client → client.Mirrors id network.server

/-! ## Steps keep a network sound -/

namespace Sound

variable {network : Network}

theorem initial : Sound {} where
  numbered _ _ found := by cases found
  issued _ member := by cases member
  connected _ _ found := by cases found
  inStep _ _ found := by cases found
  mirrors _ _ found := by cases found

theorem apart (sound : network.Sound) {id : ConnectionId} {client : Client Server}
    (found : network.clients.get? id = some client) : id ≠ network.server.lastConnection + 1 :=
  Nat.ne_of_lt (Nat.lt_succ_of_le (sound.numbered id client found))

/-- What all clients only hear of leaves the network sound. -/
theorem of_passes (sound : network.Sound) {changed : Server}
    (passes : ∀ id, id ≠ network.server.lastConnection + 1 →
      Server.Passes id network.server changed) :
    ({ network with server := changed } : Network).Sound where
  numbered id client found :=
    Nat.le_trans (sound.numbered id client found) (passes id (sound.apart found)).last
  issued entry member :=
    Nat.le_trans (sound.issued entry member) (passes _ (Nat.succ_ne_self _)).last
  connected := sound.connected
  inStep id client found := (sound.inStep id client found).passes (passes id (sound.apart found))
  mirrors id client found :=
    (sound.mirrors id client found).of_lasts (passes id (sound.apart found)).toLasts

/-- A client may come in or change if all others only hear of it. -/
theorem of_insert (sound : network.Sound) {later : Network} {id : ConnectionId}
    {client : Client Server} (clients : later.clients = network.clients.insert id client)
    (numbered : id ≤ later.server.lastConnection)
    (issued : ∀ entry ∈ later.links, entry.1 ≤ later.server.lastConnection)
    (connected : client.Connected id)
    (inStep : client.InStep id (later.linksOf id) later.server)
    (mirrors : client.Mirrors id later.server)
    (links : ∀ other, other ≠ id → later.linksOf other = network.linksOf other)
    (passes : ∀ other, other ≠ id → Server.Passes other network.server later.server) :
    later.Sound := by
  refine ⟨?_, issued, ?_, ?_, ?_⟩
  all_goals
    intro other present found
    rw [clients, Table.get?_insert] at found
    split at found
  case refine_1.isTrue own =>
    rw [own]
    exact numbered
  case refine_1.isFalse apart =>
    exact Nat.le_trans (sound.numbered other present found) (passes other apart).last
  case refine_2.isTrue own =>
    cases found
    rw [own]
    exact connected
  case refine_2.isFalse apart => exact sound.connected other present found
  case refine_3.isTrue own =>
    cases found
    rw [own]
    exact inStep
  case refine_3.isFalse apart =>
    rw [links other apart]
    exact (sound.inStep other present found).passes (passes other apart)
  case refine_4.isTrue own =>
    cases found
    rw [own]
    exact mirrors
  case refine_4.isFalse apart =>
    exact (sound.mirrors other present found).of_lasts (passes other apart).toLasts

theorem connect (sound : network.Sound) (setup : Setup) :
    (network.perform (.connect setup)).Sound := by
  simp only [Network.perform, Setup.connect]
  split
  case h_1 refusal changed ran =>
    exact sound.of_passes (Client.connect_spec ran).1
  case h_2 client changed ran =>
    rcases Client.connect_spec ran with ⟨others, opened⟩
    rcases opened client rfl with ⟨numbered, connected, inStep⟩
    have issued : ∀ entry ∈ network.links, entry.1 ≤ changed.lastConnection := fun entry member =>
      Nat.le_trans (sound.issued entry member) (Nat.le_of_succ_le numbered)
    refine sound.of_insert rfl numbered issued connected ?_ (Client.mirrors_connect ran)
      (fun _ _ => rfl) others
    apply inStep.of_subset
    intro link member
    simp only [linksOf, List.mem_map, List.mem_filter, decide_eq_true_eq] at member
    rcases member with ⟨entry, ⟨member, isNew⟩, -⟩
    have early := sound.issued entry member
    rw [isNew] at early
    exact absurd early (Nat.not_succ_le_self _)

/-- A call leaves the network sound, and a link that it returns is the client's own from then on. -/
theorem call (sound : network.Sound) {id : ConnectionId} {invocation : Invocation}
    (permits : network.Permits (.call id invocation)) :
    (network.perform (.call id invocation)).Sound := by
  simp only [Network.perform]
  split
  case h_1 => exact sound
  case h_2 client found =>
    have connected := sound.connected id client found
    have inStep := sound.inStep id client found
    have own : ∀ link, invocation = .destroyLink link → link.proxy ∈ network.linksOf id := by
      rintro link rfl
      have issued : (id, link) ∈ network.links := permits
      simp only [linksOf, List.mem_map, List.mem_filter, decide_eq_true_eq]
      exact ⟨(id, link), ⟨issued, rfl⟩, rfl⟩
    have numbered := sound.numbered id client found
    have stays := (Client.elementary_stays.invocation invocation).always client network.server
      connected
    have keeps := ((Client.keeps_invocation own).always client network.server connected).2 inStep
    have mirrors := Client.mirrors_invocation own connected inStep (sound.mirrors id client found)
    split
    case h_1 link after changed ran =>
      rw [ran] at stays keeps mirrors
      rcases stays with ⟨connectedAfter, affects⟩
      refine sound.of_insert rfl (Nat.le_trans numbered affects.last) ?_ connectedAfter ?_ mirrors
        ?_ affects.others
      · intro entry member
        rcases List.mem_cons.1 member with rfl | old
        · exact Nat.le_trans numbered affects.last
        · exact Nat.le_trans (sound.issued entry old) affects.last
      · simpa [linksOf] using Client.inStep_of_link connected inStep ran
      · intro other apart
        simp [linksOf, Ne.symm apart]
    case h_2 after changed _ ran =>
      rw [ran] at stays keeps mirrors
      rcases stays with ⟨connectedAfter, affects⟩
      have issued : ∀ entry ∈ network.links, entry.1 ≤ changed.lastConnection := fun entry member =>
        Nat.le_trans (sound.issued entry member) affects.last
      exact sound.of_insert rfl (Nat.le_trans numbered affects.last) issued connectedAfter keeps
        mirrors (fun _ _ => rfl) affects.others

theorem perform (sound : network.Sound) {action : Action} (permits : network.Permits action) :
    (network.perform action).Sound := by
  cases action with
  | setUp => exact sound.of_passes fun id _ => Server.passes_of_same rfl (Nat.le_refl _) rfl
  | takeDown => exact sound.of_passes fun id _ => Server.passes_of_same rfl (Nat.le_refl _) rfl
  | inject injection =>
      exact sound.of_passes fun id _ => (Server.carries_passes id).inject network.server injection
  | connect setup => exact sound.connect setup
  | call id invocation => exact sound.call permits

end Sound

theorem Reachable.sound {network : Network} (reachable : network.Reachable) : network.Sound := by
  induction reachable with
  | initial => exact .initial
  | perform _ permits ih => exact ih.perform permits

end Network

end MediaGraph
