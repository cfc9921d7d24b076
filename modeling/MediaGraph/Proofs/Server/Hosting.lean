import MediaGraph.Proofs.Server.Ownership

/-!
# A server with a visitor

The last connection that a server has taken on is a visitor for as long as it offers no nodes and
creates nothing. `Server.hosting` is the server with such a connection: its requests change the
connection's own record and the count of syncs, so the laws here say what becomes of the record. In
the end the visitor disconnects and leaves no trace.
-/

namespace MediaGraph.Server

/-- The server with one more connection, which has touched nothing but its own record. -/
def hosting (server : Server) (visitor : Connection) (syncs : Nat) : Server :=
  { server with
    connections := server.connections.insert (server.lastConnection + 1) visitor
    lastConnection := server.lastConnection + 1
    syncRequests := syncs }

/-- What a new subscriber is told. -/
def announcements (server : Server) : List Event :=
  server.objects.entries.map fun entry => Event.global entry.1 entry.2.kind

variable {server : Server} {visitor : Connection} {syncs : Nat}

@[simp]
theorem objects_hosting : (server.hosting visitor syncs).objects = server.objects := rfl

@[simp]
theorem get?_hosting :
    (server.hosting visitor syncs).connections.get? (server.lastConnection + 1) =
      some visitor := by
  simp [hosting]

@[simp]
theorem setConnection_hosting (later : Connection) :
    (server.hosting visitor syncs).setConnection (server.lastConnection + 1) later =
      server.hosting later syncs := by
  simp [hosting, setConnection]

theorem subscribeGlobals_hosting :
    (server.hosting visitor syncs).subscribeGlobals (server.lastConnection + 1) =
      (.ok (), server.hosting
        ({ visitor with subscribed := true }.send server.announcements) syncs) := by
  simp [subscribeGlobals, announcements]

theorem unsubscribeGlobals_hosting :
    (server.hosting visitor syncs).unsubscribeGlobals (server.lastConnection + 1) =
      server.hosting { visitor with subscribed := false } syncs := by
  simp [unsubscribeGlobals]

/-- Sending a sync and fetching what waits leaves an empty queue. -/
theorem flush_hosting (sequence : UInt32) :
    (((server.hosting visitor syncs).sync (server.lastConnection + 1) sequence).2.drive
        (server.lastConnection + 1)).2 =
      server.hosting { visitor with inbox := [] } (syncs + 1) := by
  have acknowledged : ((server.hosting visitor syncs).sync (server.lastConnection + 1) sequence).2 =
      server.hosting (visitor.send [.done sequence]) (syncs + 1) := by
    simp only [sync, get?_hosting, setConnection_hosting]
    rfl
  rw [acknowledged]
  simp [drive, Connection.send]

/-! ## Ports -/

/-- The ports among some objects, with their properties. -/
def portsAmong (entries : List (ObjectId × Object)) : List (ObjectId × Properties) :=
  entries.filterMap fun entry =>
    if entry.2.kind = .port then some (entry.1, entry.2.props) else none

/-- The ports that the server holds, ascending by id. -/
def portObjects (server : Server) : List (ObjectId × Properties) :=
  portsAmong server.objects.entries

theorem portIds_eq (server : Server) : server.portIds = server.portObjects.map (·.1) := by
  simp only [portIds, portObjects, portsAmong, List.map_filterMap]
  congr 1
  funext entry
  split <;> rfl

theorem mem_portObjects_iff {id : ObjectId} {props : Properties} :
    (id, props) ∈ server.portObjects ↔
      ∃ object, server.objects.get? id = some object ∧ object.kind = .port ∧
        object.props = props := by
  simp only [portObjects, portsAmong, List.mem_filterMap, Option.ite_none_right_eq_some,
    Option.some.injEq, Prod.mk.injEq, Prod.exists, Table.get?_eq_some_iff]
  constructor
  · rintro ⟨_, object, member, isPort, rfl, same⟩
    exact ⟨object, member, isPort, same⟩
  · rintro ⟨object, member, isPort, same⟩
    exact ⟨id, object, member, isPort, rfl, same⟩

end Server

namespace Connection

/-- What a connection holds of a port whose properties it listens to. -/
def hearing (port : ObjectId × Properties) : Proxy :=
  { object := port.1, listening := true, owned := false }

/-- Binds a port and listens to it, so that its properties are told. -/
def hear (connection : Connection) (port : ObjectId × Properties) : Connection :=
  ({ connection.takeHandle.2 with
    proxies := connection.proxies.insert connection.takeHandle.1 (hearing port) }).send
      [.info port.1 port.2]

/-- Every handle in use is the word of a count that there has been. -/
def Counted (connection : Connection) : Prop :=
  ∀ proxy bound, connection.proxies.get? proxy = some bound →
    ∃ count < connection.handles, proxy = UInt32.ofNat (count + 1)

variable {connection : Connection}

theorem Counted.fresh (counted : connection.Counted) (few : connection.handles < UInt32.size) :
    connection.proxies.get? connection.takeHandle.1 = none := by
  rw [Option.eq_none_iff_forall_ne_some]
  intro bound found
  rcases counted _ bound found with ⟨count, less, same⟩
  have words := congrArg UInt32.toNat same
  simp only [takeHandle, UInt32.toNat_ofNat'] at words
  simp only [UInt32.size] at few
  omega

theorem Counted.hear (counted : connection.Counted) (port : ObjectId × Properties) :
    (connection.hear port).Counted := by
  intro proxy bound found
  simp only [Connection.hear, send, Table.get?_insert] at found
  split at found
  case isTrue isNew => exact ⟨connection.handles, Nat.lt_succ_self _, isNew⟩
  case isFalse =>
    rcases counted proxy bound found with ⟨count, less, same⟩
    exact ⟨count, Nat.lt_succ_of_lt less, same⟩

variable (ports : List (ObjectId × Properties))

/-- Listening to ports changes nothing but handles and what waits, which grow by one for each. -/
theorem frame_of_hearAll (connection : Connection) :
    ports.foldl hear connection =
      { connection with
        proxies := (ports.foldl hear connection).proxies
        handles := connection.handles + ports.length
        inbox := connection.inbox ++ ports.map fun port => .info port.1 port.2 } := by
  induction ports generalizing connection with
  | nil => simp
  | cons port rest ih =>
      rw [List.foldl_cons, ih]
      simp [hear, send, takeHandle, Nat.add_comm, Nat.add_left_comm]

variable {ports}

theorem values_hearAll (counted : connection.Counted)
    (few : connection.handles + ports.length ≤ UInt32.size) :
    (ports.foldl hear connection).proxies.values.Perm
      (ports.map hearing ++ connection.proxies.values) := by
  induction ports generalizing connection with
  | nil => exact .refl _
  | cons port rest ih =>
      rw [List.length_cons] at few
      have later : (connection.hear port).handles + rest.length ≤ UInt32.size := by
        simp only [hear, send, takeHandle]
        omega
      have added : (connection.hear port).proxies.values.Perm
          (hearing port :: connection.proxies.values) :=
        Table.values_insert_perm (counted.fresh (by omega)) _
      rw [List.foldl_cons]
      apply (ih (counted.hear port) later).trans
      exact (added.append_left _).trans List.perm_middle

/-- Nothing goes away with the connection. -/
structure Light (connection : Connection) : Prop where
  nodes : connection.nodes = .empty
  owned : ∀ proxy bound, connection.proxies.get? proxy = some bound → bound.owned = false

theorem Light.erase (light : connection.Light) (proxy : ProxyId) :
    { connection with proxies := connection.proxies.erase proxy }.Light where
  nodes := light.nodes
  owned other bound found := by
    simp only [Table.get?_erase, Option.ite_none_left_eq_some] at found
    exact light.owned other bound found.2

end Connection

/-! ## Leaving -/

namespace Server

variable {server : Server} {visitor : Connection} {syncs : Nat}

variable (syncs) in
theorem destroyProxy_hosting (light : visitor.Light) (proxy : ProxyId) :
    ∃ later : Connection, later.Light ∧
      (server.hosting visitor syncs).destroyProxy (server.lastConnection + 1) proxy =
        server.hosting later syncs := by
  simp only [destroyProxy, get?_hosting]
  split
  case h_1 => exact ⟨visitor, light, rfl⟩
  case h_2 bound found =>
    refine ⟨_, light.erase proxy, ?_⟩
    simp [light.owned proxy bound found]

/-- A visitor that disconnects takes no objects and no other connection with it. -/
theorem disconnect_hosting (issued : server.Issued) (light : visitor.Light) :
    ((server.hosting visitor syncs).disconnect (server.lastConnection + 1)).objects =
        server.objects ∧
      ((server.hosting visitor syncs).disconnect (server.lastConnection + 1)).connections =
        server.connections ∧
      ∀ id ≤ server.lastConnection,
        ((server.hosting visitor syncs).disconnect
          (server.lastConnection + 1)).undelivered.get? id = server.undelivered.get? id := by
  have absent : server.connections.get? (server.lastConnection + 1) = none := by
    rw [Option.eq_none_iff_forall_ne_some]
    intro connection found
    exact Nat.not_succ_le_self _ (issued.numbered _ connection found)
  have unowned : (server.hosting visitor syncs).ownedObjects (server.lastConnection + 1) = [] := by
    simp only [ownedObjects, objects_hosting, List.filterMap_eq_nil_iff, ite_eq_right_iff,
      reduceCtorEq, imp_false]
    intro entry member owned
    have found := (server.objects.get?_eq_some_iff entry.1 entry.2).2 member
    exact Nat.not_succ_le_self _ (issued.owners entry.1 entry.2 _ found owned)
  have dropped : (server.hosting visitor syncs).disconnect (server.lastConnection + 1) =
      { server with
        lastConnection := server.lastConnection + 1
        syncRequests := syncs
        undelivered := (server.undelivered.insert (server.lastConnection + 1) visitor.inbox).erase
          (server.lastConnection + 1) } := by
    simp only [disconnect, dropConnection, get?_hosting, light.nodes, Table.keys,
      Table.entries_empty, List.map_nil, List.foldl_nil, unowned, removeObjects]
    simp only [hosting, Table.erase_insert absent]
  rw [dropped]
  refine ⟨rfl, rfl, fun id old => ?_⟩
  simp [Nat.ne_of_lt (Nat.lt_succ_of_le old)]

end Server

end MediaGraph
