import MediaGraph.Proofs.Server.Hearing

/-!
# Who is affected by a request

A request of one connection goes by all others, and most requests go by the connection itself in the
same way: they concern the nodes it offers, or handles that do not listen to anything. What is left
are the few requests with which a subscriber arranges what it is told.

`Server.Affects` sums up what any request of a connection can mean for anybody.
-/

namespace MediaGraph.Server

variable {id : ConnectionId} {before middle after server : Server}

/-! ## Requests that a connection only hears of -/

theorem passes_setConnection_of_ne {other : ConnectionId} (apart : id ≠ other) (server : Server)
    (connection : Connection) : Passes id server (server.setConnection other connection) :=
  passes_of_same rfl (Nat.le_refl _) (by simp [setConnection, apart])

/-- A new handle that does not listen leaves those alone that do, while handles are not used up. -/
theorem adapts_takeHandle {connection later : Connection} {bound : Proxy}
    (quiet : bound.listening = false)
    (taken : later = { connection.takeHandle.2 with
      proxies := connection.proxies.insert connection.takeHandle.1 bound }) :
    connection.Precedes later ∧
      (later.handles < UInt32.size → connection.subscribed → connection.Bounded →
        connection.Continues later []) := by
  subst taken
  refine ⟨⟨Nat.le_succ _, ?_⟩, ?_⟩
  · rintro _ proxy ⟨given, silent⟩
    refine ⟨Nat.le_succ_of_le given, ?_⟩
    intro present found
    rw [Table.get?_insert] at found
    split at found
    · cases found
      exact quiet
    · exact silent present found
  · intro few subscribed bounded
    refine ⟨by simp [Connection.takeHandle], subscribed, bounded.takeHandle few rfl rfl, ?_⟩
    intro proxy present found _
    rw [Table.get?_insert, if_neg (Connection.ne_takeHandle few (bounded proxy present found))]
    exact found

theorem passes_createLink {other : ConnectionId}
    (connected : (server.connections.get? other).isSome) (props : Properties) :
    Passes id server (server.createLink other props).2 := by
  simp only [createLink]
  split
  · have created : Passes id server
        (server.createObject { kind := .link, props, owner := some other }).2 :=
      (carries_passes id).createObject server (hosts_of_connected connected)
    split
    case h_1 => exact created
    case h_2 connection connected =>
      refine created.trans (passes_of_adapted rfl (Nat.le_refl _) fun later present => ?_)
      simp only [setConnection, Table.get?_insert] at present
      split at present
      case isTrue same =>
        subst same
        have taken := Option.some.inj present.symm
        rcases adapts_takeHandle rfl taken with ⟨precedes, continues⟩
        refine ⟨connection, connected, precedes, ?_⟩
        intro few subscribed bounded
        exact ⟨[], continues few subscribed bounded, by simp⟩
      case isFalse =>
        refine ⟨later, present, .refl later, ?_⟩
        intro _ subscribed bounded
        exact ⟨[], ⟨by simp, subscribed, bounded, fun _ _ found _ => found⟩, by simp⟩
  · exact .refl id server

theorem passes_createByFactory (server : Server) (other : ConnectionId) (factory : String)
    (kind : ObjectKind) (props : Properties) :
    Passes id server (server.createByFactory other factory kind props).2 := by
  simp only [createByFactory]
  split
  case isTrue guard => exact passes_createLink guard.2.2 props
  case isFalse => exact .refl id server

theorem spare_of_createLink {props : Properties} {link : ProxyId} {later : Connection}
    (created : server.createLink id props = (some link, after))
    (isLater : after.connections.get? id = some later) (few : later.handles < UInt32.size) :
    later.Spare link := by
  simp only [createLink] at created
  split at created
  · split at created
    · cases created
    · cases created
      simp only [setConnection, Table.get?_insert, if_true, Option.some.injEq] at isLater
      subst isLater
      refine ⟨Nat.le_of_eq (Connection.toNat_takeHandle few), ?_⟩
      intro bound found
      simp only [Table.get?_insert, if_true, Option.some.injEq] at found
      rw [← found]
  · cases created

theorem passes_sync (server : Server) (other : ConnectionId) (sequence : UInt32) :
    Passes id server (server.sync other sequence).2 := by
  simp only [sync]
  split
  case h_1 => exact .refl id server
  case h_2 connection connected =>
    refine passes_of_adapted rfl (Nat.le_refl _) fun later present => ?_
    simp only [setConnection, Table.get?_insert] at present
    split at present
    case isTrue same =>
      subst same
      cases present
      refine ⟨connection, connected, connection.precedes_send _, ?_⟩
      intro _ subscribed bounded
      exact ⟨_, Connection.continues_send subscribed bounded [.done sequence],
        by simp⟩
    case isFalse =>
      refine ⟨later, present, .refl later, ?_⟩
      intro _ subscribed bounded
      exact ⟨[], ⟨by simp, subscribed, bounded, fun _ _ found _ => found⟩, by simp⟩

/-- Giving a handle back that does not listen is nothing to what the connection hears. -/
theorem passes_destroyProxy (server : Server) (other : ConnectionId) (proxy : ProxyId)
    (quiet : ∀ connection bound, id = other → server.connections.get? other = some connection →
      connection.proxies.get? proxy = some bound → bound.listening = false) :
    Passes id server (server.destroyProxy other proxy) := by
  simp only [destroyProxy]
  split
  case h_1 => exact .refl id server
  case h_2 connection connected =>
    split
    case h_1 => exact .refl id server
    case h_2 bound found =>
      have returned : Passes id server (server.setConnection other
          { connection with proxies := connection.proxies.erase proxy }) := by
        by_cases own : id = other
        · subst own
          have silent := quiet connection bound rfl connected found
          refine passes_of_adapted rfl (Nat.le_refl _) fun later present => ?_
          simp only [setConnection, Table.get?_insert, if_true, Option.some.injEq] at present
          subst present
          refine ⟨connection, connected, ⟨Nat.le_refl _, ?_⟩, ?_⟩
          · rintro _ spare ⟨given, unheard⟩
            refine ⟨given, fun kept present => unheard kept ?_⟩
            simp only [Table.get?_erase, Option.ite_none_left_eq_some] at present
            exact present.2
          · intro _ subscribed bounded
            refine ⟨[], ⟨by simp, subscribed, ?_, ?_⟩, by simp⟩
            · intro kept present isKept
              simp only [Table.get?_erase, Option.ite_none_left_eq_some] at isKept
              exact bounded kept present isKept.2
            · intro kept present isKept listens
              have apart : kept ≠ proxy := by
                rintro rfl
                rw [found] at isKept
                cases isKept
                rw [silent] at listens
                cases listens
              simp [apart, isKept]
        · exact passes_setConnection_of_ne own server _
      split
      · exact returned.trans (passes_removeObject _ _)
      · exact returned

theorem serves_passes {other : ConnectionId} (apart : id ≠ other) :
    Serves other (Passes id) where
  toCarries := carries_passes id
  arrange _ _ := passes_setConnection_of_ne apart _ _

/-! ## A connection's own requests -/

/-- The connection is none that was not there before, and no handle has been forgotten. -/
def Lasts (id : ConnectionId) (before after : Server) : Prop :=
  ∀ later, after.connections.get? id = some later →
    ∃ connection, before.connections.get? id = some connection ∧
      connection.handles ≤ later.handles

theorem Passes.toLasts (passes : Passes id before after) : Lasts id before after := by
  intro later present
  rcases passes.lasts later present with ⟨connection, found, precedes, -⟩
  exact ⟨connection, found, precedes.handles⟩

theorem Lasts.refl (id : ConnectionId) (server : Server) : Lasts id server server :=
  fun later present => ⟨later, present, Nat.le_refl _⟩

theorem Lasts.trans (start : Lasts id before middle) (rest : Lasts id middle after) :
    Lasts id before after := by
  intro later present
  rcases rest later present with ⟨between, betweenPresent, second⟩
  rcases start between betweenPresent with ⟨connection, found, first⟩
  exact ⟨connection, found, Nat.le_trans first second⟩

theorem lasts_setConnection {connection later : Connection}
    (connected : server.connections.get? id = some connection)
    (more : connection.handles ≤ later.handles) :
    Lasts id server (server.setConnection id later) := by
  intro present found
  simp only [setConnection, Table.get?_insert, if_true, Option.some.injEq] at found
  subst found
  exact ⟨connection, connected, more⟩

theorem serves_lasts (id : ConnectionId) : Serves id (Lasts id) where
  trans := Lasts.trans
  keeps keeps := ((carries_passes id).keeps keeps).toLasts
  insertObject object hosts := ((carries_passes id).insertObject object hosts).toLasts
  removeObject server object := ((carries_passes id).removeObject server object).toLasts
  rewrite props present := ((carries_passes id).rewrite props present).toLasts
  arrange := lasts_setConnection

/-- What a connection does goes by all others, and brings none about. -/
structure Affects (id : ConnectionId) (before after : Server) : Prop where
  others : ∀ other, other ≠ id → Passes other before after
  lasts : Lasts id before after

theorem Affects.refl (id : ConnectionId) (server : Server) : Affects id server server :=
  ⟨fun other _ => .refl other server, .refl id server⟩

theorem Affects.trans (start : Affects id before middle) (rest : Affects id middle after) :
    Affects id before after :=
  ⟨fun other apart => (start.others other apart).trans (rest.others other apart),
    start.lasts.trans rest.lasts⟩

theorem Affects.last (affects : Affects id before after) :
    before.lastConnection ≤ after.lastConnection :=
  (affects.others (id + 1) (Nat.succ_ne_self id)).last

theorem serves_affects (id : ConnectionId) : Serves id (Affects id) where
  trans := Affects.trans
  keeps keeps :=
    ⟨fun _ apart => (serves_passes apart).keeps keeps, (serves_lasts id).keeps keeps⟩
  insertObject object hosts :=
    ⟨fun _ apart => (serves_passes apart).insertObject object hosts,
      (serves_lasts id).insertObject object hosts⟩
  removeObject server object :=
    ⟨fun _ apart => (serves_passes apart).removeObject server object,
      (serves_lasts id).removeObject server object⟩
  rewrite props present :=
    ⟨fun _ apart => (serves_passes apart).rewrite props present,
      (serves_lasts id).rewrite props present⟩
  arrange connected more :=
    ⟨fun _ apart => (serves_passes apart).arrange connected more,
      (serves_lasts id).arrange connected more⟩

theorem affects_answer (server : Server) (id : ConnectionId) (request : Request) :
    Affects id server (answer id request server).2 := (serves_affects id).answer server request

/-! ## What a subscriber asks for -/

def Remains (id : ConnectionId) (before after : Server) : Prop :=
  (before.connections.get? id).isSome → (after.connections.get? id).isSome

/-- The handles of a connection have not been used up, if it is still there. -/
def HasHandles (id : ConnectionId) (server : Server) : Prop :=
  ∀ connection, server.connections.get? id = some connection → connection.handles < UInt32.size

/-- Handles that are not used up by the end were not used up before. -/
theorem Lasts.few {limit : Nat} (lasts : Lasts id before after) (remains : Remains id before after)
    (few : ∀ later, after.connections.get? id = some later → later.handles < limit) :
    ∀ connection, before.connections.get? id = some connection → connection.handles < limit := by
  intro connection found
  rcases Option.isSome_iff_exists.1 (remains (by simp [found])) with ⟨last, isLast⟩
  rcases lasts last isLast with ⟨former, isFormer, more⟩
  rw [show former = connection from Option.some.inj (isFormer.symm.trans found)] at more
  exact Nat.lt_of_le_of_lt more (few last isLast)

theorem remains_setConnection (server : Server) (connection : Connection) :
    Remains id server (server.setConnection id connection) := by
  intro _
  simp [setConnection]

theorem remains_removeObject (server : Server) (object : ObjectId) :
    Remains id server (server.removeObject object) := by
  intro connected
  simp only [removeObject]
  split
  · simpa [broadcast] using connected
  · exact connected

theorem remains_bindObject (id : ConnectionId) (server : Server) (object : ObjectId)
    (kind : ObjectKind) :
    Remains id server (server.bindObject id object kind).2 := by
  simp only [bindObject]
  split
  · split
    · exact remains_setConnection server _
    · exact fun connected => connected
  · exact fun connected => connected

theorem remains_subscribeInfo (server : Server) (proxy : ProxyId) :
    Remains id server (server.subscribeInfo id proxy) := by
  simp only [subscribeInfo]
  split
  · exact fun connected => connected
  · split
    · exact fun connected => connected
    · split
      · exact fun connected => connected
      · split
        · exact remains_setConnection server _
        · exact fun connected => connected

theorem remains_destroyProxy (server : Server) (proxy : ProxyId) :
    Remains id server (server.destroyProxy id proxy) := by
  simp only [destroyProxy]
  split
  · exact fun connected => connected
  · split
    · exact fun connected => connected
    · split
      · intro connected
        exact remains_removeObject _ _ (remains_setConnection server _ connected)
      · exact remains_setConnection server _

end MediaGraph.Server
