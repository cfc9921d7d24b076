import MediaGraph.Proofs.Server.Requests

/-!
# The proxies of a connection

Whatever happens on a server, a connection keeps its proxies as long as it is there
(`Server.Retains`). Only the requests of its own client change them: a port is bound and listened
to, a link is created, and a proxy is destroyed. The lemmas here say what is left then.
-/

namespace MediaGraph

/-- The requests that can change which proxies a connection has, and what they listen to. -/
def Request.isOnProxies : Request → Bool
  | bindObject .. | subscribeInfo _ | destroyProxy _ | createObject .. => true
  | _ => false

namespace Connection

/-- A connection has got a proxy under a handle that it had not counted before. -/
structure Adds (connection later : Connection) (proxy : ProxyId) (bound : Proxy) : Prop where
  handles : connection.handles ≤ later.handles
  fresh : later.handles < UInt32.size →
    connection.handles < proxy.toNat ∧ proxy.toNat ≤ later.handles
  proxies : later.proxies = connection.proxies.insert proxy bound

structure Removes (connection later : Connection) (proxy : ProxyId) : Prop where
  handles : connection.handles ≤ later.handles
  proxies : later.proxies = connection.proxies.erase proxy

theorem Adds.of_later {earlier connection later : Connection} {proxy : ProxyId} {bound : Proxy}
    (adds : connection.Adds later proxy bound) (more : earlier.handles ≤ connection.handles)
    (same : connection.proxies = earlier.proxies) : earlier.Adds later proxy bound where
  handles := Nat.le_trans more adds.handles
  fresh few := ⟨Nat.lt_of_le_of_lt more (adds.fresh few).1, (adds.fresh few).2⟩
  proxies := same ▸ adds.proxies

theorem adds_takeHandle {connection later : Connection} {bound : Proxy}
    (handles : later.handles = connection.handles + 1)
    (proxies : later.proxies = connection.proxies.insert connection.takeHandle.1 bound) :
    connection.Adds later connection.takeHandle.1 bound where
  handles := by omega
  fresh few := by
    have handle : connection.takeHandle.1.toNat = connection.handles + 1 :=
      toNat_takeHandle (handles ▸ few)
    omega
  proxies := proxies

end Connection

namespace Server

/-- If the connection is still there, it was there before, with the proxies that it has. -/
def Retains (id : ConnectionId) (before after : Server) : Prop :=
  ∀ later, after.connections.get? id = some later →
    ∃ connection, before.connections.get? id = some connection ∧
      connection.handles ≤ later.handles ∧ later.proxies = connection.proxies

variable {id other : ConnectionId} {before middle after server : Server}

theorem Retains.of_connections (same : after.connections = before.connections) :
    Retains id before after :=
  fun later isLater => ⟨later, same ▸ isLater, Nat.le_refl _, rfl⟩

theorem retains_of_gone (gone : after.connections.get? id = none) : Retains id before after := by
  intro later isLater
  rw [gone] at isLater
  cases isLater

theorem Retains.refl (id : ConnectionId) (server : Server) : Retains id server server :=
  .of_connections rfl

theorem Retains.trans (start : Retains id before middle) (rest : Retains id middle after) :
    Retains id before after := by
  intro later isLater
  rcases rest later isLater with ⟨between, isBetween, more, kept⟩
  rcases start between isBetween with ⟨connection, connected, first, former⟩
  exact ⟨connection, connected, Nat.le_trans first more, kept.trans former⟩

theorem Retains.isSome (retains : Retains id before after)
    (connected : (after.connections.get? id).isSome) : (before.connections.get? id).isSome := by
  rcases Option.isSome_iff_exists.1 connected with ⟨later, isLater⟩
  rcases retains later isLater with ⟨connection, found, -⟩
  simp [found]

theorem retains_mapValues {change : ConnectionId → Connection → Connection}
    (objects : Table ObjectId Object)
    (handles : ∀ id connection, (change id connection).handles = connection.handles)
    (proxies : ∀ id connection, (change id connection).proxies = connection.proxies) :
    Retains id server
      { server with objects, connections := server.connections.mapValues change } := by
  intro later isLater
  simp only [Table.get?_mapValues, Option.map_eq_some_iff] at isLater
  rcases isLater with ⟨connection, connected, rfl⟩
  exact ⟨connection, connected, Nat.le_of_eq (handles id connection).symm, proxies id connection⟩

theorem retains_broadcast (server : Server) (event : Event) :
    Retains id server (server.broadcast event) := by
  apply retains_mapValues server.objects
  all_goals
    intro _ connection
    split <;> rfl

theorem carries_retains (id : ConnectionId) : Carries (Retains id) where
  trans := Retains.trans
  keeps keeps later isLater := by
    rcases keeps.nodes id later isLater with ⟨connection, connected, more, same⟩
    exact ⟨connection, connected, more, by rw [same]⟩
  insertObject {server object} number _ := by
    simp only [insertObject]
    have inserted : Retains id server
        { server with objects := server.objects.insert number object } := .of_connections rfl
    refine .trans ?_ (retains_broadcast _ _)
    split <;> split
    · exact (inserted.trans (retains_broadcast _ _)).trans (.of_connections rfl)
    · exact inserted.trans (retains_broadcast _ _)
    · exact inserted.trans (.of_connections rfl)
    · exact inserted
  removeObject server number := by
    simp only [removeObject]
    split
    · exact (Retains.of_connections rfl).trans (retains_broadcast _ _)
    · exact .refl id server
  rewrite {server number object} props present := by
    simp only [sendInfo, Table.get?_insert, if_true]
    exact retains_mapValues _ (fun _ _ => rfl) fun _ _ => rfl

/-- What another connection asks for leaves a connection its proxies. -/
theorem serves_retains (apart : id ≠ other) : Serves other (Retains id) where
  toCarries := carries_retains id
  arrange {server connection later} connected _ := by
    intro present isPresent
    simp only [setConnection, Table.get?_insert, if_neg apart] at isPresent
    exact ⟨present, isPresent, Nat.le_refl _, rfl⟩

/-! ## Requests of the connection itself -/

theorem retains_setConnection {connection later : Connection}
    (connected : server.connections.get? id = some connection)
    (more : connection.handles ≤ later.handles) (same : later.proxies = connection.proxies) :
    Retains id server (server.setConnection id later) := by
  intro present isPresent
  simp only [setConnection, Table.get?_insert, if_true, Option.some.injEq] at isPresent
  subst isPresent
  exact ⟨connection, connected, more, same⟩

/-- Requests that are not about proxies leave the connection those that it has. -/
theorem retains_answer (server : Server) (id : ConnectionId) {request : Request}
    (others : request.isOnProxies = false) :
    Retains id server (answer id request server).2 := by
  have carries := carries_retains id
  cases request with
  | bindObject | subscribeInfo | destroyProxy | createObject => cases others
  | subscribeGlobals =>
      simp only [answer, subscribeGlobals]
      split
      case h_1 => exact .refl id server
      case h_2 connection connected => exact retains_setConnection connected (Nat.le_refl _) rfl
  | unsubscribeGlobals =>
      simp only [answer, unsubscribeGlobals]
      split
      case h_1 => exact .refl id server
      case h_2 connection connected => exact retains_setConnection connected (Nat.le_refl _) rfl
  | sync sequence =>
      simp only [answer, sync]
      split
      case h_1 => exact .refl id server
      case h_2 connection connected => exact retains_setConnection connected (Nat.le_refl _) rfl
  | drive timeout =>
      simp only [answer, drive]
      split
      case h_1 connection _ connected => exact retains_setConnection connected (Nat.le_refl _) rfl
      case h_2 => exact .of_connections rfl
      case h_3 => exact .refl id server
  | createNode props => exact carries.createNode server id props
  | addPort node direction props => exact carries.addPort server id node direction props
  | updatePort node port props => exact carries.updatePort server id node port props
  | removePort node port => exact carries.removePort server id node port
  | activateNode node => exact carries.activateNode server id node
  | destroyNode node => exact carries.destroyNode server id node
  | disconnect => exact carries.disconnect server id

/-- A port that is bound is listened to at once. -/
theorem adds_bindObject {object : ObjectId} {proxy : ProxyId} {later : Connection}
    (granted : server.bindObject id object .port = (some proxy, middle))
    (isLater : (middle.subscribeInfo id proxy).connections.get? id = some later) :
    ∃ connection, server.connections.get? id = some connection ∧
      connection.Adds later proxy { object, listening := true, owned := false } := by
  simp only [bindObject] at granted
  split at granted
  case h_1 connection found connected present =>
    split at granted
    case isTrue isPort =>
      cases granted
      refine ⟨connection, connected, ?_⟩
      simp only [subscribeInfo, setConnection, Table.get?_insert, if_true, present, isPort,
        Option.some.injEq, Connection.takeHandle] at isLater
      subst isLater
      exact Connection.adds_takeHandle rfl (by simp [Connection.send, Connection.takeHandle])
    case isFalse => cases granted
  case h_2 => cases granted

theorem bindObject_refused {object : ObjectId} {kind : ObjectKind}
    (refused : server.bindObject id object kind = (none, after)) : after = server := by
  simp only [bindObject] at refused
  split at refused
  case h_1 =>
    split at refused
    · cases refused
    · cases refused
      rfl
  case h_2 =>
    cases refused
    rfl

/-- What a proxy is destroyed for, or whether there is one, makes no difference to the others. -/
theorem removes_destroyProxy {later : Connection} {proxy : ProxyId}
    (isLater : (server.destroyProxy id proxy).connections.get? id = some later) :
    ∃ connection, server.connections.get? id = some connection ∧
      connection.Removes later proxy := by
  simp only [destroyProxy] at isLater
  split at isLater
  case h_1 gone =>
    rw [gone] at isLater
    cases isLater
  case h_2 connection connected =>
    refine ⟨connection, connected, ?_⟩
    split at isLater
    case h_1 unbound =>
      rw [connected] at isLater
      cases isLater
      exact ⟨Nat.le_refl _, (Table.erase_of_absent unbound).symm⟩
    case h_2 bound isBound =>
      generalize returned : server.setConnection id
        { connection with proxies := connection.proxies.erase proxy } = bare at isLater
      have retains : ∀ changed, Retains id bare changed →
          changed.connections.get? id = some later → connection.Removes later proxy := by
        intro changed kept found
        rcases kept later found with ⟨former, isFormer, more, same⟩
        simp only [← returned, setConnection, Table.get?_insert, if_true, Option.some.injEq]
          at isFormer
        subst isFormer
        exact ⟨more, same⟩
      split at isLater
      case isTrue => exact retains _ ((carries_retains id).removeObject bare _) isLater
      case isFalse => exact retains _ (.refl id bare) isLater

theorem adds_createByFactory {factory : String} {kind : ObjectKind} {props : Properties}
    {proxy : ProxyId} {later : Connection}
    (created : server.createByFactory id factory kind props = (some proxy, after))
    (isLater : after.connections.get? id = some later) :
    ∃ connection object, server.connections.get? id = some connection ∧
      connection.Adds later proxy { object, listening := false, owned := true } := by
  simp only [createByFactory] at created
  split at created
  case isFalse => cases created
  case isTrue guard =>
    simp only [createLink] at created
    split at created
    case isFalse => cases created
    case isTrue =>
      have retains : Retains id server
          (server.createObject { kind := .link, props, owner := some id }).2 :=
        (carries_retains id).createObject server (hosts_of_connected guard.2.2)
      split at created
      case h_1 => cases created
      case h_2 present connected =>
        cases created
        rcases retains present connected with ⟨connection, isConnection, more, same⟩
        simp only [setConnection, Table.get?_insert, if_true, Option.some.injEq] at isLater
        subst isLater
        exact ⟨connection, _, isConnection, (Connection.adds_takeHandle rfl rfl).of_later more same⟩

theorem retains_createByFactory {factory : String} {kind : ObjectKind} {props : Properties}
    (refused : server.createByFactory id factory kind props = (none, after)) :
    Retains id server after := by
  simp only [createByFactory] at refused
  split at refused
  case isFalse =>
    cases refused
    exact .refl id _
  case isTrue guard =>
    simp only [createLink] at refused
    split at refused
    case isFalse =>
      cases refused
      exact .refl id _
    case isTrue =>
      split at refused
      case h_1 =>
        cases refused
        exact (carries_retains id).createObject server (hosts_of_connected guard.2.2)
      case h_2 => cases refused

theorem get?_disconnect (server : Server) (id : ConnectionId) :
    (server.disconnect id).connections.get? id = none := by
  simp only [disconnect, dropConnection]
  split
  case h_1 gone => exact gone
  case h_2 =>
    split
    case h_1 gone => exact gone
    case h_2 => simp

end Server

end MediaGraph
