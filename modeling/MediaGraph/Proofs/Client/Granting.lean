import MediaGraph.Proofs.Client.Custody

/-!
# What a client makes of a batch

A client that applies a batch binds the ports that are announced in it and gives up those that are
gone. What becomes of its graph depends on the server in one thing only: which bindings are granted,
and that is decided by which objects are ports. So the client can be followed on a transport that
knows nothing else (`Transport.granting`), with the names of its proxies left out of account
(`Subscriber.hear`, `Subscriber.blurred`).

The objects stay as they are in the meantime, since no object goes with the proxies that the client
gives back, and so do the proxies that are none of the subscriber's (`Subscriber.Applied`).
-/

namespace MediaGraph

/-- A transport that knows which objects are ports. Its world counts the handles given out. -/
def Transport.granting (ports : ObjectId → Bool) : Transport Nat where
  answer
    | .bindObject id _, count => if ports id then (some 0, count + 1) else (none, count)
    | request, count => (request.refusal, count)
  nodeId _ _ := unassigned
  descriptor _ := none
  patience _ := 0

/-- Acknowledgements, and announcements of what is no port. -/
def Event.isSilent : Event → Bool
  | done _ => true
  | global _ kind => kind ≠ .port
  | _ => false

namespace Subscriber

/-- A subscriber, whatever the names of its proxies. -/
def blurred (subscriber : Subscriber) : Subscriber :=
  { subscriber with listened := subscriber.listened.mapValues fun _ _ => 0 }

def without (subscriber : Subscriber) (id : ObjectId) : Subscriber :=
  { subscriber with listened := subscriber.listened.erase id }

def listenTo (subscriber : Subscriber) (id : ObjectId) (proxy : ProxyId) : Subscriber :=
  { subscriber with listened := subscriber.listened.insert id proxy }

/-- What events come to on a transport that knows the ports only, up to the first that fails. -/
def hear (ports : ObjectId → Bool) :
    List Event → Subscriber → Nat → Option MalformedNode × Subscriber × Nat
  | [], subscriber, count => (none, subscriber, count)
  | event :: rest, subscriber, count =>
    match subscriber.handle (.granting ports) event count with
    | .ok (subscriber, count) => hear ports rest subscriber count
    | .error malformed => (some malformed, subscriber, count)

variable {ports : ObjectId → Bool} {subscriber : Subscriber} {id object : ObjectId} {count : Nat}

/-! ## Knowing the ports only -/

theorem without_of_deaf (deaf : subscriber.listened.get? id = none) :
    subscriber.without id = subscriber := by
  simp only [without, Table.erase_of_absent deaf]

theorem listenTo_without (proxy : ProxyId) :
    (subscriber.without id).listenTo id proxy = subscriber.listenTo id proxy := by
  simp only [listenTo, without, Table.insert_of_erased]

/-- To announce a port is to release it first. -/
theorem announce_release {σ : Type} {transport : Transport σ} {world : σ} :
    subscriber.announce transport id world =
      (subscriber.release transport id world).1.announce transport id
        (subscriber.release transport id world).2 := by
  have released := listened_release transport id subscriber world id
  rw [if_pos rfl] at released
  simp only [announce]
  generalize subscriber.release transport id world = result at released ⊢
  simp only [release, released]

theorem release_granting :
    subscriber.release (.granting ports) id count = (subscriber.without id, count) := by
  simp only [release]
  split
  case h_1 => rfl
  case h_2 deaf => rw [without_of_deaf deaf]

theorem announce_granting : subscriber.announce (.granting ports) id count =
    if ports id then (subscriber.listenTo id 0, count + 1) else (subscriber.without id, count) := by
  simp only [announce, release_granting]
  cases isPort : ports id with
  | true =>
      simp only [Transport.granting, isPort, if_true]
      exact congrArg (·, count + 1) (listenTo_without 0)
  | false => simp [Transport.granting, isPort]

/-- How many handles have been given out makes no difference but to their number. -/
theorem handle_granting (event : Event) : subscriber.handle (.granting ports) event count =
    (subscriber.handle (.granting ports) event 0).map fun result =>
      (result.1, count + result.2) := by
  by_cases listening : subscriber.phase = .listening
  · cases event with
    | global id kind =>
        cases kind with
        | port =>
            simp only [handle, listening, announce_granting, Except.map]
            split <;> rfl
        | _ => simp [handle, Except.map]
    | info id props =>
        simp only [handle, listening]
        cases subscriber.describe id props <;> rfl
    | removed id => simp [handle, listening, release_granting, Except.map]
    | done sequence => simp [handle, Except.map]
  · simp [handle_of_not_listening event listening, Except.map]

theorem hear_count (events : List Event) (subscriber : Subscriber) (count : Nat) :
    hear ports events subscriber count = ((hear ports events subscriber 0).1,
      (hear ports events subscriber 0).2.1, count + (hear ports events subscriber 0).2.2) := by
  induction events generalizing subscriber count with
  | nil => rfl
  | cons event rest ih =>
      simp only [hear]
      rw [handle_granting event]
      cases subscriber.handle (.granting ports) event 0 with
      | error malformed => rfl
      | ok result =>
          simp only [Except.map]
          rw [ih result.1 (count + result.2), ih result.1 result.2, Nat.add_assoc]

theorem le_hear (events : List Event) (subscriber : Subscriber) (count : Nat) :
    count ≤ (hear ports events subscriber count).2.2 := by
  rw [hear_count]
  exact Nat.le_add_right _ _

theorem hear_succ (events : List Event) (subscriber : Subscriber) (count : Nat) :
    hear ports events subscriber (count + 1) = ((hear ports events subscriber count).1,
      (hear ports events subscriber count).2.1, (hear ports events subscriber count).2.2 + 1) := by
  rw [hear_count events subscriber (count + 1), hear_count events subscriber count,
    Nat.add_right_comm]

/-! ## Events that nothing is done about -/

theorem handle_of_silent {σ : Type} {transport : Transport σ} {event : Event}
    (silent : event.isSilent) (world : σ) :
    subscriber.handle transport event world = .ok (subscriber, world) := by
  by_cases listening : subscriber.phase = .listening
  · cases event with
    | global id kind =>
        cases kind with
        | port => cases silent
        | _ => simp [handle]
    | done sequence => simp [handle]
    | _ => cases silent
  · exact handle_of_not_listening event listening

/-- An event that is silent can be left out. -/
theorem hear_of_silent {event : Event} (silent : event.isSilent) (early late : List Event)
    (subscriber : Subscriber) (count : Nat) :
    hear ports (early ++ event :: late) subscriber count =
      hear ports (early ++ late) subscriber count := by
  induction early generalizing subscriber count with
  | nil => simp only [List.nil_append, hear, handle_of_silent silent]
  | cons first rest ih => simp only [List.cons_append, hear, ih]

/-! ## The names of the proxies -/

@[simp]
theorem isListeningTo_blurred :
    subscriber.blurred.isListeningTo id = subscriber.isListeningTo id := by
  simp [isListeningTo, blurred, Table.contains]

theorem describe_blurred (props : Properties) : subscriber.blurred.describe id props =
    (subscriber.describe id props).map blurred := by
  simp only [describe, isListeningTo_blurred]
  split
  case isTrue =>
    have graph : subscriber.blurred.graph = subscriber.graph := rfl
    rw [graph]
    rcases subscriber.graph.insert (Port.ofProperties id props) with malformed | ⟨place, filed⟩
    · rfl
    · rfl
  case isFalse => rfl

theorem listened_of_describe {props : Properties} {after : Subscriber}
    (described : subscriber.describe id props = .ok after) :
    after.listened = subscriber.listened := by
  rcases describe_cases described with ⟨-, rfl⟩ | ⟨-, place, graph, -, rfl⟩ <;> rfl

theorem withdraw_blurred : subscriber.blurred.withdraw id = (subscriber.withdraw id).blurred := rfl

theorem without_blurred : subscriber.blurred.without id = (subscriber.without id).blurred := by
  simp only [without, blurred, Table.mapValues_erase]

theorem listenTo_blurred (proxy : ProxyId) :
    subscriber.blurred.listenTo id 0 = (subscriber.listenTo id proxy).blurred := by
  simp only [listenTo, blurred, Table.mapValues_insert]

end Subscriber

/-! ## Applying events on the server -/

namespace Server

variable {id : ConnectionId} {server : Server} {connection : Connection} {object : ObjectId}

theorem setConnection_self (connected : server.connections.get? id = some connection) :
    server.setConnection id connection = server := by
  simp only [setConnection, Table.insert_of_present connected]

/-- Nothing goes with a proxy that owns nothing. -/
theorem destroyProxy_of_idle (connected : server.connections.get? id = some connection)
    {proxy : ProxyId}
    (idle : ∀ bound, connection.proxies.get? proxy = some bound → bound.owned = false) :
    server.destroyProxy id proxy =
      server.setConnection id { connection with proxies := connection.proxies.erase proxy } := by
  simp only [destroyProxy, connected]
  split
  case h_1 unbound => rw [Table.erase_of_absent unbound, setConnection_self connected]
  case h_2 bound isBound => simp [idle bound isBound]

end Server

namespace Subscriber

variable {id : ConnectionId} {ports : ObjectId → Bool} {subscriber : Subscriber} {server : Server}
  {connection : Connection} {object : ObjectId}

/-- The objects stay as they are, and so do the proxies that are none of the subscriber's. -/
structure Applied (id : ConnectionId) (before after : Subscriber × Server) : Prop where
  objects : after.2.objects = before.2.objects
  spared : ∀ later, after.2.connections.get? id = some later →
    ∃ connection, before.2.connections.get? id = some connection ∧
      connection.handles ≤ later.handles ∧
      (later.handles < UInt32.size → ∀ spare, spare.toNat ≤ connection.handles →
        (∀ object, before.1.listened.get? object ≠ some spare) →
        later.proxies.get? spare = connection.proxies.get? spare ∧
          ∀ object, after.1.listened.get? object ≠ some spare)

theorem applied_of_listened (id : ConnectionId) (server : Server) {after : Subscriber}
    (listened : after.listened = subscriber.listened) :
    Applied id (subscriber, server) (after, server) where
  objects := rfl
  spared later isLater :=
    ⟨later, isLater, Nat.le_refl _, fun _ _ _ apart => ⟨rfl, listened ▸ apart⟩⟩

theorem Applied.trans {before middle after : Subscriber × Server}
    (start : Applied id before middle) (rest : Applied id middle after) :
    Applied id before after where
  objects := rest.objects.trans start.objects
  spared later isLater := by
    rcases rest.spared later isLater with ⟨between, isBetween, more, kept⟩
    rcases start.spared between isBetween with ⟨connection, connected, first, former⟩
    refine ⟨connection, connected, Nat.le_trans first more, fun few spare early apart => ?_⟩
    rcases former (Nat.lt_of_le_of_lt more few) spare early apart with ⟨same, stillApart⟩
    rcases kept few spare (Nat.le_trans early first) stillApart with ⟨still, apartAfter⟩
    exact ⟨still.trans same, apartAfter⟩

theorem Applied.kinds {before after : Subscriber × Server} (applied : Applied id before after)
    (object : ObjectId) : after.2.kind? object = before.2.kind? object := by
  simp only [Server.kind?, applied.objects]

/-- The state is the one that comes of it on a transport that knows the ports only. -/
def Meets (id : ConnectionId) (state : Subscriber × Server) (ideal : Subscriber × Nat) : Prop :=
  ∃ connection, state.2.connections.get? id = some connection ∧
    ideal = (state.1.blurred, connection.handles)

/-- The proxies in hand are none that an object goes with. -/
def Idle (subscriber : Subscriber) (connection : Connection) : Prop :=
  ∀ object proxy bound, subscriber.listened.get? object = some proxy →
    connection.proxies.get? proxy = some bound → bound.owned = false

theorem applied_without (connected : server.connections.get? id = some connection)
    {proxy : ProxyId} (listened : subscriber.listened.get? object = some proxy) :
    Applied id (subscriber, server) (subscriber.without object, server.setConnection id
      { connection with proxies := connection.proxies.erase proxy }) where
  objects := rfl
  spared later isLater := by
    simp only [Server.setConnection, Table.get?_insert, if_true, Option.some.injEq] at isLater
    subst isLater
    refine ⟨connection, connected, Nat.le_refl _, fun _ spare _ apart => ⟨?_, fun other => ?_⟩⟩
    · have isOther : spare ≠ proxy := by
        rintro rfl
        exact apart object listened
      simp [isOther]
    · simp only [without, Table.get?_erase]
      split
      · simp
      · exact apart other

theorem applied_listenTo (connected : server.connections.get? id = some connection)
    {changed : Server} {later : Connection} (objects : changed.objects = server.objects)
    (isLater : changed.connections.get? id = some later) {bound : Proxy}
    (adds : connection.Adds later connection.takeHandle.1 bound) :
    Applied id (subscriber, server)
      (subscriber.listenTo object connection.takeHandle.1, changed) where
  objects := objects
  spared present isPresent := by
    cases isLater.symm.trans isPresent
    refine ⟨connection, connected, adds.handles, fun few spare early apart => ?_⟩
    have isOther : spare ≠ connection.takeHandle.1 := by
      rintro rfl
      exact Nat.not_lt_of_le early (adds.fresh few).1
    refine ⟨by simp [adds.proxies, isOther], fun other => ?_⟩
    simp only [listenTo, Table.get?_insert]
    split
    · exact fun same => isOther (Option.some.inj same).symm
    · exact apart other

theorem applied_release (object : ObjectId)
    (connected : server.connections.get? id = some connection)
    (idle : subscriber.Idle connection) :
    Meets id (subscriber.release (Server.transport id) object server)
        (subscriber.blurred.without object, connection.handles) ∧
      Applied id (subscriber, server) (subscriber.release (Server.transport id) object server) := by
  simp only [release]
  split
  case h_1 proxy listened =>
    have destroyed := Server.destroyProxy_of_idle connected fun bound =>
      idle object proxy bound listened
    simp only [Server.transport, Server.answer, destroyed]
    refine ⟨⟨{ connection with proxies := connection.proxies.erase proxy }, ?_, ?_⟩,
      applied_without connected listened⟩
    · simp [Server.setConnection]
    · rw [without_blurred]
      rfl
  case h_2 deaf =>
    refine ⟨⟨connection, connected, ?_⟩, applied_of_listened id server rfl⟩
    rw [without_blurred, without_of_deaf deaf]

theorem applied_announce (object : ObjectId)
    (connected : server.connections.get? id = some connection)
    (idle : subscriber.Idle connection)
    (same : ports object = decide (server.kind? object = some .port)) :
    Meets id (subscriber.announce (Server.transport id) object server)
        (subscriber.blurred.announce (.granting ports) object connection.handles) ∧
      Applied id (subscriber, server)
        (subscriber.announce (Server.transport id) object server) := by
  have released := applied_release object connected idle
  have unbound := listened_release (Server.transport id) object subscriber server object
  rw [announce_granting, same, announce_release]
  generalize subscriber.release (Server.transport id) object server = result at released unbound ⊢
  rcases result with ⟨bare, middle⟩
  rcases released with ⟨⟨later, isLater, ideal⟩, applied⟩
  simp only [Prod.mk.injEq] at ideal
  rw [if_pos rfl] at unbound
  have kinds : middle.kind? object = server.kind? object := applied.kinds object
  rw [← kinds]
  rcases Tracks.announce_eq isLater unbound with ⟨refused, announced⟩ |
    ⟨shown, final, last, present, isPort, announced, objects, isLast, taken⟩
  · simp only [announced, refused, decide_false, Bool.false_eq_true, if_false]
    exact ⟨⟨later, isLater, by rw [ideal.1, ideal.2]⟩, applied⟩
  · have granted : middle.kind? object = some .port := by
      simp [Server.kind?, present, isPort]
    have handles : last.handles = later.handles + 1 := by rw [taken]; rfl
    have adds := Connection.adds_takeHandle handles (congrArg Connection.proxies taken)
    have listens : subscriber.blurred.listenTo object 0 =
        (bare.listenTo object later.takeHandle.1).blurred := by
      rw [← listenTo_blurred, ← ideal.1, listenTo_without]
    simp only [announced, granted, decide_true, if_true]
    refine ⟨⟨last, isLast, ?_⟩, applied.trans (applied_listenTo isLater objects isLast adds)⟩
    rw [listens, ideal.2, handles]
    rfl

theorem applied_handle (connected : server.connections.get? id = some connection)
    (idle : subscriber.Idle connection)
    (same : ∀ object, ports object = decide (server.kind? object = some .port)) (event : Event) :
    match subscriber.handle (Server.transport id) event server with
    | .ok state => Applied id (subscriber, server) state ∧
        ∃ ideal, subscriber.blurred.handle (.granting ports) event connection.handles = .ok ideal ∧
          Meets id state ideal
    | .error malformed =>
      subscriber.blurred.handle (.granting ports) event connection.handles = .error malformed := by
  by_cases listening : subscriber.phase = .listening
  · have blurredListening : subscriber.blurred.phase = .listening := listening
    cases event with
    | global object kind =>
        by_cases isPort : kind = .port
        · subst isPort
          have announced := applied_announce object connected idle (same object)
          simp only [handle, listening, blurredListening]
          exact ⟨announced.2, _, rfl, announced.1⟩
        · have silent : (Event.global object kind).isSilent := by
            simpa [Event.isSilent] using isPort
          simp only [handle_of_silent silent]
          exact ⟨applied_of_listened id server rfl, _, rfl, connection, connected, rfl⟩
    | info object props =>
        simp only [handle, listening, blurredListening, describe_blurred]
        rcases described : subscriber.describe object props with malformed | after
        · rfl
        · exact ⟨applied_of_listened id server (listened_of_describe described), _, rfl, connection,
            connected, rfl⟩
    | removed object =>
        have withdrawn := applied_of_listened id server (listened_withdraw object subscriber)
        have stillIdle : (subscriber.withdraw object).Idle connection := idle
        have released := applied_release object connected stillIdle
        simp only [handle, listening, blurredListening, withdraw_blurred, release_granting]
        exact ⟨withdrawn.trans released.2, _, rfl, released.1⟩
    | done sequence =>
        have silent : (Event.done sequence).isSilent := rfl
        simp only [handle_of_silent silent]
        exact ⟨applied_of_listened id server rfl, _, rfl, connection, connected, rfl⟩
  · have deaf : subscriber.blurred.phase ≠ .listening := listening
    simp only [handle_of_not_listening event listening, handle_of_not_listening event deaf]
    exact ⟨applied_of_listened id server rfl, _, rfl, connection, connected, rfl⟩

end Subscriber

namespace Client

open Subscriber (hear Applied Meets)

variable {id : ConnectionId} {ports : ObjectId → Bool} {client : Client Server} {server : Server}
  {connection : Connection} {links : List Link} {nodes : List NodeToken}

/--
A batch comes to what it comes to on a transport that knows the ports only, as long as handles are
not used up. It is enough to know that of either of the two.
-/
theorem applied_deliverAll {events : List Event} {failure : Option MalformedNode}
    {after : Client Server} {changed : Server}
    (delivered : deliverAll (Server.transport id) events client server = (failure, after, changed))
    (connected : server.connections.get? id = some connection)
    (kept : (Server.custody id).Kept (client.subscriber.books links nodes) server)
    (same : ∀ object, ports object = decide (server.kind? object = some .port))
    (few : (∀ later, changed.connections.get? id = some later → later.handles < UInt32.size) ∨
      (hear ports events client.subscriber.blurred connection.handles).2.2 < UInt32.size) :
    Applied id (client.subscriber, server) (after.subscriber, changed) ∧
      ∃ later, changed.connections.get? id = some later ∧
        hear ports events client.subscriber.blurred connection.handles =
          (failure, after.subscriber.blurred, later.handles) := by
  induction events generalizing client server connection with
  | nil =>
      cases delivered
      exact ⟨Subscriber.applied_of_listened id _ rfl, connection, connected, rfl⟩
  | cons event rest ih =>
      have framed := framed_deliverAll id (event :: rest) client server
      rw [delivered] at framed
      have fewNow : connection.handles < UInt32.size := by
        rcases few with few | few
        · exact framed.affects.lasts.few framed.remains few connection connected
        · exact Nat.lt_of_le_of_lt (Subscriber.le_hear _ _ _) few
      have idle : client.subscriber.Idle connection := (kept connection connected fewNow).idle
      have handled := Subscriber.applied_handle connected idle same event
      rw [deliverAll, deliver_eq] at delivered
      simp only [hear] at few ⊢
      rcases ran : client.subscriber.handle (Server.transport id) event server with
        malformed | ⟨subscriber, between⟩
      · simp only [ran] at handled delivered
        cases delivered
        rw [handled]
        exact ⟨Subscriber.applied_of_listened id _ rfl, connection, connected, rfl⟩
      · simp only [ran] at handled delivered
        rcases handled with ⟨applied, ideal, heard, later, isLater, rfl⟩
        simp only [heard] at few ⊢
        have stillKept := Subscriber.kept_handle (Server.upholds_custody id) kept ran
        have kinds : ∀ object, between.kind? object = server.kind? object := applied.kinds
        have sameStill : ∀ object, ports object = decide (between.kind? object = some .port) := by
          intro object
          rw [kinds]
          exact same object
        have result := ih delivered isLater stillKept sameStill few
        exact ⟨applied.trans result.1, result.2⟩

end Client

end MediaGraph
