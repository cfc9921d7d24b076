import MediaGraph.Proofs.Server.Announcements
import MediaGraph.Proofs.Server.Operations

/-!
# What a connection hears

While the objects of a server change, at the hands of anybody, each subscribed connection is sent
events. `Server.Hears` says that these events are all there is to know: what they announce leads
from the objects before to the objects after, and for a port that the connection listens to, the
properties that were told last are the present ones.

`Server.Passes` says that a change of the server goes by a connection in this way, and leaves alone
what the connection itself has subscribed to and bound. It goes from step to step, so it is proved
for the few things that change objects, and `carries_passes` takes it from there to all operations.
-/

namespace MediaGraph

namespace Connection

/-- Every handle in use is one of those that have been counted. -/
def Bounded (connection : Connection) : Prop :=
  ∀ proxy bound, connection.proxies.get? proxy = some bound → proxy.toNat ≤ connection.handles

def Listens (connection : Connection) (id : ObjectId) : Prop :=
  ∃ proxy bound, connection.proxies.get? proxy = some bound ∧ bound.object = id ∧ bound.listening

/-- A handle that has been given out and does not listen to anything. -/
def Spare (connection : Connection) (proxy : ProxyId) : Prop :=
  proxy.toNat ≤ connection.handles ∧
    ∀ bound, connection.proxies.get? proxy = some bound → bound.listening = false

theorem listeners_pos_iff (connection : Connection) (id : ObjectId) :
    0 < connection.listeners id ↔ connection.Listens id := by
  simp only [listeners, List.countP_pos_iff, Table.mem_values_iff, Listens, Bool.and_eq_true,
    decide_eq_true_eq]
  constructor
  · rintro ⟨bound, ⟨proxy, found⟩, object, listening⟩
    exact ⟨proxy, bound, found, object, listening⟩
  · rintro ⟨proxy, bound, found, object, listening⟩
    exact ⟨bound, ⟨proxy, found⟩, object, listening⟩

/-- Handles are only added to the count, and none that is spare starts to listen. -/
structure Precedes (connection later : Connection) : Prop where
  handles : connection.handles ≤ later.handles
  spare : later.handles < UInt32.size → ∀ proxy, connection.Spare proxy → later.Spare proxy

/-- The connection keeps what it listens to, and some events have been sent to it. -/
structure Continues (connection later : Connection) (news : List Event) : Prop where
  inbox : later.inbox = connection.inbox ++ news
  subscribed : later.subscribed
  bounded : later.Bounded
  listening : ∀ proxy bound, connection.proxies.get? proxy = some bound → bound.listening →
    later.proxies.get? proxy = some bound

variable {connection middle later : Connection}

theorem Precedes.refl (connection : Connection) : connection.Precedes connection :=
  ⟨Nat.le_refl _, fun _ _ spare => spare⟩

theorem Precedes.trans (start : connection.Precedes middle) (rest : middle.Precedes later) :
    connection.Precedes later where
  handles := Nat.le_trans start.handles rest.handles
  spare few proxy spare :=
    rest.spare few proxy (start.spare (Nat.lt_of_le_of_lt rest.handles few) proxy spare)

theorem Continues.trans {first second : List Event} (start : connection.Continues middle first)
    (rest : middle.Continues later second) : connection.Continues later (first ++ second) where
  inbox := by rw [rest.inbox, start.inbox, List.append_assoc]
  subscribed := rest.subscribed
  bounded := rest.bounded
  listening proxy bound found listening :=
    rest.listening proxy bound (start.listening proxy bound found listening) listening

theorem Continues.listens {news : List Event} (continues : connection.Continues later news)
    {id : ObjectId} (listens : connection.Listens id) : later.Listens id := by
  rcases listens with ⟨proxy, bound, found, object, listening⟩
  exact ⟨proxy, bound, continues.listening proxy bound found listening, object, listening⟩

theorem precedes_send (connection : Connection) (events : List Event) :
    connection.Precedes (connection.send events) :=
  ⟨Nat.le_refl _, fun _ _ spare => spare⟩

theorem continues_send (subscribed : connection.subscribed) (bounded : connection.Bounded)
    (events : List Event) : connection.Continues (connection.send events) events :=
  ⟨rfl, subscribed, bounded, fun _ _ found _ => found⟩

section TakeHandle

variable (few : connection.handles + 1 < UInt32.size)

include few

theorem toNat_takeHandle : connection.takeHandle.1.toNat = connection.handles + 1 :=
  UInt32.toNat_ofNat_of_lt few

/-- While handles are not used up, the next one is none that has been given out. -/
theorem ne_takeHandle {proxy : ProxyId} (given : proxy.toNat ≤ connection.handles) :
    proxy ≠ connection.takeHandle.1 := by
  rintro rfl
  rw [toNat_takeHandle few] at given
  exact Nat.not_succ_le_self _ given

variable {bound : Proxy} (handles : later.handles = connection.handles + 1)
  (proxies : later.proxies = connection.proxies.insert connection.takeHandle.1 bound)

include handles proxies

theorem Bounded.takeHandle (bounded : connection.Bounded) : later.Bounded := by
  intro proxy present found
  rw [proxies, Table.get?_insert] at found
  rw [handles]
  split at found
  case isTrue same => exact Nat.le_of_eq (same ▸ toNat_takeHandle few)
  case isFalse => exact Nat.le_succ_of_le (bounded proxy present found)

theorem Spare.takeHandle {link : ProxyId} (spare : connection.Spare link) : later.Spare link := by
  refine ⟨handles ▸ Nat.le_succ_of_le spare.1, fun present found => spare.2 present ?_⟩
  rwa [proxies, Table.get?_insert, if_neg (ne_takeHandle few spare.1)] at found

end TakeHandle

end Connection

namespace Server

/--
What waits for a connection about a port, since it was announced, is what the port is like, and the
connection will be told when that changes.
-/
def Truthful (server : Server) (connection : Connection) : Prop :=
  ∀ id object record, server.objects.get? id = some object → object.kind = .port →
    Event.expectAll id none connection.inbox = some record →
      connection.Listens id ∧ record = Port.ofProperties id object.props

/-- What a connection is sent says how the objects have changed. -/
structure Hears (before after : Server) (connection later : Connection) (news : List Event) :
    Prop extends connection.Continues later news where
  announced : Event.announceAll? before.kinds news = some after.kinds
  informed : ∀ id, connection.Listens id → Event.Untouched id news →
    after.properties? id = (Event.lastInfo? id news).or (before.properties? id)
  truthful : before.Truthful connection → after.Truthful later

/-- The server has changed in ways that a connection hears of but has no part in. -/
structure Passes (id : ConnectionId) (before after : Server) : Prop where
  last : before.lastConnection ≤ after.lastConnection
  lasts : ∀ later, after.connections.get? id = some later →
    ∃ connection, before.connections.get? id = some connection ∧ connection.Precedes later ∧
      (later.handles < UInt32.size → connection.subscribed → connection.Bounded →
        ∃ news, Hears before after connection later news)

variable {id : ConnectionId} {before middle after server : Server}

theorem Hears.trans {connection between later : Connection} {first second : List Event}
    (start : Hears before middle connection between first)
    (rest : Hears middle after between later second) :
    Hears before after connection later (first ++ second) where
  toContinues := start.toContinues.trans rest.toContinues
  announced := by
    rw [Event.announceAll?_append, start.announced, Option.bind_some, rest.announced]
  informed object listens untouched := by
    rcases Event.untouched_append.1 untouched with ⟨firstUntouched, secondUntouched⟩
    rw [rest.informed object (start.listens listens) secondUntouched,
      start.informed object listens firstUntouched, Event.lastInfo?_append, Option.or_assoc]
  truthful early := rest.truthful (start.truthful early)

/-- The properties of which a connection is told are present ones, of objects it listens to. -/
theorem Hears.of_told {connection later : Connection} {news : List Event}
    (continues : connection.Continues later news)
    (announced : Event.announceAll? before.kinds news = some after.kinds)
    (informed : ∀ object, connection.Listens object → Event.Untouched object news →
      after.properties? object = (Event.lastInfo? object news).or (before.properties? object))
    (told : ∀ object props, Event.lastInfo? object news = some props →
      connection.Listens object ∧ after.properties? object = some props) :
    Hears before after connection later news := by
  refine ⟨continues, announced, informed, fun truthful object present record found isPort => ?_⟩
  rw [continues.inbox, Event.expectAll_append]
  intro expected
  rcases Event.expectAll_cases expected with ⟨-, props, last, rfl⟩ | ⟨early, untouched, untold⟩
  · rcases told object props last with ⟨listens, isProps⟩
    rw [properties?, found, Option.map_some, Option.some.injEq] at isProps
    exact ⟨continues.listens listens, by rw [isProps]⟩
  · have kind := Event.get?_of_announceAll? announced untouched
    rw [get?_kinds, get?_kinds, kind?, kind?, found, Option.map_some] at kind
    rcases Option.map_eq_some_iff.1 kind.symm with ⟨former, wasFound, sameKind⟩
    rcases truthful object former record wasFound (sameKind.trans isPort) early with
      ⟨listens, rfl⟩
    have isProps := informed object listens untouched
    rw [untold, Option.none_or, properties?, properties?, found, wasFound, Option.map_some,
      Option.map_some, Option.some.injEq] at isProps
    exact ⟨continues.listens listens, by rw [isProps]⟩

theorem Passes.trans (start : Passes id before middle) (rest : Passes id middle after) :
    Passes id before after where
  last := Nat.le_trans start.last rest.last
  lasts later present := by
    rcases rest.lasts later present with ⟨between, betweenPresent, secondPrecedes, second⟩
    rcases start.lasts between betweenPresent with ⟨connection, found, firstPrecedes, first⟩
    refine ⟨connection, found, firstPrecedes.trans secondPrecedes, ?_⟩
    intro few subscribed bounded
    have fewBefore := Nat.lt_of_le_of_lt secondPrecedes.handles few
    rcases first fewBefore subscribed bounded with ⟨early, earlyHeard⟩
    rcases second few earlyHeard.subscribed earlyHeard.bounded with ⟨late, lateHeard⟩
    exact ⟨early ++ late, earlyHeard.trans lateHeard⟩

/-! ## Changes that leave the objects as they are -/

/-- A connection that adapts to something without a change of the objects hears nothing about it. -/
theorem passes_of_adapted (objects : after.objects = before.objects)
    (last : before.lastConnection ≤ after.lastConnection)
    (adapted : ∀ later, after.connections.get? id = some later →
      ∃ connection, before.connections.get? id = some connection ∧ connection.Precedes later ∧
        (later.handles < UInt32.size → connection.subscribed → connection.Bounded →
          ∃ news, connection.Continues later news ∧
            ∀ event ∈ news, ∃ number, event = .done number)) :
    Passes id before after where
  last := last
  lasts later present := by
    rcases adapted later present with ⟨connection, found, precedes, continues⟩
    refine ⟨connection, found, precedes, ?_⟩
    intro few subscribed bounded
    rcases continues few subscribed bounded with ⟨news, continues, acknowledgements⟩
    have untold : ∀ object, Event.lastInfo? object news = none := by
      refine fun object => Event.lastInfo?_of_silent fun event member => ?_
      rcases acknowledgements event member with ⟨number, rfl⟩
      rfl
    refine ⟨news, .of_told continues ?_ ?_ ?_⟩
    · rw [kinds_eq_of_objects objects]
      refine Event.announceAll?_of_silent fun event member known => ?_
      rcases acknowledgements event member with ⟨number, rfl⟩
      rfl
    · intro object _ _
      rw [untold, Option.none_or, properties?, properties?, objects]
    · simp [untold]

theorem passes_of_same (objects : after.objects = before.objects)
    (last : before.lastConnection ≤ after.lastConnection)
    (connections : after.connections.get? id = before.connections.get? id) :
    Passes id before after := by
  apply passes_of_adapted objects last
  intro later present
  rw [connections] at present
  refine ⟨later, present, .refl later, ?_⟩
  intro _ subscribed bounded
  exact ⟨[], ⟨by simp, subscribed, bounded, fun _ _ found _ => found⟩, by simp⟩

theorem Passes.refl (id : ConnectionId) (server : Server) : Passes id server server :=
  passes_of_same rfl (Nat.le_refl _) rfl

/-! ## Changes of the objects -/

/-- Every subscriber is sent the same events, and they fit the change of the objects. -/
structure Broadcasts (news : List Event) (before after : Server) : Prop where
  last : before.lastConnection ≤ after.lastConnection
  sent : ∀ id, after.connections.get? id = (before.connections.get? id).map fun connection =>
    if connection.subscribed then connection.send news else connection
  announced : Event.announceAll? before.kinds news = some after.kinds
  untold : ∀ object, Event.lastInfo? object news = none
  kept : ∀ object, Event.Untouched object news →
    after.objects.get? object = before.objects.get? object

/-- Broadcasts that fit a change of the objects are what every subscriber hears of it. -/
theorem Broadcasts.passes {news : List Event} (broadcasts : Broadcasts news before after) :
    Passes id before after where
  last := broadcasts.last
  lasts later present := by
    rw [broadcasts.sent] at present
    rcases Option.map_eq_some_iff.1 present with ⟨connection, found, rfl⟩
    refine ⟨connection, found, ?_, ?_⟩
    · split
      · exact connection.precedes_send news
      · exact .refl connection
    · intro _ subscribed bounded
      simp only [subscribed, if_true]
      refine ⟨news, .of_told (Connection.continues_send subscribed bounded news)
        broadcasts.announced ?_ ?_⟩
      · intro object _ untouched
        rw [broadcasts.untold, Option.none_or, properties?, properties?,
          broadcasts.kept object untouched]
      · simp [broadcasts.untold]

theorem broadcasts_removeObject {object : ObjectId} (present : server.objects.contains object) :
    Broadcasts [.removed object] server (server.removeObject object) where
  last := by
    simp only [removeObject, present, if_true]
    exact Nat.le_refl _
  sent id := by simp [removeObject, present, broadcast]
  announced := by
    have known : server.kinds.get? object ≠ none := by
      simpa [kind?, Table.contains, Option.isSome_iff_ne_none] using present
    simp only [Event.announceAll?_cons, Event.announce?, known, if_false, Option.bind_some,
      Event.announceAll?_nil, Option.some.injEq]
    apply Table.ext_get?
    intro other
    rw [Table.get?_erase, get?_kinds, get?_kinds, kind?, kind?, get?_removeObject]
    by_cases same : other = object <;> simp [same]
  untold other := by simp [Event.lastInfo?, Event.info?]
  kept other untouched := by
    have apart : ¬other = object := by
      simpa [Event.isAbout, eq_comm] using untouched
    rw [get?_removeObject, if_neg apart]

theorem removeObject_of_absent {object : ObjectId}
    (absent : server.objects.contains object = false) : server.removeObject object = server := by
  simp [removeObject, absent]

theorem passes_removeObject (server : Server) (object : ObjectId) :
    Passes id server (server.removeObject object) := by
  cases present : server.objects.contains object with
  | true => exact (broadcasts_removeObject present).passes
  | false =>
      rw [removeObject_of_absent present]
      exact .refl id server

/-- Putting an object in the place of another is taking the other one away first. -/
theorem insertObject_of_contains {object : ObjectId} (present : server.objects.contains object)
    (added : Object) :
    server.insertObject object added = (server.removeObject object).insertObject object added := by
  have objects := Table.insert_of_erased server.objects object added
  have absent : (server.objects.erase object).contains object = false := by
    simp [Table.contains]
  simp only [insertObject, removeObject, present, if_true]
  simp only [broadcast, absent, objects]
  rfl

theorem insertObject_of_absent {object : ObjectId}
    (absent : server.objects.contains object = false) (added : Object) :
    server.insertObject object added =
      ({ server with
        objects := server.objects.insert object added
        nextId := if server.nextId ≤ object then successor object else server.nextId } :
        Server).broadcast (.global object added.kind) := by
  simp only [insertObject, absent, Bool.false_eq_true, if_false]
  split <;> rfl

theorem broadcasts_insertObject {object : ObjectId}
    (absent : server.objects.contains object = false) (added : Object) :
    Broadcasts [.global object added.kind] server (server.insertObject object added) where
  last := by
    rw [insertObject_of_absent absent]
    exact Nat.le_refl _
  sent id := by
    rw [insertObject_of_absent absent]
    simp [broadcast]
  announced := by
    have unknown : server.kinds.get? object = none := by
      simpa [kind?, Table.contains] using absent
    simp only [Event.announceAll?_cons, Event.announce?, unknown, if_true, Option.bind_some,
      Event.announceAll?_nil, Option.some.injEq]
    apply Table.ext_get?
    intro other
    rw [Table.get?_insert, get?_kinds, get?_kinds, kind?, kind?, get?_insertObject]
    split <;> rfl
  untold other := by simp [Event.lastInfo?, Event.info?]
  kept other untouched := by
    have apart : ¬other = object := by
      simpa [Event.isAbout, eq_comm] using untouched
    rw [get?_insertObject, if_neg apart]

theorem passes_insertObject (server : Server) (object : ObjectId) (added : Object) :
    Passes id server (server.insertObject object added) := by
  cases present : server.objects.contains object with
  | true =>
      rw [insertObject_of_contains present]
      refine (passes_removeObject server object).trans (broadcasts_insertObject ?_ added).passes
      simp [Table.contains]
  | false => exact (broadcasts_insertObject present added).passes

theorem kinds_rewrite {object : ObjectId} {former : Object}
    (present : server.objects.get? object = some former) (props : Properties) :
    (({ server with objects := server.objects.insert object { former with props } } :
      Server).sendInfo object).kinds = server.kinds := by
  apply Table.ext_get?
  intro other
  rw [get?_kinds, get?_kinds, kind?, kind?, objects_sendInfo, Table.get?_insert]
  by_cases same : other = object <;> simp [same, present]

/-- Rewriting the properties of an object is told to everybody who listens to it. -/
theorem passes_rewrite {object : ObjectId} {former : Object}
    (present : server.objects.get? object = some former) (props : Properties) :
    Passes id server
      (({ server with objects := server.objects.insert object { former with props } } :
        Server).sendInfo object) where
  last := by
    simp only [sendInfo]
    split <;> exact Nat.le_refl _
  lasts later isLater := by
    simp only [sendInfo, Table.get?_insert, if_true, Table.get?_mapValues] at isLater
    rcases Option.map_eq_some_iff.1 isLater with ⟨connection, found, rfl⟩
    refine ⟨connection, found, connection.precedes_send _, ?_⟩
    intro _ subscribed bounded
    refine ⟨_, .of_told (Connection.continues_send subscribed bounded _) ?_ ?_ ?_⟩
    · rw [kinds_rewrite present props]
      refine Event.announceAll?_of_silent fun event member known => ?_
      rw [List.eq_of_mem_replicate member]
      rfl
    · intro other listens _
      rw [properties?, properties?, objects_sendInfo, Table.get?_insert, Event.lastInfo?_replicate]
      by_cases same : other = object
      · subst same
        simp [(connection.listeners_pos_iff other).2 listens]
      · simp [same, Ne.symm same]
    · intro other told last
      simp only [Event.lastInfo?_replicate, Option.ite_none_right_eq_some, Option.some.injEq]
        at last
      rcases last with ⟨⟨rfl, listens⟩, rfl⟩
      exact ⟨(connection.listeners_pos_iff object).1 listens, by simp [properties?]⟩

/-! ## All operations -/

/-- Which nodes a connection offers, under which handles, has nothing to do with what it hears. -/
theorem passes_of_keeps (keeps : Keeps before after) : Passes id before after := by
  apply passes_of_adapted keeps.objects keeps.last
  intro later present
  rcases keeps.nodes id later present with ⟨connection, found, more, same⟩
  rw [same]
  refine ⟨connection, found, ⟨more, ?_⟩, ?_⟩
  · rintro _ proxy ⟨given, quiet⟩
    exact ⟨Nat.le_trans given more, quiet⟩
  · intro _ subscribed bounded
    refine ⟨[], ⟨by simp, subscribed, ?_, fun _ _ found _ => found⟩, by simp⟩
    intro proxy bound present
    exact Nat.le_trans (bounded proxy bound present) more

theorem carries_passes (id : ConnectionId) : Carries (Passes id) where
  trans := Passes.trans
  keeps := passes_of_keeps
  insertObject object _ := passes_insertObject _ object _
  removeObject := passes_removeObject
  rewrite props present := passes_rewrite present props

end Server

end MediaGraph
