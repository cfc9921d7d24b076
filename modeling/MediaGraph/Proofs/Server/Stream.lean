import MediaGraph.Server.Backend
import MediaGraph.Proofs.Server.Requests

/-!
# The stream of announcements

From the moment a connection subscribes, the events that are addressed to it account for the objects
of the server: whoever notes what appears and disappears, in order, holds exactly the objects that
there are. No object appears that is noted already, and none disappears that is not.

`announcements_account` says so of every run of a server that starts without objects, whatever is
done to the server from the outside and whatever all connections ask for in between. The events
count that were handed over and those that still wait.

`Told` is what carries the proof from step to step. Unlike `Passes` it has no regard to handles, so
it holds of runs of any length, and it holds across the connection's own requests as well, as long
as the connection does not subscribe again or unsubscribe.
-/

namespace MediaGraph

namespace Event

/-- Notes an event in the objects that are held, whether or not it fits them. -/
def note (held : Table ObjectId ObjectKind) : Event → Table ObjectId ObjectKind
  | global id kind => held.insert id kind
  | removed id => held.erase id
  | info .. | done _ => held

/-- The objects that one holds who starts with none and notes events in order. -/
def noteAll (events : List Event) : Table ObjectId ObjectKind := events.foldl note .empty

/-- The events lead to the objects, and each fits what those before it have led to. -/
structure Accounts (events : List Event) (kinds : Table ObjectId ObjectKind) : Prop where
  noted : noteAll events = kinds
  appears : ∀ early id kind late, events = early ++ global id kind :: late →
    (noteAll early).get? id = none
  disappears : ∀ early id late, events = early ++ removed id :: late →
    (noteAll early).get? id ≠ none

theorem note_of_announce? {known after : Table ObjectId ObjectKind} {event : Event}
    (fits : announce? known event = some after) : note known event = after := by
  cases event with
  | global id kind =>
      simp only [announce?, Option.ite_none_right_eq_some, Option.some.injEq] at fits
      exact fits.2
  | removed id =>
      simp only [announce?, Option.ite_none_left_eq_some, Option.some.injEq] at fits
      exact fits.2
  | info | done => exact Option.some.inj fits

theorem foldl_note_of_announceAll? {known after : Table ObjectId ObjectKind} {events : List Event}
    (fits : announceAll? known events = some after) : events.foldl note known = after := by
  induction events generalizing known with
  | nil => exact Option.some.inj fits
  | cons event rest ih =>
      rw [announceAll?_cons] at fits
      rcases Option.bind_eq_some_iff.1 fits with ⟨next, first, remaining⟩
      rw [List.foldl_cons, note_of_announce? first]
      exact ih remaining

/-- At any point the event that comes next fits what has been noted. -/
theorem announce?_noteAll {kinds : Table ObjectId ObjectKind} {early late : List Event}
    {event : Event} (fits : announceAll? .empty (early ++ event :: late) = some kinds) :
    (announce? (noteAll early) event).isSome := by
  rw [announceAll?_append] at fits
  rcases Option.bind_eq_some_iff.1 fits with ⟨known, first, remaining⟩
  rw [announceAll?_cons] at remaining
  rcases Option.bind_eq_some_iff.1 remaining with ⟨next, second, -⟩
  rw [noteAll, foldl_note_of_announceAll? first, second]
  rfl

theorem accounts_of_announceAll? {kinds : Table ObjectId ObjectKind} {events : List Event}
    (fits : announceAll? .empty events = some kinds) : Accounts events kinds where
  noted := foldl_note_of_announceAll? fits
  appears early id kind late split := by
    rw [split] at fits
    have next := announce?_noteAll fits
    simp only [announce?] at next
    split at next
    case isTrue unknown => exact unknown
    case isFalse => cases next
  disappears early id late split := by
    rw [split] at fits
    have next := announce?_noteAll fits
    simp only [announce?] at next
    split at next
    case isTrue => cases next
    case isFalse known => exact known

end Event

namespace Server

/-! ## Runs -/

/-- What can happen to a server, at the hands of anybody. -/
inductive Step where
  | setUp
  | takeDown
  | inject (injection : Injection)
  | connect (config : Config)
  | ask (id : ConnectionId) (request : Request)

def perform (server : Server) : Step → Server
  | .setUp => (backend.init server).2
  | .takeDown => backend.deinit server
  | .inject injection => server.inject injection
  | .connect config => (connect config server).2
  | .ask id request => (answer id request server).2

def run (server : Server) (steps : List Step) : Server := steps.foldl perform server

/-- The events that a step hands over to a connection. -/
def handedOver (id : ConnectionId) (server : Server) : Step → List Event
  | .ask other (.drive timeout) =>
    if other = id then ((answer id (.drive timeout) server).1.toOption).getD [] else []
  | _ => []

def delivered (id : ConnectionId) (server : Server) : List Step → List Event
  | [] => []
  | step :: rest => server.handedOver id step ++ delivered id (server.perform step) rest

def queued (id : ConnectionId) (server : Server) : List Event :=
  ((server.connections.get? id).map (·.inbox)).getD []

/-- The events that were addressed to a connection in a run: those it was handed, then the queue. -/
def stream (id : ConnectionId) (server : Server) (steps : List Step) : List Event :=
  server.delivered id steps ++ (server.run steps).queued id

/-- A connection's subscription is left as it is. -/
def Step.Settled (id : ConnectionId) (step : Step) : Prop :=
  step ≠ .ask id .subscribeGlobals ∧ step ≠ .ask id .unsubscribeGlobals

theorem run_append (server : Server) (first second : List Step) :
    server.run (first ++ second) = (server.run first).run second := List.foldl_append

theorem delivered_append (id : ConnectionId) (server : Server) (first second : List Step) :
    server.delivered id (first ++ second) =
      server.delivered id first ++ (server.run first).delivered id second := by
  induction first generalizing server with
  | nil => rfl
  | cons step rest ih =>
      rw [List.cons_append, delivered, delivered, ih, List.append_assoc]
      rfl

/-- Every connection has a number that has been given out. -/
def Numbered (server : Server) : Prop :=
  ∀ id connection, server.connections.get? id = some connection → id ≤ server.lastConnection

variable {id : ConnectionId} {before middle after server : Server}

theorem Numbered.of_lasts (numbered : before.Numbered)
    (last : before.lastConnection ≤ after.lastConnection) (lasts : ∀ id, Lasts id before after) :
    after.Numbered := by
  intro id later present
  rcases lasts id later present with ⟨connection, found, -⟩
  exact Nat.le_trans (numbered id connection found) last

theorem Numbered.perform (numbered : server.Numbered) (step : Step) :
    (server.perform step).Numbered := by
  cases step with
  | setUp => exact numbered
  | takeDown => exact numbered
  | inject injection =>
      have passes : ∀ id, Passes id server (server.inject injection) := fun id =>
        (carries_passes id).inject server injection
      exact numbered.of_lasts (passes 0).last fun id => (passes id).toLasts
  | connect config =>
      simp only [Server.perform, connect]
      split
      · exact numbered
      · intro id connection found
        simp only [setConnection, Table.get?_insert] at found
        split at found
        case isTrue isNew => exact Nat.le_of_eq isNew
        case isFalse => exact Nat.le_succ_of_le (numbered id connection found)
  | ask id request =>
      have affects := affects_answer server id request
      apply numbered.of_lasts affects.last
      intro other
      by_cases own : other = id
      · rw [own]
        exact affects.lasts
      · exact (affects.others other own).toLasts

theorem Numbered.run (numbered : server.Numbered) (steps : List Step) :
    (server.run steps).Numbered := by
  induction steps generalizing server with
  | nil => exact numbered
  | cons step rest ih => exact ih (numbered.perform step)

/-! ## What a subscriber is told -/

/-- A subscriber that is still there stays one; what it was handed and what waits announces all. -/
structure Told (id : ConnectionId) (handed : List Event) (before after : Server) : Prop where
  last : before.lastConnection ≤ after.lastConnection
  news : ∀ later, after.connections.get? id = some later →
    ∃ connection, before.connections.get? id = some connection ∧
      (connection.subscribed → later.subscribed ∧
        ∃ news, handed ++ later.inbox = connection.inbox ++ news ∧
          Event.announceAll? before.kinds news = some after.kinds)

theorem Told.trans {first second : List Event} (start : Told id first before middle)
    (rest : Told id second middle after) : Told id (first ++ second) before after where
  last := Nat.le_trans start.last rest.last
  news later present := by
    rcases rest.news later present with ⟨between, betweenPresent, lateTold⟩
    rcases start.news between betweenPresent with ⟨connection, found, earlyTold⟩
    refine ⟨connection, found, fun subscribed => ?_⟩
    rcases earlyTold subscribed with ⟨stillSubscribed, early, earlyInbox, earlyAnnounced⟩
    rcases lateTold stillSubscribed with ⟨atLast, late, lateInbox, lateAnnounced⟩
    refine ⟨atLast, early ++ late, ?_, ?_⟩
    · rw [List.append_assoc, lateInbox, ← List.append_assoc, earlyInbox, List.append_assoc]
    · rw [Event.announceAll?_append, earlyAnnounced, Option.bind_some, lateAnnounced]

/-- Events that announce nothing may be sent while the objects stay as they are. -/
theorem told_of_silent (news : List Event)
    (silent : ∀ event ∈ news, ∀ known, Event.announce? known event = some known)
    (kinds : after.kinds = before.kinds) (last : before.lastConnection ≤ after.lastConnection)
    (sent : ∀ later, after.connections.get? id = some later →
      ∃ connection, before.connections.get? id = some connection ∧
        (connection.subscribed → later.subscribed) ∧
        ∃ part, later.inbox = connection.inbox ++ part ∧ ∀ event ∈ part, event ∈ news) :
    Told id [] before after where
  last := last
  news later present := by
    rcases sent later present with ⟨connection, found, subscribed, part, inbox, isPart⟩
    refine ⟨connection, found, fun wasSubscribed => ⟨subscribed wasSubscribed, part, inbox, ?_⟩⟩
    rw [kinds]
    apply Event.announceAll?_of_silent
    exact fun event member => silent event (isPart event member)

theorem told_of_keeps (keeps : Keeps before after) : Told id [] before after := by
  apply told_of_silent [] (by simp) (kinds_eq_of_objects keeps.objects) keeps.last
  intro later present
  rcases keeps.nodes id later present with ⟨connection, found, -, same⟩
  rw [same]
  exact ⟨connection, found, fun subscribed => subscribed, [], by simp, by simp⟩

theorem Broadcasts.told {news : List Event} (broadcasts : Broadcasts news before after) :
    Told id [] before after where
  last := broadcasts.last
  news later present := by
    rw [broadcasts.sent] at present
    rcases Option.map_eq_some_iff.1 present with ⟨connection, found, rfl⟩
    refine ⟨connection, found, fun subscribed => ?_⟩
    simp only [subscribed, if_true]
    exact ⟨subscribed, news, rfl, broadcasts.announced⟩

theorem told_removeObject (server : Server) (object : ObjectId) :
    Told id [] server (server.removeObject object) := by
  cases present : server.objects.contains object with
  | true => exact (broadcasts_removeObject present).told
  | false =>
      rw [removeObject_of_absent present]
      exact told_of_keeps (.refl server)

theorem told_insertObject (server : Server) (object : ObjectId) (added : Object) :
    Told id [] server (server.insertObject object added) := by
  cases present : server.objects.contains object with
  | true =>
      rw [insertObject_of_contains present]
      refine (told_removeObject server object).trans (broadcasts_insertObject ?_ added).told
      simp [Table.contains]
  | false => exact (broadcasts_insertObject present added).told

theorem told_rewrite {object : ObjectId} {former : Object} (props : Properties)
    (present : server.objects.get? object = some former) :
    Told id [] server
      (({ server with objects := server.objects.insert object { former with props } } :
        Server).sendInfo object) := by
  refine told_of_silent [.info object props] (by simp [Event.announce?])
    (kinds_rewrite present props) ?_ fun later isLater => ?_
  · simp only [sendInfo]
    split <;> exact Nat.le_refl _
  · simp only [sendInfo, Table.get?_insert, if_true, Table.get?_mapValues] at isLater
    rcases Option.map_eq_some_iff.1 isLater with ⟨connection, found, rfl⟩
    refine ⟨connection, found, fun subscribed => subscribed, _, rfl, ?_⟩
    intro event member
    rw [List.eq_of_mem_replicate member]
    exact List.mem_singleton_self _

theorem carries_told (id : ConnectionId) : Carries (Told id []) where
  trans := Told.trans
  keeps := told_of_keeps
  insertObject object _ := told_insertObject _ object _
  removeObject := told_removeObject
  rewrite := told_rewrite

/-! ## Requests -/

theorem told_of_apart {other : ConnectionId} (apart : id ≠ other) (server : Server)
    (connection : Connection) : Told id [] server (server.setConnection other connection) := by
  refine told_of_silent [] (by simp) rfl (Nat.le_refl _) fun later present => ?_
  simp only [setConnection, Table.get?_insert, apart, if_false] at present
  exact ⟨later, present, fun subscribed => subscribed, [], by simp, by simp⟩

/-- A connection that stays subscribed may be sent something that announces nothing. -/
theorem told_setConnection {other : ConnectionId} {connection later : Connection}
    (connected : server.connections.get? other = some connection)
    (subscribed : later.subscribed = connection.subscribed) (news : List Event)
    (inbox : later.inbox = connection.inbox ++ news)
    (silent : ∀ event ∈ news, ∀ known, Event.announce? known event = some known) :
    Told id [] server (server.setConnection other later) := by
  by_cases own : id = other
  · subst own
    refine told_of_silent news silent rfl (Nat.le_refl _) fun present isLater => ?_
    simp only [setConnection, Table.get?_insert, if_true, Option.some.injEq] at isLater
    subst isLater
    refine ⟨connection, connected, ?_, news, inbox, fun event member => member⟩
    exact fun wasSubscribed => subscribed.trans wasSubscribed
  · exact told_of_apart own server later

theorem told_destroyProxy (server : Server) (other : ConnectionId) (proxy : ProxyId) :
    Told id [] server (server.destroyProxy other proxy) := by
  simp only [destroyProxy]
  split
  case h_1 => exact (carries_told id).refl server
  case h_2 connection connected =>
    split
    case h_1 => exact (carries_told id).refl server
    case h_2 bound found =>
      have returned : Told id [] server (server.setConnection other
          { connection with proxies := connection.proxies.erase proxy }) :=
        told_setConnection connected rfl [] (by simp) (by simp)
      split
      · exact returned.trans (told_removeObject _ _)
      · exact returned

theorem told_createLink {other : ConnectionId}
    (connected : (server.connections.get? other).isSome) (props : Properties) :
    Told id [] server (server.createLink other props).2 := by
  simp only [createLink]
  split
  · have created : Told id [] server
        (server.createObject { kind := .link, props, owner := some other }).2 :=
      (carries_told id).createObject server (hosts_of_connected connected)
    split
    case h_1 => exact created
    case h_2 connection connected =>
      exact created.trans (told_setConnection connected rfl [] (by simp [Connection.takeHandle])
        (by simp))
  · exact (carries_told id).refl server

theorem told_sync (server : Server) (other : ConnectionId) (sequence : UInt32) :
    Told id [] server (server.sync other sequence).2 := by
  simp only [sync]
  split
  case h_1 => exact (carries_told id).refl server
  case h_2 connection connected =>
    have acknowledged : Told id [] server
        (server.setConnection other (connection.send [.done sequence])) :=
      told_setConnection connected rfl [.done sequence] rfl (by simp [Event.announce?])
    apply acknowledged.trans
    exact told_of_keeps (.of_connections rfl (Nat.le_refl _) fun _ _ present => present)

/-- A connection that fetches what waits for it has nothing waiting afterwards. -/
theorem told_drive (server : Server) (other : ConnectionId) (timeout : Nat) :
    Told id (server.handedOver id (.ask other (.drive timeout))) server (server.drive other).2 := by
  by_cases own : other = id
  · subst own
    simp only [handedOver, if_true, answer, drive]
    split
    case h_1 connection connected =>
      refine ⟨Nat.le_refl _, fun later present => ⟨connection, connected, fun subscribed => ?_⟩⟩
      simp only [setConnection, Table.get?_insert, if_true, Option.some.injEq] at present
      subst present
      exact ⟨subscribed, [], rfl, rfl⟩
    case h_2 gone _ =>
      refine ⟨Nat.le_refl _, fun later present => ?_⟩
      rw [show server.connections.get? other = some later from present] at gone
      cases gone
    case h_3 => exact (carries_told other).refl server
  · simp only [handedOver, own, if_false, drive]
    split
    case h_1 => exact told_of_apart (Ne.symm own) server _
    case h_2 => exact told_of_keeps (.of_connections rfl (Nat.le_refl _) fun _ _ present => present)
    case h_3 => exact (carries_told id).refl server

theorem told_answer (server : Server) (other : ConnectionId) (request : Request)
    (settled : (Step.ask other request).Settled id) :
    Told id (server.handedOver id (.ask other request)) server (answer other request server).2 := by
  cases request with
  | subscribeGlobals =>
      have apart : id ≠ other := by
        rintro rfl
        exact settled.1 rfl
      simp only [answer, subscribeGlobals]
      split
      · exact (carries_told id).refl server
      · exact told_of_apart apart server _
  | unsubscribeGlobals =>
      have apart : id ≠ other := by
        rintro rfl
        exact settled.2 rfl
      simp only [answer, unsubscribeGlobals]
      split
      · exact (carries_told id).refl server
      · exact told_of_apart apart server _
  | bindObject object kind =>
      simp only [answer, bindObject]
      split
      case h_1 connection found connected present =>
        split
        · exact told_setConnection connected rfl [] (by simp [Connection.takeHandle]) (by simp)
        · exact (carries_told id).refl server
      case h_2 => exact (carries_told id).refl server
  | subscribeInfo proxy =>
      simp only [answer, subscribeInfo]
      split
      case h_1 => exact (carries_told id).refl server
      case h_2 connection connected =>
        split
        · exact (carries_told id).refl server
        · split
          · exact (carries_told id).refl server
          · split
            · exact told_setConnection connected rfl _ rfl (by simp [Event.announce?])
            · exact (carries_told id).refl server
  | destroyProxy proxy => exact told_destroyProxy server other proxy
  | sync sequence => exact told_sync server other sequence
  | createObject factory kind props =>
      simp only [answer, createByFactory]
      split
      case isTrue guard => exact told_createLink guard.2.2 props
      case isFalse => exact (carries_told id).refl server
  | createNode props => exact (carries_told id).createNode server other props
  | addPort node direction props =>
      exact (carries_told id).addPort server other node direction props
  | updatePort node port props => exact (carries_told id).updatePort server other node port props
  | removePort node port => exact (carries_told id).removePort server other node port
  | activateNode node => exact (carries_told id).activateNode server other node
  | destroyNode node => exact (carries_told id).destroyNode server other node
  | drive timeout => exact told_drive server other timeout
  | disconnect => exact (carries_told id).disconnect server other

/-! ## Steps and runs -/

theorem told_perform {step : Step} (settled : step.Settled id)
    (issued : id ≤ server.lastConnection) :
    Told id (server.handedOver id step) server (server.perform step) := by
  cases step with
  | setUp => exact told_of_keeps (.of_connections rfl (Nat.le_refl _) fun _ _ present => present)
  | takeDown => exact told_of_keeps (.of_connections rfl (Nat.le_refl _) fun _ _ present => present)
  | inject injection => exact (carries_told id).inject server injection
  | connect config =>
      simp only [perform, connect]
      split
      · exact (carries_told id).refl server
      · have apart : id ≠ server.lastConnection + 1 := Nat.ne_of_lt (Nat.lt_succ_of_le issued)
        apply (told_of_apart apart server _).trans
        exact told_of_keeps (.of_connections rfl (Nat.le_succ _) fun _ _ present => present)
  | ask other request => exact told_answer server other request settled

theorem told_run {steps : List Step} (settled : ∀ step ∈ steps, step.Settled id)
    (issued : id ≤ server.lastConnection) :
    Told id (server.delivered id steps) server (server.run steps) := by
  induction steps generalizing server with
  | nil => exact (carries_told id).refl server
  | cons step rest ih =>
      have first := told_perform (settled step List.mem_cons_self) issued
      apply first.trans
      apply ih fun other member => settled other (List.mem_cons_of_mem _ member)
      exact Nat.le_trans issued first.last

/-- Subscribing announces every object that there is. -/
theorem subscribe_spec
    (granted : (answer id .subscribeGlobals server).1 = .ok ()) :
    ∃ connection, server.connections.get? id = some connection ∧
      ∃ present, Event.announceAll? .empty present = some server.kinds ∧
        (answer id .subscribeGlobals server).2 =
          server.setConnection id ({ connection with subscribed := true }.send present) := by
  simp only [answer, subscribeGlobals] at granted ⊢
  split at granted
  case h_1 => cases granted
  case h_2 connection connected =>
    refine ⟨connection, connected, _, ?_, rfl⟩
    have entries := Event.announceAll?_entries server.kinds
    simpa [kinds, Function.comp_def] using entries

/-- What is addressed to a subscriber since it subscribed accounts for the objects of the server. -/
theorem announcements_account (id : ConnectionId) (before after : List Step)
    (granted : (answer id .subscribeGlobals (run {} before)).1 = .ok ())
    (settled : ∀ step ∈ after, step.Settled id)
    (connected :
      ((run {} (before ++ .ask id .subscribeGlobals :: after)).connections.get? id).isSome) :
    ∃ news,
      stream id {} (before ++ .ask id .subscribeGlobals :: after) = stream id {} before ++ news ∧
        Event.Accounts news (run {} (before ++ .ask id .subscribeGlobals :: after)).kinds := by
  have numbered : (run {} before).Numbered :=
    Numbered.run (fun _ _ found => by cases found) before
  generalize started : run {} before = server at granted numbered
  rcases subscribe_spec granted with ⟨connection, found, present, announced, subscribed⟩
  have issued : id ≤ (answer id .subscribeGlobals server).2.lastConnection :=
    Nat.le_trans (numbered id connection found) (affects_answer server id _).last
  have told := told_run settled issued
  rcases Option.isSome_iff_exists.1 connected with ⟨later, isLater⟩
  have ran : run {} (before ++ .ask id .subscribeGlobals :: after) =
      (answer id .subscribeGlobals server).2.run after := by
    rw [run_append, started]
    rfl
  rw [ran] at isLater
  rcases told.news later isLater with ⟨between, isBetween, sinceThen⟩
  rw [subscribed] at isBetween
  simp only [setConnection, Table.get?_insert, if_true, Option.some.injEq] at isBetween
  subst isBetween
  rcases sinceThen rfl with ⟨-, news, inbox, newsAnnounced⟩
  refine ⟨present ++ news, ?_, ?_⟩
  · simp only [stream, ran, delivered_append, started, queued, isLater, found, delivered,
      handedOver, Option.map_some, Option.getD_some, List.nil_append, List.append_assoc]
    rw [show server.perform (.ask id .subscribeGlobals) =
      (answer id .subscribeGlobals server).2 from rfl, inbox]
    simp [Connection.send]
  · apply Event.accounts_of_announceAll?
    rw [ran, Event.announceAll?_append, announced, Option.bind_some, ← newsAnnounced, subscribed]
    rfl

/-- A port is there when two clients connect. -/
def beforehand : List Step :=
  [.inject (.addObject .port .empty), .connect {}, .connect {}]

/-- One client shows a node with a port and leaves; the first port gives its id to a device. -/
def afterwards : List Step :=
  [.ask 2 (.createNode .empty), .ask 2 (.addPort 1 .input .empty), .ask 2 (.activateNode 1),
    .ask 1 (.drive 0), .inject (.addObjectAt 32 .device .empty), .inject (.takeObject 33),
    .ask 2 .disconnect]

theorem announcements_account_afterwards :
    (run {} (beforehand ++ .ask 1 .subscribeGlobals :: afterwards)).kinds.entries =
        [(32, .device)] ∧
      ∃ news,
        stream 1 {} (beforehand ++ .ask 1 .subscribeGlobals :: afterwards) =
            stream 1 {} beforehand ++ news ∧
          Event.Accounts news
            (run {} (beforehand ++ .ask 1 .subscribeGlobals :: afterwards)).kinds :=
  ⟨by decide, announcements_account 1 beforehand afterwards rfl
    (by simp [afterwards, Step.Settled]) rfl⟩

end Server

end MediaGraph
