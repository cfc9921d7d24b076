import MediaGraph.Proofs.Client.Barriers
import MediaGraph.Proofs.Client.Granting
import MediaGraph.Proofs.Client.Recording

/-!
# A barrier takes one turn

The server acknowledges a sync behind everything that is waiting for the connection, and the client
fetches all of it at once. So the batch that a barrier waits for is its first, whatever has been
waiting, and only an event that is malformed can keep the barrier from going through.

While the client applies the batch, the server gets to tell the connection something again: it
answers each binding with the properties of the port. `Subscriber.Tells` follows this from event to
event, so after the batch nothing is waiting but one description of each port that was bound, in
order (`synchronize_one_turn`). It needs that no object goes with the proxies that are given back,
or the server would tell the connection of its removal.
-/

namespace MediaGraph

/-- The event tells the current properties of an object that is a port. -/
def Server.Describes (server : Server) (object : ObjectId) (event : Event) : Prop :=
  ∃ props, server.portProperties? object = some props ∧ event = .info object props

theorem Server.describes_of_objects {server changed : Server}
    (same : changed.objects = server.objects) : changed.Describes = server.Describes := by
  funext object event
  simp only [Describes, portProperties?, same]

namespace Subscriber

variable {id : ConnectionId} {subscriber : Subscriber} {server : Server} {object : ObjectId}

/-- The connection is there, and no object goes with the subscriber's proxies on it. -/
structure Holds (id : ConnectionId) (state : Subscriber × Server) (connection : Connection) :
    Prop where
  connected : state.2.connections.get? id = some connection
  idle : state.1.Idle connection

/-- The connection is told of the bound objects, in order and as they are now, and no more. -/
def Tells (id : ConnectionId) (bound : List ObjectId) (before after : Subscriber × Server) : Prop :=
  ∀ connection, Holds id before connection → ∃ later news, Holds id after later ∧
    after.2.objects = before.2.objects ∧ later.inbox = connection.inbox ++ news ∧
    List.Forall₂ before.2.Describes bound news

theorem Tells.of_listened (id : ConnectionId) (server : Server) {after : Subscriber}
    (listened : after.listened = subscriber.listened) :
    Tells id [] (subscriber, server) (after, server) := by
  rintro connection ⟨connected, idle⟩
  refine ⟨connection, [], ⟨connected, ?_⟩, rfl, by simp, .nil⟩
  intro object proxy bound found
  rw [listened] at found
  exact idle object proxy bound found

theorem Tells.trans {first second : List ObjectId} {before between after : Subscriber × Server}
    (start : Tells id first before between) (rest : Tells id second between after) :
    Tells id (first ++ second) before after := by
  intro connection holds
  rcases start connection holds with ⟨middle, early, stillHolds, same, told, described⟩
  rcases rest middle stillHolds with ⟨later, late, lastHolds, sameStill, toldLate, describedLate⟩
  rw [Server.describes_of_objects same] at describedLate
  refine ⟨later, early ++ late, lastHolds, sameStill.trans same, ?_, ?_⟩
  · rw [toldLate, told, List.append_assoc]
  · exact List.rel_append described describedLate

/-- To give a proxy back tells the connection nothing. -/
theorem tells_release (id : ConnectionId) (object : ObjectId) (subscriber : Subscriber)
    (server : Server) :
    Tells id [] (subscriber, server) (subscriber.release (Server.transport id) object server) := by
  cases listened : subscriber.listened.get? object with
  | none =>
      simp only [release, listened]
      exact .of_listened id server rfl
  | some proxy =>
      rintro connection ⟨connected, idle⟩
      have destroyed := Server.destroyProxy_of_idle connected fun bound =>
        idle object proxy bound listened
      simp only [release, listened, Server.transport, Server.answer, destroyed]
      refine ⟨{ connection with proxies := connection.proxies.erase proxy }, [], ⟨?_, ?_⟩, rfl,
        by simp, .nil⟩
      · simp [Server.setConnection]
      · intro other held bound found present
        simp only [Table.get?_erase, Option.ite_none_left_eq_some] at found present
        exact idle other held bound found.2 present.2

theorem tells_announce (id : ConnectionId) (object : ObjectId) (subscriber : Subscriber)
    (server : Server) :
    Tells id
      ((subscriber.bindAnswer (Server.transport id) object server).toList.map fun _ => object)
      (subscriber, server) (subscriber.announce (Server.transport id) object server) := by
  have released := tells_release id object subscriber server
  have unbound := listened_release (Server.transport id) object subscriber server object
  have answered := listened_announce (Server.transport id) object subscriber server object
  rw [if_pos rfl] at unbound answered
  rw [announce_release] at answered ⊢
  generalize subscriber.release (Server.transport id) object server = result at *
  rcases result with ⟨bare, middle⟩
  rw [← answered, ← List.nil_append (List.map _ _)]
  refine released.trans ?_
  rintro connection ⟨connected, idle⟩
  rcases Tracks.announce_eq connected unbound with ⟨-, announced⟩ |
    ⟨shown, final, last, present, isPort, announced, objects, isLast, rfl⟩
  · rw [announced, unbound]
    exact ⟨connection, [], ⟨connected, idle⟩, rfl, by simp, .nil⟩
  · rw [announced]
    refine ⟨_, [.info object shown.props], ⟨isLast, ?_⟩, objects, rfl, ?_⟩
    · intro other proxy bound found isBound
      simp only [Table.get?_insert] at found isBound
      -- The handle that has been given out may be an old one; what it is for now is new.
      split at isBound
      case isTrue =>
        cases isBound
        rfl
      case isFalse apart =>
        split at found
        case isTrue => exact absurd (Option.some.inj found).symm apart
        case isFalse => exact idle other proxy bound found isBound
    · have described : middle.Describes object (.info object shown.props) :=
        ⟨shown.props, Server.portProperties?_eq_some_iff.2 ⟨shown, present, isPort, rfl⟩, rfl⟩
      simpa using described

/-! ## One event -/

/-- The server answers an event that is applied with what it makes the subscriber bind. -/
theorem tells_handle {event : Event} {after : Subscriber} {changed : Server}
    (handled : subscriber.handle (Server.transport id) event server = .ok (after, changed)) :
    Tells id ((subscriber.asking (Server.transport id) event server).filterMap Exchange.bound?)
      (subscriber, server) (after, changed) := by
  by_cases listening : subscriber.phase = .listening
  · simp only [asking, listening, if_true]
    by_cases silent : event.isSilent
    · rw [handle_of_silent silent] at handled
      cases handled
      have quiet := Tells.of_listened id server (rfl : subscriber.listened = subscriber.listened)
      split
      · cases silent
      · cases silent
      · exact quiet
    · cases event with
      | global object kind =>
          have isPort : kind = .port := by simpa [Event.isSilent] using silent
          subst isPort
          have announced := tells_announce id object subscriber server
          simp only [handle, listening, Except.ok.injEq] at handled
          rw [handled] at announced
          rw [List.filterMap_append, bound_releasing, bound_binding]
          exact announced
      | info object props =>
          simp only [handle, listening] at handled
          rcases described : subscriber.describe object props with malformed | next
          · simp only [described] at handled
            cases handled
          · simp only [described] at handled
            cases handled
            exact .of_listened id server (listened_of_describe described)
      | removed object =>
          have withdrawn := Tells.of_listened id server (listened_withdraw object subscriber)
          have released := tells_release id object (subscriber.withdraw object) server
          simp only [handle, listening, Except.ok.injEq] at handled
          rw [handled] at released
          simp only [bound_releasing]
          exact withdrawn.trans released
      | done sequence => exact absurd rfl silent
  · rw [handle_of_not_listening event listening] at handled
    cases handled
    simp only [asking, listening, if_false]
    exact .of_listened id server rfl

end Subscriber

namespace Client

open Subscriber (Holds Tells)

variable {id : ConnectionId} {client after : Client Server} {server changed : Server}
  {connection : Connection} {failure : Option MalformedNode}

/-! ## A batch -/

/-- The server answers a batch with what it makes the client bind, up to an event that fails. -/
theorem tells_deliverAll {events : List Event}
    (delivered :
      deliverAll (Server.transport id) events client server = (failure, after, changed)) :
    Tells id ((client.asking (Server.transport id) events server).filterMap Exchange.bound?)
      (client.subscriber, server) (after.subscriber, changed) := by
  induction events generalizing client server with
  | nil =>
      cases delivered
      exact .of_listened id _ rfl
  | cons event rest ih =>
      simp only [deliverAll, asking] at delivered ⊢
      rcases ran : client.deliver (Server.transport id) event server with
        malformed | ⟨next, between⟩
      · simp only [ran] at delivered
        cases delivered
        exact .of_listened id _ rfl
      · simp only [ran] at delivered
        have first := Subscriber.tells_handle (handle_of_deliver ran).1
        rw [List.filterMap_append]
        exact first.trans (ih delivered)

/-! ## The barrier -/

/--
A barrier of an open and healthy client on a connection that is there sends one sync, turns the loop
once and gets everything that is waiting, in order, with the acknowledgement of its sync at the end.
It goes through unless it is told a node id that is no number. What is waiting afterwards is one
event for each port that has been bound meanwhile, in order, and tells its current properties; the
handles of the connection must not have been used up before.
-/
theorem synchronize_one_turn {Permits : List Endpoint → Invocation → Prop} {held : List Endpoint}
    (session : Session id Permits client server held) (isOpen : client.isOpen)
    (healthy : client.poison = none) (connected : server.connections.get? id = some connection) :
    ∃ result after changed asked,
      synchronize client server = (result, after, changed) ∧
      synchronize client.onRecord (server, []) = (result, after.onRecord, changed,
        ⟨.sync client.barrier.next, .ok client.barrier.next⟩ ::
        ⟨.drive client.config.loopTimeoutMs.toNat,
          .ok (connection.inbox ++ [.done client.barrier.next])⟩ :: asked) ∧
      (∀ exchange ∈ asked, exchange.request.isBinding) ∧
      after.barrier.syncs = client.barrier.syncs + 1 ∧
      after.barrier.iterations = client.barrier.iterations + 1 ∧
      (result = .ok () ∨
        ∃ port nodeId, result = .error (.failed (.malformedEvent port nodeId))) ∧
      (connection.handles < UInt32.size → ∃ later, changed.connections.get? id = some later ∧
        List.Forall₂ changed.Describes (asked.filterMap Exchange.bound?) later.inbox ∧
        ((∀ object, .global object .port ∉ connection.inbox) → later.inbox = [])) := by
  rcases Option.isSome_iff_exists.1 isOpen with ⟨transport, opened⟩
  have onServer := session.connected.1 transport opened
  subst onServer
  have ready : client.Ready (Server.transport id) := ⟨opened, healthy⟩
  rcases delivered : deliverAll (Server.transport id)
    (connection.inbox ++ [.done client.barrier.next])
    { client with
      barrier := (client.barrier.nextSequence.2.begin client.barrier.next).recordIteration }
    ((server.sync id client.barrier.next).2.drive id).2 with ⟨failure, after, changed⟩
  have replied := answer_sync connected client.barrier.next
  have driven := answer_drive connected client.barrier.next client.config.loopTimeoutMs.toNat
  refine ⟨_, _, _, _, synchronize_of_batch ready replied driven Nat.one_pos (by simp) delivered,
    synchronize_onRecord ready [] replied driven Nat.one_pos (by simp) delivered,
    fun _ => isBinding_of_asking, ?_, ?_, ?_, ?_⟩
  · exact (counts_deliverAll delivered).1
  · exact (counts_deliverAll delivered).2
  · cases failure with
    | none => exact .inl rfl
    | some malformed => exact .inr ⟨_, _, rfl⟩
  · intro few
    rcases session.covers isOpen connected few with ⟨links, covers⟩
    have emptied : ((server.sync id client.barrier.next).2.drive id).2.connections.get? id =
        some { connection with inbox := [] } := by
      simp [Server.sync, connected, Server.drive, Server.setConnection, Connection.send]
    rcases tells_deliverAll delivered _ ⟨emptied, covers.idle⟩ with
      ⟨later, news, holds, same, told, described⟩
    rw [List.nil_append] at told
    rw [← Server.describes_of_objects same, ← told] at described
    refine ⟨later, holds.connected, described, fun unannounced => ?_⟩
    have unbound : (asking (Server.transport id) (connection.inbox ++ [.done client.barrier.next])
        { client with
          barrier := (client.barrier.nextSequence.2.begin client.barrier.next).recordIteration }
        ((server.sync id client.barrier.next).2.drive id).2).filterMap Exchange.bound? = [] := by
      refine List.eq_nil_iff_forall_not_mem.2 fun object bound => unannounced object ?_
      simpa using announced_of_asking bound
    rw [unbound] at described
    exact List.forall₂_nil_left_iff.1 described

/-- Two ports come after a client has been opened, and the first of them changes. -/
def comings : List Server.Step :=
  [.inject (.addObject .port (.ofList [(Key.portDirection, "out")])),
    .inject (.addObject .port (.ofList [(Key.portDirection, "in")])),
    .inject (.replaceProperties 32 (.ofList [(Key.nodeId, "7")]))]

/-- A barrier after that: whether it goes through, what has been waiting and what is then. -/
def turned? : Option (Bool × List Event × List Event) :=
  match connect Server.backend .standard [] (Server.run {} []) with
  | (.ok client, opened) =>
    let server := Server.run opened comings
    let (result, _, changed) := synchronize client server
    some (client.isOpen && client.poison.isNone && result.isOk &&
      decide ((server.connections.get? 1).map (·.handles) = some 0),
      server.queued 1, changed.queued 1)
  | _ => none

/-- The barrier hands over two announcements, and the properties of both ports are waiting then. -/
theorem synchronize_one_turn_comings :
    ∃ (client : Client Server) (server : Server) (connection later : Connection)
      (after : Client Server) (changed : Server) (asked : List Exchange),
      Session 1 (fun _ _ => True) client server [] ∧ client.isOpen ∧ client.poison = none ∧
      server.connections.get? 1 = some connection ∧ connection.handles < UInt32.size ∧
      connection.inbox = [.global 32 .port, .global 33 .port] ∧
      synchronize client server = (.ok (), after, changed) ∧
      after.barrier.iterations = client.barrier.iterations + 1 ∧
      changed.connections.get? 1 = some later ∧
      List.Forall₂ changed.Describes (asked.filterMap Exchange.bound?) later.inbox ∧
      later.inbox = [.info 32 (.ofList [(Key.nodeId, "7")]),
        .info 33 (.ofList [(Key.portDirection, "in")])] := by
  have probed : turned? = some (true, [.global 32 .port, .global 33 .port],
      [.info 32 (.ofList [(Key.nodeId, "7")]),
        .info 33 (.ofList [(Key.portDirection, "in")])]) := by
    decide +kernel
  rcases ran : connect Server.backend .standard [] (Server.run {} []) with
    ⟨refusal | client, opened⟩
  · simp only [turned?, ran] at probed
    cases probed
  · simp only [turned?, ran, Option.some.injEq, Prod.mk.injEq, Bool.and_eq_true, decide_eq_true_eq,
      Option.isNone_iff_eq_none, Option.map_eq_some_iff] at probed
    rcases probed with ⟨⟨⟨⟨isOpen, healthy⟩, through⟩, connection, connected, unused⟩, waits, news⟩
    have begun : Session 1 (fun _ _ => True) client opened [] := .opened rfl ran
    have foreign : ∀ step ∈ comings, ∀ request, step ≠ .ask 1 request := by simp [comings]
    have session := begun.meanwhile_run foreign
    have few : connection.handles < UInt32.size := by
      rw [unused]
      decide
    rcases synchronize_one_turn session isOpen healthy connected with
      ⟨result, after, changed, asked, synced, -, -, -, turned, -, waiting⟩
    rcases waiting few with ⟨later, isLater, described, -⟩
    rw [synced] at through news
    have inbox : later.inbox = changed.queued 1 := by simp [Server.queued, isLater]
    have queue : connection.inbox = (Server.run opened comings).queued 1 := by
      simp [Server.queued, connected]
    refine ⟨client, _, connection, later, after, changed, asked, session, isOpen, healthy,
      connected, few, queue.trans waits, ?_, turned, isLater, described, inbox.trans news⟩
    rw [synced]
    cases result with
    | ok value => rfl
    | error reason => cases through

end Client

end MediaGraph
