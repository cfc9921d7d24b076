import MediaGraph.Proofs.Client.Arrival
import MediaGraph.Proofs.Client.Assembly
import MediaGraph.Proofs.Client.Passage

/-!
# When the graph shows what is published

The ports of an endpoint that has just been activated have been announced, and nothing more. The
client binds them in the first barrier behind that, so it does not show them yet; in the second it
is told their properties, and shows them all (`Client.Unseen.shown`).
-/

namespace MediaGraph

/-- The graph shows no port at a node. -/
def Graph.Omits (graph : Graph) (node : ObjectId) : Prop :=
  ∀ record ∈ graph.allPorts, record.nodeId? ≠ .ok (some node)

instance (graph : Graph) (node : ObjectId) : Decidable (graph.Omits node) :=
  inferInstanceAs (Decidable (∀ record ∈ graph.allPorts, _))

theorem Graph.WellFiled.portCounts_of_omits {graph : Graph} (filed : graph.WellFiled)
    {node : ObjectId} (omits : graph.Omits node) : graph.portCounts node = (0, 0) := by
  have none : ∀ direction, graph.allPorts.countP (·.isAt node direction) = 0 := by
    intro direction
    rw [List.countP_eq_zero]
    intro record member here
    exact omits record member (Port.isAt_iff.1 here).1
  rw [filed.portCounts_eq, none, none]

theorem Graph.WellFiled.ports_of_omits {graph : Graph} (filed : graph.WellFiled)
    {node : ObjectId} (omits : graph.Omits node) (category : Category) (direction : Direction) :
    graph.ports ⟨category, node⟩ direction = [] := by
  rw [List.eq_nil_iff_forall_not_mem]
  intro record member
  rcases filed.mem_ports_iff.1 member with ⟨isRecord, isPlace, -⟩
  exact omits record isRecord (Port.place?_eq_some_iff.1 isPlace).1

namespace Client

open Server

variable {id : ConnectionId} {links : List ProxyId} {client after : Client Server}
  {server changed : Server} {given : ObjectId} {added : List (ObjectId × Object)}

/-- What is announced when a node comes to light with its ports. -/
def announcements (given : ObjectId) (added : List (ObjectId × Object)) : List Event :=
  .global given .node :: added.map fun entry => .global entry.1 .port

/--
The ports of a node are the only ones there, and they have been announced last. The graph does not
show any of them.
-/
structure Unseen (id : ConnectionId) (given : ObjectId) (added : List (ObjectId × Object))
    (client : Client Server) (server : Server) : Prop where
  told : ∀ connection, server.connections.get? id = some connection →
    ∃ early, connection.inbox = early ++ announcements given added
  once : (added.map (·.1)).Nodup
  present : ∀ entry ∈ added, server.portProperties? entry.1 = some entry.2.props
  only : ∀ object props, server.portProperties? object = some props →
    (Port.ofProperties object props).nodeId? = .ok (some given) → object ∈ added.map (·.1)
  omits : client.graph.Omits given

theorem lastInfo?_announcements (object : ObjectId) :
    Event.lastInfo? object (announcements given added) = none := by
  rw [Option.eq_none_iff_forall_ne_some]
  intro props told
  have member := Event.mem_of_lastInfo? told
  simp [announcements] at member

theorem not_untouched_announcements {object : ObjectId} (member : object ∈ added.map (·.1)) :
    ¬Event.Untouched object (announcements given added) := by
  intro untouched
  rcases List.mem_map.1 member with ⟨entry, isEntry, rfl⟩
  have announced : Event.global entry.1 .port ∈ announcements given added :=
    List.mem_cons_of_mem _ (List.mem_map.2 ⟨entry, isEntry, rfl⟩)
  simpa [Event.isAbout] using untouched _ announced

theorem replies_announcements
    (present : ∀ entry ∈ added, server.portProperties? entry.1 = some entry.2.props) :
    server.replies (announcements given added) =
      added.map fun entry => (entry.1, entry.2.props) := by
  have node : server.reply? (.global given .node) = none := rfl
  rw [replies, announcements, List.filterMap_cons_none node, List.filterMap_map,
    ← List.filterMap_eq_map']
  apply List.filterMap_congr
  intro entry member
  simp [reply?, present entry member]

/-! ## Barriers of a client that follows the server -/

/-- The client gets through barriers and follows the server. -/
structure Steady (id : ConnectionId) (links : List ProxyId) (client : Client Server)
    (server : Server) : Prop extends client.Fit id server where
  reflects : client.Reflects id links server

/-- A barrier that the client has got through. -/
structure Round (id : ConnectionId) (links : List ProxyId) (client : Client Server)
    (server : Server) (after : Client Server) (changed : Server) : Prop where
  flushed : Nonempty (Flushed id client server after changed)
  admits : Server.Admits id server changed
  steady : after.Steady id links changed

namespace Steady

variable (steady : client.Steady id links server)

include steady

theorem round (ran : synchronize client server = (.ok (), after, changed)) :
    Round id links client server after changed := by
  rcases steady.of_synchronize ran with ⟨fit, admits⟩
  have kept : StillReflects id links (client, server) (synchronize client server).2 :=
    stillReflects_synchronize.always client server
  rw [ran] at kept
  exact ⟨(flushed_of_synchronize steady.holder ran).2.2, admits, fit,
    (kept steady.holder).2 steady.reflects⟩

/-- A client that is not done waiting goes through one barrier and waits on. -/
theorem round_of_waited {holds : Client Server → Server → Bool} {attempts limit : Nat}
    (undone : holds client server = false)
    (ran : synchronizeUntil holds (limit + 1) client server = (.ok attempts, after, changed)) :
    ∃ between middle others, attempts = others + 1 ∧
      Round id links client server between middle ∧
      synchronizeUntil holds limit between middle = (.ok others, after, changed) := by
  rcases steady.synchronize_eq_ok with ⟨between, middle, first⟩
  have round := steady.round first
  rcases round.steady.synchronizeUntil_eq_ok holds limit with ⟨others, last, final, rest⟩
  cases ran.symm.trans (synchronizeUntil_succ undone first rest)
  exact ⟨between, middle, others, rfl, round, rest⟩

theorem follows (few : server.HasHandles id) {connection : Connection}
    (connected : server.connections.get? id = some connection) :
    server.Truthful connection ∧ client.subscriber.Mirrored ∧
      ∃ known, Tracks known links connection.inbox client.subscriber server connection := by
  have isOpen : client.transport.isSome := by simp [steady.opened]
  have fewHere := few connection connected
  rcases steady.reflects.inStep isOpen steady.healthy.clean connection connected fewHere with
    ⟨truthful, tracks⟩
  exact ⟨truthful, steady.reflects.mirrors isOpen connection connected fewHere, tracks⟩

theorem filed (few : server.HasHandles id) : client.graph.WellFiled := by
  rcases Option.isSome_iff_exists.1 steady.connected with ⟨connection, connected⟩
  exact (steady.follows few connected).2.1.filed

theorem objects_round (round : Round id links client server after changed)
    (few : changed.HasHandles id) : changed.objects = server.objects := by
  rcases round.flushed with ⟨flushed⟩
  rcases steady.follows (round.admits.few few) flushed.found with ⟨-, -, known, tracks⟩
  rcases flushed.tracks tracks few with ⟨-, -, -, objects, -⟩
  exact objects

/-- However long the client waits, there are the same objects. -/
theorem objects_synchronizeUntil {holds : Client Server → Server → Bool} {attempts limit : Nat}
    (ran : synchronizeUntil holds limit client server = (.ok attempts, after, changed))
    (few : changed.HasHandles id) : changed.objects = server.objects := by
  induction limit generalizing client server attempts with
  | zero =>
      cases ran
      rfl
  | succ limit ih =>
      cases done : holds client server with
      | true =>
          cases ran.symm.trans (synchronizeUntil_of_holds done _)
          rfl
      | false =>
          rcases steady.round_of_waited done ran with ⟨between, middle, others, -, round, rest⟩
          have fewThen := (round.steady.admits_synchronizeUntil rest).few few
          exact (ih round.steady rest).trans (steady.objects_round round fewThen)

/-! ## The first barrier and the second -/

theorem unready_of_omits {endpoint : Endpoint} (few : server.HasHandles id)
    (omits : client.graph.Omits given)
    (isGiven : server.nodeId? id endpoint.token = some given) (real : given ≠ unassigned)
    (ports : endpoint.expectedCounts ≠ (0, 0)) : endpointReady endpoint client server = false := by
  rw [Bool.eq_false_iff]
  intro ready
  have enough := (steady.endpointReady_iff isGiven real).1 ready
  rw [(steady.filed few).portCounts_of_omits omits] at enough
  exact ports (Prod.ext (Nat.le_zero.1 enough.1) (Nat.le_zero.1 enough.2))

end Steady

namespace Unseen

variable (unseen : Unseen id given added client server)

include unseen

/-- The first barrier makes the ports known, but does not show them. -/
theorem omits_of_round (steady : client.Steady id links server)
    (round : Round id links client server after changed) (few : changed.HasHandles id) :
    after.graph.Omits given := by
  rcases round.flushed with ⟨flushed⟩
  rcases steady.follows (round.admits.few few) flushed.found with
    ⟨truthful, mirrored, known, tracks⟩
  rcases unseen.told flushed.connection flushed.found with ⟨early, inbox⟩
  intro record member isNode
  have isRecord := (round.steady.filed few).find?_map_eq_some_iff.2 ⟨member, rfl⟩
  rcases flushed.current tracks mirrored truthful few record.id record isRecord with
    ⟨props, isPort, same⟩
  rw [portProperties?, steady.objects_round round few] at isPort
  rw [same] at isNode
  -- The record is that of a port of the server, and there are none at the node but the new ones.
  have isAdded := unseen.only record.id props isPort isNode
  have hidden := flushed.hidden tracks mirrored few inbox
    (not_untouched_announcements isAdded) (lastInfo?_announcements record.id)
  rw [Graph.record?] at hidden
  cases isRecord.symm.trans hidden

/-- The second barrier shows them, and no others at the node. -/
theorem ports_of_rounds {between : Client Server} {middle : Server}
    (steady : client.Steady id links server) (first : Round id links client server between middle)
    (second : Round id links between middle after changed) (few : changed.HasHandles id)
    (category : Category) (direction : Direction) :
    after.graph.ports ⟨category, given⟩ direction =
      (recordsOf added).filter (·.liesAt ⟨category, given⟩ direction) := by
  have fewThen := second.admits.few few
  rcases first.flushed with ⟨one⟩
  rcases second.flushed with ⟨two⟩
  rcases steady.follows (first.admits.few fewThen) one.found with ⟨-, -, known, tracks⟩
  rcases first.steady.follows fewThen two.found with ⟨truthful, mirrored, -⟩
  rcases unseen.told one.connection one.found with ⟨early, inbox⟩
  rcases one.tracks tracks fewThen with ⟨learnt, later, isLater, -, replied, follows⟩
  cases isLater.symm.trans two.found
  have isKnown : learnt = middle.kinds := by
    rw [replied] at follows
    exact follows.known_of_described
  have ports : ∀ object, middle.portProperties? object = server.portProperties? object := by
    intro object
    rw [portProperties?, steady.objects_round first fewThen, portProperties?]
  -- What the second barrier hands over is what the first has asked for, the new ports last.
  rw [inbox, replies_append, replies_announcements unseen.present] at replied
  have ids : (added.map fun entry => (entry.1, entry.2.props)).map (·.1) = added.map (·.1) := by
    rw [List.map_map]
    rfl
  refine (two.ports_eq (isKnown ▸ follows) mirrored truthful few replied ?_ ?_ ?_).trans ?_
  · intro port member
    rw [ports]
    rcases List.mem_append.1 member with old | isNew
    · exact (mem_replies_iff.1 old).2
    · rcases List.mem_map.1 isNew with ⟨entry, isEntry, rfl⟩
      exact unseen.present entry isEntry
  · rw [ids]
    exact unseen.once
  · intro object props isPort isPlace
    rw [ports] at isPort
    rw [ids]
    exact unseen.only object props isPort (Port.place?_eq_some_iff.1 isPlace).1
  · rw [List.map_map]
    rfl

/-- How often the client waits for ports that have just been announced, and what it then shows. -/
theorem shown {endpoint : Endpoint} {category : Category} {attempts limit : Nat}
    (steady : client.Steady id links server)
    (isGiven : server.nodeId? id endpoint.token = some given) (real : given ≠ unassigned)
    (inputs : ((recordsOf added).filter (·.liesAt ⟨category, given⟩ .input)).length =
      endpoint.expectedCounts.1)
    (outputs : ((recordsOf added).filter (·.liesAt ⟨category, given⟩ .output)).length =
      endpoint.expectedCounts.2)
    (ran : synchronizeUntil (endpointReady endpoint) limit client server =
      (.ok attempts, after, changed)) (few : changed.HasHandles id) :
    attempts = (if endpoint.expectedCounts = (0, 0) then 0 else min 2 limit) ∧
      (endpointReady endpoint after changed ↔ endpoint.expectedCounts = (0, 0) ∨ 2 ≤ limit) ∧
      (endpointReady endpoint after changed → ∀ direction,
        after.graph.ports ⟨category, given⟩ direction =
          (recordsOf added).filter (·.liesAt ⟨category, given⟩ direction)) := by
  have fewBefore := (steady.admits_synchronizeUntil ran).few few
  by_cases nothing : endpoint.expectedCounts = (0, 0)
  · have ready : endpointReady endpoint client server :=
      (steady.endpointReady_iff isGiven real).2 (by simp [nothing])
    cases ran.symm.trans (synchronizeUntil_of_holds ready limit)
    refine ⟨by simp [nothing], by simp [nothing, ready], fun _ direction => ?_⟩
    rw [(steady.filed few).ports_of_omits unseen.omits, eq_comm, List.eq_nil_iff_length_eq_zero]
    cases direction with
    | input => rw [inputs, nothing]
    | output => rw [outputs, nothing]
  · have unready := steady.unready_of_omits fewBefore unseen.omits isGiven real nothing
    cases limit with
    | zero =>
        cases ran
        simp [nothing, unready]
    | succ limit =>
        rcases steady.round_of_waited unready ran with ⟨between, middle, others, rfl, first, rest⟩
        have fewThen := (first.steady.admits_synchronizeUntil rest).few few
        have stillGiven := (first.admits.nodeId? endpoint.token).trans isGiven
        have stillUnready := first.steady.unready_of_omits fewThen
          (unseen.omits_of_round steady first fewThen) stillGiven real nothing
        cases limit with
        | zero =>
            cases rest
            simp [nothing, stillUnready]
        | succ limit =>
            rcases first.steady.round_of_waited stillUnready rest with
              ⟨last, final, more, rfl, second, remaining⟩
            have fewLast := (second.steady.admits_synchronizeUntil remaining).few few
            have ports := unseen.ports_of_rounds steady first second fewLast category
            have ready : endpointReady endpoint last final := by
              rw [second.steady.endpointReady_iff
                ((second.admits.nodeId? endpoint.token).trans stillGiven) real, ← inputs,
                ← outputs, ← ports, ← ports]
              exact last.graph.length_ports_le_portCounts category given
            cases remaining.symm.trans (synchronizeUntil_of_holds ready limit)
            simp [nothing, ready, ports]

end Unseen

end Client

end MediaGraph
