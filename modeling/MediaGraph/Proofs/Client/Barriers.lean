import MediaGraph.Proofs.Client.InStep

/-!
# What barriers do

A barrier that succeeds has handed over everything that was waiting for the connection. That leaves
the connection with nothing but the properties of the ports that were announced then, so after a
second barrier nothing is left, and a client that was in step shows what the server holds.
-/

namespace MediaGraph

namespace Client

open Server

variable {id : ConnectionId} {client after : Client Server} {server changed : Server}

theorem settle_one {σ : Type} {client after : Client σ} {world changed : σ}
    (awaiting : client.barrier.complete = false)
    (settled : settle 1 client world = (.ok (), after, changed)) :
    turn client world = (.ok (), after, changed) := by
  rw [settle_succ awaiting] at settled
  rcases Call.bind_eq_ok_iff.1 settled with ⟨⟨⟩, next, final, turned, rest⟩
  cases complete : next.barrier.complete with
  | true =>
      rw [settle_of_complete complete] at rest
      cases rest
      exact turned
  | false =>
      rw [settle_zero complete] at rest
      cases rest

def waiting (client : Client Server) : Client Server :=
  { client with barrier := client.barrier.nextSequence.2.begin client.barrier.next }

theorem answer_sync {connection : Connection}
    (found : server.connections.get? id = some connection) (sequence : UInt32) :
    (Server.transport id).answer (.sync sequence) server =
      (.ok sequence, (server.sync id sequence).2) := by
  simp [Server.transport, answer, sync, found]

/-- Behind a sync, everything that was waiting is fetched, and the acknowledgement at its end. -/
theorem answer_drive {connection : Connection}
    (found : server.connections.get? id = some connection) (sequence : UInt32) (timeout : Nat) :
    (Server.transport id).answer (.drive timeout) (server.sync id sequence).2 =
      (.ok (connection.inbox ++ [.done sequence]), ((server.sync id sequence).2.drive id).2) := by
  simp [Server.transport, answer, sync, found, drive, setConnection, Connection.send]

/-- The turn behind a sync applies what was waiting, and the acknowledgement at its end. -/
theorem turn_waiting (isOpen : client.transport = some (Server.transport id))
    {connection : Connection} (found : server.connections.get? id = some connection) :
    turn client.waiting (server.sync id client.barrier.next).2 =
      applyBatch (Server.transport id) (connection.inbox ++ [.done client.barrier.next])
        { client.waiting with barrier := client.waiting.barrier.recordIteration }
        ((server.sync id client.barrier.next).2.drive id).2 := by
  have stillOpen : client.waiting.transport = some (Server.transport id) := isOpen
  exact turn_of_batch stillOpen (answer_drive found client.barrier.next _)

/--
What a successful barrier comes down to: one batch, which is what was waiting for the connection and
the acknowledgement behind it.
-/
structure Flushed (id : ConnectionId) (client : Client Server) (server : Server)
    (after : Client Server) (changed : Server) where
  connection : Connection
  sequence : UInt32
  turned : Client Server
  fetched : Server
  next : Client Server
  found : server.connections.get? id = some connection
  subscriber : turned.subscriber = client.subscriber
  objects : fetched.objects = server.objects
  emptied : fetched.connections.get? id = some { connection with inbox := [] }
  delivered : deliverAll (Server.transport id) (connection.inbox ++ [.done sequence]) turned
    fetched = (none, next, changed)
  told : after = next.notify

theorem flushed_of_awaitSync (isOpen : client.transport = some (Server.transport id))
    (awaited : awaitSync client server = (.ok (), after, changed)) :
    Nonempty (Flushed id client server after changed) := by
  cases found : server.connections.get? id with
  | none =>
      have answered : (Server.transport id).answer (.sync client.barrier.next) server =
          (.error .disconnected, server) := by
        simp [Server.transport, answer, sync, found]
      rw [awaitSync_of_failure isOpen answered] at awaited
      cases awaited
  | some connection =>
      rw [awaitSync_of_reply isOpen (answer_sync found _)] at awaited
      have turned : turn client.waiting (server.sync id client.barrier.next).2 =
          (.ok (), after, changed) := settle_one rfl awaited
      rw [turn_waiting isOpen found, applyBatch] at turned
      split at turned
      case h_1 next final delivered =>
        cases turned
        refine ⟨⟨connection, _, _, _, next, found, ?_, ?_, ?_, delivered, rfl⟩⟩
        · rfl
        · simp [sync, found, drive, setConnection]
        · simp [sync, found, drive, setConnection, Connection.send]
      case h_2 => cases turned

/-- Only an open and healthy client with a connection gets through a barrier. -/
theorem flushed_of_synchronize (connected : client.Connected id)
    (ran : synchronize client server = (.ok (), after, changed)) :
    client.transport.isSome ∧ client.poison = none ∧
      Nonempty (Flushed id client server after changed) := by
  cases poison : client.poison with
  | some error =>
      rw [synchronize, Call.bind_of_error _ (Call.check_of_poison poison server)] at ran
      cases ran
  | none =>
      rw [synchronize_of_healthy poison] at ran
      have awaited := (Call.poisoning_eq_iff fun _ impossible => by cases impossible).1 ran
      cases isOpen : client.transport with
      | none =>
          simp [awaitSync, Call.client, Call.update, Call.transport, bind, Call.bind, isOpen]
            at awaited
      | some transport =>
          rw [connected transport isOpen] at isOpen
          exact ⟨rfl, rfl, flushed_of_awaitSync isOpen awaited⟩

/-! ## Two barriers -/

namespace Flushed

variable (flushed : Flushed id client server after changed) {links : List ProxyId}
  {known : Table ObjectId ObjectKind}

include flushed

theorem remains : (changed.connections.get? id).isSome := by
  have framed := framed_deliverAll id (flushed.connection.inbox ++ [.done flushed.sequence])
    flushed.turned flushed.fetched
  rw [flushed.delivered] at framed
  exact framed.remains (by simp [flushed.emptied])

/-- A client that was in step still is, and what waits for it now are properties of new ports. -/
theorem tracks
    (tracks : Tracks known links flushed.connection.inbox client.subscriber server
      flushed.connection)
    (few : changed.HasHandles id) :
    ∃ known later, changed.connections.get? id = some later ∧ changed.objects = server.objects ∧
      later.inbox = (server.replies flushed.connection.inbox).map Event.describing ∧
      Tracks known links later.inbox after.subscriber changed later := by
  rcases flushed with ⟨connection, sequence, turned, fetched, next, found, subscriber, objects,
    emptied, delivered, rfl⟩
  have acknowledged : Tracks known links (connection.inbox ++ [.done sequence] ++ [])
      turned.subscriber fetched { connection with inbox := [] } := by
    rw [List.append_nil, subscriber]
    exact ((tracks.acknowledge sequence).of_objects objects).of_inbox []
  rcases tracks_deliverAll acknowledged emptied delivered few with
    ⟨known, later, isLater, unchanged, inbox, follows⟩
  refine ⟨known, later, isLater, unchanged.trans objects, ?_, tracks_notify follows⟩
  have silent : server.replies [.done sequence] = [] := Server.replies_of_silent (by simp)
  rw [inbox, Server.replies_of_objects objects, Server.replies_append, silent, List.append_nil,
    List.nil_append]

end Flushed

theorem replies_describing (server : Server) (ports : List (ObjectId × Properties)) :
    server.replies (ports.map Event.describing) = [] := by
  apply Server.replies_of_silent
  rintro event member id rfl
  rcases List.mem_map.1 member with ⟨port, -, impossible⟩
  cases impossible

/--
A client in step that gets through two barriers has nothing pending any more. The first barrier
leaves only properties of ports behind, which ask for nothing new when the second hands them over.
-/
theorem tracks_of_two_barriers {links : List ProxyId} {between : Client Server} {middle : Server}
    (connected : client.Connected id) (inStep : client.InStep id links server)
    (first : synchronize client server = (.ok (), between, middle))
    (second : synchronize between middle = (.ok (), after, changed))
    (few : changed.HasHandles id) :
    ∃ connection, Tracks changed.kinds links [] after.subscriber changed connection := by
  have firstStays := elementary_stays.looping.synchronize.always client server connected
  rw [first] at firstStays
  rcases firstStays with ⟨betweenConnected, firstAffects⟩
  have secondStays := elementary_stays.looping.synchronize.always between middle betweenConnected
  rw [second] at secondStays
  rcases flushed_of_synchronize connected first with ⟨isOpen, healthy, ⟨one⟩⟩
  rcases flushed_of_synchronize betweenConnected second with ⟨-, -, ⟨two⟩⟩
  have fewBetween := secondStays.2.lasts.few (fun _ => two.remains) few
  have fewBefore := firstAffects.lasts.few (fun _ => one.remains) fewBetween
  rcases inStep isOpen healthy one.connection one.found (fewBefore one.connection one.found) with
    ⟨-, known, tracks⟩
  rcases one.tracks tracks fewBetween with ⟨known, later, isLater, -, inbox, tracks⟩
  have same : later = two.connection := Option.some.inj (isLater.symm.trans two.found)
  rw [same] at inbox tracks
  rcases two.tracks tracks few with ⟨known, last, -, -, lastInbox, tracks⟩
  rw [lastInbox, inbox, replies_describing, List.map_nil] at tracks
  rw [tracks.known_eq] at tracks
  exact ⟨last, tracks⟩

end Client

end MediaGraph
