import MediaGraph.Proofs.Client.Call
import MediaGraph.Proofs.Client.Delivery
import MediaGraph.Script.Basic

/-!
# Which acknowledgement ends a barrier

A barrier sends one sync and turns the loop until a batch acknowledges exactly the number that the
sync was answered with. An acknowledgement of any other number changes nothing, be it late, early or
made up; what else the batches contain is applied as in any other turn.

`Turns` describes the loop from the outside: which batches were handed over, and that every event in
them was applied in order. `synchronize_sound` says what a barrier is in these terms, for every
transport and for every client that is open and healthy. The loop has no limit of its own. How many
batches can pass without the acknowledgement is the promise of the transport (`Transport.patience`),
so a call that ends `stalled` is one whose acknowledgement is still to be waited for.

The requests of a call are read off a ledger that the world keeps of what the transport is asked.
-/

namespace MediaGraph

def Request.isSync : Request → Bool
  | sync _ => true
  | _ => false

namespace Transport

variable {σ : Type} {transport : Transport σ} {ledger : σ → List Request}

/-- The world keeps a ledger of everything that the transport is asked, oldest first. -/
def Logs (transport : Transport σ) (ledger : σ → List Request) : Prop :=
  ∀ request world, ledger (transport.answer request world).2 = ledger world ++ [request]

/-- What is asked between two worlds is no sync. -/
def Unsynced (ledger : σ → List Request) (first last : σ) : Prop :=
  ∃ asked, ledger last = ledger first ++ asked ∧ ∀ request ∈ asked, ¬request.isSync

theorem Unsynced.refl (ledger : σ → List Request) (world : σ) : Unsynced ledger world world :=
  ⟨[], (List.append_nil _).symm, by simp⟩

theorem Unsynced.trans {first second third : σ} (before : Unsynced ledger first second)
    (after : Unsynced ledger second third) : Unsynced ledger first third := by
  rcases before with ⟨early, isEarly, quietEarly⟩
  rcases after with ⟨late, isLate, quietLate⟩
  refine ⟨early ++ late, by rw [isLate, isEarly, List.append_assoc], ?_⟩
  intro request member
  rcases List.mem_append.1 member with inEarly | inLate
  · exact quietEarly request inEarly
  · exact quietLate request inLate

theorem Logs.unsynced (logs : transport.Logs ledger) (request : Request) (world : σ)
    (quiet : ¬request.isSync) : Unsynced ledger world (transport.answer request world).2 := by
  refine ⟨[request], logs request world, ?_⟩
  intro asked member
  rwa [List.mem_singleton.1 member]

theorem Logs.follows (logs : transport.Logs ledger) : transport.Follows (Unsynced ledger) where
  refl := Unsynced.refl ledger
  trans := Unsynced.trans
  asking request world binding := by
    apply logs.unsynced
    cases request <;> simp_all [Request.isBinding, Request.isSync]

end Transport

namespace Script

/-- What a script has been asked, oldest first. -/
def requests (script : Script) : List Request :=
  script.records.filterMap fun
    | .asked request _ => some request
    | _ => none

theorem records_grant (script : Script) (kind : Grant) :
    (script.grant kind).2.records = script.records := by
  simp only [grant]
  split <;> rfl

theorem records_grantFor (request : Request) (script : Script) :
    (grantFor request script).2.records = script.records := by
  cases request with
  | bindObject =>
      simp only [grantFor]
      split
      · rfl
      · exact records_grant script .bind
  | createObject => exact records_grant script .object
  | createNode => exact records_grant script .node
  | addPort => exact records_grant script .port
  | _ => rfl

theorem records_respond (handle : Option UInt32) (request : Request) (script : Script) :
    (respond handle request script).2.records = script.records := by
  cases request with
  | sync sequence =>
      simp only [respond, reply]
      split <;> rfl
  | drive timeout =>
      simp only [respond, nextBatch]
      split
      · rfl
      · rfl
      · split <;> rfl
  | _ => rfl

theorem logs_transport : transport.Logs requests := by
  intro request script
  show (respond _ request ((grantFor request script).2.note _)).2.requests = _
  simp only [requests, records_respond, note, records_grantFor, List.filterMap_append,
    List.filterMap_cons, List.filterMap_nil]

end Script

namespace Barrier

variable {barrier : Barrier} {reply : UInt32} {events : List Event}

theorem foldl_hear_counts (barrier : Barrier) (events : List Event) :
    (events.foldl hear barrier).syncs = barrier.syncs ∧
      (events.foldl hear barrier).iterations = barrier.iterations := by
  induction events generalizing barrier with
  | nil => exact ⟨rfl, rfl⟩
  | cons event rest ih =>
      have step : (barrier.hear event).syncs = barrier.syncs ∧
          (barrier.hear event).iterations = barrier.iterations := by
        cases event with
        | done sequence =>
            simp only [hear, acknowledge]
            split <;> exact ⟨rfl, rfl⟩
        | _ => exact ⟨rfl, rfl⟩
      rw [List.foldl_cons, (ih _).1, (ih _).2, step.1, step.2]
      exact ⟨rfl, rfl⟩

theorem hear_of_pending (pending : barrier.pending = some reply) {event : Event}
    (other : event ≠ .done reply) : barrier.hear event = barrier := by
  cases event with
  | done sequence =>
      have apart : some reply ≠ some sequence := by
        rintro same
        cases same
        exact other rfl
      simp [hear, acknowledge, pending, apart]
  | _ => rfl

/-- A barrier that waits for a number is not touched by events that do not acknowledge it. -/
theorem foldl_hear_of_not_mem (pending : barrier.pending = some reply)
    (stale : .done reply ∉ events) : events.foldl hear barrier = barrier := by
  induction events with
  | nil => rfl
  | cons event rest ih =>
      rw [List.mem_cons, not_or] at stale
      rw [List.foldl_cons, hear_of_pending pending (Ne.symm stale.1)]
      exact ih stale.2

theorem foldl_hear_of_complete (complete : barrier.complete = true) (events : List Event) :
    (events.foldl hear barrier).complete = true := by
  induction events generalizing barrier with
  | nil => exact complete
  | cons event rest ih =>
      apply ih
      cases event with
      | done sequence =>
          simp only [hear, acknowledge]
          split
          · rfl
          · exact complete
      | _ => exact complete

theorem foldl_hear_of_mem (pending : barrier.pending = some reply)
    (acknowledged : .done reply ∈ events) : (events.foldl hear barrier).complete = true := by
  rcases List.append_of_mem acknowledged with ⟨early, late, rfl⟩
  induction early with
  | nil =>
      rw [List.nil_append, List.foldl_cons]
      apply foldl_hear_of_complete
      simp [hear, acknowledge, pending]
  | cons event rest ih =>
      rw [List.cons_append, List.foldl_cons]
      by_cases same : event = .done reply
      · subst same
        apply foldl_hear_of_complete
        simp [hear, acknowledge, pending]
      · rw [hear_of_pending pending same]
        exact ih (by simp)

end Barrier

namespace Client

variable {σ : Type} {transport : Transport σ} {client after next : Client σ}
  {world changed fetched applied : σ} {reply : UInt32} {events : List Event}

/-! ## Turns of the loop -/

/-- The loop is turned once for each batch, and all is applied in order without a failure. -/
inductive Turns (transport : Transport σ) :
    List (List Event) → Client σ × σ → Client σ × σ → Prop where
  | nil (state : Client σ × σ) : Turns transport [] state state
  | cons {client next : Client σ} {world fetched applied : σ} {final : Client σ × σ}
    {events : List Event} {rest : List (List Event)} :
    transport.answer (.drive client.config.loopTimeoutMs.toNat) world = (.ok events, fetched) →
    deliverAll transport events { client with barrier := client.barrier.recordIteration } fetched =
      (none, next, applied) →
    Turns transport rest (next.notify, applied) final →
    Turns transport (events :: rest) (client, world) final

theorem turn_eq_ok_iff (opened : client.transport = some transport) :
    turn client world = (.ok (), after, changed) ↔
      ∃ events fetched next,
        transport.answer (.drive client.config.loopTimeoutMs.toNat) world = (.ok events, fetched) ∧
        deliverAll transport events { client with barrier := client.barrier.recordIteration }
          fetched = (none, next, changed) ∧ after = next.notify := by
  constructor
  · intro turned
    rcases driven : transport.answer (.drive client.config.loopTimeoutMs.toNat) world with
      ⟨failure | events, fetched⟩
    · rw [turn_of_failure opened driven] at turned
      cases turned
    · rw [turn_of_batch opened driven, applyBatch] at turned
      split at turned
      case h_1 next applied delivered =>
        cases turned
        exact ⟨events, fetched, next, rfl, delivered, rfl⟩
      case h_2 => cases turned
  · rintro ⟨events, fetched, next, driven, delivered, rfl⟩
    rw [turn_of_batch opened driven, applyBatch, delivered]

theorem turn_ne_stalled (client : Client σ) (world : σ) :
    turn client world ≠ (.error .stalled, after, changed) := by
  intro turned
  cases opened : client.transport with
  | none =>
      rw [turn_of_closed opened] at turned
      cases turned
  | some transport =>
      rcases driven : transport.answer (.drive client.config.loopTimeoutMs.toNat) world with
        ⟨failure | events, fetched⟩
      · rw [turn_of_failure opened driven] at turned
        cases turned
      · rw [turn_of_batch opened driven, applyBatch] at turned
        split at turned <;> cases turned

/-- A turn is counted, and touches neither the transport nor the poison nor the count of syncs. -/
theorem frame_of_turn
    (delivered : deliverAll transport events
      { client with barrier := client.barrier.recordIteration } fetched = (none, next, applied)) :
    next.notify.transport = client.transport ∧ next.notify.poison = client.poison ∧
      next.notify.barrier.syncs = client.barrier.syncs ∧
      next.notify.barrier.iterations = client.barrier.iterations + 1 := by
  have frame := frame_of_delivered delivered
  have barrier := barrier_of_deliverAll delivered
  have counts := Barrier.foldl_hear_counts client.barrier.recordIteration events
  rw [← barrier] at counts
  refine ⟨?_, ?_, counts⟩
  · show next.transport = client.transport
    rw [frame]
  · show next.poison = client.poison
    rw [frame]

theorem Turns.counts {batches : List (List Event)} {start final : Client σ × σ}
    (turns : Turns transport batches start final) :
    final.1.barrier.syncs = start.1.barrier.syncs ∧
      final.1.barrier.iterations = start.1.barrier.iterations + batches.length := by
  induction turns with
  | nil => exact ⟨rfl, rfl⟩
  | cons driven delivered rest ih =>
      rcases frame_of_turn delivered with ⟨-, -, syncs, iterations⟩
      rcases ih with ⟨restSyncs, restIterations⟩
      dsimp only at restIterations ⊢
      refine ⟨restSyncs.trans syncs, ?_⟩
      rw [List.length_cons]
      omega

/-! ## Waiting -/

/-- An open client that waits for a number. -/
structure Awaits (client : Client σ) (transport : Transport σ) (reply : UInt32) : Prop where
  opened : client.transport = some transport
  pending : client.barrier.pending = some reply
  incomplete : client.barrier.complete = false

/-- The batch that acknowledges the number completes the barrier. -/
theorem Awaits.complete (awaits : client.Awaits transport reply)
    (delivered : deliverAll transport events
      { client with barrier := client.barrier.recordIteration } fetched = (none, next, applied))
    (acknowledged : .done reply ∈ events) : next.notify.barrier.complete = true := by
  have barrier := barrier_of_deliverAll delivered
  have complete := Barrier.foldl_hear_of_mem
    (show client.barrier.recordIteration.pending = some reply from awaits.pending) acknowledged
  rw [← barrier] at complete
  exact complete

/-- A batch that does not acknowledge the number leaves the client waiting. -/
theorem Awaits.waits (awaits : client.Awaits transport reply)
    (delivered : deliverAll transport events
      { client with barrier := client.barrier.recordIteration } fetched = (none, next, applied))
    (stale : .done reply ∉ events) : next.notify.Awaits transport reply := by
  have barrier := barrier_of_deliverAll delivered
  have same := Barrier.foldl_hear_of_not_mem
    (show client.barrier.recordIteration.pending = some reply from awaits.pending) stale
  rw [← barrier] at same
  have untouched : next.notify.barrier = client.barrier.recordIteration := same
  refine ⟨(frame_of_turn delivered).1.trans awaits.opened, ?_, ?_⟩
  · rw [untouched]
    exact awaits.pending
  · rw [untouched]
    exact awaits.incomplete

/-- An outcome that is no failure of a turn is the outcome of waiting on after the first turn. -/
theorem Awaits.settle_eq_iff (awaits : client.Awaits transport reply) (patience : Nat)
    {result : Except Halt Unit}
    (turned : ∀ reason, result = .error reason →
      turn client world ≠ (.error reason, after, changed)) :
    settle (patience + 1) client world = (result, after, changed) ↔
      ∃ events fetched next applied,
        transport.answer (.drive client.config.loopTimeoutMs.toNat) world = (.ok events, fetched) ∧
        deliverAll transport events { client with barrier := client.barrier.recordIteration }
          fetched = (none, next, applied) ∧
        settle patience next.notify applied = (result, after, changed) := by
  rw [settle_succ awaits.incomplete]
  constructor
  · intro settled
    rcases ran : turn client world with ⟨reason | ⟨⟩, between, middle⟩
    · rw [Call.bind_of_error _ ran] at settled
      cases settled
      exact absurd ran (turned reason rfl)
    · rw [Call.bind_of_ok _ ran] at settled
      rcases (turn_eq_ok_iff awaits.opened).1 ran with
        ⟨events, fetched, next, driven, delivered, rfl⟩
      exact ⟨events, fetched, next, middle, driven, delivered, settled⟩
  · rintro ⟨events, fetched, next, applied, driven, delivered, settled⟩
    have ran := (turn_eq_ok_iff awaits.opened).2 ⟨_, _, _, driven, delivered, rfl⟩
    rw [Call.bind_of_ok _ ran]
    exact settled

/-- Waiting succeeds at the first batch that acknowledges the number, if it comes in time. -/
theorem settle_eq_ok_iff (awaits : client.Awaits transport reply) (patience : Nat) :
    settle patience client world = (.ok (), after, changed) ↔
      ∃ earlier last, Turns transport (earlier ++ [last]) (client, world) (after, changed) ∧
        .done reply ∈ last ∧ (∀ batch ∈ earlier, .done reply ∉ batch) ∧
        earlier.length < patience := by
  induction patience generalizing client world with
  | zero =>
      rw [settle_zero awaits.incomplete]
      constructor
      · intro impossible
        cases impossible
      · rintro ⟨earlier, last, -, -, -, impossible⟩
        exact absurd impossible (Nat.not_lt_zero _)
  | succ patience ih =>
      rw [awaits.settle_eq_iff patience (fun _ impossible => by cases impossible)]
      constructor
      · rintro ⟨events, fetched, next, applied, driven, delivered, settled⟩
        by_cases acknowledged : Event.done reply ∈ events
        · rw [settle_of_complete (awaits.complete delivered acknowledged)] at settled
          cases settled
          exact ⟨[], events, .cons driven delivered (.nil _), acknowledged, by simp, by simp⟩
        · rcases (ih (awaits.waits delivered acknowledged)).1 settled with
            ⟨earlier, last, turns, isLast, stale, short⟩
          refine ⟨events :: earlier, last, .cons driven delivered turns, isLast, ?_, ?_⟩
          · exact List.forall_mem_cons.2 ⟨acknowledged, stale⟩
          · rw [List.length_cons]
            omega
      · rintro ⟨earlier, last, turns, isLast, stale, short⟩
        cases earlier with
        | nil =>
            rcases turns with _ | ⟨driven, delivered, ⟨⟩⟩
            exact ⟨_, _, _, _, driven, delivered,
              settle_of_complete (awaits.complete delivered isLast) patience _⟩
        | cons events earlier =>
            rcases turns with _ | ⟨driven, delivered, rest⟩
            rcases List.forall_mem_cons.1 stale with ⟨unacknowledged, stale⟩
            refine ⟨_, _, _, _, driven, delivered, ?_⟩
            apply (ih (awaits.waits delivered unacknowledged)).2
            refine ⟨earlier, last, rest, isLast, stale, ?_⟩
            rw [List.length_cons] at short
            omega

/-- Waiting stalls when as many batches have passed as there is patience, all without success. -/
theorem settle_eq_stalled_iff (awaits : client.Awaits transport reply) (patience : Nat) :
    settle patience client world = (.error .stalled, after, changed) ↔
      ∃ batches, Turns transport batches (client, world) (after, changed) ∧
        (∀ batch ∈ batches, .done reply ∉ batch) ∧ batches.length = patience := by
  induction patience generalizing client world with
  | zero =>
      rw [settle_zero awaits.incomplete]
      constructor
      · intro same
        cases same
        exact ⟨[], .nil _, by simp, rfl⟩
      · rintro ⟨batches, turns, -, none⟩
        rw [List.length_eq_zero_iff] at none
        subst none
        cases turns
        rfl
  | succ patience ih =>
      have turned : ∀ reason, (.error .stalled : Except Halt Unit) = .error reason →
          turn client world ≠ (.error reason, after, changed) := by
        rintro _ ⟨⟩
        exact turn_ne_stalled client world
      rw [awaits.settle_eq_iff patience turned]
      constructor
      · rintro ⟨events, fetched, next, applied, driven, delivered, settled⟩
        by_cases acknowledged : Event.done reply ∈ events
        · rw [settle_of_complete (awaits.complete delivered acknowledged)] at settled
          cases settled
        · rcases (ih (awaits.waits delivered acknowledged)).1 settled with
            ⟨batches, turns, stale, length⟩
          refine ⟨events :: batches, .cons driven delivered turns, ?_, ?_⟩
          · exact List.forall_mem_cons.2 ⟨acknowledged, stale⟩
          · rw [List.length_cons, length]
      · rintro ⟨batches, turns, stale, length⟩
        cases turns with
        | nil => cases length
        | cons driven delivered rest =>
            rcases List.forall_mem_cons.1 stale with ⟨unacknowledged, stale⟩
            refine ⟨_, _, _, _, driven, delivered, ?_⟩
            apply (ih (awaits.waits delivered unacknowledged)).2
            refine ⟨_, rest, stale, ?_⟩
            rw [List.length_cons] at length
            omega

/-! ## What is asked while waiting -/

/-- The transport stays open, and is asked for no sync. -/
def Quiet (transport : Transport σ) (ledger : σ → List Request)
    (first last : Client σ × σ) : Prop :=
  first.1.transport = some transport →
    last.1.transport = some transport ∧ Transport.Unsynced ledger first.2 last.2

variable {ledger : σ → List Request}

theorem composes_quiet (transport : Transport σ) (ledger : σ → List Request) :
    Call.Composes (Quiet transport ledger) where
  refl state opened := ⟨opened, .refl ledger state.2⟩
  trans first second opened := by
    rcases first opened with ⟨stillOpen, early⟩
    rcases second stillOpen with ⟨open_, late⟩
    exact ⟨open_, early.trans late⟩

theorem quiet_applyBatch (logs : transport.Logs ledger) (events : List Event) (client : Client σ)
    (world : σ) :
    Quiet transport ledger (client, world) (applyBatch transport events client world).2 := by
  intro opened
  refine ⟨(frame_of_applyBatch transport events client world).1.trans opened, ?_⟩
  show Transport.Unsynced ledger world (applyBatch transport events client world).2.2
  rw [world_applyBatch]
  exact related_deliverAll logs.follows events client world

theorem quiet_turn (logs : transport.Logs ledger) :
    Client.turn.Within Halt.Never (Quiet transport ledger) := by
  apply within_turn (composes_quiet transport ledger)
  · intro client world other timeout isOther opened
    rw [opened] at isOther
    cases isOther
    exact ⟨opened, logs.unsynced _ _ Bool.false_ne_true⟩
  · exact fun client world barrier opened => ⟨opened, .refl ledger world⟩
  · intro client world other events isOther opened
    rw [opened] at isOther
    cases isOther
    exact quiet_applyBatch logs events client world opened

/-- An open client sends one sync in a barrier, and then no more. -/
theorem ledger_awaitSync (logs : transport.Logs ledger) (opened : client.transport = some transport)
    (world : σ) :
    ∃ others, ledger (awaitSync client world).2.2 =
        ledger world ++ .sync client.barrier.next :: others ∧
      ∀ request ∈ others, ¬request.isSync := by
  have logged := logs (.sync client.barrier.next) world
  rcases answered : transport.answer (.sync client.barrier.next) world with
    ⟨failure | reply, changed⟩
  all_goals rw [answered] at logged
  · rw [awaitSync_of_failure opened answered]
    exact ⟨[], logged, by simp⟩
  · rw [awaitSync_of_reply opened answered]
    let waiting := { client with barrier := client.barrier.nextSequence.2.begin reply }
    have settled := ((Call.composable_within (composes_quiet transport ledger)).settle
      (quiet_turn logs) (transport.patience changed)).always waiting changed opened
    rcases settled with ⟨-, others, isOthers, quiet⟩
    refine ⟨others, ?_, quiet⟩
    rw [isOthers, show ledger changed = _ from logged, List.append_assoc]
    rfl

/-! ## Barriers -/

/-- A client that is open and has not been poisoned. -/
structure Ready (client : Client σ) (transport : Transport σ) : Prop where
  opened : client.transport = some transport
  healthy : client.poison = none

def StaysReady (transport : Transport σ) (first last : Client σ × σ) : Prop :=
  first.1.Ready transport → last.1.Ready transport

theorem composes_staysReady (transport : Transport σ) :
    Call.Composes (StaysReady transport) where
  refl _ ready := ready
  trans first second ready := second (first ready)

theorem staysReady_applyBatch (transport other : Transport σ) (events : List Event)
    (client : Client σ) (world : σ) :
    StaysReady transport (client, world) (applyBatch other events client world).2 := by
  intro ready
  rcases frame_of_applyBatch other events client world with ⟨connection, poison⟩
  exact ⟨connection.trans ready.opened, poison.trans ready.healthy⟩

/-- Up to the poisoning, nothing in a barrier closes the client or poisons it. -/
theorem staysReady_awaitSync (transport : Transport σ) :
    awaitSync.Within Halt.Never (StaysReady transport) :=
  have turn : Client.turn.Within Halt.Never (StaysReady transport) :=
    within_turn (composes_staysReady transport)
      (fun _ _ _ _ _ ready => ⟨ready.opened, ready.healthy⟩)
      (fun _ _ _ ready => ⟨ready.opened, ready.healthy⟩)
      (fun client world other events _ =>
        staysReady_applyBatch transport other events client world)
  (Call.waits_within (composes_staysReady transport)
    (fun _ _ _ ready => ⟨ready.opened, ready.healthy⟩)
    (fun _ _ _ _ _ ready => ⟨ready.opened, ready.healthy⟩) turn).awaitSync

/--
The sync was answered with a number, every batch was applied without a failure, and the last of them
is the first that acknowledges the number.
-/
structure Acknowledged (transport : Transport σ) (client : Client σ) (world : σ) (reply : UInt32)
    (answered : σ) (earlier : List (List Event)) (last : List Event) (final : Client σ × σ) :
    Prop where
  replied : transport.answer (.sync client.barrier.next) world = (.ok reply, answered)
  turns : Turns transport (earlier ++ [last])
    ({ client with barrier := client.barrier.nextSequence.2.begin reply }, answered) final
  acknowledged : .done reply ∈ last
  stale : ∀ batch ∈ earlier, .done reply ∉ batch

/-- As many batches were applied without a failure as there is patience; none acknowledges. -/
structure Stalled (transport : Transport σ) (client : Client σ) (world : σ) (reply : UInt32)
    (answered : σ) (batches : List (List Event)) (final : Client σ × σ) : Prop where
  replied : transport.answer (.sync client.barrier.next) world = (.ok reply, answered)
  turns : Turns transport batches
    ({ client with barrier := client.barrier.nextSequence.2.begin reply }, answered) final
  stale : ∀ batch ∈ batches, .done reply ∉ batch
  patience : batches.length = transport.patience answered

theorem Ready.awaits (ready : client.Ready transport) (reply : UInt32) :
    Awaits { client with barrier := client.barrier.nextSequence.2.begin reply } transport reply :=
  ⟨ready.opened, rfl, rfl⟩

/-- Unless it fails, a barrier comes to what waiting for the number of its sync comes to. -/
theorem Ready.synchronize_eq_iff (ready : client.Ready transport) {result : Except Halt Unit}
    (unfailed : ∀ error, result ≠ .error (.failed error)) :
    synchronize client world = (result, after, changed) ↔
      ∃ reply answered,
        transport.answer (.sync client.barrier.next) world = (.ok reply, answered) ∧
        settle (transport.patience answered)
          { client with barrier := client.barrier.nextSequence.2.begin reply } answered =
            (result, after, changed) := by
  have sound : ∀ reason, result = .error reason → ¬reason.Malformed := by
    rintro _ failed ⟨port, nodeId, rfl⟩
    exact unfailed _ failed
  rw [synchronize_of_healthy ready.healthy, Call.poisoning_eq_iff sound]
  rcases answered : transport.answer (.sync client.barrier.next) world with
    ⟨failure | reply, final⟩
  · rw [awaitSync_of_failure ready.opened answered]
    constructor
    · intro same
      cases same
      exact absurd rfl (unfailed _)
    · rintro ⟨_, _, impossible, -⟩
      cases impossible
  · rw [awaitSync_of_reply ready.opened answered]
    constructor
    · exact fun settled => ⟨reply, final, rfl, settled⟩
    · rintro ⟨_, _, ⟨⟩, settled⟩
      exact settled

/-- The result of a barrier whose batch has failed or not. -/
def outcome (failure : Option MalformedNode) : Except Halt Unit :=
  failure.elim (.ok ()) fun malformed => .error (.failed (.ofMalformed malformed))

/-- A barrier whose first batch acknowledges its sync comes to what that batch comes to. -/
theorem synchronize_of_batch (ready : client.Ready transport) {reply : UInt32}
    {answered fetched : σ} {events : List Event} {failure : Option MalformedNode}
    (replied : transport.answer (.sync client.barrier.next) world = (.ok reply, answered))
    (driven : transport.answer (.drive client.config.loopTimeoutMs.toNat) answered =
      (.ok events, fetched))
    (patient : 0 < transport.patience answered) (acknowledged : .done reply ∈ events)
    (delivered : deliverAll transport events
      { client with barrier := (client.barrier.nextSequence.2.begin reply).recordIteration }
      fetched = (failure, after, changed)) :
    synchronize client world = (outcome failure,
      { after.notify with poison := failure.map .ofMalformed }, changed) := by
  rcases Nat.exists_eq_succ_of_ne_zero (Nat.ne_of_gt patient) with ⟨patience, isPatience⟩
  have awaits := ready.awaits reply
  have stillHealthy : after.notify.poison = none := by
    rw [frame_of_delivered delivered]
    exact ready.healthy
  have awaited : awaitSync client world = (outcome failure, after.notify, changed) := by
    rw [awaitSync_of_reply ready.opened replied, isPatience]
    refine (settle_succ awaits.incomplete patience _).trans ?_
    have turned := turn_of_batch awaits.opened driven
    simp only [applyBatch, delivered] at turned
    cases failure with
    | none =>
        rw [Call.bind_of_ok _ turned]
        exact settle_of_complete (awaits.complete delivered acknowledged) patience changed
    | some malformed => exact Call.bind_of_error _ turned
  rw [synchronize_of_healthy ready.healthy]
  cases failure with
  | none =>
      have same : ({ after.notify with poison := none } : Client σ) = after.notify := by
        rw [← stillHealthy]
      rw [(Call.poisoning_eq_iff fun _ impossible => by cases impossible).2 awaited,
        Option.map_none, same]
  | some malformed => exact Call.poisoning_of_malformed awaited

theorem synchronize_eq_ok_iff (ready : client.Ready transport) :
    synchronize client world = (.ok (), after, changed) ↔
      ∃ reply answered earlier last,
        Acknowledged transport client world reply answered earlier last (after, changed) ∧
        earlier.length < transport.patience answered := by
  rw [ready.synchronize_eq_iff (by simp)]
  constructor
  · rintro ⟨reply, answered, replied, settled⟩
    rcases (settle_eq_ok_iff (ready.awaits reply) _).1 settled with
      ⟨earlier, last, turns, acknowledged, stale, short⟩
    exact ⟨reply, answered, earlier, last, ⟨replied, turns, acknowledged, stale⟩, short⟩
  · rintro ⟨reply, answered, earlier, last, ⟨replied, turns, acknowledged, stale⟩, short⟩
    refine ⟨reply, answered, replied, (settle_eq_ok_iff (ready.awaits reply) _).2 ?_⟩
    exact ⟨earlier, last, turns, acknowledged, stale, short⟩

theorem synchronize_eq_stalled_iff (ready : client.Ready transport) :
    synchronize client world = (.error .stalled, after, changed) ↔
      ∃ reply answered batches,
        Stalled transport client world reply answered batches (after, changed) := by
  rw [ready.synchronize_eq_iff (by simp)]
  constructor
  · rintro ⟨reply, answered, replied, settled⟩
    rcases (settle_eq_stalled_iff (ready.awaits reply) _).1 settled with
      ⟨batches, turns, stale, patience⟩
    exact ⟨reply, answered, batches, replied, turns, stale, patience⟩
  · rintro ⟨reply, answered, batches, replied, turns, stale, patience⟩
    refine ⟨reply, answered, replied, (settle_eq_stalled_iff (ready.awaits reply) _).2 ?_⟩
    exact ⟨batches, turns, stale, patience⟩

theorem Acknowledged.counts {answered : σ} {earlier : List (List Event)} {last : List Event}
    {final : Client σ × σ}
    (acknowledged : Acknowledged transport client world reply answered earlier last final) :
    final.1.barrier.syncs = client.barrier.syncs + 1 ∧
      final.1.barrier.iterations = client.barrier.iterations + (earlier.length + 1) := by
  rcases acknowledged.turns.counts with ⟨syncs, iterations⟩
  rw [List.length_append] at iterations
  exact ⟨syncs, iterations⟩

/-- Only a malformed event poisons a client, so after any other end it is as fit as before. -/
theorem Ready.of_synchronize (ready : client.Ready transport) {result : Except Halt Unit}
    (sound : ∀ reason, result = .error reason → ¬reason.Malformed)
    (ran : synchronize client world = (result, after, changed)) : after.Ready transport := by
  rw [synchronize_of_healthy ready.healthy, Call.poisoning_eq_iff sound] at ran
  have stays := (staysReady_awaitSync transport).always client world
  rw [ran] at stays
  exact stays ready

theorem ready_of_transport_failure (ready : client.Ready transport) {failure : TransportError}
    (ran : synchronize client world = (.error (.failed (.transport failure)), after, changed)) :
    after.Ready transport := by
  refine ready.of_synchronize ?_ ran
  rintro _ ⟨⟩
  exact Halt.not_malformed_transport failure

/--
A barrier of an open and healthy client sends exactly one sync. It succeeds when the batches that
come are applied without a failure up to the first that acknowledges the number the sync was
answered with, and stops there; no other acknowledgement ends it. It goes on for as long as the
transport has promised, and a failure of the transport leaves the client as fit as before.
-/
theorem synchronize_sound (ready : client.Ready transport) (world : σ) :
    (∀ ledger, transport.Logs ledger → ∃ others,
      ledger (synchronize client world).2.2 =
          ledger world ++ .sync client.barrier.next :: others ∧
        ∀ request ∈ others, ¬request.isSync) ∧
    (∀ after changed, synchronize client world = (.ok (), after, changed) ↔
      ∃ reply answered earlier last,
        Acknowledged transport client world reply answered earlier last (after, changed) ∧
        earlier.length < transport.patience answered) ∧
    (∀ reply answered earlier last final,
      Acknowledged transport client world reply answered earlier last final →
        final.1.barrier.syncs = client.barrier.syncs + 1 ∧
        final.1.barrier.iterations = client.barrier.iterations + (earlier.length + 1)) ∧
    (∀ after changed, synchronize client world = (.error .stalled, after, changed) ↔
      ∃ reply answered batches,
        Stalled transport client world reply answered batches (after, changed)) ∧
    ∀ failure after changed,
      synchronize client world = (.error (.failed (.transport failure)), after, changed) →
        after.Ready transport := by
  refine ⟨?_, fun _ _ => synchronize_eq_ok_iff ready, fun _ _ _ _ _ => Acknowledged.counts,
    fun _ _ => synchronize_eq_stalled_iff ready, fun _ _ _ => ready_of_transport_failure ready⟩
  intro ledger logs
  rw [synchronize_of_healthy ready.healthy, Call.world_poisoning]
  exact ledger_awaitSync logs ready.opened world

/--
A script answers a sync with another number. An acknowledgement that nobody waits for comes first
and is passed over; the second batch ends the barrier.
-/
theorem synchronize_sound_script :
    let script : Script :=
      { replies := [.sequence 7], batches := [.ok [.event (.done 0)], .ok [.doneLast]] }
    let client : Client Script :=
      { config := .standard, backend := "script", transport := some Script.transport }
    client.Ready Script.transport ∧
      (∃ others, (synchronize client script).2.2.requests = .sync 0 :: others ∧
        ∀ request ∈ others, ¬request.isSync) ∧
      ∃ after changed reply answered earlier last,
        synchronize client script = (.ok (), after, changed) ∧
        Acknowledged Script.transport client script reply answered earlier last (after, changed) ∧
        earlier.length < Script.transport.patience answered := by
  intro script client
  have ready : client.Ready Script.transport := ⟨rfl, rfl⟩
  rcases synchronize_sound ready script with ⟨sends, succeeds, -⟩
  refine ⟨ready, sends Script.requests Script.logs_transport, ?_⟩
  have ok : (synchronize client script).1.isOk = true := by decide +kernel
  match ran : synchronize client script with
  | (.ok (), after, changed) =>
      rcases (succeeds after changed).1 ran with ⟨reply, answered, earlier, last, acknowledged⟩
      exact ⟨after, changed, reply, answered, earlier, last, rfl, acknowledged⟩
  | (.error reason, _, _) =>
      rw [ran] at ok
      cases ok

end Client

end MediaGraph
