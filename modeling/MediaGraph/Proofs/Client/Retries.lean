import MediaGraph.Client.Endpoint
import MediaGraph.Proofs.Client.Acknowledgement

/-!
# Waiting for an endpoint

A client waits for an endpoint in two stages: until its node has an id, and then until the graph
shows its ports. Either stage repeats a barrier, up to the configured limit, and looks again before
each barrier and after the last.

`Retries` is what a stage does, seen from the outside: barriers that go through one after the other,
each begun while what is waited for does not hold. Loops and retries describe each other
(`synchronizeUntil_eq_ok_iff`, `synchronizeUntil_eq_error_iff`), so `waitForEndpoint_bounded` can
tell the whole course of a wait. It makes no assumption on the transport, which may take an id back
between the stages, or answer anything at all.
-/

namespace MediaGraph

namespace Call

variable {σ α β : Type}

/-- A sequence halts in its first call or, after a first call that returned, in its second. -/
theorem bind_eq_error_iff {first : Call σ α} {next : α → Call σ β} {client after : Client σ}
    {world changed : σ} {reason : Halt} :
    (first >>= next) client world = (.error reason, after, changed) ↔
      first client world = (.error reason, after, changed) ∨
        ∃ value between middle, first client world = (.ok value, between, middle) ∧
          next value between middle = (.error reason, after, changed) := by
  rcases ran : first client world with ⟨halted | value, between, middle⟩
  · rw [bind_of_error next ran]
    simp
  · rw [bind_of_ok next ran]
    constructor
    · exact fun halted => .inr ⟨value, between, middle, rfl, halted⟩
    · rintro (⟨⟨⟩⟩ | ⟨_, _, _, ⟨⟩, halted⟩)
      exact halted

end Call

namespace Client

variable {σ : Type} {holds : Client σ → σ → Bool} {client after : Client σ} {world changed : σ}
  {transport : Transport σ} {ledger : σ → List Request} {reason : Halt}

/-- So many barriers go through in turn, each of them begun while something does not hold. -/
inductive Retries (holds : Client σ → σ → Bool) : Nat → Client σ × σ → Client σ × σ → Prop where
  | none (state : Client σ × σ) : Retries holds 0 state state
  | again {attempts : Nat} {client between : Client σ} {world middle : σ} {last : Client σ × σ}
    (undone : holds client world = false)
    (through : synchronize client world = (.ok (), between, middle))
    (rest : Retries holds attempts (between, middle) last) :
    Retries holds (attempts + 1) (client, world) last

/-! ## One stage -/

theorem synchronizeUntil_of_holds (done : holds client world) (limit : Nat) :
    synchronizeUntil holds limit client world = (.ok 0, client, world) := by
  cases limit with
  | zero => rfl
  | succ limit =>
      simp only [synchronizeUntil, Call.reads, bind, Call.bind, done, if_true]
      rfl

theorem synchronizeUntil_of_undone (undone : holds client world = false) (limit : Nat) :
    synchronizeUntil holds (limit + 1) client world =
      (synchronize >>= fun _ => synchronizeUntil holds limit >>= fun attempts =>
        pure (attempts + 1) : Call σ Nat) client world := by
  simp only [synchronizeUntil, Call.reads, bind, Call.bind, undone, Bool.false_eq_true, if_false]

/-- A stage returns when its limit is used up or, within the limit, when it holds. -/
theorem synchronizeUntil_eq_ok_iff {limit attempts : Nat} :
    synchronizeUntil holds limit client world = (.ok attempts, after, changed) ↔
      Retries holds attempts (client, world) (after, changed) ∧ attempts ≤ limit ∧
        (attempts = limit ∨ holds after changed) := by
  induction limit generalizing client world attempts with
  | zero =>
      constructor
      · rintro ⟨⟩
        exact ⟨.none _, Nat.le_refl 0, .inl rfl⟩
      · rintro ⟨retries, few, -⟩
        cases Nat.le_zero.1 few
        cases retries
        rfl
  | succ limit ih =>
      cases done : holds client world with
      | true =>
          rw [synchronizeUntil_of_holds done]
          constructor
          · rintro ⟨⟩
            exact ⟨.none _, Nat.zero_le _, .inr done⟩
          · rintro ⟨retries, -, -⟩
            cases retries with
            | none => rfl
            | again undone => cases done.symm.trans undone
      | false =>
          rw [synchronizeUntil_of_undone done]
          simp only [Call.bind_eq_ok_iff]
          constructor
          · rintro ⟨⟨⟩, between, middle, through, spent, final, last, remaining, ⟨⟩⟩
            rcases ih.1 remaining with ⟨retries, few, ended⟩
            exact ⟨.again done through retries, Nat.succ_le_succ few,
              ended.imp_left fun same => by rw [same]⟩
          · rintro ⟨retries, few, ended⟩
            cases retries with
            | none =>
                rcases ended with impossible | holding
                · cases impossible
                · cases done.symm.trans holding
            | again _ through rest =>
                have remaining := ih.2 ⟨rest, Nat.le_of_succ_le_succ few,
                  ended.imp_left Nat.succ.inj⟩
                exact ⟨(), _, _, through, _, _, _, remaining, rfl⟩

/-- A stage halts with a barrier that halts, before its limit is used up. -/
theorem synchronizeUntil_eq_error_iff {limit : Nat} :
    synchronizeUntil holds limit client world = (.error reason, after, changed) ↔
      ∃ attempts between middle, attempts < limit ∧
        Retries holds attempts (client, world) (between, middle) ∧
        holds between middle = false ∧
        synchronize between middle = (.error reason, after, changed) := by
  induction limit generalizing client world with
  | zero =>
      constructor
      · intro impossible
        cases impossible
      · rintro ⟨_, _, _, impossible, -⟩
        exact absurd impossible (Nat.not_lt_zero _)
  | succ limit ih =>
      cases done : holds client world with
      | true =>
          rw [synchronizeUntil_of_holds done]
          constructor
          · intro impossible
            cases impossible
          · rintro ⟨_, _, _, -, retries, undone, -⟩
            cases retries with
            | none => cases done.symm.trans undone
            | again earlier => cases done.symm.trans earlier
      | false =>
          rw [synchronizeUntil_of_undone done]
          simp only [Call.bind_eq_error_iff]
          constructor
          · rintro (broken | ⟨⟨⟩, between, middle, through, broken | ⟨_, _, _, -, ⟨⟩⟩⟩)
            · exact ⟨0, client, world, Nat.succ_pos limit, .none _, done, broken⟩
            · rcases ih.1 broken with ⟨attempts, final, last, few, retries, undone, broken⟩
              exact ⟨attempts + 1, final, last, Nat.succ_lt_succ few, .again done through retries,
                undone, broken⟩
          · rintro ⟨attempts, final, last, few, retries, undone, broken⟩
            cases retries with
            | none => exact .inl broken
            | again _ through rest =>
                have remaining := ih.2 ⟨_, final, last, Nat.lt_of_succ_lt_succ few, rest, undone,
                  broken⟩
                exact .inr ⟨(), _, _, through, .inl remaining⟩

/-! ## What is sent -/

/-- A closed client does not get through a barrier, and nothing is sent. -/
theorem synchronize_of_closed (healthy : client.poison = none) (closed : client.transport = none)
    (world : σ) :
    synchronize client world = (.error (.failed (.transport .disconnected)),
      { client with barrier := client.barrier.nextSequence.2 }, world) := by
  rw [synchronize_of_healthy healthy]
  simp [Call.poisoning, Call.onHalt, awaitSync, Call.client, Call.update, Call.transport, bind,
    Call.bind, pure, closed, Barrier.nextSequence]

theorem syncs_synchronize (logs : transport.Logs ledger) (ready : client.Ready transport)
    (world : σ) :
    (ledger (synchronize client world).2.2).countP Request.isSync =
      (ledger world).countP Request.isSync + 1 := by
  rw [synchronize_of_healthy ready.healthy, Call.world_poisoning]
  rcases ledger_awaitSync logs ready.opened world with ⟨others, sent, quiet⟩
  have silent : others.countP Request.isSync = 0 := List.countP_eq_zero.2 quiet
  rw [sent, List.countP_append, List.countP_cons, silent]
  rfl

namespace Retries

variable {attempts : Nat} {first last : Client σ × σ}

/-- Every retry sends one sync and leaves the client ready for the next. -/
theorem sent (retries : Retries holds attempts first last) (logs : transport.Logs ledger)
    (ready : first.1.Ready transport) :
    last.1.Ready transport ∧ (ledger last.2).countP Request.isSync =
      (ledger first.2).countP Request.isSync + attempts := by
  induction retries with
  | none => exact ⟨ready, rfl⟩
  | @again attempts client between world middle last undone through rest ih =>
      have one := syncs_synchronize logs ready world
      rw [through] at one
      rcases ih (ready.of_synchronize (by simp) through) with ⟨stillReady, more⟩
      exact ⟨stillReady, by rw [more, one, Nat.add_assoc, Nat.add_comm 1]⟩

theorem of_closed (retries : Retries holds attempts first last)
    (healthy : first.1.poison = Option.none) (closed : first.1.transport = Option.none) :
    attempts = 0 ∧ last = first := by
  cases retries with
  | none => exact ⟨rfl, rfl⟩
  | again _ through =>
      rw [synchronize_of_closed healthy closed] at through
      cases through

end Retries

/-! ## Both stages -/

/--
The course of a wait that returned. Early on it retries while there is no node id, later while the
endpoint is not ready. What the caller is told is read off where these stages end.
-/
structure Waited (endpoint : Endpoint) (limit early late : Nat) (publication : Publication)
    (first middle last : Client σ × σ) : Prop where
  assigning : Retries (fun client world => (endpointNodeId endpoint client world).isSome) early
    first middle
  showing : Retries (endpointReady endpoint) late middle last
  few : early ≤ limit ∧ late ≤ limit
  attempts : publication.syncAttempts = early + late
  nodeId : publication.nodeId = endpointNodeId endpoint middle.1 middle.2
  ready : publication.ready = endpointReady endpoint last.1 last.2
  unassigned : publication.nodeId = none → early = limit ∧ late = 0 ∧ publication.ready = false
  unready : publication.nodeId.isSome → publication.ready = false → late = limit

/-- The course of a wait that halted with one of its barriers, in either stage. -/
structure Broken (endpoint : Endpoint) (limit early late : Nat) (reason : Halt)
    (first middle last final : Client σ × σ) : Prop where
  assigning : Retries (fun client world => (endpointNodeId endpoint client world).isSome) early
    first middle
  showing : Retries (endpointReady endpoint) late middle last
  few : early + late + 1 ≤ 2 * limit
  broken : synchronize last.1 last.2 = (.error reason, final)

variable {endpoint : Endpoint} {publication : Publication}

theorem endpointReady_of_unassigned (unassigned : endpointNodeId endpoint client world = none) :
    endpointReady endpoint client world = false := by
  simp only [endpointReady, unassigned]

/-- A healthy client goes through the two stages one after the other. -/
theorem waitForEndpoint_of_healthy (healthy : client.poison = none) (endpoint : Endpoint)
    (world : σ) :
    waitForEndpoint endpoint client world =
      (synchronizeUntil (fun client world => (endpointNodeId endpoint client world).isSome)
        client.config.syncRetryLimit.toNat >>= fun early => do
          match ← Call.reads (endpointNodeId endpoint) with
          | none => return { nodeId := none, ready := false, syncAttempts := early }
          | some node =>
            let late ← synchronizeUntil (endpointReady endpoint) client.config.syncRetryLimit.toNat
            let ready ← Call.reads (endpointReady endpoint)
            return { nodeId := some node, ready, syncAttempts := early + late } :
              Call σ Publication) client world := by
  rw [waitForEndpoint, Call.bind_of_ok _ (Call.check_of_healthy healthy world)]
  rfl

theorem waitForEndpoint_eq_ok_iff (healthy : client.poison = none) :
    waitForEndpoint endpoint client world = (.ok publication, after, changed) ↔
      ∃ early late middle, Waited endpoint client.config.syncRetryLimit.toNat early late
        publication (client, world) middle (after, changed) := by
  rw [waitForEndpoint_of_healthy healthy]
  simp only [Call.bind_eq_ok_iff, synchronizeUntil_eq_ok_iff]
  constructor
  · rintro ⟨early, between, middle, ⟨retries, few, ended⟩, returned⟩
    rcases returned with ⟨_, _, _, ⟨⟩, returned⟩
    cases assigned : endpointNodeId endpoint between middle with
    | none =>
        rw [assigned] at returned
        cases returned
        have usedUp : early = client.config.syncRetryLimit.toNat := by
          simpa [assigned] using ended
        exact ⟨early, 0, _, retries, .none _, ⟨few, Nat.zero_le _⟩, rfl,
          assigned.symm, (endpointReady_of_unassigned assigned).symm,
          fun _ => ⟨usedUp, rfl, rfl⟩, nofun⟩
    | some node =>
        simp only [assigned, Call.bind_eq_ok_iff, synchronizeUntil_eq_ok_iff] at returned
        rcases returned with ⟨late, final, last, ⟨more, moreFew, moreEnded⟩, _, _, _, ⟨⟩, ⟨⟩⟩
        refine ⟨early, late, (between, middle), retries, more, ⟨few, moreFew⟩, rfl,
          assigned.symm, rfl, nofun, fun _ unready => ?_⟩
        rcases moreEnded with usedUp | ready
        · exact usedUp
        · cases unready.symm.trans ready
  · rintro ⟨early, late, ⟨between, middle⟩, waited⟩
    refine ⟨early, between, middle, ⟨waited.assigning, waited.few.1, ?_⟩, _, _, _, rfl, ?_⟩
    · cases assigned : endpointNodeId endpoint between middle with
      | none => exact .inl (waited.unassigned (waited.nodeId.trans assigned)).1
      | some node => exact .inr rfl
    · have isNode := waited.nodeId
      rcases publication with ⟨nodeId, ready, attempts⟩
      simp only at isNode
      cases assigned : endpointNodeId endpoint between middle with
      | none =>
          rw [assigned] at isNode
          rcases waited.unassigned isNode with ⟨-, rfl, unready⟩
          cases waited.showing
          cases isNode
          cases unready
          cases waited.attempts
          rfl
      | some node =>
          rw [assigned] at isNode
          cases isNode
          cases waited.attempts
          simp only [Call.bind_eq_ok_iff, synchronizeUntil_eq_ok_iff]
          refine ⟨late, after, changed, ⟨waited.showing, waited.few.2, ?_⟩, _, _, _, rfl, ?_⟩
          · cases shows : endpointReady endpoint after changed with
            | true => exact .inr rfl
            | false => exact .inl (waited.unready rfl (waited.ready.trans shows))
          · rw [show ready = _ from waited.ready]
            rfl

/-- A wait that halts does so with the barrier that halts. -/
theorem broken_of_waitForEndpoint (healthy : client.poison = none)
    (halted : waitForEndpoint endpoint client world = (.error reason, after, changed)) :
    ∃ early late middle last, Broken endpoint client.config.syncRetryLimit.toNat early late reason
      (client, world) middle last (after, changed) := by
  rw [waitForEndpoint_of_healthy healthy, Call.bind_eq_error_iff,
    synchronizeUntil_eq_error_iff] at halted
  rcases halted with ⟨early, between, middle, few, retries, -, broken⟩ |
    ⟨early, between, middle, returned, halted⟩
  · exact ⟨early, 0, _, _, retries, .none _, by omega, broken⟩
  · rcases synchronizeUntil_eq_ok_iff.1 returned with ⟨retries, few, -⟩
    have found : Call.reads (endpointNodeId endpoint) between middle =
        (.ok (endpointNodeId endpoint between middle), between, middle) := rfl
    rw [Call.bind_of_ok _ found] at halted
    cases assigned : endpointNodeId endpoint between middle with
    | none =>
        rw [assigned] at halted
        cases halted
    | some node =>
        simp only [assigned, Call.bind_eq_error_iff, synchronizeUntil_eq_error_iff] at halted
        rcases halted with ⟨late, final, last, moreFew, more, -, broken⟩ | returned
        · exact ⟨early, late, _, _, retries, more, by omega, broken⟩
        · rcases returned with ⟨_, _, _, -, ⟨⟨⟩⟩ | ⟨_, _, _, -, ⟨⟩⟩⟩

theorem waitForEndpoint_of_ready (healthy : client.poison = none)
    (ready : endpointReady endpoint client world) :
    waitForEndpoint endpoint client world =
      (.ok { nodeId := endpointNodeId endpoint client world, ready := true, syncAttempts := 0 },
        client, world) := by
  cases assigned : endpointNodeId endpoint client world with
  | none => cases (endpointReady_of_unassigned assigned).symm.trans ready
  | some node =>
      apply (waitForEndpoint_eq_ok_iff healthy).2
      exact ⟨0, 0, _, .none _, .none _, ⟨Nat.zero_le _, Nat.zero_le _⟩, rfl, assigned.symm,
        ready.symm, nofun, nofun⟩

theorem Broken.sent {limit early late : Nat} {first middle last final : Client σ × σ}
    (broken : Broken endpoint limit early late reason first middle last final)
    (logs : transport.Logs ledger) (ready : first.1.Ready transport) :
    (ledger final.2).countP Request.isSync =
      (ledger first.2).countP Request.isSync + (early + late + 1) := by
  rcases broken.assigning.sent logs ready with ⟨middleReady, assigning⟩
  rcases broken.showing.sent logs middleReady with ⟨lastReady, showing⟩
  have one := syncs_synchronize logs lastReady last.2
  rw [broken.broken] at one
  simp only [one, showing, assigning, Nat.add_assoc]

theorem Waited.sent {limit early late : Nat} {first middle last : Client σ × σ}
    (waited : Waited endpoint limit early late publication first middle last)
    (logs : transport.Logs ledger) (ready : first.1.Ready transport) :
    (ledger last.2).countP Request.isSync =
      (ledger first.2).countP Request.isSync + publication.syncAttempts := by
  rcases waited.assigning.sent logs ready with ⟨middleReady, assigning⟩
  rw [(waited.showing.sent logs middleReady).2, assigning, waited.attempts, Nat.add_assoc]

theorem Waited.of_closed {limit early late : Nat} {first middle last : Client σ × σ}
    (waited : Waited endpoint limit early late publication first middle last)
    (healthy : first.1.poison = none) (closed : first.1.transport = none) :
    publication.syncAttempts = 0 ∧ last = first := by
  rcases waited.assigning.of_closed healthy closed with ⟨rfl, rfl⟩
  rcases waited.showing.of_closed healthy closed with ⟨rfl, rfl⟩
  exact ⟨waited.attempts, rfl⟩

/--
A wait comes to an end after no more barriers than twice the limit, whatever the transport answers.
If it returns, it has made the retries that it reports, each of them one sync, and it tells the
truth about the endpoint. If it halts, it does so with the barrier that halted, and a client that
finds the endpoint ready at once asks for nothing.
-/
theorem waitForEndpoint_bounded (healthy : client.poison = none) (endpoint : Endpoint)
    (world : σ) :
    (∀ publication after changed,
      waitForEndpoint endpoint client world = (.ok publication, after, changed) ↔
        ∃ early late middle, Waited endpoint client.config.syncRetryLimit.toNat early late
          publication (client, world) middle (after, changed)) ∧
    (∀ reason after changed,
      waitForEndpoint endpoint client world = (.error reason, after, changed) →
        ∃ early late middle last, Broken endpoint client.config.syncRetryLimit.toNat early late
          reason (client, world) middle last (after, changed)) ∧
    (∀ transport ledger, client.transport = some transport → transport.Logs ledger →
      (∀ publication after changed,
        waitForEndpoint endpoint client world = (.ok publication, after, changed) →
          (ledger changed).countP Request.isSync =
            (ledger world).countP Request.isSync + publication.syncAttempts) ∧
      ∀ reason after changed,
        waitForEndpoint endpoint client world = (.error reason, after, changed) →
          (ledger changed).countP Request.isSync ≤
            (ledger world).countP Request.isSync + 2 * client.config.syncRetryLimit.toNat) ∧
    (client.transport = none → ∀ publication after changed,
      waitForEndpoint endpoint client world = (.ok publication, after, changed) →
        publication.syncAttempts = 0 ∧ after = client ∧ changed = world) ∧
    (endpointReady endpoint client world → waitForEndpoint endpoint client world =
      (.ok { nodeId := endpointNodeId endpoint client world, ready := true, syncAttempts := 0 },
        client, world)) := by
  refine ⟨fun _ _ _ => waitForEndpoint_eq_ok_iff healthy,
    fun _ _ _ => broken_of_waitForEndpoint healthy, ?_, ?_, waitForEndpoint_of_ready healthy⟩
  · intro transport ledger opened logs
    have ready : client.Ready transport := ⟨opened, healthy⟩
    constructor
    · intro publication after changed returned
      rcases (waitForEndpoint_eq_ok_iff healthy).1 returned with ⟨early, late, middle, waited⟩
      exact waited.sent logs ready
    · intro reason after changed halted
      rcases broken_of_waitForEndpoint healthy halted with ⟨early, late, middle, last, broken⟩
      have sent := broken.sent logs ready
      have few := broken.few
      simp only at sent
      omega
  · intro closed publication after changed returned
    rcases (waitForEndpoint_eq_ok_iff healthy).1 returned with ⟨early, late, middle, waited⟩
    rcases waited.of_closed healthy closed with ⟨none, same⟩
    exact ⟨none, (Prod.mk.inj same).1, (Prod.mk.inj same).2⟩

/-- The node has its id after two syncs, and while a third is waited for its port is told. -/
theorem waitForEndpoint_bounded_script :
    let script : Script :=
      { batches := [.ok [.doneLast], .ok [.doneLast],
          .ok [.event (.global 40 .port),
            .event (.info 40 (.ofList [(Key.nodeId, "7"), (Key.format, midiFormat)])), .doneLast]]
        assignment := some (2, 7) }
    let client : Client Script :=
      { config := { syncRetryLimit := 5 }
        backend := "script"
        transport := some Script.transport
        subscriber := { phase := .listening } }
    let endpoint : Endpoint :=
      { token := 1, name := "synth", ports := [{ token := 2, name := "in", direction := .input }] }
    client.poison = none ∧ ∃ publication after changed early late middle,
      waitForEndpoint endpoint client script = (.ok publication, after, changed) ∧
      publication = { nodeId := some 7, ready := true, syncAttempts := 3 } ∧
      Waited endpoint 5 early late publication (client, script) middle (after, changed) ∧
      changed.requests.countP Request.isSync = 3 := by
  intro script client endpoint
  have healthy : client.poison = none := rfl
  rcases waitForEndpoint_bounded healthy endpoint script with ⟨course, -, sends, -⟩
  have probed : (waitForEndpoint endpoint client script).1.toOption =
      some { nodeId := some 7, ready := true, syncAttempts := 3 } := by
    decide +kernel
  rcases ran : waitForEndpoint endpoint client script with ⟨reason | publication, after, changed⟩
  · rw [ran] at probed
    cases probed
  · rw [ran] at probed
    cases probed
    rcases (course _ after changed).1 ran with ⟨early, late, middle, waited⟩
    have sent := (sends Script.transport Script.requests rfl Script.logs_transport).1 _ after
      changed ran
    exact ⟨healthy, _, after, changed, early, late, middle, rfl, rfl, waited, sent⟩

end Client

end MediaGraph
