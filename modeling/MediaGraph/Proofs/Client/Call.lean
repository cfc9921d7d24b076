import MediaGraph.Client.Loop

/-!
# Relations that calls keep

Many properties of a client say how the state before a call and the state after it are related, and
go from call to call. `Call.Within` says that a call keeps such a relation; the lemmas here take it
through the ways in which calls are put together, down to the turns of the event loop. What they
need for that is little (`Composable`), and other properties of calls have it too.

A call that ends for one of certain reasons may be exempt. A malformed event is such a reason: the
loop stops in the middle of a batch, and only then is the client poisoned.
-/

namespace MediaGraph

def Halt.Never : Halt → Prop := fun _ => False

def Halt.Malformed (reason : Halt) : Prop :=
  ∃ port nodeId, reason = .failed (.malformedEvent port nodeId)

theorem Halt.not_malformed_transport (failure : TransportError) :
    ¬Halt.Malformed (.failed (.transport failure)) := by
  rintro ⟨_, _, impossible⟩
  cases impossible

theorem Halt.not_malformed_stalled : ¬Halt.stalled.Malformed := by
  rintro ⟨_, _, impossible⟩
  cases impossible

namespace Call

variable {σ α β : Type} {exempt : Halt → Prop}
  {Related : Client σ × σ → Client σ × σ → Prop}

/-- The call relates every state to the one that it leaves, unless its end is exempt. -/
def Within (exempt : Halt → Prop) (Related : Client σ × σ → Client σ × σ → Prop)
    (call : Call σ α) : Prop :=
  ∀ client world, (∀ reason, (call client world).1 = .error reason → ¬exempt reason) →
    Related (client, world) (call client world).2

def Still (call : Call σ α) : Prop :=
  ∀ client world, (call client world).2 = (client, world)

/-- With no end exempt, the call relates every state to the one that it leaves. -/
theorem Within.always {call : Call σ α} (within : call.Within Halt.Never Related)
    (client : Client σ) (world : σ) : Related (client, world) (call client world).2 :=
  within client world fun _ _ impossible => impossible

/-- A relation that goes from call to call. -/
structure Composes (Related : Client σ × σ → Client σ × σ → Prop) : Prop where
  refl : ∀ state, Related state state
  trans : ∀ {first second third}, Related first second → Related second third →
    Related first third

/-! ## Calls that leave the state as it is -/

/-- A call that leaves the state as it is, and finds no malformed event with a healthy client. -/
structure Steady (call : Call σ α) : Prop where
  still : call.Still
  sound : ∀ client world reason, client.poison = none →
    (call client world).1 = .error reason → ¬reason.Malformed

theorem steady_pure (value : α) : (pure value : Call σ α).Steady where
  still _ _ := rfl
  sound _ _ _ _ impossible := by cases impossible

theorem steady_halt {reason : Halt} (sound : ¬reason.Malformed) :
    (halt reason : Call σ α).Steady where
  still _ _ := rfl
  sound _ _ _ _ failed := by
    cases failed
    exact sound

theorem steady_fail {error : Error} (sound : ∀ port nodeId, error ≠ .malformedEvent port nodeId) :
    (fail error : Call σ α).Steady := by
  apply steady_halt
  rintro ⟨port, nodeId, same⟩
  exact sound port nodeId (Halt.failed.inj same)

theorem steady_client : (client : Call σ (Client σ)).Steady where
  still _ _ := rfl
  sound _ _ _ _ impossible := by cases impossible

theorem steady_reads (read : Client σ → σ → α) : (reads read).Steady where
  still _ _ := rfl
  sound _ _ _ _ impossible := by cases impossible

theorem steady_transport : (transport : Call σ (Transport σ)).Steady where
  still client world := by
    simp only [transport]
    split <;> rfl
  sound client world reason _ failed := by
    simp only [transport] at failed
    split at failed
    · cases failed
    · cases failed
      exact Halt.not_malformed_transport .disconnected

theorem steady_require {checked : Except Error α}
    (sound : ∀ port nodeId, checked ≠ .error (.malformedEvent port nodeId)) :
    (require checked : Call σ α).Steady := by
  cases checked with
  | ok value => exact steady_pure value
  | error error =>
      apply steady_fail
      rintro port nodeId rfl
      exact sound port nodeId rfl

theorem steady_received (answer : Except TransportError α) :
    (received answer : Call σ α).Steady := by
  cases answer with
  | ok value => exact steady_pure value
  | error error => exact steady_fail nofun

theorem steady_granted {refusal : Error}
    (sound : ∀ port nodeId, refusal ≠ .malformedEvent port nodeId) (answer : Option α) :
    (granted refusal answer : Call σ α).Steady := by
  cases answer with
  | some handle => exact steady_pure handle
  | none => exact steady_fail sound

theorem steady_check : (check : Call σ Unit).Steady where
  still client world := by
    cases poison : client.poison with
    | some error => rw [check_of_poison poison]
    | none => rw [check_of_healthy poison]
  sound client world reason healthy failed := by
    rw [check_of_healthy healthy] at failed
    cases failed

/-- A property of calls that sequences have if their parts do, and steady calls in any case. -/
structure Composable (Holds : ∀ {α : Type}, Call σ α → Prop) : Prop where
  steady : ∀ {α : Type} {call : Call σ α}, call.Steady → Holds call
  bind : ∀ {α β : Type} {first : Call σ α} {next : α → Call σ β}, Holds first →
    (∀ value, Holds (next value)) → Holds (first >>= next)

/-- A sequence returns what its second call returns, after a first call that returned too. -/
theorem bind_eq_ok_iff {first : Call σ α} {next : α → Call σ β} {client after : Client σ}
    {world changed : σ} {result : β} :
    (first >>= next) client world = (.ok result, after, changed) ↔
      ∃ value between middle, first client world = (.ok value, between, middle) ∧
        next value between middle = (.ok result, after, changed) := by
  rcases ran : first client world with ⟨reason | value, between, middle⟩
  · rw [bind_of_error next ran]
    simp
  · rw [bind_of_ok next ran]
    constructor
    · exact fun returned => ⟨value, between, middle, rfl, returned⟩
    · rintro ⟨_, _, _, ⟨⟩, returned⟩
      exact returned

/-! ## How the relation goes through a call -/

theorem Within.of_still (composes : Composes Related) {call : Call σ α} (still : call.Still) :
    call.Within exempt Related := by
  intro client world _
  rw [still client world]
  exact composes.refl (client, world)

/-- It is enough to look at the second call where the first one succeeds, and with its value. -/
theorem Within.bind_of (composes : Composes Related) {first : Call σ α} {next : α → Call σ β}
    (start : first.Within exempt Related)
    (rest : ∀ value before world after changed,
      first before world = (.ok value, after, changed) →
      (∀ reason, (next value after changed).1 = .error reason → ¬exempt reason) →
      Related (after, changed) (next value after changed).2) :
    (first >>= next).Within exempt Related := by
  intro client world permitted
  rcases ran : first client world with ⟨reason | value, after, changed⟩
  · rw [bind_of_error next ran] at permitted ⊢
    have begun := start client world
    rw [ran] at begun
    apply begun
    intro _ failed
    cases failed
    exact permitted reason rfl
  · rw [bind_of_ok next ran] at permitted ⊢
    have begun := start client world
    rw [ran] at begun
    refine composes.trans (begun ?_) (rest value client world after changed ran permitted)
    intro reason failed
    cases failed

theorem Within.bind (composes : Composes Related) {first : Call σ α} {next : α → Call σ β}
    (start : first.Within exempt Related) (rest : ∀ value, (next value).Within exempt Related) :
    (first >>= next).Within exempt Related :=
  .bind_of composes start fun value _ _ after changed _ => rest value after changed

theorem composable_within (composes : Composes Related) :
    Composable fun {α : Type} (call : Call σ α) => call.Within exempt Related where
  steady steady := .of_still composes steady.still
  bind start rest := .bind composes start rest

theorem Within.still_bind (composes : Composes Related) {first : Call σ α} {next : α → Call σ β}
    (still : first.Still) (rest : ∀ value, (next value).Within exempt Related) :
    (first >>= next).Within exempt Related :=
  .bind composes (.of_still composes still) rest

theorem Within.onHalt (composes : Composes Related) {call : Call σ α} {cleanUp : Halt → Call σ Unit}
    (start : call.Within exempt Related)
    (rest : ∀ reason, (cleanUp reason).Within Halt.Never Related) :
    (call.onHalt cleanUp).Within exempt Related := by
  intro client world permitted
  have begun := start client world
  simp only [Call.onHalt] at permitted ⊢
  rcases ran : call client world with ⟨reason | value, after, changed⟩
  · rw [ran] at begun permitted
    refine composes.trans (begun permitted) (rest reason after changed ?_)
    intro _ _ impossible
    exact impossible
  · rw [ran] at begun
    apply begun
    intro reason failed
    cases failed

theorem Within.request (composes : Composes Related) {asked : Request}
    (respects : ∀ client world (transport : Transport σ), client.transport = some transport →
      Related (client, world) (client, (transport.answer asked world).2)) :
    (Call.request asked).Within exempt Related := by
  intro client world _
  cases opened : client.transport with
  | some transport =>
      rw [request_of_open opened]
      exact respects client world transport opened
  | none =>
      rw [request_of_closed opened]
      exact composes.refl (client, world)

theorem Within.update {change : Client σ → Client σ}
    (respects : ∀ client world, Related (client, world) (change client, world)) :
    (Call.update change).Within exempt Related :=
  fun client world _ => respects client world

/-! ## Poisoning -/

theorem poisoning_of_malformed {call : Call σ α} {client after : Client σ} {world changed : σ}
    {port : ObjectId} {nodeId : String}
    (ran : call client world = (.error (.failed (.malformedEvent port nodeId)), after, changed)) :
    call.poisoning client world = (.error (.failed (.malformedEvent port nodeId)),
      { after with poison := some (.malformedEvent port nodeId) }, changed) := by
  simp [poisoning, onHalt, ran, update]

theorem poisoning_of_sound {call : Call σ α} {client : Client σ} {world : σ}
    (sound : ∀ reason, (call client world).1 = .error reason → ¬reason.Malformed) :
    call.poisoning client world = call client world := by
  rcases ran : call client world with ⟨reason | value, after, changed⟩
  · have notMalformed := sound reason (by rw [ran])
    simp only [poisoning, onHalt, ran]
    split
    case h_1 port nodeId => exact absurd ⟨port, nodeId, rfl⟩ notMalformed
    case h_2 => rfl
  · simp only [poisoning, onHalt, ran]

/-- Poisoning makes no difference to a call that does not end with a malformed event. -/
theorem poisoning_eq_iff {call : Call σ α} {client after : Client σ} {world changed : σ}
    {result : Except Halt α} (sound : ∀ reason, result = .error reason → ¬reason.Malformed) :
    call.poisoning client world = (result, after, changed) ↔
      call client world = (result, after, changed) := by
  by_cases malformed : ∃ reason, (call client world).1 = .error reason ∧ reason.Malformed
  · rcases malformed with ⟨_, ended, port, nodeId, rfl⟩
    rcases ran : call client world with ⟨_, next, final⟩
    rw [ran] at ended
    cases ended
    rw [poisoning_of_malformed ran]
    constructor
    · intro same
      cases same
      exact absurd ⟨port, nodeId, rfl⟩ (sound _ rfl)
    · intro same
      cases same
      exact absurd ⟨port, nodeId, rfl⟩ (sound _ rfl)
  · rw [poisoning_of_sound fun reason ended isMalformed => malformed ⟨reason, ended, isMalformed⟩]

theorem world_poisoning (call : Call σ α) (client : Client σ) (world : σ) :
    (call.poisoning client world).2.2 = (call client world).2.2 := by
  rcases ran : call client world with ⟨reason | value, after, changed⟩
  · simp only [poisoning, onHalt, ran]
    split <;> rfl
  · simp only [poisoning, onHalt, ran]

/-! ## The event loop -/

theorem Composable.settle {Holds : ∀ {α : Type}, Call σ α → Prop} (composable : Composable Holds)
    (turn : Holds (Client.turn : Call σ Unit)) (patience : Nat) :
    Holds (Client.settle patience : Call σ Unit) := by
  induction patience with
  | zero =>
      apply composable.bind (composable.steady steady_client)
      intro _
      split
      · exact composable.steady (steady_pure _)
      · exact composable.steady (steady_halt Halt.not_malformed_stalled)
  | succ patience ih =>
      apply composable.bind (composable.steady steady_client)
      intro _
      split
      · exact composable.steady (steady_pure _)
      · exact composable.bind turn fun _ => ih

/-- What waiting for an acknowledgement takes: syncs, turns of the loop and the barrier. -/
structure Waits (Holds : ∀ {α : Type}, Call σ α → Prop) : Prop extends Composable Holds where
  barrier : ∀ change : Client σ → Barrier,
    Holds (update fun client => { client with barrier := change client })
  sync : ∀ sequence, Holds (request (.sync sequence))
  turn : Holds (Client.turn : Call σ Unit)

theorem Waits.awaitSync {Holds : ∀ {α : Type}, Call σ α → Prop} (waits : Waits Holds) :
    Holds (Client.awaitSync : Call σ Unit) := by
  apply waits.bind (waits.steady steady_client)
  intro _
  apply waits.bind (waits.barrier fun _ => _)
  intro _
  apply waits.bind (waits.steady steady_transport)
  intro _
  apply waits.bind (waits.sync _)
  intro _
  apply waits.bind (waits.steady (steady_received _))
  intro reply
  apply waits.bind (waits.barrier fun client => client.barrier.begin reply)
  intro _
  exact waits.bind (waits.steady (steady_reads _)) fun patience =>
    waits.toComposable.settle waits.turn patience

theorem waits_within (composes : Composes Related)
    (barrier : ∀ client world barrier,
      Related (client, world) ({ client with barrier := barrier }, world))
    (sync : ∀ client world (transport : Transport σ) sequence, client.transport = some transport →
      Related (client, world) (client, (transport.answer (.sync sequence) world).2))
    (turn : Client.turn.Within exempt Related) :
    Waits fun {α : Type} (call : Call σ α) => call.Within exempt Related where
  toComposable := composable_within composes
  barrier _ := .update fun client world => barrier client world _
  sync sequence := .request composes fun client world transport opened =>
    sync client world transport sequence opened
  turn := turn

end Call

namespace Client

variable {σ : Type} {client : Client σ} {transport : Transport σ}

theorem turn_of_closed (closed : client.transport = none) (world : σ) :
    turn client world = (.error (.failed (.transport .disconnected)), client, world) := by
  simp [turn, Call.transport, bind, Call.bind, closed]

theorem turn_of_failure (opened : client.transport = some transport) {world changed : σ}
    {failure : TransportError}
    (driven : transport.answer (.drive client.config.loopTimeoutMs.toNat) world =
      (.error failure, changed)) :
    turn client world = (.error (.failed (.transport failure)), client, changed) := by
  simp [turn, Call.transport, Call.client, Call.request, Call.received, Call.fail, Call.halt, bind,
    Call.bind, opened, driven]

/-- A turn that gets a batch applies it, whatever is in it. -/
theorem turn_of_batch (opened : client.transport = some transport) {world changed : σ}
    {events : List Event}
    (driven : transport.answer (.drive client.config.loopTimeoutMs.toNat) world =
      (.ok events, changed)) :
    turn client world = applyBatch transport events
      { client with barrier := client.barrier.recordIteration } changed := by
  simp [turn, Call.transport, Call.client, Call.request, Call.received, Call.update, bind,
    Call.bind, pure, opened, driven]

/-! ## Barriers -/

theorem settle_of_complete (complete : client.barrier.complete = true) (patience : Nat)
    (world : σ) : settle patience client world = (.ok (), client, world) := by
  cases patience <;> simp [settle, Call.client, bind, Call.bind, pure, complete]

theorem settle_zero (incomplete : client.barrier.complete = false) (world : σ) :
    settle 0 client world = (.error .stalled, client, world) := by
  simp [settle, Call.client, Call.halt, bind, Call.bind, incomplete]

theorem settle_succ (incomplete : client.barrier.complete = false) (patience : Nat) (world : σ) :
    settle (patience + 1) client world =
      (turn >>= fun _ => settle patience : Call σ Unit) client world := by
  simp [settle, Call.client, bind, Call.bind, incomplete]

/-- A sync that cannot be sent uses up its number and does nothing else. -/
theorem awaitSync_of_failure {world changed : σ} {failure : TransportError}
    (opened : client.transport = some transport)
    (answered : transport.answer (.sync client.barrier.next) world = (.error failure, changed)) :
    awaitSync client world = (.error (.failed (.transport failure)),
      { client with barrier := client.barrier.nextSequence.2 }, changed) := by
  simp [awaitSync, Call.client, Call.update, Call.transport, Call.request, Call.received, Call.fail,
    Call.halt, bind, Call.bind, opened, Barrier.nextSequence, answered]

/-- Once the sync has been sent, the loop is turned until the number it came back with is told. -/
theorem awaitSync_of_reply {world changed : σ} {reply : UInt32}
    (opened : client.transport = some transport)
    (answered : transport.answer (.sync client.barrier.next) world = (.ok reply, changed)) :
    awaitSync client world = settle (transport.patience changed)
      { client with barrier := client.barrier.nextSequence.2.begin reply } changed := by
  simp [awaitSync, Call.client, Call.update, Call.transport, Call.request, Call.received,
    Call.reads, bind, Call.bind, pure, opened, Barrier.nextSequence, answered]

theorem synchronize_of_healthy (healthy : client.poison = none) (world : σ) :
    synchronize client world = Call.poisoning awaitSync client world := by
  rw [synchronize, Call.bind_of_ok _ (Call.check_of_healthy healthy world)]

/-- A relation holds across a turn if it holds across driving the transport and across a batch. -/
theorem within_turn {exempt : Halt → Prop} {Related : Client σ × σ → Client σ × σ → Prop}
    (composes : Call.Composes Related)
    (driving : ∀ client world (transport : Transport σ) timeout, client.transport = some transport →
      Related (client, world) (client, (transport.answer (.drive timeout) world).2))
    (barrier : ∀ client world barrier,
      Related (client, world) ({ client with barrier := barrier }, world))
    (batch : ∀ client world (transport : Transport σ) events, client.transport = some transport →
      Related (client, world) (applyBatch transport events client world).2) :
    (turn : Call σ Unit).Within exempt Related := by
  intro client world _
  cases opened : client.transport with
  | none =>
      rw [turn_of_closed opened]
      exact composes.refl (client, world)
  | some transport =>
      have driven := driving client world transport client.config.loopTimeoutMs.toNat opened
      rcases answered : transport.answer (.drive client.config.loopTimeoutMs.toNat) world with
        ⟨failure | events, changed⟩
      · rw [turn_of_failure opened answered]
        rw [answered] at driven
        exact driven
      · rw [turn_of_batch opened answered]
        rw [answered] at driven
        exact composes.trans driven (composes.trans (barrier client changed _)
          (batch { client with barrier := client.barrier.recordIteration } changed transport events
            opened))

end Client

end MediaGraph
