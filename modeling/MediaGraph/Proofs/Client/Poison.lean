import MediaGraph.Proofs.Client.Acknowledgement
import MediaGraph.Proofs.Client.Invocation
import Mathlib.Logic.Relation

/-!
# Poisoning

A healthy client goes on through batches that are applied as a whole (`Proceeds`). It trips over the
first event that is rejected (`Trips`): the events before it have been applied, the rest of the
batch is dropped, and the client is poisoned. This is the only way to become poisoned and the only
way for a call to end with a malformed event, however deep inside the call the loop was turned, and
whatever the call still takes back (`Ending`). All this holds for every transport, also for one that
records what it is asked and what it answers.

A poisoned client stays poisoned, by the same event. All that it does from then on is to take back
what it has asked for (`Inert`).
-/

namespace MediaGraph

def Request.isDrive : Request → Bool
  | drive _ => true
  | _ => false

/-- The requests that take back a proxy or a local node. -/
def Request.takesBack : Request → Bool
  | destroyProxy _ | destroyNode _ => true
  | _ => false

theorem Request.not_isDrive_of_takesBack {request : Request} (back : request.takesBack) :
    ¬request.isDrive := by
  cases request <;> simp_all [takesBack, isDrive]

theorem Request.not_isDrive_of_isPlain {request : Request} (plain : request.isPlain) :
    ¬request.isDrive := by
  cases request <;> simp_all [isPlain, isDrive]

namespace Client

variable {σ : Type}

/-! ## What a client does while nothing is rejected -/

/-- A client that has not been poisoned and listens to ports only while it listens to the server. -/
structure Healthy (client : Client σ) : Prop where
  clean : client.poison = none
  attentive : client.subscriber.Attentive

/-- A proxy or a local node is taken back. -/
inductive Returns : Client σ × σ → Client σ × σ → Prop where
  | asked {client : Client σ} {transport : Transport σ} (request : Request) (world : σ) :
    client.transport = some transport → request.takesBack →
    Returns (client, world) (client, (transport.answer request world).2)
  | forgotten (client : Client σ) (world : σ) (nodes : List NodeToken) :
    Returns (client, world) ({ client with localNodes := nodes }, world)

/-- The client does one thing, and no event is rejected: a batch is applied as a whole. -/
inductive Advances : Client σ × σ → Client σ × σ → Prop where
  | asked {client : Client σ} {transport : Transport σ} (request : Request) (world : σ) :
    client.transport = some transport → ¬request.isDrive →
    Advances (client, world) (client, (transport.answer request world).2)
  | starved {client : Client σ} {transport : Transport σ} {world fetched : σ}
    {failure : TransportError} : client.transport = some transport →
    transport.answer (.drive client.config.loopTimeoutMs.toNat) world = (.error failure, fetched) →
    Advances (client, world) (client, fetched)
  | batch {client next : Client σ} {transport : Transport σ} {world fetched applied : σ}
    {events : List Event} : client.transport = some transport →
    transport.answer (.drive client.config.loopTimeoutMs.toNat) world = (.ok events, fetched) →
    deliverAll transport events { client with barrier := client.barrier.recordIteration } fetched =
      (none, next, applied) →
    Advances (client, world) (next.notify, applied)
  | barrier (client : Client σ) (world : σ) (barrier : Barrier) :
    Advances (client, world) ({ client with barrier := barrier }, world)
  | localNodes (client : Client σ) (world : σ) (nodes : List NodeToken) :
    Advances (client, world) ({ client with localNodes := nodes }, world)
  | observed (client : Client σ) (world : σ) (observer : Observer) :
    Advances (client, world) (client.observe observer, world)
  | closed (client : Client σ) (world : σ) : Advances (client, world) (client.close world)

def Proceeds : Client σ × σ → Client σ × σ → Prop := Relation.ReflTransGen Advances

def Withdraws : Client σ × σ → Client σ × σ → Prop := Relation.ReflTransGen Returns

theorem Withdraws.proceeds {first last : Client σ × σ} (withdraws : Withdraws first last) :
    Proceeds first last := by
  apply Relation.ReflTransGen.mono ?_ _ _ withdraws
  intro before after returns
  cases returns with
  | asked request world opened back =>
      exact .asked request world opened (Request.not_isDrive_of_takesBack back)
  | forgotten client world nodes => exact .localNodes client world nodes

/-- Taking things back touches neither the poison nor the subscriber. -/
theorem Withdraws.frame {first last : Client σ × σ} (withdraws : Withdraws first last) :
    last.1.poison = first.1.poison ∧ last.1.subscriber = first.1.subscriber := by
  induction withdraws with
  | refl => exact ⟨rfl, rfl⟩
  | tail _ returns ih => cases returns <;> exact ih

theorem Advances.healthy {first last : Client σ × σ} (advances : Advances first last)
    (healthy : first.1.Healthy) : last.1.Healthy := by
  cases advances with
  | asked | starved => exact healthy
  | barrier | localNodes | observed => exact ⟨healthy.clean, healthy.attentive⟩
  | batch opened driven delivered =>
      have frame := frame_of_delivered delivered
      have attentive := attentive_of_delivered delivered healthy.attentive
      refine ⟨?_, attentive⟩
      show _ = none
      rw [notify, frame]
      exact healthy.clean
  | closed client world =>
      simp only [close]
      split
      case h_1 => exact healthy
      case h_2 transport opened =>
        refine ⟨healthy.clean, ?_⟩
        intro id listens
        cases listens

theorem Proceeds.healthy {first last : Client σ × σ} (proceeds : Proceeds first last)
    (healthy : first.1.Healthy) : last.1.Healthy := by
  induction proceeds with
  | refl => exact healthy
  | tail _ advances ih => exact advances.healthy ih

/-! ## How a call ends -/

/--
The loop is handed a batch with an event that is rejected by what the events before it have led to.
These events are applied and told to the observers; nothing becomes of the rest.
-/
inductive Trips (malformed : MalformedNode) : Client σ × σ → Client σ × σ → Prop where
  | batch {client next : Client σ} {transport : Transport σ} {world fetched applied : σ}
    {early late : List Event} {event : Event} : client.transport = some transport →
    transport.answer (.drive client.config.loopTimeoutMs.toNat) world =
      (.ok (early ++ event :: late), fetched) →
    deliverAll transport early { client with barrier := client.barrier.recordIteration } fetched =
      (none, next, applied) →
    next.subscriber.Rejects event malformed →
    Trips malformed (client, world) (next.notify, applied)

/--
How a call ends that found the client healthy. Either nothing was rejected, or the client tripped;
then the call ends with the malformed event, and what else it does afterwards is left open here.
-/
inductive Ending {α : Type} (Aftermath : MalformedNode → Client σ × σ → Client σ × σ → Prop)
    (start : Client σ × σ) : Except Halt α × Client σ × σ → Prop where
  | sound {result : Except Halt α} {final : Client σ × σ} (proceeds : Proceeds start final)
    (healthy : final.1.Healthy) (sound : ∀ reason, result = .error reason → ¬reason.Malformed) :
    Ending Aftermath start (result, final)
  | tripped {malformed : MalformedNode} {middle stop final : Client σ × σ}
    (proceeds : Proceeds start middle) (trips : Trips malformed middle stop)
    (aftermath : Aftermath malformed stop final) :
    Ending Aftermath start (.error (.failed (.ofMalformed malformed)), final)

theorem Ending.returned {α : Type}
    {Aftermath : MalformedNode → Client σ × σ → Client σ × σ → Prop} {start final : Client σ × σ}
    (value : α) (proceeds : Proceeds start final) (healthy : final.1.Healthy) :
    Ending Aftermath start (.ok value, final) := by
  apply Ending.sound proceeds healthy
  intro _ impossible
  cases impossible

theorem Ending.after {α : Type} {Aftermath : MalformedNode → Client σ × σ → Client σ × σ → Prop}
    {start middle : Client σ × σ} {outcome : Except Halt α × Client σ × σ}
    (ending : Ending Aftermath middle outcome) (proceeds : Proceeds start middle) :
    Ending Aftermath start outcome := by
  cases ending with
  | sound further healthy sound => exact .sound (proceeds.trans further) healthy sound
  | tripped further trips aftermath => exact .tripped (proceeds.trans further) trips aftermath

def poisonedBy (client : Client σ) (malformed : MalformedNode) : Client σ :=
  { client with poison := some (.ofMalformed malformed) }

/-- The call ends where the client tripped. -/
def Abandoned (_ : MalformedNode) (stop final : Client σ × σ) : Prop := final = stop

/-- The client is poisoned, and no more happens than that things are taken back. -/
structure Latched (malformed : MalformedNode) (stop final : Client σ × σ) : Prop where
  poison : final.1.poison = some (.ofMalformed malformed)
  subscriber : final.1.subscriber = stop.1.subscriber
  withdraws : Withdraws (stop.1.poisonedBy malformed, stop.2) final

theorem Latched.after {malformed : MalformedNode} {stop middle final : Client σ × σ}
    (latched : Latched malformed stop middle) (withdraws : Withdraws middle final) :
    Latched malformed stop final where
  poison := withdraws.frame.1.trans latched.poison
  subscriber := withdraws.frame.2.trans latched.subscriber
  withdraws := latched.withdraws.trans withdraws

end Client

namespace Call

open Client

variable {σ α β : Type} {Aftermath : MalformedNode → Client σ × σ → Client σ × σ → Prop}

/-- Every healthy client ends the call in one of the two ways. -/
def Ends (Aftermath : MalformedNode → Client σ × σ → Client σ × σ → Prop) (call : Call σ α) :
    Prop :=
  ∀ client world, client.Healthy → Ending Aftermath (client, world) (call client world)

theorem Ends.of_steady {call : Call σ α} (steady : call.Steady) : call.Ends Aftermath := by
  intro client world healthy
  rcases ran : call client world with ⟨result, final⟩
  have still := steady.still client world
  rw [ran] at still
  subst still
  apply Ending.sound .refl healthy
  intro reason failed
  apply steady.sound client world reason healthy.clean
  rw [ran]
  exact failed

theorem Ends.bind {first : Call σ α} {next : α → Call σ β} (start : first.Ends Aftermath)
    (rest : ∀ value, (next value).Ends Aftermath) : (first >>= next).Ends Aftermath := by
  intro client world healthy
  have begun := start client world healthy
  rcases ran : first client world with ⟨reason | value, after, changed⟩
  · rw [bind_of_error next ran]
    rw [ran] at begun
    cases begun with
    | sound proceeds healthy sound =>
        apply Ending.sound proceeds healthy
        intro _ same
        cases same
        exact sound reason rfl
    | tripped proceeds trips aftermath => exact .tripped proceeds trips aftermath
  · rw [bind_of_ok next ran]
    rw [ran] at begun
    cases begun with
    | sound proceeds healthy _ => exact (rest value after changed healthy).after proceeds

theorem composable_ends (Aftermath : MalformedNode → Client σ × σ → Client σ × σ → Prop) :
    Composable fun {α : Type} (call : Call σ α) => call.Ends Aftermath where
  steady := .of_steady
  bind := .bind

theorem Ends.of_ok {call : Call σ α}
    (returns : ∀ client world, ∃ value, (call client world).1 = .ok value)
    (proceeds : ∀ client world, Proceeds (client, world) (call client world).2) :
    call.Ends Aftermath := by
  intro client world healthy
  have went := proceeds client world
  rcases returns client world with ⟨value, returned⟩
  rcases ran : call client world with ⟨result, final⟩
  rw [ran] at returned went
  subst returned
  exact .returned value went (went.healthy healthy)

theorem Ends.update {change : Client σ → Client σ}
    (advances : ∀ client world, Advances (client, world) (change client, world)) :
    (Call.update change).Ends Aftermath :=
  .of_ok (fun _ _ => ⟨(), rfl⟩) fun client world => .single (advances client world)

theorem Ends.request {asked : Request} (quiet : ¬asked.isDrive) :
    (Call.request asked : Call σ asked.Answer).Ends Aftermath := by
  intro client world healthy
  cases opened : client.transport with
  | some transport =>
      rw [request_of_open opened]
      exact .returned _ (.single (.asked asked world opened quiet)) healthy
  | none =>
      rw [request_of_closed opened]
      apply Ending.sound .refl healthy
      rintro _ ⟨⟩
      exact Halt.not_malformed_transport .disconnected

/-! ## Turns and barriers -/

theorem ends_turn : (Client.turn : Call σ Unit).Ends Abandoned := by
  intro client world healthy
  cases opened : client.transport with
  | none =>
      rw [turn_of_closed opened]
      apply Ending.sound .refl healthy
      rintro _ ⟨⟩
      exact Halt.not_malformed_transport .disconnected
  | some transport =>
      rcases driven : transport.answer (.drive client.config.loopTimeoutMs.toNat) world with
        ⟨failure | events, fetched⟩
      · rw [turn_of_failure opened driven]
        apply Ending.sound (.single (.starved opened driven)) healthy
        rintro _ ⟨⟩
        exact Halt.not_malformed_transport failure
      · rw [turn_of_batch opened driven, applyBatch]
        split
        case h_1 next applied delivered =>
          have advances := Advances.batch opened driven delivered
          exact .returned () (.single advances) (advances.healthy healthy)
        case h_2 malformed next applied delivered =>
          rcases (deliverAll_eq_some_iff (by exact healthy.attentive)).1 delivered with
            ⟨early, event, late, rfl, ran, rejects⟩
          exact .tripped .refl (.batch opened driven ran rejects) rfl

theorem ends_awaitSync : (Client.awaitSync : Call σ Unit).Ends Abandoned :=
  Waits.awaitSync
    { toComposable := composable_ends Abandoned
      barrier := fun _ => .update fun client world => .barrier client world _
      sync := fun _ => .request Bool.false_ne_true
      turn := ends_turn }

/-- Poisoning latches the event that the client tripped over. -/
theorem Ends.poisoning {call : Call σ α} (ends : call.Ends Abandoned) :
    call.poisoning.Ends Latched := by
  intro client world healthy
  have ending := ends client world healthy
  rcases ran : call client world with ⟨result, final⟩
  rw [ran] at ending
  cases ending with
  | sound proceeds stillHealthy sound =>
      rw [poisoning_of_sound (by rw [ran]; exact sound), ran]
      exact .sound proceeds stillHealthy sound
  | tripped proceeds trips aftermath =>
      -- The call was abandoned where the client tripped, so nothing comes before the latch.
      subst aftermath
      rw [poisoning_of_malformed ran]
      exact .tripped proceeds trips ⟨rfl, rfl, .refl⟩

theorem ends_pump : (Client.pump : Call σ Unit).Ends Latched :=
  .bind (.of_steady steady_check) fun _ => ends_turn.poisoning

theorem ends_synchronize : (Client.synchronize : Call σ Unit).Ends Latched :=
  .bind (.of_steady steady_check) fun _ => ends_awaitSync.poisoning

/-! ## Every invocation -/

theorem withdraws_dropProxy (proxy : ProxyId) (client : Client σ) (world : σ) :
    Withdraws (client, world) (Client.dropProxy proxy client world).2 := by
  simp only [Client.dropProxy]
  split
  case h_1 transport opened => exact .single (.asked _ world opened rfl)
  case h_2 => exact .refl

theorem withdraws_closeEndpoint (endpoint : Endpoint) (client : Client σ) (world : σ) :
    Withdraws (client, world) (Client.closeEndpoint endpoint client world).2 := by
  have forgotten := Returns.forgotten client world
    (client.localNodes.filter (· ≠ endpoint.token))
  simp only [Client.closeEndpoint]
  split
  case h_1 transport opened => exact .tail (.single forgotten) (.asked _ world opened rfl)
  case h_2 => exact .single forgotten

/-- A failure that is answered by taking something back is still the same failure. -/
theorem Ends.onHalt {call : Call σ α} {cleanUp : Halt → Call σ Unit} (ends : call.Ends Latched)
    (withdraws : ∀ reason client world,
      Withdraws (client, world) (cleanUp reason client world).2) :
    (call.onHalt cleanUp).Ends Latched := by
  intro client world healthy
  have ending := ends client world healthy
  simp only [Call.onHalt]
  rcases ran : call client world with ⟨reason | value, after, changed⟩
  · rw [ran] at ending
    have withdrawn := withdraws reason after changed
    cases ending with
    | sound proceeds stillHealthy sound =>
        exact .sound (proceeds.trans withdrawn.proceeds)
          (withdrawn.proceeds.healthy stillHealthy) sound
    | tripped proceeds trips latched => exact .tripped proceeds trips (latched.after withdrawn)
  · rw [ran] at ending
    exact ending

theorem pervasive_ends :
    Pervasive fun {α : Type} (call : Call σ α) => call.Ends Latched where
  toComposable := composable_ends Latched
  plain _ plain := .request (Request.not_isDrive_of_isPlain plain)
  enlist _ := .update fun client world => .localNodes client world _
  closeEndpoint endpoint := by
    apply Ends.of_ok
    · intro client world
      simp only [Client.closeEndpoint]
      split <;> exact ⟨(), rfl⟩
    · exact fun client world => (withdraws_closeEndpoint endpoint client world).proceeds
  closing endpoint ends := ends.onHalt fun _ => withdraws_closeEndpoint endpoint
  pump := ends_pump
  synchronize := ends_synchronize
  createLink _ _ := (composable_ends Latched).createLink (.request Bool.false_ne_true)
    fun proxy => ends_synchronize.onHalt fun _ => withdraws_dropProxy proxy
  observe observer := .update fun client world => .observed client world observer
  close := .of_ok (fun _ _ => ⟨none, rfl⟩) fun client world => .single (.closed client world)

theorem ends_destroyLink (link : Link) : (Client.destroyLink link : Call σ Unit).Ends Latched := by
  apply Ends.of_ok
  · intro client world
    simp only [Client.destroyLink, Client.dropProxy]
    split <;> exact ⟨(), rfl⟩
  · exact fun client world => (withdraws_dropProxy link.proxy client world).proceeds

theorem ends_invocation (invocation : Invocation) :
    (invocation.call : Call σ (Option Link)).Ends Latched :=
  pervasive_ends.invocation invocation fun link _ => ends_destroyLink link

end Call

/-! ## The loop always trips -/

namespace Client

variable {σ : Type} {client current : Client σ} {transport : Transport σ} {world changed : σ}
  {middle stop : Client σ × σ} {malformed : MalformedNode} {error : Error}

theorem turn_of_trips (attentive : client.subscriber.Attentive)
    (trips : Trips malformed (client, world) stop) :
    turn client world = (.error (.failed (.ofMalformed malformed)), stop) := by
  cases trips with
  | @batch _ _ _ _ _ _ early late event opened driven delivered rejects =>
      have failed := (deliverAll_eq_some_iff (by exact attentive)).2
        ⟨early, event, late, rfl, delivered, rejects⟩
      rw [turn_of_batch opened driven, applyBatch, failed]

theorem settle_of_trips {reply : UInt32} {batches : List (List Event)} {patience : Nat}
    (awaits : client.Awaits transport reply) (attentive : client.subscriber.Attentive)
    (turns : Turns transport batches (client, world) middle)
    (stale : ∀ batch ∈ batches, .done reply ∉ batch) (short : batches.length < patience)
    (trips : Trips malformed middle stop) :
    settle patience client world = (.error (.failed (.ofMalformed malformed)), stop) := by
  induction batches generalizing client world patience with
  | nil =>
      rcases Nat.exists_eq_add_one_of_ne_zero (Nat.ne_of_gt short) with ⟨patience, rfl⟩
      cases turns
      rw [settle_succ awaits.incomplete]
      exact Call.bind_of_error _ (turn_of_trips attentive trips)
  | cons events rest ih =>
      -- A batch that does not acknowledge the number is one turn, and the client waits on.
      rcases Nat.exists_eq_add_one_of_ne_zero (Nat.ne_zero_of_lt short) with ⟨patience, rfl⟩
      rcases turns with _ | ⟨driven, delivered, turns⟩
      rcases List.forall_mem_cons.1 stale with ⟨unacknowledged, stale⟩
      have turned := (turn_eq_ok_iff awaits.opened).2 ⟨_, _, _, driven, delivered, rfl⟩
      have waits := awaits.waits delivered unacknowledged
      have stillAttentive := attentive_of_delivered delivered attentive
      rw [settle_succ awaits.incomplete, Call.bind_of_ok _ turned]
      apply ih waits stillAttentive turns stale
      rw [List.length_cons] at short
      omega

theorem pump_of_trips (healthy : client.Healthy) (trips : Trips malformed (client, world) stop) :
    pump client world =
      (.error (.failed (.ofMalformed malformed)), stop.1.poisonedBy malformed, stop.2) := by
  rw [pump, Call.bind_of_ok _ (Call.check_of_healthy healthy.clean world)]
  exact Call.poisoning_of_malformed (turn_of_trips healthy.attentive trips)

theorem synchronize_of_trips {reply : UInt32} {batches : List (List Event)}
    (healthy : client.Healthy) (opened : client.transport = some transport)
    (replied : transport.answer (.sync client.barrier.next) world = (.ok reply, changed))
    (turns : Turns transport batches
      ({ client with barrier := client.barrier.nextSequence.2.begin reply }, changed) middle)
    (stale : ∀ batch ∈ batches, .done reply ∉ batch)
    (short : batches.length < transport.patience changed) (trips : Trips malformed middle stop) :
    synchronize client world =
      (.error (.failed (.ofMalformed malformed)), stop.1.poisonedBy malformed, stop.2) := by
  have ready : client.Ready transport := ⟨opened, healthy.clean⟩
  have awaited : awaitSync client world = (.error (.failed (.ofMalformed malformed)), stop) := by
    rw [awaitSync_of_reply opened replied]
    exact settle_of_trips (ready.awaits reply) healthy.attentive turns stale short trips
  rw [synchronize_of_healthy healthy.clean]
  exact Call.poisoning_of_malformed awaited

/--
A client that is not poisoned. Its calls end in one of the two ways, and when the loop is turned it
trips over every event that is rejected.
-/
structure Alert (client : Client σ) : Prop where
  ending : ∀ (invocation : Invocation) world,
    Ending Latched (client, world) (invocation.call client world)
  pump : ∀ world malformed stop, Trips malformed (client, world) stop →
    client.pump world =
      (.error (.failed (.ofMalformed malformed)), stop.1.poisonedBy malformed, stop.2)
  synchronize : ∀ transport world reply answered batches middle malformed stop,
    client.transport = some transport →
    transport.answer (.sync client.barrier.next) world = (.ok reply, answered) →
    Turns transport batches
      ({ client with barrier := client.barrier.nextSequence.2.begin reply }, answered) middle →
    (∀ batch ∈ batches, .done reply ∉ batch) → batches.length < transport.patience answered →
    Trips malformed middle stop →
    client.synchronize world =
      (.error (.failed (.ofMalformed malformed)), stop.1.poisonedBy malformed, stop.2)

theorem Healthy.alert (healthy : client.Healthy) : client.Alert where
  ending invocation world := Call.ends_invocation invocation client world healthy
  pump _ _ _ trips := pump_of_trips healthy trips
  synchronize _ _ _ _ _ _ _ _ opened replied turns stale short trips :=
    synchronize_of_trips healthy opened replied turns stale short trips

end Client

/-! ## What is left of a poisoned client -/

/-- The calls that ask for something; all of them look at the poison first. -/
def Invocation.isGuarded : Invocation → Bool
  | pump | synchronize | createLink .. | linkByName .. | createEndpoint _ | addPort ..
  | renamePort .. | removePort .. | activate _ | waitForEndpoint _ | publish .. => true
  | destroyLink _ | closeEndpoint _ | observe _ | close => false

/-- The calls that take back what was asked for. -/
def Invocation.isTeardown : Invocation → Bool
  | destroyLink _ | closeEndpoint _ | close => true
  | _ => false

namespace Client

variable {σ : Type} {client current : Client σ} {error : Error}

theorem refused_of_poison {α β : Type} (poisoned : client.poison = some error) (world : σ)
    (next : Unit → Call σ α) (further : α → Call σ β) :
    ((Call.check >>= next) >>= further) client world = (.error (.failed error), client, world) :=
  Call.bind_of_error _ (Call.bind_of_error _ (Call.check_of_poison poisoned world))

theorem call_of_guarded {invocation : Invocation} (poisoned : client.poison = some error)
    (guarded : invocation.isGuarded) (world : σ) :
    invocation.call client world = (.error (.failed error), client, world) := by
  cases invocation with
  | destroyLink | closeEndpoint | observe | close => cases guarded
  | _ => exact refused_of_poison poisoned world _ _

theorem frame_close (client : Client σ) (world : σ) :
    (client.close world).1.poison = client.poison ∧
      (client.close world).1.graph = client.graph := by
  simp only [close]
  split <;> exact ⟨rfl, rfl⟩

/-- No call undoes the poisoning or changes the graph of a poisoned client. -/
theorem poison_of_call (poisoned : client.poison = some error) (invocation : Invocation)
    (world : σ) :
    (invocation.call client world).2.1.poison = some error ∧
      (invocation.call client world).2.1.graph = client.graph := by
  cases invocation with
  | destroyLink link =>
      rw [Invocation.call, Call.state_withoutLink, ← poisoned]
      have frame := (Call.withdraws_dropProxy link.proxy client world).frame
      exact ⟨frame.1, congrArg Subscriber.graph frame.2⟩
  | closeEndpoint endpoint =>
      rw [Invocation.call, Call.state_withoutLink, ← poisoned]
      have frame := (Call.withdraws_closeEndpoint endpoint client world).frame
      exact ⟨frame.1, congrArg Subscriber.graph frame.2⟩
  | observe observer => exact ⟨poisoned, rfl⟩
  | close =>
      rw [← poisoned]
      exact frame_close client world
  | _ =>
      rw [call_of_guarded poisoned rfl]
      exact ⟨poisoned, rfl⟩

theorem world_of_call (poisoned : client.poison = some error) {invocation : Invocation}
    (further : ¬invocation.isTeardown) (world : σ) :
    (invocation.call client world).2.2 = world := by
  cases invocation with
  | destroyLink | closeEndpoint | close => exact absurd rfl further
  | observe => rfl
  | _ => rw [call_of_guarded poisoned rfl]

theorem Reaches.poisoned {later : Client σ} (reached : client.Reaches later)
    (poisoned : client.poison = some error) :
    later.poison = some error ∧ later.graph = client.graph := by
  induction reached with
  | refl => exact ⟨poisoned, rfl⟩
  | call _ invocation world ih =>
      rcases ih with ⟨still, graph⟩
      rcases poison_of_call still invocation world with ⟨remains, same⟩
      exact ⟨remains, same.trans graph⟩

/-- A client that was poisoned at some time, and what can still be done with it. -/
structure Inert (error : Error) (poisoned later : Client σ) : Prop where
  poison : later.poison = some error
  graph : later.graph = poisoned.graph
  descriptor : ∀ world, later.descriptor world = none
  refused : ∀ (invocation : Invocation) world, invocation.isGuarded →
    invocation.call later world = (.error (.failed error), later, world)
  /-- Nothing but a teardown reaches the transport. -/
  silent : ∀ (invocation : Invocation) world, ¬invocation.isTeardown →
    (invocation.call later world).2.2 = world

theorem Reaches.inert {later : Client σ} (reached : client.Reaches later)
    (poisoned : client.poison = some error) : Inert error client later := by
  rcases reached.poisoned poisoned with ⟨poison, graph⟩
  refine ⟨poison, graph, ?_, ?_, ?_⟩
  · intro world
    simp [descriptor, isPoisoned, poison]
  · exact fun invocation world guarded => call_of_guarded poison guarded world
  · exact fun invocation world further => world_of_call poison further world

/-! ## Runs -/

/-- A client is healthy, or poisoned by an event. -/
def Settled (client : Client σ) : Prop :=
  client.Healthy ∨ ∃ malformed, client.poison = some (.ofMalformed malformed)

theorem Ending.settled {α : Type} {start final : Client σ × σ} {result : Except Halt α}
    (ending : Ending Latched start (result, final)) : final.1.Settled := by
  cases ending with
  | sound _ healthy _ => exact .inl healthy
  | tripped _ _ latched => exact .inr ⟨_, latched.poison⟩

theorem Reaches.settled (reached : client.Reaches current) (settled : client.Settled) :
    current.Settled := by
  induction reached with
  | refl => exact settled
  | call _ invocation world ih =>
      rcases ih with healthy | ⟨malformed, poisoned⟩
      · exact (Call.ends_invocation invocation _ world healthy).settled
      · exact .inr ⟨malformed, (poison_of_call poisoned invocation world).1⟩

/-! ## Opening -/

theorem Ending.healthy_of_ok {α : Type}
    {Aftermath : MalformedNode → Client σ × σ → Client σ × σ → Prop}
    {start final : Client σ × σ} {value : α} (ending : Ending Aftermath start (.ok value, final)) :
    final.1.Healthy := by
  cases ending with
  | sound _ healthy _ => exact healthy

theorem healthy_of_subscribe {after : Client σ} {world changed : σ} (healthy : client.Healthy)
    (ran : subscribe client world = (.ok (), after, changed)) : after.Healthy := by
  cases opened : client.transport with
  | none => simp [subscribe, Call.transport, bind, Call.bind, opened] at ran
  | some transport =>
      simp only [subscribe, Call.transport, bind, Call.bind, opened, Subscriber.start] at ran
      split at ran
      case h_2 => cases ran
      case h_1 subscriber final started =>
        cases ran
        refine ⟨healthy.clean, ?_⟩
        split at started
        · split at started
          · cases started
            exact fun _ _ => rfl
          · cases started
        · cases started
          exact healthy.attentive
        · cases started
          exact healthy.attentive

theorem healthy_of_connect {backend : Backend σ} {config : Config} {observers : List Observer}
    {world opened : σ} (connected : connect backend config observers world = (.ok client, opened)) :
    client.Healthy := by
  simp only [connect] at connected
  split at connected
  case h_1 => cases connected
  case h_2 =>
    split at connected
    case h_2 => cases connected
    case h_1 ran =>
      cases connected
      rcases Call.bind_eq_ok_iff.1 ran with ⟨_, fresh, middle, subscribed, rest⟩
      rcases Call.bind_eq_ok_iff.1 rest with ⟨_, second, further, first, last⟩
      -- A barrier that succeeds leaves a healthy client healthy, and opening takes two of them.
      have healthy := healthy_of_subscribe ⟨rfl, fun _ listens => by cases listens⟩ subscribed
      have once := Call.ends_synchronize fresh middle healthy
      rw [first] at once
      have twice := Call.ends_synchronize second further once.healthy_of_ok
      rw [last] at twice
      exact twice.healthy_of_ok

/--
A client that could be opened is not poisoned. Whatever is called on it later, it becomes poisoned
in just those calls in which the loop is handed an event that is rejected, and by that event: the
call fails with it, and the graph is what the events before it have made of it. From then on the
client is inert, whatever is called on it.
-/
theorem poisoning_exact {backend : Backend σ} {config : Config} {observers : List Observer}
    {world opened : σ} (connected : connect backend config observers world = (.ok client, opened)) :
    client.poison = none ∧
    ∀ current, client.Reaches current →
      (current.poison = none → current.Alert) ∧
      ∀ error, current.poison = some error →
        (∃ malformed, error = .ofMalformed malformed) ∧
        ∀ later, current.Reaches later → Inert error current later := by
  have healthy := healthy_of_connect connected
  refine ⟨healthy.clean, ?_⟩
  intro current reached
  rcases reached.settled (.inl healthy) with stillHealthy | ⟨malformed, poisoned⟩
  · constructor
    · exact fun _ => stillHealthy.alert
    · intro error poisoned
      rw [stillHealthy.clean] at poisoned
      cases poisoned
  · constructor
    · intro clean
      rw [poisoned] at clean
      cases clean
    · intro error isPoison
      have same : error = .ofMalformed malformed := Option.some.inj (isPoison.symm.trans poisoned)
      exact ⟨⟨malformed, same⟩, fun later onward => onward.inert isPoison⟩

/--
A port is described while a client is opened, and described wrongly later. The removal that follows
in the batch is not heard of any more.
-/
theorem poisoning_exact_script :
    let described (node : String) : Properties :=
      .ofList [(Key.nodeId, node), (Key.format, "8 bit raw midi")]
    let script : Script := { batches :=
      [.ok [.event (.global 5 .port), .doneLast],
        .ok [.event (.info 5 (described "10")), .doneLast],
        .ok [.event (.info 5 (described "ten")), .event (.removed 5)]] }
    ∃ client opened, connect Script.backend .standard [] script = (.ok client, opened) ∧
      Ending Latched (client, opened) (Invocation.pump.call client opened) ∧
      ∃ current, (Invocation.pump.call client opened).2.1 = current ∧
        current.graph.portCount = 1 ∧
        ∀ later, current.Reaches later → Inert (.malformedEvent 5 "ten") current later := by
  intro described script
  let probe : Option (Option Error × Nat) :=
    match connect Script.backend .standard [] script with
    | (.ok client, opened) =>
      let current := (Invocation.pump.call client opened).2.1
      some (current.poison, current.graph.portCount)
    | (.error _, _) => none
  have probed : probe = some (some (.malformedEvent 5 "ten"), 1) := by decide +kernel
  match result : connect Script.backend .standard [] script with
  | (.ok client, opened) =>
      have probed : some ((Invocation.pump.call client opened).2.1.poison,
          (Invocation.pump.call client opened).2.1.graph.portCount) =
          some (some (.malformedEvent 5 "ten"), 1) := by
        simpa only [probe, result] using probed
      rcases Prod.mk.inj (Option.some.inj probed) with ⟨poisoned, count⟩
      rcases poisoning_exact result with ⟨clean, later⟩
      have ending := ((later client (.refl client)).1 clean).ending .pump opened
      have inert := (later _ (.call (.refl client) .pump opened)).2 _ poisoned
      exact ⟨client, opened, rfl, ending, _, rfl, count, inert.2⟩
  | (.error _, _) =>
      simp only [probe, result] at probed
      cases probed

end Client

end MediaGraph
