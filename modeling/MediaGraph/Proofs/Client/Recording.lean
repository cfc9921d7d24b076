import MediaGraph.Proofs.Client.Acknowledgement
import MediaGraph.Proofs.Client.Exchange

/-!
# Barriers on record

A client can be put on the connection that it has with a record kept of it (`Client.onRecord`). It
does there what it does without the record, and the record shows every exchange in order: for a
barrier that ends with its first batch, a sync, one turn of the loop, and what each event of the
batch makes the client ask for (`synchronize_onRecord`).

What an event makes a subscriber ask for is said without a record (`Subscriber.asking`): a proxy is
given back when its port is gone or announced again, and a port that is announced is bound and, if
the binding is granted, listened to.
-/

namespace MediaGraph

variable {σ : Type}

theorem Transport.answer_recorded (transport : Transport σ) (request : Request) (world : σ)
    (record : List Exchange) :
    transport.recorded.answer request (world, record) =
      ((transport.answer request world).1, (transport.answer request world).2,
        record ++ [⟨request, (transport.answer request world).1⟩]) := rfl

/-- The object that an exchange has bound. -/
def Exchange.bound? : Exchange → Option ObjectId
  | ⟨.bindObject object _, some _⟩ => some object
  | _ => none

/-! ## What events make a client ask for -/

namespace Subscriber

/-- Giving back the proxy of a port, if there is one. -/
def releasing (subscriber : Subscriber) (id : ObjectId) : List Exchange :=
  (subscriber.listened.get? id).toList.map fun proxy => ⟨.destroyProxy proxy, ()⟩

/-- Binding a port and, if that is granted, listening to it. -/
def binding (id : ObjectId) : Option ProxyId → List Exchange
  | some proxy => [⟨.bindObject id .port, some proxy⟩, ⟨.subscribeInfo proxy, ()⟩]
  | none => [⟨.bindObject id .port, none⟩]

/-- What an event that is applied makes the subscriber ask for, with the answers. -/
def asking (transport : Transport σ) (event : Event) (subscriber : Subscriber) (world : σ) :
    List Exchange :=
  if subscriber.phase = .listening then
    match event with
    | .global id .port =>
      subscriber.releasing id ++ binding id (subscriber.bindAnswer transport id world)
    | .removed id => subscriber.releasing id
    | _ => []
  else []

end Subscriber

/-- What the events of a batch make a client ask for, up to the first that fails. -/
def Client.asking (transport : Transport σ) : List Event → Client σ → σ → List Exchange
  | [], _, _ => []
  | event :: rest, client, world =>
    match client.deliver transport event world with
    | .ok (next, changed) =>
      client.subscriber.asking transport event world ++ asking transport rest next changed
    | .error _ => []

/-- The same client, with a record kept of its connection. -/
def Client.onRecord (client : Client σ) : Client (σ × List Exchange) where
  config := client.config
  backend := client.backend
  transport := client.transport.map Transport.recorded
  subscriber := client.subscriber
  barrier := client.barrier
  poison := client.poison
  localNodes := client.localNodes
  observers := client.observers
  notices := client.notices

namespace Subscriber

variable (transport : Transport σ) (id : ObjectId) (subscriber : Subscriber) (world : σ)
  (record : List Exchange)

@[simp]
theorem bound_releasing :
    (subscriber.releasing id).filterMap Exchange.bound? = [] := by
  simp only [releasing, List.filterMap_map]
  exact List.filterMap_eq_nil_iff.2 fun _ _ => rfl

@[simp]
theorem bound_binding (answer : Option ProxyId) :
    (binding id answer).filterMap Exchange.bound? = answer.toList.map fun _ => id := by
  cases answer <;> rfl

/-- Whatever an event makes a subscriber ask for is about proxies. -/
theorem isBinding_of_asking {event : Event} {exchange : Exchange}
    (asked : exchange ∈ subscriber.asking transport event world) : exchange.request.isBinding := by
  have release : ∀ id, exchange ∈ subscriber.releasing id → exchange.request.isBinding := by
    intro id member
    rcases List.mem_map.1 member with ⟨proxy, -, rfl⟩
    rfl
  have bind : ∀ id answer, exchange ∈ binding id answer → exchange.request.isBinding := by
    intro id answer member
    cases answer with
    | none =>
        rw [List.mem_singleton.1 member]
        rfl
    | some proxy =>
        rcases List.mem_cons.1 member with rfl | member
        · rfl
        · rw [List.mem_singleton.1 member]
          rfl
  simp only [asking] at asked
  split at asked
  · split at asked
    · rcases List.mem_append.1 asked with released | bound
      · exact release _ released
      · exact bind _ _ bound
    · exact release _ asked
    · cases asked
  · cases asked

/-- What is bound has been announced. -/
theorem announced_of_asking {event : Event} {object : ObjectId}
    (bound : object ∈ (subscriber.asking transport event world).filterMap Exchange.bound?) :
    event = .global object .port := by
  simp only [asking] at bound
  split at bound
  · split at bound
    · simp only [List.filterMap_append, bound_releasing, bound_binding, List.nil_append,
        List.mem_map] at bound
      rcases bound with ⟨-, -, rfl⟩
      rfl
    · simp at bound
    · cases bound
  · cases bound

theorem release_onRecord :
    subscriber.release transport.recorded id (world, record) =
      ((subscriber.release transport id world).1, (subscriber.release transport id world).2,
        record ++ subscriber.releasing id) := by
  simp only [release, releasing]
  cases subscriber.listened.get? id with
  | none => simp
  | some proxy => rfl

theorem announce_onRecord :
    subscriber.announce transport.recorded id (world, record) =
      ((subscriber.announce transport id world).1, (subscriber.announce transport id world).2,
        record ++ (subscriber.releasing id ++
          binding id (subscriber.bindAnswer transport id world))) := by
  simp only [announce, release_onRecord, bindAnswer, Transport.answer_recorded]
  rcases subscriber.release transport id world with ⟨bare, middle⟩
  rcases transport.answer (.bindObject id .port) middle with ⟨_ | proxy, changed⟩
  · simp [binding]
  · simp [binding, Transport.answer_recorded]

theorem handle_onRecord (event : Event) :
    subscriber.handle transport.recorded event (world, record) =
      (subscriber.handle transport event world).map fun state =>
        (state.1, state.2, record ++ subscriber.asking transport event world) := by
  by_cases listening : subscriber.phase = .listening
  · simp only [asking, listening, if_true]
    cases event with
    | global id kind =>
        cases kind with
        | port => simp only [handle, listening, announce_onRecord, Except.map]
        | _ => simp [handle, Except.map]
    | info id props =>
        simp only [handle, listening]
        cases subscriber.describe id props <;> simp [Except.map]
    | removed id =>
        simp only [handle, listening, release_onRecord, Except.map]
        rfl
    | done sequence => simp [handle, Except.map]
  · rw [handle_of_not_listening event listening, handle_of_not_listening event listening]
    simp [asking, listening, Except.map]

end Subscriber

namespace Client

variable {transport : Transport σ} {client after : Client σ} {world changed : σ}
  {failure : Option MalformedNode}

theorem deliver_onRecord (event : Event) (client : Client σ) (world : σ)
    (record : List Exchange) :
    client.onRecord.deliver transport.recorded event (world, record) =
      (client.deliver transport event world).map fun state =>
        (state.1.onRecord, state.2,
          record ++ client.subscriber.asking transport event world) := by
  have handled := client.subscriber.handle_onRecord transport world record event
  rw [deliver_eq, deliver_eq, show client.onRecord.subscriber = client.subscriber from rfl, handled]
  rcases client.subscriber.handle transport event world with malformed | ⟨subscriber, changed⟩
  · rfl
  · rfl

/-- A batch comes to the same on record, and the record shows what it makes the client ask for. -/
theorem deliverAll_onRecord (events : List Event) (record : List Exchange)
    (delivered : deliverAll transport events client world = (failure, after, changed)) :
    deliverAll transport.recorded events client.onRecord (world, record) =
      (failure, after.onRecord, changed, record ++ client.asking transport events world) := by
  induction events generalizing client world record with
  | nil =>
      cases delivered
      simp [deliverAll, asking]
  | cons event rest ih =>
      simp only [deliverAll, deliver_onRecord, asking] at delivered ⊢
      rcases ran : client.deliver transport event world with malformed | ⟨next, between⟩
      · simp only [ran] at delivered
        cases delivered
        simp [Except.map]
      · simp only [ran] at delivered
        simp only [Except.map, ih _ delivered, List.append_assoc]

theorem isBinding_of_asking {events : List Event} {exchange : Exchange}
    (asked : exchange ∈ client.asking transport events world) : exchange.request.isBinding := by
  induction events generalizing client world with
  | nil => cases asked
  | cons event rest ih =>
      simp only [asking] at asked
      split at asked
      case h_1 next between _ =>
        rcases List.mem_append.1 asked with now | later
        · exact Subscriber.isBinding_of_asking _ _ _ now
        · exact ih later
      case h_2 => cases asked

theorem announced_of_asking {events : List Event} {object : ObjectId}
    (bound : object ∈ (client.asking transport events world).filterMap Exchange.bound?) :
    .global object .port ∈ events := by
  induction events generalizing client world with
  | nil => cases bound
  | cons event rest ih =>
      simp only [asking] at bound
      split at bound
      case h_1 next between _ =>
        rw [List.filterMap_append] at bound
        rcases List.mem_append.1 bound with now | later
        · rw [Subscriber.announced_of_asking _ _ _ now]
          exact List.mem_cons_self
        · exact List.mem_cons_of_mem event (ih later)
      case h_2 => cases bound

theorem counts_deliverAll {events : List Event}
    (delivered : deliverAll transport events client world = (failure, after, changed)) :
    after.barrier.syncs = client.barrier.syncs ∧
      after.barrier.iterations = client.barrier.iterations := by
  induction events generalizing client world with
  | nil =>
      cases delivered
      exact ⟨rfl, rfl⟩
  | cons event rest ih =>
      simp only [deliverAll] at delivered
      rcases ran : client.deliver transport event world with malformed | ⟨next, between⟩
      · simp only [ran] at delivered
        cases delivered
        exact ⟨rfl, rfl⟩
      · simp only [ran] at delivered
        have heard := Barrier.foldl_hear_counts client.barrier [event]
        have frame := congrArg Client.barrier (handle_of_deliver ran).2
        rcases ih delivered with ⟨syncs, iterations⟩
        rw [syncs, iterations, frame]
        exact heard

/-- A barrier that ends with its first batch, on record: a sync, a turn, and what the batch asks. -/
theorem synchronize_onRecord (ready : client.Ready transport) {reply : UInt32}
    {answered fetched : σ} {events : List Event} (record : List Exchange)
    (replied : transport.answer (.sync client.barrier.next) world = (.ok reply, answered))
    (driven : transport.answer (.drive client.config.loopTimeoutMs.toNat) answered =
      (.ok events, fetched))
    (patient : 0 < transport.patience answered) (acknowledged : .done reply ∈ events)
    (delivered : deliverAll transport events
      { client with barrier := (client.barrier.nextSequence.2.begin reply).recordIteration }
      fetched = (failure, after, changed)) :
    synchronize client.onRecord (world, record) = (outcome failure,
      ({ after.notify with poison := failure.map .ofMalformed } : Client σ).onRecord, changed,
      record ++ ⟨.sync client.barrier.next, .ok reply⟩ ::
        ⟨.drive client.config.loopTimeoutMs.toNat, .ok events⟩ ::
        asking transport events
          { client with barrier := (client.barrier.nextSequence.2.begin reply).recordIteration }
          fetched) := by
  have readyOnRecord : client.onRecord.Ready transport.recorded :=
    ⟨by rw [onRecord, ready.opened]; rfl, ready.healthy⟩
  have repliedOnRecord : transport.recorded.answer (.sync client.barrier.next) (world, record) =
      (.ok reply, answered, record ++ [⟨.sync client.barrier.next, .ok reply⟩]) := by
    rw [Transport.answer_recorded, replied]
  have drivenOnRecord : transport.recorded.answer (.drive client.config.loopTimeoutMs.toNat)
      (answered, record ++ [⟨.sync client.barrier.next, .ok reply⟩]) =
        (.ok events, fetched, record ++ [⟨.sync client.barrier.next, .ok reply⟩] ++
          [⟨.drive client.config.loopTimeoutMs.toNat, .ok events⟩]) := by
    rw [Transport.answer_recorded, driven]
  have ran := synchronize_of_batch readyOnRecord repliedOnRecord drivenOnRecord patient
    acknowledged (deliverAll_onRecord events _ delivered)
  rw [ran]
  simp only [List.append_assoc, List.cons_append, List.nil_append]
  rfl

end Client

end MediaGraph
