import MediaGraph.Client.Loop
import MediaGraph.Proofs.Subscriber.Handling

/-!
# What delivering events does to a client

An event concerns the subscriber or the barrier, and nothing else of the client changes with it. The
only events that fail are descriptions of ports that are listened to and name a node by no number
(`deliver_eq_error_iff`). The requests that are made on the way are those that bind ports and give
them up, so a relation between worlds that holds across these holds across a whole batch.
-/

namespace MediaGraph

/-- The requests with which a subscriber follows the ports of the server. -/
def Request.isBinding : Request → Bool
  | bindObject .. | subscribeInfo _ | destroyProxy _ => true
  | _ => false

/-- A relation between worlds that holds across the requests of a subscriber. -/
structure Transport.Follows {σ : Type} (transport : Transport σ) (Related : σ → σ → Prop) :
    Prop where
  refl : ∀ world, Related world world
  trans : ∀ {first second third}, Related first second → Related second third →
    Related first third
  asking : ∀ request world, request.isBinding → Related world (transport.answer request world).2

namespace Subscriber

variable {σ : Type} {transport : Transport σ} {subscriber after : Subscriber} {world changed : σ}
  {Related : σ → σ → Prop}

theorem related_release (follows : transport.Follows Related) (id : ObjectId)
    (subscriber : Subscriber) (world : σ) :
    Related world (subscriber.release transport id world).2 := by
  simp only [release]
  split
  · exact follows.asking _ world rfl
  · exact follows.refl world

theorem related_announce (follows : transport.Follows Related) (id : ObjectId)
    (subscriber : Subscriber) (world : σ) :
    Related world (subscriber.announce transport id world).2 := by
  have released := related_release follows id subscriber world
  simp only [announce]
  generalize subscriber.release transport id world = result at released ⊢
  rcases result with ⟨bare, next⟩
  have bound := follows.asking (.bindObject id .port) next rfl
  rcases answered : transport.answer (.bindObject id .port) next with ⟨_ | proxy, given⟩
  · rw [answered] at bound
    exact follows.trans released bound
  · rw [answered] at bound
    have asked := follows.asking (.subscribeInfo proxy) given rfl
    exact follows.trans released (follows.trans bound asked)

theorem related_handle (follows : transport.Follows Related) {event : Event}
    (handled : subscriber.handle transport event world = .ok (after, changed)) :
    Related world changed := by
  by_cases listening : subscriber.phase = .listening
  · rcases handle_cases listening handled with ⟨id, -, result⟩ | ⟨id, props, -, -, rfl⟩ |
      ⟨id, -, result⟩ | ⟨-, -, -, -, rfl⟩
    · have same : changed = (subscriber.announce transport id world).2 := congrArg Prod.snd result
      rw [same]
      exact related_announce follows id subscriber world
    · exact follows.refl changed
    · have same : changed = ((subscriber.withdraw id).release transport id world).2 :=
        congrArg Prod.snd result
      rw [same]
      exact related_release follows id (subscriber.withdraw id) world
    · exact follows.refl changed
  · rw [handle_of_not_listening event listening] at handled
    cases handled
    exact follows.refl world

/-- Only a subscriber that listens to the server listens to ports. -/
def Attentive (subscriber : Subscriber) : Prop :=
  ∀ id, subscriber.isListeningTo id → subscriber.phase = .listening

theorem phase_of_handle {event : Event}
    (handled : subscriber.handle transport event world = .ok (after, changed)) :
    after.phase = subscriber.phase := by
  by_cases listening : subscriber.phase = .listening
  · rcases handle_cases listening handled with ⟨id, -, result⟩ | ⟨id, props, -, described, -⟩ |
      ⟨id, -, result⟩ | ⟨-, -, -, rfl, -⟩
    · have same : after = (subscriber.announce transport id world).1 := congrArg Prod.fst result
      rw [same, phase_announce]
    · rcases describe_cases described with ⟨-, rfl⟩ | ⟨-, place, graph, -, rfl⟩ <;> rfl
    · have same : after = ((subscriber.withdraw id).release transport id world).1 :=
        congrArg Prod.fst result
      rw [same, phase_release, phase_withdraw]
    · rfl
  · rw [handle_of_not_listening event listening] at handled
    cases handled
    rfl

theorem Attentive.handle (attentive : subscriber.Attentive) {event : Event}
    (handled : subscriber.handle transport event world = .ok (after, changed)) :
    after.Attentive := by
  intro id listens
  rw [phase_of_handle handled]
  by_cases listening : subscriber.phase = .listening
  · exact listening
  · rw [handle_of_not_listening event listening] at handled
    cases handled
    exact attentive id listens

/-- The event describes a port that is listened to, with a node id that is no 32-bit word. -/
def Rejects (subscriber : Subscriber) (event : Event) (malformed : MalformedNode) : Prop :=
  subscriber.isListeningTo malformed.port ∧
    ∃ props, event = .info malformed.port props ∧ malformed.value = props.text Key.nodeId ∧
      malformed.value ≠ "" ∧ Text.readWord? malformed.value = none

theorem describe_eq_error_iff {id : ObjectId} {props : Properties} {malformed : MalformedNode} :
    subscriber.describe id props = .error malformed ↔
      subscriber.Rejects (.info id props) malformed := by
  have failed : subscriber.describe id props = .error malformed ↔
      subscriber.isListeningTo id ∧ (Port.ofProperties id props).nodeId? = .error malformed := by
    rw [← Graph.insert_eq_error_iff subscriber.graph]
    simp only [describe]
    cases subscriber.isListeningTo id with
    | false => simp
    | true => cases subscriber.graph.insert (Port.ofProperties id props) <;> simp
  rw [failed, Port.nodeId?_eq_error_iff]
  constructor
  · rintro ⟨listens, rfl, named, unread⟩
    exact ⟨listens, props, rfl, rfl, named, unread⟩
  · rcases malformed with ⟨port, value⟩
    rintro ⟨listens, _, same, rfl, named, unread⟩
    cases same
    exact ⟨listens, rfl, named, unread⟩

/-- The events that fail are those that are rejected. -/
theorem handle_eq_error_iff (attentive : subscriber.Attentive) {event : Event}
    {malformed : MalformedNode} :
    subscriber.handle transport event world = .error malformed ↔
      subscriber.Rejects event malformed := by
  constructor
  · intro failed
    simp only [handle] at failed
    split at failed
    case h_1 => cases failed
    case h_2 =>
      split at failed
      case h_1 => cases failed
      case h_2 described =>
        cases failed
        exact describe_eq_error_iff.1 described
    case h_3 => cases failed
    case h_4 => cases failed
  · intro rejects
    rcases rejects with ⟨listens, props, rfl, content⟩
    have described := describe_eq_error_iff.2 ⟨listens, props, rfl, content⟩
    simp only [handle, attentive _ listens, described]

end Subscriber

/-- Takes an event that may be an acknowledgement. -/
def Barrier.hear (barrier : Barrier) : Event → Barrier
  | .done sequence => (barrier.acknowledge sequence).2
  | _ => barrier

namespace Client

variable {σ : Type} {transport : Transport σ} {client after : Client σ} {world changed : σ}
  {event : Event} {events : List Event}

theorem deliver_eq (event : Event) (client : Client σ) (world : σ) :
    client.deliver transport event world =
      match client.subscriber.handle transport event world with
      | .ok (subscriber, changed) =>
        .ok ({ client with subscriber, barrier := client.barrier.hear event }, changed)
      | .error malformed => .error malformed := by
  cases event with
  | done sequence =>
      have silent : client.subscriber.handle transport (.done sequence) world =
          .ok (client.subscriber, world) := by
        simp only [Subscriber.handle]
        split <;> simp_all
      rw [silent]
      rfl
  | global | removed | info =>
      simp only [deliver]
      rcases client.subscriber.handle transport _ world with malformed | ⟨subscriber, changed⟩
      · rfl
      · rfl

/-- What handling an event does to the subscriber is what delivering it does to the client. -/
theorem handle_of_deliver
    (delivered : client.deliver transport event world = .ok (after, changed)) :
    client.subscriber.handle transport event world = .ok (after.subscriber, changed) ∧
      after = { client with
        subscriber := after.subscriber, barrier := client.barrier.hear event } := by
  rw [deliver_eq] at delivered
  split at delivered
  case h_1 subscriber final handled =>
    cases delivered
    exact ⟨handled, rfl⟩
  case h_2 => cases delivered

theorem deliver_eq_error_iff (attentive : client.subscriber.Attentive)
    {malformed : MalformedNode} :
    client.deliver transport event world = .error malformed ↔
      client.subscriber.Rejects event malformed := by
  rw [← Subscriber.handle_eq_error_iff attentive, deliver_eq]
  rcases client.subscriber.handle transport event world with malformed | ⟨subscriber, changed⟩
  · simp
  · simp

/-! ## Batches -/

/-- Also a batch that fails changes the subscriber and the barrier only. -/
theorem frame_of_deliverAll (transport : Transport σ) (events : List Event) (client : Client σ)
    (world : σ) :
    (deliverAll transport events client world).2.1 =
      { client with
        subscriber := (deliverAll transport events client world).2.1.subscriber
        barrier := (deliverAll transport events client world).2.1.barrier } := by
  induction events generalizing client world with
  | nil => rfl
  | cons event rest ih =>
      simp only [deliverAll]
      split
      case h_1 next between delivered =>
        have frame := (handle_of_deliver delivered).2
        rw [ih next between]
        generalize (deliverAll transport rest next between).2.1 = last
        rw [frame]
      case h_2 => rfl

theorem frame_of_delivered {failure : Option MalformedNode}
    (delivered : deliverAll transport events client world = (failure, after, changed)) :
    after = { client with subscriber := after.subscriber, barrier := after.barrier } := by
  have frame := frame_of_deliverAll transport events client world
  rwa [delivered] at frame

theorem related_deliverAll {Related : σ → σ → Prop} (follows : transport.Follows Related)
    (events : List Event) (client : Client σ) (world : σ) :
    Related world (deliverAll transport events client world).2.2 := by
  induction events generalizing client world with
  | nil => exact follows.refl world
  | cons event rest ih =>
      simp only [deliverAll]
      split
      case h_1 next between delivered =>
        have first := Subscriber.related_handle follows (handle_of_deliver delivered).1
        exact follows.trans first (ih next between)
      case h_2 => exact follows.refl world

theorem attentive_of_delivered {failure : Option MalformedNode}
    (delivered : deliverAll transport events client world = (failure, after, changed))
    (attentive : client.subscriber.Attentive) : after.subscriber.Attentive := by
  induction events generalizing client world with
  | nil =>
      cases delivered
      exact attentive
  | cons event rest ih =>
      simp only [deliverAll] at delivered
      split at delivered
      case h_1 next between first =>
        exact ih delivered (attentive.handle (handle_of_deliver first).1)
      case h_2 =>
        cases delivered
        exact attentive

theorem barrier_of_deliverAll
    (delivered : deliverAll transport events client world = (none, after, changed)) :
    after.barrier = events.foldl Barrier.hear client.barrier := by
  induction events generalizing client world with
  | nil =>
      cases delivered
      rfl
  | cons event rest ih =>
      simp only [deliverAll] at delivered
      split at delivered
      case h_1 next between first =>
        rw [ih delivered, (handle_of_deliver first).2]
        rfl
      case h_2 => cases delivered

theorem deliverAll_append {first : List Event} {between : Client σ} {middle : σ}
    (delivered : deliverAll transport first client world = (none, between, middle))
    (second : List Event) :
    deliverAll transport (first ++ second) client world =
      deliverAll transport second between middle := by
  induction first generalizing client world with
  | nil =>
      cases delivered
      rfl
  | cons event rest ih =>
      simp only [List.cons_append, deliverAll] at delivered ⊢
      split at delivered
      case h_1 => exact ih delivered
      case h_2 => cases delivered

theorem deliverAll_append_of_malformed {first : List Event} {malformed : MalformedNode}
    (delivered : deliverAll transport first client world = (some malformed, after, changed))
    (second : List Event) :
    deliverAll transport (first ++ second) client world = (some malformed, after, changed) := by
  induction first generalizing client world with
  | nil => cases delivered
  | cons event rest ih =>
      simp only [List.cons_append, deliverAll] at delivered ⊢
      split at delivered
      case h_1 => exact ih delivered
      case h_2 => exact delivered

/-- A batch fails at the first event that is rejected by what the events before it have led to. -/
theorem deliverAll_eq_some_iff (attentive : client.subscriber.Attentive)
    {malformed : MalformedNode} :
    deliverAll transport events client world = (some malformed, after, changed) ↔
      ∃ early event late, events = early ++ event :: late ∧
        deliverAll transport early client world = (none, after, changed) ∧
        after.subscriber.Rejects event malformed := by
  induction events generalizing client world with
  | nil => simp [deliverAll]
  | cons first rest ih =>
      simp only [deliverAll]
      split
      case h_1 next between delivered =>
        rw [ih (attentive.handle (handle_of_deliver delivered).1)]
        constructor
        · rintro ⟨early, event, late, rfl, ran, rejects⟩
          refine ⟨first :: early, event, late, rfl, ?_, rejects⟩
          simpa only [deliverAll, delivered] using ran
        · rintro ⟨_ | ⟨head, early⟩, event, late, split, ran, rejects⟩
          · cases ran
            cases split
            rw [(deliver_eq_error_iff attentive).2 rejects] at delivered
            cases delivered
          · cases split
            simp only [deliverAll, delivered] at ran
            exact ⟨early, event, late, rfl, ran, rejects⟩
      case h_2 failure failed =>
        constructor
        · intro same
          cases same
          exact ⟨[], first, rest, rfl, rfl, (deliver_eq_error_iff attentive).1 failed⟩
        · rintro ⟨_ | ⟨head, early⟩, event, late, split, ran, rejects⟩
          · cases ran
            cases split
            rw [(deliver_eq_error_iff attentive).2 rejects] at failed
            cases failed
            rfl
          · cases split
            simp only [deliverAll, failed] at ran
            cases ran

theorem world_applyBatch (transport : Transport σ) (events : List Event) (client : Client σ)
    (world : σ) :
    (applyBatch transport events client world).2.2 =
      (deliverAll transport events client world).2.2 := by
  simp only [applyBatch]
  rcases deliverAll transport events client world with ⟨_ | malformed, after, changed⟩ <;> rfl

/-- A batch neither closes a client nor poisons it. -/
theorem frame_of_applyBatch (transport : Transport σ) (events : List Event) (client : Client σ)
    (world : σ) :
    (applyBatch transport events client world).2.1.transport = client.transport ∧
      (applyBatch transport events client world).2.1.poison = client.poison := by
  have frame := frame_of_deliverAll transport events client world
  simp only [applyBatch]
  generalize deliverAll transport events client world = result at frame ⊢
  rcases result with ⟨_ | malformed, after, changed⟩
  all_goals
    simp only [notify]
    rw [show after = _ from frame]
    exact ⟨rfl, rfl⟩

end Client

end MediaGraph
