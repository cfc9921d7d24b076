import MediaGraph.Proofs.Client.Observers
import MediaGraph.Proofs.Client.Poison

/-!
# Batches do not matter

A stream of events can be cut into batches in many ways, and the observers are told once per batch.
Telling them earlier comes to the same: what an event does depends neither on the queue of changes
nor on the count of batches (`deliver_settled`), so a stream that is pumped batch by batch ends
where it ends when it is delivered as a whole (`outline_pumpTimes`), and this does not depend on the
cut.

Nothing is asked of the transport but that its answers depend on what it has been asked so far. The
requests that it has been asked are its ledger, and two worlds with one ledger cannot be told apart
by a subscriber.
-/

namespace MediaGraph

namespace Transport

variable {σ : Type}

/-- The binding requests are written down, and their answers depend on what is written down. -/
structure Accounts (transport : Transport σ) (ledger : σ → List Request) : Prop where
  recorded : ∀ request world, request.isBinding →
    ledger (transport.answer request world).2 = ledger world ++ [request]
  answered : ∀ request {first second}, request.isBinding → ledger first = ledger second →
    (transport.answer request first).1 = (transport.answer request second).1

/-- Driving never fails while there are batches to come, which no binding request changes. -/
structure Feeds (transport : Transport σ) (ledger : σ → List Request)
    (feed : σ → List (List Event)) : Prop extends transport.Accounts ledger where
  kept : ∀ request world, request.isBinding →
    feed (transport.answer request world).2 = feed world
  driven : ∀ timeout world batch rest, feed world = batch :: rest →
    ∃ next, transport.answer (.drive timeout) world = (.ok batch, next) ∧
      ledger next = ledger world ∧ feed next = rest

/-- What has been asked so far, and the batches to come. -/
structure Feed where
  asked : List Request := []
  batches : List (List Event)

/-- A transport that answers by what it has been asked before, and drives the batches in order. -/
def fed (reply : List Request → (request : Request) → request.Answer) : Transport Feed where
  answer
    | .drive _, world =>
      match world.batches with
      | [] => (.ok [], world)
      | batch :: rest => (.ok batch, { world with batches := rest })
    | request, world =>
      (reply world.asked request, { world with asked := world.asked ++ [request] })
  nodeId _ _ := unassigned
  descriptor _ := none
  patience world := world.batches.length

theorem feeds_fed (reply : List Request → (request : Request) → request.Answer) :
    (fed reply).Feeds Feed.asked Feed.batches where
  recorded request world binding := by cases request <;> first | rfl | cases binding
  answered request first second binding same := by
    cases request with
    | bindObject | subscribeInfo | destroyProxy => simp only [fed, same]
    | _ => cases binding
  kept request world binding := by cases request <;> first | rfl | cases binding
  driven timeout world batch rest coming := by
    refine ⟨{ world with batches := rest }, ?_, rfl, rfl⟩
    simp only [fed, coming]

theorem Feeds.follows {transport : Transport σ} {ledger : σ → List Request}
    {feed : σ → List (List Event)} (feeds : transport.Feeds ledger feed) :
    transport.Follows fun before after => feed after = feed before where
  refl _ := rfl
  trans first second := second.trans first
  asking request world binding := feeds.kept request world binding

end Transport

namespace Subscriber

variable {σ : Type} {transport : Transport σ} {ledger : σ → List Request}

/-! ## The queue does not matter -/

/-- The subscriber with more changes in the queue, older than its own. -/
def preceded (earlier : List Change) (subscriber : Subscriber) : Subscriber :=
  { subscriber with changes := earlier ++ subscriber.changes }

theorem release_preceded (earlier : List Change) (port : ObjectId) (subscriber : Subscriber)
    (world : σ) :
    (subscriber.preceded earlier).release transport port world =
      (subscriber.release transport port world).map (preceded earlier) id := by
  simp only [release, preceded]
  cases subscriber.listened.get? port <;> rfl

theorem announce_preceded (earlier : List Change) (port : ObjectId) (subscriber : Subscriber)
    (world : σ) :
    (subscriber.preceded earlier).announce transport port world =
      (subscriber.announce transport port world).map (preceded earlier) id := by
  simp only [announce, release_preceded]
  rcases subscriber.release transport port world with ⟨bare, next⟩
  simp only [Prod.map, id_eq]
  rcases transport.answer (.bindObject port .port) next with ⟨_ | proxy, given⟩ <;> rfl

theorem describe_preceded (earlier : List Change) (port : ObjectId) (props : Properties)
    (subscriber : Subscriber) :
    (subscriber.preceded earlier).describe port props =
      (subscriber.describe port props).map (preceded earlier) := by
  cases heard : subscriber.isListeningTo port with
  | false =>
      rw [describe_of_deaf heard, describe_of_deaf (by exact heard)]
      rfl
  | true =>
      have alsoHeard : (subscriber.preceded earlier).isListeningTo port = true := heard
      simp only [describe, heard, alsoHeard, if_true]
      have sameGraph : (subscriber.preceded earlier).graph = subscriber.graph := rfl
      rw [sameGraph]
      cases subscriber.graph.insert (Port.ofProperties port props) with
      | error malformed => rfl
      | ok filed => simp [Except.map, preceded]

theorem withdraw_preceded (earlier : List Change) (port : ObjectId) (subscriber : Subscriber) :
    (subscriber.preceded earlier).withdraw port = (subscriber.withdraw port).preceded earlier := by
  simp [withdraw, preceded]

theorem handle_preceded (earlier : List Change) (event : Event) (subscriber : Subscriber)
    (world : σ) :
    (subscriber.preceded earlier).handle transport event world =
      (subscriber.handle transport event world).map (Prod.map (preceded earlier) id) := by
  have samePhase : (subscriber.preceded earlier).phase = subscriber.phase := rfl
  simp only [handle, samePhase]
  split
  case h_1 => rw [announce_preceded, Except.map]
  case h_2 _ _ port props _ =>
    rw [describe_preceded]
    cases subscriber.describe port props <;> rfl
  case h_3 => rw [withdraw_preceded, release_preceded, Except.map]
  case h_4 => rfl

/-! ## Only the ledger matters -/

/-- The subscriber and what has been asked of the transport. -/
def asked (ledger : σ → List Request) (state : Subscriber × σ) : Subscriber × List Request :=
  (state.1, ledger state.2)

variable {first second : σ}

theorem release_recorded (accounts : transport.Accounts ledger)
    (same : ledger first = ledger second)
    (id : ObjectId) (subscriber : Subscriber) :
    asked ledger (subscriber.release transport id first) =
      asked ledger (subscriber.release transport id second) := by
  simp only [release, asked]
  cases subscriber.listened.get? id with
  | none => simp only [same]
  | some proxy =>
      simp only [accounts.recorded (.destroyProxy proxy) first rfl,
        accounts.recorded (.destroyProxy proxy) second rfl, same]

theorem announce_recorded (accounts : transport.Accounts ledger)
    (same : ledger first = ledger second) (id : ObjectId) (subscriber : Subscriber) :
    asked ledger (subscriber.announce transport id first) =
      asked ledger (subscriber.announce transport id second) := by
  have released := release_recorded accounts same id subscriber
  simp only [announce]
  generalize subscriber.release transport id first = one at released ⊢
  generalize subscriber.release transport id second = two at released ⊢
  rcases one with ⟨bare, first⟩
  rcases two with ⟨_, second⟩
  rcases Prod.mk.inj released with ⟨(rfl : bare = _), (same : ledger first = ledger second)⟩
  have bound := accounts.recorded (.bindObject id .port) first rfl
  have alsoBound := accounts.recorded (.bindObject id .port) second rfl
  have granted := accounts.answered (.bindObject id .port) rfl same
  generalize transport.answer (.bindObject id .port) first = one at bound granted ⊢
  generalize transport.answer (.bindObject id .port) second = two at alsoBound granted ⊢
  rcases one with ⟨answer, given⟩
  rcases two with ⟨_, alsoGiven⟩
  rcases granted with (rfl : answer = _)
  have stillSame : ledger given = ledger alsoGiven := by
    rw [show ledger given = _ from bound, show ledger alsoGiven = _ from alsoBound, same]
  cases answer with
  | none => simp only [asked, stillSame]
  | some proxy =>
      simp only [asked, accounts.recorded (.subscribeInfo proxy) given rfl,
        accounts.recorded (.subscribeInfo proxy) alsoGiven rfl, stillSame]

theorem handle_recorded (accounts : transport.Accounts ledger) (same : ledger first = ledger second)
    (event : Event) (subscriber : Subscriber) :
    (subscriber.handle transport event first).map (asked ledger) =
      (subscriber.handle transport event second).map (asked ledger) := by
  simp only [handle]
  split
  case h_1 id _ => simp only [Except.map, announce_recorded accounts same id subscriber]
  case h_2 id props _ =>
    cases subscriber.describe id props with
    | error malformed => rfl
    | ok after => simp only [Except.map, asked, same]
  case h_3 id _ =>
    simp only [Except.map, release_recorded accounts same id (subscriber.withdraw id)]
  case h_4 => simp only [Except.map, asked, same]

end Subscriber

namespace Client

variable {σ : Type} {transport : Transport σ} {ledger : σ → List Request}
  {feed : σ → List (List Event)} {client : Client σ} {world : σ}

/-! ## Telling the observers early -/

/-- The client without its count of batches. -/
def uncounted (client : Client σ) : Client σ :=
  { client with barrier := { client.barrier with iterations := 0 } }

/-- The client once it has told its observers everything, without its count of batches. -/
def settled (client : Client σ) : Client σ := client.notify.uncounted

/-- What is to be the same however a stream is cut: the settled client and the ledger. -/
def outline (ledger : σ → List Request) (state : Client σ × σ) : Client σ × List Request :=
  (state.1.settled, ledger state.2)

theorem hear_uncounted (barrier : Barrier) (event : Event) :
    { barrier.hear event with iterations := 0 } =
      { ({ barrier with iterations := 0 } : Barrier).hear event with iterations := 0 } := by
  cases event with
  | done sequence =>
      simp only [Barrier.hear, Barrier.acknowledge]
      split <;> rfl
  | _ => rfl

theorem settled_notify (client : Client σ) : client.notify.settled = client.settled := by
  simp [settled, notify, Subscriber.drain]

theorem outline_notify (ledger : σ → List Request) (client : Client σ) (world : σ) :
    outline ledger (client.notify, world) = outline ledger (client, world) := by
  rw [outline, settled_notify]
  rfl

theorem settled_of_drained (drained : client.subscriber.changes = []) :
    client.settled = client.uncounted := by
  rcases client with ⟨config, backend, connection, subscriber, barrier, poison, nodes, observers,
    notices⟩
  rcases subscriber with ⟨phase, listened, graph, changes⟩
  cases drained
  simp [settled, uncounted, notify, Subscriber.drain]

/-- An event does the same whether the observers have been told before or not. -/
theorem deliver_settled (ledger : σ → List Request) (event : Event) (client : Client σ)
    (world : σ) :
    (client.settled.deliver transport event world).map (outline ledger) =
      (client.deliver transport event world).map (outline ledger) := by
  have queue : client.subscriber =
      client.settled.subscriber.preceded client.subscriber.changes := by
    simp [settled, uncounted, notify, Subscriber.drain, Subscriber.preceded]
  rw [deliver_eq, deliver_eq, queue, Subscriber.handle_preceded]
  rcases client.settled.subscriber.handle transport event world with malformed | ⟨after, changed⟩
  · rfl
  · simp [Except.map, outline, settled, uncounted, notify, Subscriber.drain, Subscriber.preceded,
      List.flatMap_append, ← hear_uncounted client.barrier event]

theorem deliver_recorded (accounts : transport.Accounts ledger) {first second : σ}
    (same : ledger first = ledger second) (event : Event) (client : Client σ) :
    (client.deliver transport event first).map (outline ledger) =
      (client.deliver transport event second).map (outline ledger) := by
  have handled := Subscriber.handle_recorded accounts same event client.subscriber
  rw [deliver_eq, deliver_eq]
  generalize client.subscriber.handle transport event first = one at handled ⊢
  generalize client.subscriber.handle transport event second = two at handled ⊢
  rcases one with malformed | ⟨after, changed⟩ <;> rcases two with _ | ⟨_, alsoChanged⟩
  · rcases Except.error.inj handled with rfl
    rfl
  · cases handled
  · cases handled
  · rcases Prod.mk.inj (Except.ok.inj handled) with ⟨(rfl : after = _), stillSame⟩
    exact congrArg (fun asked => Except.ok (_, asked)) stillSame

theorem deliver_outline (accounts : transport.Accounts ledger) {first second : Client σ × σ}
    (same : outline ledger first = outline ledger second) (event : Event) :
    (first.1.deliver transport event first.2).map (outline ledger) =
      (second.1.deliver transport event second.2).map (outline ledger) := by
  rcases Prod.mk.inj same with ⟨sameClient, sameLedger⟩
  calc (first.1.deliver transport event first.2).map (outline ledger)
      = (first.1.settled.deliver transport event first.2).map (outline ledger) :=
        (deliver_settled ledger event first.1 first.2).symm
    _ = (first.1.settled.deliver transport event second.2).map (outline ledger) :=
        deliver_recorded accounts sameLedger event first.1.settled
    _ = (second.1.settled.deliver transport event second.2).map (outline ledger) := by
        rw [sameClient]
    _ = (second.1.deliver transport event second.2).map (outline ledger) :=
        deliver_settled ledger event second.1 second.2

theorem deliverAll_outline (accounts : transport.Accounts ledger) (events : List Event)
    {first second : Client σ × σ} (same : outline ledger first = outline ledger second) :
    (deliverAll transport events first.1 first.2).map id (outline ledger) =
      (deliverAll transport events second.1 second.2).map id (outline ledger) := by
  induction events generalizing first second with
  | nil => exact congrArg (Prod.mk none) same
  | cons event rest ih =>
      have delivered := deliver_outline accounts same event
      simp only [deliverAll]
      generalize first.1.deliver transport event first.2 = one at delivered ⊢
      generalize second.1.deliver transport event second.2 = two at delivered ⊢
      rcases one with malformed | next <;> rcases two with _ | alsoNext
      · rcases Except.error.inj delivered with rfl
        exact congrArg (Prod.mk _) same
      · cases delivered
      · cases delivered
      · exact ih (Except.ok.inj delivered)

/-! ## Pumping until the stream is used up -/

/-- Where a pump leaves off, but for what the observers are told. -/
def halted : Option MalformedNode × Client σ × σ → Client σ × σ
  | (none, state) => state
  | (some malformed, client, world) => (client.poisonedBy malformed, world)

/-- Pumps so many times, unless the client is poisoned before. -/
def pumpTimes : Nat → Client σ → σ → Client σ × σ
  | 0, client, world => (client, world)
  | count + 1, client, world =>
    if client.isPoisoned then (client, world)
    else (client.pump world).2.1.pumpTimes count (client.pump world).2.2

theorem pumpTimes_of_poisoned (poisoned : client.isPoisoned) (count : Nat) (world : σ) :
    client.pumpTimes count world = (client, world) := by
  cases count with
  | zero => rfl
  | succ count => rw [pumpTimes, if_pos poisoned]

theorem Reaches.pumpTimes {first : Client σ} (reached : first.Reaches client) (count : Nat)
    (world : σ) : first.Reaches (client.pumpTimes count world).1 := by
  induction count generalizing client world with
  | zero => exact reached
  | succ count ih =>
      rw [Client.pumpTimes]
      split
      · exact reached
      · apply ih
        rw [← Call.state_withoutLink pump client world]
        exact reached.call .pump world

theorem state_pump (opened : client.transport = some transport) (clean : client.poison = none)
    {fetched : σ} {events : List Event}
    (driven : transport.answer (.drive client.config.loopTimeoutMs.toNat) world =
      (.ok events, fetched)) :
    (client.pump world).2 = (halted (deliverAll transport events
      { client with barrier := client.barrier.recordIteration } fetched)).map notify id := by
  have turned := turn_of_batch opened driven
  rw [pump, Call.bind_of_ok _ (Call.check_of_healthy clean world)]
  rw [applyBatch] at turned
  generalize deliverAll transport events _ fetched = delivered at turned ⊢
  rcases delivered with ⟨_ | malformed, after, changed⟩
  · rw [Call.poisoning_of_sound, turned]
    · rfl
    · rw [turned]
      rintro reason ⟨⟩
  · rw [Call.poisoning_of_malformed turned]
    rfl

theorem outline_halted {first second : Option MalformedNode × Client σ × σ}
    (same : first.map id (outline ledger) = second.map id (outline ledger)) :
    outline ledger (halted first) = outline ledger (halted second) := by
  rcases first with ⟨failure, before, early⟩
  rcases second with ⟨_, after, late⟩
  rcases Prod.mk.inj same with ⟨(rfl : failure = _), outlined⟩
  cases failure with
  | none => exact outlined
  | some malformed =>
      rcases Prod.mk.inj outlined with ⟨settled, ledgers⟩
      exact congrArg₂ (fun client requests => (client.poisonedBy malformed, requests)) settled
        ledgers

/-- Pumping batch by batch leads where the whole stream leads in one. -/
theorem outline_pumpTimes (feeds : transport.Feeds ledger feed)
    (opened : client.transport = some transport) (clean : client.poison = none)
    {batches : List (List Event)} (fed : feed world = batches) :
    outline ledger (client.pumpTimes batches.length world) =
      outline ledger (halted (deliverAll transport batches.flatten client world)) := by
  induction batches generalizing client world with
  | nil => rfl
  | cons batch rest ih =>
      rcases feeds.driven client.config.loopTimeoutMs.toNat world batch rest fed with
        ⟨next, driven, sameLedger, remaining⟩
      let counted : Client σ := { client with barrier := client.barrier.recordIteration }
      have start : outline ledger (counted, next) = outline ledger (client, world) :=
        congrArg (Prod.mk client.settled) sameLedger
      -- The batch does the same in the loop as at the head of the stream.
      have once := deliverAll_outline feeds.toAccounts batch start
      have frame := frame_of_deliverAll transport batch counted next
      have unfed := related_deliverAll feeds.follows batch counted next
      have healthy : ¬client.isPoisoned := by simp [isPoisoned, clean]
      rw [List.length_cons, pumpTimes, if_neg healthy, state_pump opened clean driven]
      change outline ledger (pumpTimes rest.length (Prod.map notify id (halted
        (deliverAll transport batch counted next))).1 (Prod.map notify id (halted
        (deliverAll transport batch counted next))).2) = _
      rcases looped : deliverAll transport batch counted next with ⟨failure, after, applied⟩
      rcases direct : deliverAll transport batch client world with ⟨_, reached, changed⟩
      rw [looped] at frame unfed
      rw [looped, direct] at once
      rcases Prod.mk.inj once with ⟨(rfl : failure = _), outlined⟩
      cases failure with
      | some malformed =>
          rw [List.flatten_cons, deliverAll_append_of_malformed direct]
          change outline ledger ((after.poisonedBy malformed).notify.pumpTimes rest.length applied)
            = _
          rw [pumpTimes_of_poisoned rfl, outline_notify]
          exact outline_halted once
      | none =>
          rw [List.flatten_cons, deliverAll_append direct]
          have stillOpen : after.notify.transport = some transport := by
            rw [show after = _ from frame]
            exact opened
          have stillClean : after.notify.poison = none := by
            rw [show after = _ from frame]
            exact clean
          have onward := ih stillOpen stillClean (unfed.trans remaining)
          have told := (outline_notify ledger after applied).trans outlined
          exact onward.trans
            (outline_halted (deliverAll_outline feeds.toAccounts rest.flatten told))

/-! ## Every client that was opened -/

/--
A client that was opened, whatever was called on it since, is pumped through a stream of events
until the stream is used up or the client is poisoned. However the stream is cut into batches, it is
left the same but for its count of them, poisoned or not, with everything that its observers have
been told, and the same has been asked of the transport.
-/
theorem batches_irrelevant {backend : Backend σ} {config : Config} {observers : List Observer}
    {before after : σ} (connected : connect backend config observers before = (.ok client, after))
    {current : Client σ} (reached : client.Reaches current)
    (opened : current.transport = some transport) (feeds : transport.Feeds ledger feed)
    {first second : σ} (sameLedger : ledger first = ledger second)
    (sameStream : (feed first).flatten = (feed second).flatten) :
    (current.pumpTimes (feed first).length first).1.uncounted =
        (current.pumpTimes (feed second).length second).1.uncounted ∧
      ledger (current.pumpTimes (feed first).length first).2 =
        ledger (current.pumpTimes (feed second).length second).2 := by
  -- A client that was opened is at rest between two calls, so it has told all there is to tell.
  have atRest : client.AtRest := by
    rcases heard_of_connect backend config observers before with
      ⟨_, last, -, rest, -, isLast⟩
    rw [connected] at isLast
    rwa [show client = last from isLast]
  have drained : ∀ count world, (current.pumpTimes count world).1.settled =
      (current.pumpTimes count world).1.uncounted := by
    intro count world
    exact settled_of_drained ((reached.pumpTimes count world).heard atRest).1.drained
  cases poison : current.poison with
  | some error =>
      have poisoned : current.isPoisoned := by simp [isPoisoned, poison]
      rw [pumpTimes_of_poisoned poisoned, pumpTimes_of_poisoned poisoned]
      exact ⟨rfl, sameLedger⟩
  | none =>
      have start : outline ledger (current, first) = outline ledger (current, second) :=
        congrArg (Prod.mk current.settled) sameLedger
      have delivered := outline_halted
        (deliverAll_outline feeds.toAccounts (feed first).flatten start)
      rw [← outline_pumpTimes feeds opened poison rfl, sameStream,
        ← outline_pumpTimes feeds opened poison rfl] at delivered
      rcases Prod.mk.inj delivered with ⟨settled, ledgers⟩
      rw [← drained, ← drained]
      exact ⟨settled, ledgers⟩

/-- Grants all that is asked for, each time under a new handle, and acknowledges every sync. -/
def freshAnswer (asked : List Request) : (request : Request) → request.Answer
  | .bindObject .. | .createObject .. | .createNode _ | .addPort .. =>
    some (UInt32.ofNat asked.length)
  | .subscribeGlobals | .activateNode _ => .ok ()
  | .sync sequence => .ok sequence
  | .drive _ => .ok []
  | .unsubscribeGlobals | .subscribeInfo _ | .destroyProxy _ | .updatePort .. | .removePort ..
  | .destroyNode _ | .disconnect => ()

def fedBackend : Backend Transport.Feed where
  name := "fed"
  connect _ world := (.ok (.fed freshAnswer), world)

/--
A port is announced, described, announced again and gone, a sync nobody has sent is acknowledged,
and the last event but one is malformed.
-/
def mixedEvents : List Event :=
  let described (node : String) : Properties :=
    .ofList [(Key.nodeId, node), (Key.format, "8 bit raw midi")]
  [.global 5 .port, .info 5 (described "10"), .done 7, .global 5 .port, .removed 5,
    .global 6 .port, .info 6 (described "ten"), .removed 6]

/-- The stream comes at once, event by event, and with an empty batch in between. -/
theorem batches_irrelevant_stream :
    ∃ client after, connect fedBackend .standard [{ label := "log" }]
        { batches := [[.done 0], [.done 1]] } = (.ok client, after) ∧
      (client.pumpTimes 1 { batches := [mixedEvents] }).1.notices.length = 2 ∧
      ∀ batches ∈ [mixedEvents.map fun event => [event],
          [mixedEvents.take 3, [], mixedEvents.drop 3]],
        (client.pumpTimes batches.length { batches }).1.uncounted =
            (client.pumpTimes 1 { batches := [mixedEvents] }).1.uncounted ∧
          (client.pumpTimes batches.length { batches }).2.asked =
            (client.pumpTimes 1 { batches := [mixedEvents] }).2.asked := by
  let start : Transport.Feed := { batches := [[.done 0], [.done 1]] }
  have given : (connect fedBackend .standard [{ label := "log" }] start).1.toOption.bind
      (·.transport) = some (.fed freshAnswer) := rfl
  have told : (connect fedBackend .standard [{ label := "log" }] start).1.toOption.map
      (fun client => (client.pumpTimes 1 { batches := [mixedEvents] }).1.notices.length) =
      some 2 := by
    decide +kernel
  match result : connect fedBackend .standard [{ label := "log" }] start with
  | (.ok client, after) =>
      rw [result] at given told
      refine ⟨client, after, rfl, Option.some.inj told, ?_⟩
      intro batches cut
      have sameStream : batches.flatten = [mixedEvents].flatten := by
        rcases List.mem_cons.1 cut with rfl | isLast
        · rfl
        · rcases List.mem_singleton.1 isLast with rfl
          rfl
      have sameAsked : Transport.Feed.asked { batches } =
          Transport.Feed.asked { batches := [mixedEvents] } := rfl
      exact batches_irrelevant result (.refl client) given (Transport.feeds_fed freshAnswer)
        sameAsked sameStream
  | (.error _, _) =>
      rw [result] at given
      cases given

end Client

end MediaGraph
