import MediaGraph.Proofs.Subscriber.Handling
import MediaGraph.Script.Basic

/-!
# The graph is a function of the history

A history lists the events that a subscriber has handled, each with whether the transport granted
the binding that it led to. Whether a port is bound, and which record of it the graph holds, can be
read off the history alone: `Bound` looks for the last event that announced the port or took it
away, `Described` for the last properties that arrived while it was bound.

`mirror_eq_history` says that these readings are what the subscriber has computed. Both are
followed event by event, by what one more event at the end of a history does to each of them.
-/

namespace MediaGraph

/-- An event as a subscriber handled it. -/
structure Handled where
  event : Event
  /-- Whether the event announced a port whose binding was granted. -/
  granted : Bool
  deriving DecidableEq

/-- Whether an event decides if a port is bound: it announces the port or takes it away. -/
def Handled.Settles (handled : Handled) (id : ObjectId) : Prop :=
  handled.event = .global id .port ∨ handled.event = .removed id

/-- The last event that settles a port is an announcement whose binding was granted. -/
def Bound (id : ObjectId) (history : List Handled) : Prop :=
  ∃ before after, history = before ++ ⟨.global id .port, true⟩ :: after ∧
    ∀ later ∈ after, ¬later.Settles id

/-- The record that the properties of a port amount to, and its category. -/
def Port.Classifies (id : ObjectId) (props : Properties) (category : Category) (port : Port) :
    Prop :=
  port = Port.ofProperties id props ∧
    (∃ node, port.nodeId? = .ok (some node)) ∧ port.category? = some category

theorem Port.classifies_iff {id : ObjectId} {props : Properties} {category : Category} {port : Port}
    {place : Option Place} (isPlace : (Port.ofProperties id props).place? = .ok place) :
    Port.Classifies id props category port ↔
      (place.map fun place => (place.category, Port.ofProperties id props)) =
        some (category, port) := by
  constructor
  · rintro ⟨rfl, ⟨node, isNode⟩, isCategory⟩
    have named := Port.place?_eq_some_iff.2 ⟨isNode, isCategory⟩
    rw [isPlace] at named
    cases named
    rfl
  · intro found
    rcases Option.map_eq_some_iff.1 found with ⟨⟨_, node⟩, rfl, same⟩
    cases same
    rcases Port.place?_eq_some_iff.1 isPlace with ⟨isNode, isCategory⟩
    exact ⟨rfl, ⟨node, isNode⟩, isCategory⟩

/--
Properties of a port arrived while it was bound and make it this record. Since then the port has
not been taken away, and no properties of it have arrived while it was bound.
-/
def Described (id : ObjectId) (category : Category) (port : Port) (history : List Handled) :
    Prop :=
  ∃ before props granted after,
    history = before ++ ⟨.info id props, granted⟩ :: after ∧
    Bound id before ∧
    (∀ later ∈ after, later.event ≠ .removed id) ∧
    (∀ middle others granted' rest, after = middle ++ ⟨.info id others, granted'⟩ :: rest →
      ¬Bound id (before ++ ⟨.info id props, granted⟩ :: middle)) ∧
    Port.Classifies id props category port

/-! ## One more event -/

/-- A split of a list with one more element leaves that element in the middle or at the end. -/
theorem append_singleton_eq_split {α : Type} {list before after : List α} {last middle : α} :
    list ++ [last] = before ++ middle :: after ↔
      (list = before ∧ last = middle ∧ after = []) ∨
        ∃ inner, after = inner ++ [last] ∧ list = before ++ middle :: inner := by
  rcases List.eq_nil_or_concat after with rfl | ⟨inner, final, rfl⟩
  · simp
  · simp only [List.concat_eq_append, ← List.cons_append, ← List.append_assoc]
    constructor
    · intro same
      rcases List.append_inj' same rfl with ⟨front, ending⟩
      cases ending
      exact .inr ⟨inner, rfl, front⟩
    · rintro (⟨_, _, impossible⟩ | ⟨_, same, rfl⟩)
      · simp at impossible
      · rcases List.append_inj' same rfl with ⟨rfl, ending⟩
        cases ending
        rfl

theorem not_bound_nil (id : ObjectId) : ¬Bound id [] := by
  rintro ⟨before, after, split, _⟩
  simp at split

theorem bound_snoc {id : ObjectId} {history : List Handled} {last : Handled} :
    Bound id (history ++ [last]) ↔
      last = ⟨.global id .port, true⟩ ∨ (¬last.Settles id ∧ Bound id history) := by
  constructor
  · rintro ⟨before, after, split, unsettled⟩
    rcases append_singleton_eq_split.1 split with ⟨_, isLast, _⟩ | ⟨inner, rfl, former⟩
    · exact .inl isLast
    · refine .inr ⟨unsettled last (by simp), before, inner, former, ?_⟩
      intro later member
      exact unsettled later (List.mem_append_left _ member)
  · rintro (rfl | ⟨unsettled, before, after, rfl, rest⟩)
    · exact ⟨history, [], rfl, by simp⟩
    · refine ⟨before, after ++ [last], by simp, ?_⟩
      intro later member
      rcases List.mem_append.1 member with inner | final
      · exact rest later inner
      · cases List.mem_singleton.1 final
        exact unsettled

theorem not_described_nil (id : ObjectId) (category : Category) (port : Port) :
    ¬Described id category port [] := by
  rintro ⟨before, props, granted, after, split, _⟩
  simp at split

theorem described_snoc {id : ObjectId} {category : Category} {port : Port}
    {history : List Handled} {last : Handled} :
    Described id category port (history ++ [last]) ↔
      (∃ props, last.event = .info id props ∧ Bound id history ∧
        Port.Classifies id props category port) ∨
      (last.event ≠ .removed id ∧ ((∃ props, last.event = .info id props) → ¬Bound id history) ∧
        Described id category port history) := by
  constructor
  · rintro ⟨before, props, granted, after, split, bound, kept, latest, classified⟩
    rcases append_singleton_eq_split.1 split with ⟨rfl, rfl, _⟩ | ⟨inner, rfl, rfl⟩
    · exact .inl ⟨props, rfl, bound, classified⟩
    · refine .inr ⟨kept last (by simp), ?_, before, props, granted, inner, rfl, bound, ?_, ?_,
        classified⟩
      · rintro ⟨others, isInfo⟩
        apply latest inner others last.granted []
        cases last
        cases isInfo
        rfl
      · intro later member
        exact kept later (List.mem_append_left _ member)
      · rintro middle others granted' rest rfl
        exact latest middle others granted' (rest ++ [last]) (by simp)
  · rintro (⟨props, isInfo, bound, classified⟩ |
      ⟨kept, unheard, before, props, granted, after, rfl, bound, rest, latest, classified⟩)
    · refine ⟨history, props, last.granted, [], ?_, bound, by simp, by simp, classified⟩
      cases last
      cases isInfo
      rfl
    · refine ⟨before, props, granted, after ++ [last], by simp, bound, ?_, ?_, classified⟩
      · intro later member
        rcases List.mem_append.1 member with inner | final
        · exact rest later inner
        · cases List.mem_singleton.1 final
          exact kept
      · intro middle others granted' remaining split
        rcases append_singleton_eq_split.1 split with ⟨rfl, rfl, _⟩ | ⟨inner, _, rfl⟩
        · exact unheard ⟨others, rfl⟩
        · exact latest middle others granted' inner rfl

namespace Subscriber

variable {σ : Type}

/-! ## Histories of a subscriber -/

/-- Whether an event makes the subscriber bind a port and the transport grants it. -/
def grants (transport : Transport σ) (event : Event) (subscriber : Subscriber) (world : σ) : Bool :=
  match event with
  | .global id .port => (subscriber.bindAnswer transport id world).isSome
  | _ => false

def record (transport : Transport σ) (past : List Handled × Subscriber × σ) (event : Event) :
    Except MalformedNode (List Handled × Subscriber × σ) :=
  match past with
  | (history, subscriber, world) =>
    match subscriber.handle transport event world with
    | .ok after => .ok (history ++ [⟨event, subscriber.grants transport event world⟩], after)
    | .error malformed => .error malformed

/-- Handles events in order and writes them down, up to the first that fails. -/
def handleAll (transport : Transport σ) (events : List Event) (subscriber : Subscriber)
    (world : σ) : Except MalformedNode (List Handled × Subscriber × σ) :=
  events.foldlM (record transport) ([], subscriber, world)

/-- What a subscriber listens to and shows is what can be read off a history. -/
structure Agrees (subscriber : Subscriber) (history : List Handled) : Prop where
  listening : subscriber.phase = .listening
  filed : subscriber.graph.WellFiled
  listened : ∀ id, subscriber.isListeningTo id ↔ Bound id history
  shown : ∀ id category port,
    subscriber.graph.find? id = some (category, port) ↔ Described id category port history

variable {transport : Transport σ} {subscriber : Subscriber} {world : σ} {history : List Handled}

/-- Announcing a port again leaves the record of the port as it is, also if it is not bound now. -/
theorem Agrees.announce (agrees : subscriber.Agrees history) (id : ObjectId) :
    (subscriber.announce transport id world).1.Agrees
      (history ++ [⟨.global id .port, subscriber.grants transport (.global id .port) world⟩]) where
  listening := by simpa using agrees.listening
  filed := by simpa using agrees.filed
  listened other := by
    rw [bound_snoc]
    by_cases same : other = id
    · subst same
      simp [isListeningTo_iff, Handled.Settles, grants, Option.isSome_iff_exists]
    · have unsettled : ¬Event.global id .port = .global other .port := by
        simpa using Ne.symm same
      simp [isListeningTo_iff, Handled.Settles, same, Ne.symm same, ← agrees.listened]
  shown other category port := by
    rw [described_snoc, graph_announce, agrees.shown]
    simp

/-- Properties of a bound port decide its record; those of another port are not heard. -/
theorem Agrees.describe (agrees : subscriber.Agrees history) {id : ObjectId} {props : Properties}
    {after : Subscriber} (described : subscriber.describe id props = .ok after) (granted : Bool) :
    after.Agrees (history ++ [⟨.info id props, granted⟩]) := by
  rcases describe_cases described with ⟨deaf, rfl⟩ | ⟨bound, place, graph, inserted, rfl⟩
  · refine ⟨agrees.listening, agrees.filed, ?_, ?_⟩
    · intro other
      rw [bound_snoc, agrees.listened]
      simp [Handled.Settles]
    · intro other category port
      rw [described_snoc, agrees.shown]
      have unbound : ¬Bound id history := by simp [← agrees.listened, deaf]
      by_cases same : other = id
      · subst same
        simp [unbound]
      · simp [Ne.symm same]
  · refine ⟨agrees.listening, agrees.filed.insert inserted, ?_, ?_⟩
    · intro other
      rw [bound_snoc]
      simp [Handled.Settles, ← agrees.listened, isListeningTo]
    · intro other category port
      rw [described_snoc, Graph.find?_of_insert agrees.filed inserted]
      have isBound : Bound id history := (agrees.listened id).1 bound
      have isPlace := Graph.place?_of_insert inserted
      by_cases same : other = id
      · subst same
        have isId : other = (Port.ofProperties other props).id := rfl
        rw [if_pos isId, ← Port.classifies_iff isPlace]
        simp [isBound]
      · have apart : other ≠ (Port.ofProperties id props).id := same
        simp [apart, Ne.symm same, agrees.shown]

theorem Agrees.remove (agrees : subscriber.Agrees history) (id : ObjectId) (granted : Bool) :
    ((subscriber.withdraw id).release transport id world).1.Agrees
      (history ++ [⟨.removed id, granted⟩]) where
  listening := by simpa using agrees.listening
  filed := by simpa [graph_withdraw id agrees.filed] using agrees.filed.erase id
  listened other := by
    rw [bound_snoc]
    by_cases same : other = id
    · subst same
      simp [isListeningTo_iff, Handled.Settles]
    · simp [isListeningTo_iff, Handled.Settles, same, Ne.symm same, ← agrees.listened]
  shown other category port := by
    rw [described_snoc, graph_release, graph_withdraw id agrees.filed,
      Graph.find?_erase agrees.filed]
    by_cases same : other = id
    · subst same
      simp
    · simp [same, Ne.symm same, agrees.shown]

/-- What can be read off the history stays right when one more event is handled. -/
theorem Agrees.handle (agrees : subscriber.Agrees history) {event : Event} {after : Subscriber}
    {changed : σ} (handled : subscriber.handle transport event world = .ok (after, changed)) :
    after.Agrees (history ++ [⟨event, subscriber.grants transport event world⟩]) := by
  rcases handle_cases agrees.listening handled with ⟨id, rfl, result⟩ |
    ⟨id, props, rfl, described, -⟩ | ⟨id, rfl, result⟩ | ⟨notPort, notInfo, notRemoved, rfl, -⟩
  · have same : after = (subscriber.announce transport id world).1 := congrArg Prod.fst result
    rw [same]
    exact agrees.announce id
  · exact agrees.describe described _
  · have same : after = ((subscriber.withdraw id).release transport id world).1 :=
      congrArg Prod.fst result
    rw [same]
    exact agrees.remove id _
  · refine ⟨agrees.listening, agrees.filed, ?_, ?_⟩
    · intro id
      rw [bound_snoc, agrees.listened]
      simp [Handled.Settles, notPort id, notRemoved id]
    · intro id category port
      rw [described_snoc, agrees.shown]
      simp [notInfo id, notRemoved id]

theorem agrees_of_start {start after : σ}
    (started : Subscriber.start transport {} start = (.ok (), subscriber, after)) :
    subscriber.Agrees [] := by
  simp only [Subscriber.start] at started
  split at started
  · cases started
    refine ⟨rfl, Graph.WellFiled.empty, ?_, ?_⟩
    · intro id
      simp [isListeningTo, Table.contains, not_bound_nil]
    · intro id category port
      simp [not_described_nil]
  · simp at started

theorem handleAll_induction {motive : List Handled → Subscriber → σ → Prop}
    (step : ∀ history subscriber world event after changed, motive history subscriber world →
      subscriber.handle transport event world = .ok (after, changed) →
      motive (history ++ [⟨event, subscriber.grants transport event world⟩]) after changed)
    {events : List Event} {past final : List Handled × Subscriber × σ}
    (start : motive past.1 past.2.1 past.2.2)
    (handled : events.foldlM (record transport) past = .ok final) :
    motive final.1 final.2.1 final.2.2 := by
  induction events generalizing past with
  | nil =>
      cases handled
      exact start
  | cons event rest ih =>
      rw [List.foldlM_cons] at handled
      rcases past with ⟨history, subscriber, world⟩
      simp only [record] at handled
      cases result : subscriber.handle transport event world with
      | error malformed =>
          rw [result] at handled
          cases handled
      | ok after =>
          rw [result] at handled
          rcases after with ⟨after, changed⟩
          exact ih (step history subscriber world event after changed start result) handled

theorem events_of_handleAll {events : List Event} {past final : List Handled × Subscriber × σ}
    (handled : events.foldlM (record transport) past = .ok final) :
    final.1.map (·.event) = past.1.map (·.event) ++ events := by
  induction events generalizing past with
  | nil =>
      cases handled
      simp
  | cons event rest ih =>
      rw [List.foldlM_cons] at handled
      rcases past with ⟨history, subscriber, world⟩
      simp only [record] at handled
      cases result : subscriber.handle transport event world with
      | error malformed =>
          rw [result] at handled
          cases handled
      | ok after =>
          rw [result] at handled
          simp [ih handled]

/--
After any events that a subscriber has handled since its start, whatever the transport granted, the
history alone says which ports it listens to and which record the graph has of each. An event about
another kind of object, the properties of a port that is not bound, and whatever is heard before the
start or after the teardown change nothing.
-/
theorem mirror_eq_history (transport : Transport σ) {before world final : σ}
    {listening subscriber : Subscriber} {events : List Event} {history : List Handled}
    (started : Subscriber.start transport {} before = (.ok (), listening, world))
    (handled : listening.handleAll transport events world = .ok (history, subscriber, final)) :
    history.map (·.event) = events ∧
    (∀ id category port, subscriber.graph.find? id = some (category, port) ↔
      Described id category port history) ∧
    (∀ id, subscriber.isListeningTo id ↔ Bound id history) ∧
    (∀ id kind, kind ≠ .port →
      subscriber.handle transport (.global id kind) final = .ok (subscriber, final)) ∧
    (∀ id props, ¬Bound id history →
      subscriber.handle transport (.info id props) final = .ok (subscriber, final)) ∧
    (∀ event anyWorld, Subscriber.handle transport event {} anyWorld = .ok ({}, anyWorld)) ∧
    (∀ (earlier : Subscriber) closing event anyWorld,
      (earlier.teardown transport closing).1.handle transport event anyWorld =
        .ok ((earlier.teardown transport closing).1, anyWorld)) := by
  have agrees : subscriber.Agrees history :=
    handleAll_induction (motive := fun history subscriber _ => subscriber.Agrees history)
      (fun history subscriber world event after changed agrees handled => agrees.handle handled)
      (agrees_of_start started) handled
  refine ⟨by simpa using events_of_handleAll handled, agrees.shown, agrees.listened, ?_, ?_, ?_, ?_⟩
  · intro id kind notPort
    cases kind <;> simp_all [Subscriber.handle]
  · intro id props unbound
    have deaf : subscriber.isListeningTo id = false := by
      simpa [← agrees.listened] using unbound
    simp [Subscriber.handle, agrees.listening, describe_of_deaf deaf]
  · intro event anyWorld
    exact handle_of_not_listening event (by simp)
  · intro earlier closing event anyWorld
    exact handle_of_not_listening event (by simp [teardown])

/-- One port is described and announced again, another comes and goes and cannot be bound. -/
theorem mirror_eq_history_script :
    let events : List Event :=
      [.global 5 .port, .info 5 (.ofList [(Key.nodeId, "10"), (Key.format, "8 bit raw midi")]),
       .global 6 .port, .removed 6, .info 6 .empty, .global 5 .port]
    let world := ({ unbindable := [6] } : Script).note (.asked .subscribeGlobals none)
    ∃ history subscriber final,
      Subscriber.handleAll Script.transport events { phase := .listening } world =
        .ok (history, subscriber, final) ∧
      (∀ id category port, subscriber.graph.find? id = some (category, port) ↔
        Described id category port history) ∧
      ∀ id, subscriber.isListeningTo id ↔ Bound id history := by
  intro events world
  have started : Subscriber.start Script.transport {} { unbindable := [6] } =
      (.ok (), { phase := .listening }, world) := rfl
  have succeeds : (Subscriber.handleAll Script.transport events { phase := .listening }
      world).isOk = true := by
    decide +kernel
  match handled : Subscriber.handleAll Script.transport events { phase := .listening } world with
  | .ok (history, subscriber, final) =>
      rcases mirror_eq_history Script.transport started handled with ⟨-, shown, listened, -⟩
      exact ⟨history, subscriber, final, rfl, shown, listened⟩
  | .error malformed =>
      rw [handled] at succeeds
      cases succeeds

end Subscriber

end MediaGraph
