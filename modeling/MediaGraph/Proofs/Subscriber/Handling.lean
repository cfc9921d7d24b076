import MediaGraph.Subscriber
import MediaGraph.Proofs.Graph.Filing

/-!
# What one event does to a subscriber

Each of the three things a subscriber does to its state touches its own parts: announcing and
releasing a port change only what is listened to, describing and withdrawing one only the graph and
the queue of changes. The lemmas here say so field by field, for every transport; the theorems about
whole histories, about observers and about the server cite them instead of the definitions.
-/

namespace MediaGraph.Subscriber

variable {σ : Type} (transport : Transport σ) (id : ObjectId) (subscriber : Subscriber) (world : σ)

/-! ## Releasing and announcing -/

def bindAnswer : Option ProxyId :=
  (transport.answer (.bindObject id .port) (subscriber.release transport id world).2).1

@[simp]
theorem phase_release : (subscriber.release transport id world).1.phase = subscriber.phase := by
  simp only [release]
  split <;> rfl

@[simp]
theorem graph_release : (subscriber.release transport id world).1.graph = subscriber.graph := by
  simp only [release]
  split <;> rfl

@[simp]
theorem changes_release :
    (subscriber.release transport id world).1.changes = subscriber.changes := by
  simp only [release]
  split <;> rfl

@[simp]
theorem listened_release (other : ObjectId) :
    (subscriber.release transport id world).1.listened.get? other =
      if other = id then none else subscriber.listened.get? other := by
  simp only [release]
  split
  case h_1 => simp
  case h_2 absent =>
    split
    case isTrue same =>
      subst same
      exact absent
    case isFalse => rfl

@[simp]
theorem phase_announce : (subscriber.announce transport id world).1.phase = subscriber.phase := by
  simp only [announce]
  split <;> simp

@[simp]
theorem graph_announce : (subscriber.announce transport id world).1.graph = subscriber.graph := by
  simp only [announce]
  split <;> simp

@[simp]
theorem changes_announce :
    (subscriber.announce transport id world).1.changes = subscriber.changes := by
  simp only [announce]
  split <;> simp

/-- After an announcement a port is listened to exactly if its binding was granted. -/
@[simp]
theorem listened_announce (other : ObjectId) :
    (subscriber.announce transport id world).1.listened.get? other =
      if other = id then bindAnswer transport id subscriber world
      else subscriber.listened.get? other := by
  simp only [announce, bindAnswer]
  split
  case h_1 proxy bound granted =>
    simp only [granted, Table.get?_insert, listened_release]
    split <;> rfl
  case h_2 bound refused => simp [refused]

/-! ## Withdrawing and describing -/

@[simp]
theorem phase_withdraw : (subscriber.withdraw id).phase = subscriber.phase := rfl

@[simp]
theorem listened_withdraw : (subscriber.withdraw id).listened = subscriber.listened := rfl

variable {subscriber} in
theorem graph_withdraw (filed : subscriber.graph.WellFiled) :
    (subscriber.withdraw id).graph = subscriber.graph.erase id := by
  simp only [withdraw, Graph.remove_eq filed]

variable {subscriber} in
theorem changes_withdraw (filed : subscriber.graph.WellFiled) : (subscriber.withdraw id).changes =
    subscriber.changes ++
      (((subscriber.graph.find? id).map (·.2)).map Change.removed).toList := by
  simp only [withdraw, Graph.remove_eq filed]

variable {transport id subscriber world}

theorem isListeningTo_iff :
    subscriber.isListeningTo id ↔ ∃ proxy, subscriber.listened.get? id = some proxy := by
  simp [isListeningTo, Table.contains, Option.isSome_iff_exists]

/-- The properties of a port are filed if the port is listened to, and ignored otherwise. -/
theorem describe_cases {props : Properties} {after : Subscriber}
    (described : subscriber.describe id props = .ok after) :
    (subscriber.isListeningTo id = false ∧ after = subscriber) ∨
      (subscriber.isListeningTo id ∧
        ∃ place graph, subscriber.graph.insert (Port.ofProperties id props) = .ok (place, graph) ∧
          after = { subscriber with
            graph := graph
            changes := subscriber.changes ++
              (changeOf (Port.ofProperties id props) ((subscriber.graph.find? id).map (·.2))
                place).toList }) := by
  simp only [describe] at described
  split at described
  case isTrue listening =>
    right
    split at described
    case h_1 => simp at described
    case h_2 place graph inserted =>
      cases described
      exact ⟨listening, place, graph, inserted, rfl⟩
  case isFalse deaf =>
    left
    cases described
    exact ⟨by simpa using deaf, rfl⟩

theorem describe_of_deaf {props : Properties} (deaf : subscriber.isListeningTo id = false) :
    subscriber.describe id props = .ok subscriber := by
  simp [describe, deaf]

/-! ## Handling -/

theorem handle_of_not_listening (event : Event) (quiet : subscriber.phase ≠ .listening) :
    subscriber.handle transport event world = .ok (subscriber, world) := by
  simp only [handle]
  split <;> simp_all

/-- What handling an event without a failure can have done while the subscriber listens. -/
theorem handle_cases {event : Event} {after : Subscriber} {changed : σ}
    (listening : subscriber.phase = .listening)
    (handled : subscriber.handle transport event world = .ok (after, changed)) :
    (∃ id, event = .global id .port ∧
        (after, changed) = subscriber.announce transport id world) ∨
      (∃ id props, event = .info id props ∧ subscriber.describe id props = .ok after ∧
        changed = world) ∨
      (∃ id, event = .removed id ∧
        (after, changed) = (subscriber.withdraw id).release transport id world) ∨
      ((∀ id, event ≠ .global id .port) ∧ (∀ id props, event ≠ .info id props) ∧
        (∀ id, event ≠ .removed id) ∧ after = subscriber ∧ changed = world) := by
  simp only [handle, listening] at handled
  split at handled
  case h_1 _ _ id _ =>
    left
    exact ⟨id, rfl, (Except.ok.inj handled).symm⟩
  case h_2 _ _ id props _ =>
    right; left
    split at handled
    case h_1 described =>
      cases handled
      exact ⟨id, props, rfl, described, rfl⟩
    case h_2 => simp at handled
  case h_3 _ _ id _ =>
    right; right; left
    exact ⟨id, rfl, (Except.ok.inj handled).symm⟩
  case h_4 notGlobal notInfo notRemoved =>
    right; right; right
    cases handled
    exact ⟨fun id same => notGlobal id rfl same, fun id props same => notInfo id props rfl same,
      fun id same => notRemoved id rfl same, rfl, rfl⟩

theorem wellFiled_of_handle {event : Event} {after : Subscriber} {changed : σ}
    (filed : subscriber.graph.WellFiled)
    (handled : subscriber.handle transport event world = .ok (after, changed)) :
    after.graph.WellFiled := by
  by_cases listening : subscriber.phase = .listening
  · rcases handle_cases listening handled with ⟨id, -, result⟩ | ⟨id, props, -, described, -⟩ |
      ⟨id, -, result⟩ | ⟨-, -, -, rfl, -⟩
    · have same : after = (subscriber.announce transport id world).1 := congrArg Prod.fst result
      simpa [same] using filed
    · rcases describe_cases described with ⟨-, rfl⟩ | ⟨-, place, graph, inserted, rfl⟩
      · exact filed
      · exact filed.insert inserted
    · have same : after = ((subscriber.withdraw id).release transport id world).1 :=
        congrArg Prod.fst result
      simpa [same, graph_withdraw id filed] using filed.erase id
    · exact filed
  · rw [handle_of_not_listening event listening] at handled
    cases handled
    exact filed

end MediaGraph.Subscriber
