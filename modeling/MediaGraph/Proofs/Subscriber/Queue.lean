import MediaGraph.Proofs.Graph.Replay
import MediaGraph.Proofs.Subscriber.Handling

/-!
# What is queued leads to the graph

Each event that changes the graph queues one change, computed before the graph is changed. The
changes that an event queues lead from the graph before it to the graph after it, so those that were
queued since the queue was last drained lead from the graph of that time to the present one.
-/

namespace MediaGraph.Subscriber

open MediaGraph.Graph

/-- Filing a port leads to the graph with it, by the change that is queued for it. -/
theorem leads_insert {graph filedGraph : Graph} {port : Port} {place : Option Place}
    (filed : graph.WellFiled) (inserted : graph.insert port = .ok (place, filedGraph)) :
    Leads (changeOf port ((graph.find? port.id).map (·.2)) place).toList graph filedGraph := by
  have lookup := find?_of_insert filed inserted
  cases place with
  | none =>
      have dropped : filedGraph = graph.erase port.id := by
        have isPlace := place?_of_insert inserted
        simp only [insert_eq filed, isPlace] at inserted
        cases inserted
        rfl
      have queued : changeOf port ((graph.find? port.id).map (·.2)) none =
          ((graph.find? port.id).map (·.2)).map Change.removed := by
        cases (graph.find? port.id).map (·.2) <;> rfl
      rw [queued, dropped]
      exact leads_erase filed port.id
  | some place =>
      intro held mirrors
      refine ⟨held.insert port.id port, ?_, ?_⟩
      · cases found : (graph.find? port.id).map (·.2) with
        | none =>
            have absent : held.get? port.id = none := by rw [mirrors, found]
            simp [changeOf, Change.replay_cons, Change.advance?, absent]
        | some previous =>
            have present : held.get? port.id = some previous := by rw [mirrors, found]
            have sameId := (filed.find?_map_eq_some_iff.1 found).2
            simp [changeOf, Change.replay_cons, Change.advance?, present, sameId]
      · intro other
        rw [Table.get?_insert, lookup, mirrors]
        split <;> rfl

variable {σ : Type} {transport : Transport σ} {subscriber after : Subscriber} {world changed : σ}

/-- What an event queues leads from the graph before it to the graph after it. -/
theorem leads_of_handle {event : Event} (filed : subscriber.graph.WellFiled)
    (handled : subscriber.handle transport event world = .ok (after, changed)) :
    ∃ news, after.changes = subscriber.changes ++ news ∧
      Leads news subscriber.graph after.graph := by
  by_cases listening : subscriber.phase = .listening
  · rcases handle_cases listening handled with ⟨id, -, result⟩ | ⟨id, props, -, described, -⟩ |
      ⟨id, -, result⟩ | ⟨-, -, -, rfl, -⟩
    · have same : after = (subscriber.announce transport id world).1 := congrArg Prod.fst result
      exact ⟨[], by simp [same], by simpa [same] using Leads.refl subscriber.graph⟩
    · rcases describe_cases described with ⟨-, rfl⟩ | ⟨-, place, graph, inserted, rfl⟩
      · exact ⟨[], by simp, Leads.refl _⟩
      · exact ⟨_, rfl, leads_insert filed inserted⟩
    · have same : after = ((subscriber.withdraw id).release transport id world).1 :=
        congrArg Prod.fst result
      refine ⟨_, by rw [same, changes_release, changes_withdraw id filed], ?_⟩
      simpa [same, graph_withdraw id filed] using leads_erase filed id
    · exact ⟨[], by simp, Leads.refl _⟩
  · rw [handle_of_not_listening event listening] at handled
    cases handled
    exact ⟨[], by simp, Leads.refl _⟩

end MediaGraph.Subscriber
