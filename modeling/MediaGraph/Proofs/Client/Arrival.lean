import MediaGraph.Proofs.Client.Currency
import MediaGraph.Proofs.Client.Snapshot
import MediaGraph.Proofs.Graph.Register

/-!
# In which order ports arrive

The second of two barriers hands over the properties of the ports that were bound in the first, in
the order in which they were announced. Each port goes behind all others at its place, so ports that
were announced last stand there last, and in the order of their announcements
(`Graph.ports_insertAll`).
-/

namespace MediaGraph

/-- Whether a port is filed at a place, in a direction. -/
def Port.liesAt (place : Place) (direction : Direction) (port : Port) : Bool :=
  port.place? = .ok (some place) ∧ port.direction = direction

namespace Graph

variable {graph after : Graph} {port : Port} {ports : List Port}

/-- A port that is filed leaves its old position and goes behind the others at its place. -/
theorem ports_insert {place : Option Place} (filed : graph.WellFiled)
    (inserted : graph.insert port = .ok (place, after)) (other : Place) (direction : Direction) :
    after.ports other direction =
      (graph.ports other direction).filter (fun former => former.id ≠ port.id) ++
        [port].filter (·.liesAt other direction) := by
  rw [insert_eq filed] at inserted
  rcases isPlace : port.place? with malformed | _ | own
  · simp [isPlace] at inserted
  · simp only [isPlace, Except.ok.injEq, Prod.mk.injEq] at inserted
    rw [← inserted.2, ports_erase]
    simp [Port.liesAt, isPlace]
  · simp only [isPlace, Except.ok.injEq, Prod.mk.injEq] at inserted
    rw [← inserted.2, ports_file, ports_erase]
    by_cases here : other = own ∧ port.direction = direction
    · simp [Port.liesAt, isPlace, here]
    · have elsewhere : ¬(own = other ∧ port.direction = direction) := by
        rintro ⟨rfl, same⟩
        exact here ⟨rfl, same⟩
      simp [Port.liesAt, isPlace, here, elsewhere]

theorem WellFiled.insertAll (filed : graph.WellFiled)
    (inserted : graph.insertAll ports = .ok after) : after.WellFiled := by
  induction ports generalizing graph with
  | nil =>
      cases inserted
      exact filed
  | cons first rest ih =>
      rcases step : graph.insert first with reason | ⟨place, next⟩
      · rw [insertAll_cons_of_error step] at inserted
        cases inserted
      · rw [insertAll_cons_of_ok step] at inserted
        exact ih (filed.insert step) inserted

/-- Ports that are filed one after the other stand at the end of each place, in this order. -/
theorem ports_insertAll (filed : graph.WellFiled) (once : (ports.map (·.id)).Nodup)
    (inserted : graph.insertAll ports = .ok after) (place : Place) (direction : Direction) :
    after.ports place direction =
      (graph.ports place direction).filter (fun former => former.id ∉ ports.map (·.id)) ++
        ports.filter (·.liesAt place direction) := by
  induction ports generalizing graph with
  | nil =>
      cases inserted
      simp
  | cons first rest ih =>
      rw [List.map_cons, List.nodup_cons] at once
      rcases step : graph.insert first with reason | ⟨own, next⟩
      · rw [insertAll_cons_of_error step] at inserted
        cases inserted
      · rw [insertAll_cons_of_ok step] at inserted
        have kept : ([first].filter (·.liesAt place direction)).filter
            (fun former => former.id ∉ rest.map (·.id)) =
              [first].filter (·.liesAt place direction) := by
          apply List.filter_eq_self.2
          intro port member
          rw [List.mem_singleton.1 (List.mem_filter.1 member).1]
          simpa using once.1
        rw [ih (filed.insert step) once.2 inserted, ports_insert filed step, List.filter_append,
          kept, List.filter_filter, List.append_assoc, ← List.filter_append, List.singleton_append]
        congr 2
        funext former
        rw [List.map_cons, ← Bool.decide_and, decide_eq_decide, List.mem_cons, not_or, and_comm]

theorem insertAll_append (graph : Graph) (first second : List Port) :
    graph.insertAll (first ++ second) = (graph.insertAll first).bind (·.insertAll second) := by
  simp only [insertAll, List.foldlM_append]
  rfl

theorem length_ports_le_portCounts (graph : Graph) (category : Category) (node : ObjectId) :
    (graph.ports ⟨category, node⟩ .input).length ≤ (graph.portCounts node).1 ∧
      (graph.ports ⟨category, node⟩ .output).length ≤ (graph.portCounts node).2 := by
  have within : ∀ direction, (graph.ports ⟨category, node⟩ direction).length ≤
      (Category.all.flatMap fun category => graph.ports ⟨category, node⟩ direction).length := by
    intro direction
    have listed := Category.mem_all category
    rcases List.append_of_mem listed with ⟨before, behind, split⟩
    rw [split, List.flatMap_append, List.flatMap_cons, List.length_append, List.length_append]
    omega
  have inputs := within .input
  have outputs := within .output
  rw [← flatMap_ports_node] at inputs outputs
  exact ⟨inputs, outputs⟩

end Graph

namespace Client

open Server

variable {id : ConnectionId} {links : List ProxyId} {client after : Client Server}
  {server changed : Server}

/-- A barrier that hands over nothing but properties files the ports one after the other. -/
theorem Flushed.insertAll (flushed : Flushed id client server after changed)
    {ports : List (ObjectId × Properties)}
    (inbox : flushed.connection.inbox = ports.map Event.describing)
    (listening : client.subscriber.phase = .listening)
    (listens : ∀ port ∈ ports, client.subscriber.isListeningTo port.1) :
    client.graph.insertAll (ports.map fun port => .ofProperties port.1 port.2) =
      .ok after.graph := by
  have delivered := flushed.delivered
  rw [inbox] at delivered
  have batch := deliverAll_infos (Server.transport id) flushed.turned flushed.fetched
    (by rwa [flushed.subscriber]) (by rwa [flushed.subscriber])
  have same : flushed.turned.graph = client.graph := congrArg Subscriber.graph flushed.subscriber
  rw [same] at batch
  have told : after.graph = flushed.next.graph := congrArg (·.graph) flushed.told
  rcases filed : client.graph.insertAll (ports.map fun port => .ofProperties port.1 port.2) with
    malformed | filedGraph
  · rw [filed] at batch
    rcases batch with ⟨left, failed⟩
    have stopped := deliverAll_append_of_malformed failed [.done flushed.sequence]
    cases stopped.symm.trans delivered
  · rw [filed] at batch
    rcases batch with ⟨changes, handled⟩
    have rest := deliverAll_append handled [.done flushed.sequence]
    have next := congrArg (fun result => result.2.1.graph) (rest.symm.trans delivered)
    rw [filed, told]
    exact congrArg Except.ok next

/--
The ports that were announced last are those at their place, in the order of the announcements, if
the server has no other ports there.
-/
theorem Flushed.ports_eq (flushed : Flushed id client server after changed)
    (tracks : Tracks server.kinds links flushed.connection.inbox client.subscriber server
      flushed.connection)
    (mirrored : client.subscriber.Mirrored) (truthful : server.Truthful flushed.connection)
    (few : changed.HasHandles id)
    {earlier arrivals : List (ObjectId × Properties)}
    (inbox : flushed.connection.inbox = (earlier ++ arrivals).map Event.describing)
    (present : ∀ port ∈ earlier ++ arrivals, server.portProperties? port.1 = some port.2)
    (once : (arrivals.map (·.1)).Nodup) {place : Place} {direction : Direction}
    (whole : ∀ object props, server.portProperties? object = some props →
      (Port.ofProperties object props).place? = .ok (some place) →
      object ∈ arrivals.map (·.1)) :
    after.graph.ports place direction =
      (arrivals.map fun port => Port.ofProperties port.1 port.2).filter
        (·.liesAt place direction) := by
  have listens : ∀ port ∈ earlier ++ arrivals, client.subscriber.isListeningTo port.1 := by
    intro port member
    rcases portProperties?_eq_some_iff.1 (present port member) with ⟨object, found, isPort, -⟩
    have known : server.kinds.get? port.1 = some .port := by
      rw [get?_kinds, kind?, found, Option.map_some, isPort]
    have untouched : Event.Untouched port.1 flushed.connection.inbox := by
      rw [inbox]
      intro event told
      rcases List.mem_map.1 told with ⟨other, -, rfl⟩
      rfl
    exact Subscriber.isListeningTo_iff.2 (tracks.present port.1 known untouched)
  have filed := flushed.insertAll inbox tracks.listening listens
  have current := flushed.current tracks mirrored truthful few
  have objects : changed.objects = server.objects := by
    rcases flushed.tracks tracks few with ⟨-, -, -, objects, -⟩
    exact objects
  rw [List.map_append, Graph.insertAll_append] at filed
  rcases early : client.graph.insertAll (earlier.map fun port => .ofProperties port.1 port.2) with
    malformed | between
  · simp [early, Except.bind] at filed
  · rw [early] at filed
    have ids : (arrivals.map fun port => Port.ofProperties port.1 port.2).map (·.id) =
        arrivals.map (·.1) := by
      rw [List.map_map]
      rfl
    have wellFiled := mirrored.filed.insertAll early
    have ports := Graph.ports_insertAll wellFiled (ids ▸ once) filed place direction
    rw [ports, ids]
    -- A record that was there before would be that of a port of the server, so of an arrival.
    have nothing : (between.ports place direction).filter
        (fun former => former.id ∉ arrivals.map (·.1)) = [] := by
      rw [List.eq_nil_iff_forall_not_mem]
      intro record member
      have shown : record ∈ after.graph.ports place direction := by
        rw [ports, ids]
        exact List.mem_append_left _ member
      rcases (wellFiled.insertAll filed).mem_ports_iff.1 shown with ⟨isRecord, isPlace, -⟩
      rcases current record.id record
        ((wellFiled.insertAll filed).find?_map_eq_some_iff.2 ⟨isRecord, rfl⟩) with
        ⟨props, isPort, same⟩
      rw [portProperties?, objects] at isPort
      rw [same] at isPlace
      have isArrival := whole record.id props isPort isPlace
      have absent := (List.mem_filter.1 member).2
      simp [isArrival] at absent
    rw [nothing, List.nil_append]

end Client

end MediaGraph
