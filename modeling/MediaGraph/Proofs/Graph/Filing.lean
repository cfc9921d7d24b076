import MediaGraph.Graph.Basic
import MediaGraph.Proofs.Table
import Mathlib.Data.List.Nodup

/-!
# Ports are filed once, and where they belong

`Graph.WellFiled` is the invariant of every graph that is built by filing and dropping ports: each
record sits at the place and in the direction that it names itself, and no two records have the
same id. Under it a lookup by id finds a record exactly when the graph holds it, and the search for
a port to take out, which ends at the first record it finds, leaves none behind (`remove_eq`). So
filing and dropping a port have one law each (`find?_of_insert` and `find?_erase`) that says what
becomes of every lookup.
-/

namespace MediaGraph

theorem Port.filter_of_absent {ports : List Port} {id : ObjectId}
    (absent : ∀ port ∈ ports, port.id ≠ id) : ports.filter (fun port => port.id ≠ id) = ports := by
  apply List.filter_eq_self.2
  intro port member
  simpa using absent port member

/-- Of ports with different ids, taking out the first with an id takes out all that have it. -/
theorem Port.eraseP_eq_filter {ports : List Port} (once : (ports.map (·.id)).Nodup)
    (id : ObjectId) :
    ports.eraseP (fun port => port.id = id) = ports.filter fun port => port.id ≠ id := by
  induction ports with
  | nil => rfl
  | cons port rest ih =>
      rcases List.nodup_cons.1 once with ⟨notLater, restOnce⟩
      by_cases same : port.id = id
      · have others : rest.filter (fun port => port.id ≠ id) = rest := by
          apply filter_of_absent
          rintro other member rfl
          exact notLater (List.mem_map.2 ⟨other, member, same.symm⟩)
        simpa [same] using others.symm
      · simpa [same] using ih restOnce

namespace Node

/-- The node without the ports that have an id. -/
def erase (node : Node) (id : ObjectId) : Node where
  inputs := node.inputs.filter fun port => port.id ≠ id
  outputs := node.outputs.filter fun port => port.id ≠ id

@[simp]
theorem mem_all {node : Node} {port : Port} :
    port ∈ node.all ↔ ∃ direction, port ∈ node.ports direction := by
  constructor
  · intro member
    rcases List.mem_append.1 member with inputs | outputs
    · exact ⟨.input, inputs⟩
    · exact ⟨.output, outputs⟩
  · rintro ⟨direction, member⟩
    cases direction with
    | input => exact List.mem_append_left _ member
    | output => exact List.mem_append_right _ member

theorem all_push (node : Node) (port : Port) : (node.push port).all.Perm (port :: node.all) := by
  cases same : port.direction with
  | input => simp [push, all, same]
  | output =>
      simp only [push, all, same]
      rw [← List.append_assoc]
      exact List.perm_append_singleton port (node.inputs ++ node.outputs)

theorem ports_push (node : Node) (port : Port) (direction : Direction) :
    (node.push port).ports direction =
      if port.direction = direction then node.ports direction ++ [port]
      else node.ports direction := by
  cases same : port.direction <;> cases direction <;> simp [push, ports, same]

@[simp]
theorem ports_erase (node : Node) (id : ObjectId) (direction : Direction) :
    (node.erase id).ports direction = (node.ports direction).filter fun port => port.id ≠ id := by
  cases direction <;> rfl

@[simp]
theorem all_erase (node : Node) (id : ObjectId) :
    (node.erase id).all = node.all.filter fun port => port.id ≠ id := by
  simp [all, erase]

theorem erase_of_absent {node : Node} {id : ObjectId} (absent : ∀ port ∈ node.all, port.id ≠ id) :
    node.erase id = node := by
  have inputs : node.inputs.filter (fun port => port.id ≠ id) = node.inputs :=
    Port.filter_of_absent fun port member => absent port (List.mem_append_left _ member)
  have outputs : node.outputs.filter (fun port => port.id ≠ id) = node.outputs :=
    Port.filter_of_absent fun port member => absent port (List.mem_append_right _ member)
  simp only [erase, inputs, outputs]

/-- If no two ports have the same id, what is left after taking one out is free of its id. -/
theorem remove?_eq {node : Node} (once : (node.all.map (·.id)).Nodup) (id : ObjectId) :
    node.remove? id =
      (node.all.find? fun port => port.id = id).map fun port => (port, node.erase id) := by
  rw [all, List.map_append, List.nodup_append] at once
  rcases once with ⟨inputsOnce, outputsOnce, apart⟩
  simp only [remove?, all, List.find?_append, erase]
  rw [Port.eraseP_eq_filter inputsOnce, Port.eraseP_eq_filter outputsOnce]
  cases found : node.inputs.find? fun port => port.id = id with
  | some port =>
      have member := List.mem_of_find?_eq_some found
      have isId : port.id = id := by simpa using List.find?_some found
      have untouched : node.outputs.filter (fun other => other.id ≠ id) = node.outputs := by
        apply Port.filter_of_absent
        rintro other isOther sameId
        exact apart port.id (List.mem_map_of_mem member) other.id (List.mem_map_of_mem isOther)
          (isId.trans sameId.symm)
      rw [untouched]
      rfl
  | none =>
      have untouched : node.inputs.filter (fun other => other.id ≠ id) = node.inputs := by
        apply Port.filter_of_absent
        simpa using found
      rw [untouched]
      rfl

end Node

/-- A node id is malformed if there is one and it is no 32-bit word. -/
theorem Port.nodeId?_eq_error_iff {port : Port} {malformed : MalformedNode} :
    port.nodeId? = .error malformed ↔
      malformed = ⟨port.id, port.node⟩ ∧ port.node ≠ "" ∧ Text.readWord? port.node = none := by
  simp only [nodeId?]
  by_cases named : port.node = ""
  · simp [named]
  · cases read : Text.readWord? port.node <;> simp [named, eq_comm]

theorem Port.place?_eq_some_iff {port : Port} {category : Category} {node : ObjectId} :
    port.place? = .ok (some ⟨category, node⟩) ↔
      port.nodeId? = .ok (some node) ∧ port.category? = some category := by
  simp only [Port.place?]
  split
  case h_1 malformed => simp [malformed]
  case h_2 absent => simp [absent]
  case h_3 other present =>
    cases kind : port.category? <;> simp [present, and_comm]

/-- Whether a port is one of a node, in a direction. -/
def Port.isAt (node : ObjectId) (direction : Direction) (port : Port) : Bool :=
  port.nodeId? = .ok (some node) ∧ port.direction = direction

theorem Port.isAt_iff {node : ObjectId} {direction : Direction} {port : Port} :
    port.isAt node direction ↔
      port.nodeId? = .ok (some node) ∧ port.direction = direction := by
  simp [isAt]

/-- Unless its node id is malformed, a port has a place if it names a node and has a category. -/
theorem Port.isSome_place {port : Port} {place : Option Place} (isPlace : port.place? = .ok place) :
    place.isSome ↔ port.node ≠ "" ∧ port.category?.isSome := by
  simp only [place?, nodeId?] at isPlace
  by_cases named : port.node = ""
  · simp only [named, if_true] at isPlace
    cases isPlace
    simp [named]
  · simp only [named, if_false] at isPlace
    cases read : Text.readWord? port.node with
    | none => simp [read] at isPlace
    | some node =>
        simp only [read] at isPlace
        cases isPlace
        simp [named]

namespace Graph

/-- Every record sits where it belongs, and no two records have the same id. -/
structure WellFiled (graph : Graph) : Prop where
  placed : ∀ place node direction, graph.node? place = some node →
    ∀ port ∈ node.ports direction, port.direction = direction ∧ port.place? = .ok (some place)
  unique : (graph.allPorts.map (·.id)).Nodup

theorem mem_allPorts {graph : Graph} {port : Port} :
    port ∈ graph.allPorts ↔
      ∃ place node direction, graph.node? place = some node ∧ port ∈ node.ports direction := by
  simp only [allPorts, List.mem_flatMap, Table.mem_values_iff, Node.mem_all, node?]
  constructor
  · rintro ⟨node, ⟨place, found⟩, direction, member⟩
    exact ⟨place, node, direction, found, member⟩
  · rintro ⟨place, node, direction, found, member⟩
    exact ⟨node, ⟨place, found⟩, direction, member⟩

theorem map_located (graph : Graph) : graph.located.map (·.2) = graph.allPorts := by
  simp [located, allPorts, Table.values, List.map_flatMap, List.flatMap_map, Function.comp_def]

theorem mem_located {graph : Graph} {category : Category} {port : Port} :
    (category, port) ∈ graph.located ↔
      ∃ place node direction, graph.node? place = some node ∧ place.category = category ∧
        port ∈ node.ports direction := by
  simp only [located, List.mem_flatMap, List.mem_map, Prod.mk.injEq, node?,
    Table.get?_eq_some_iff, Prod.exists, Node.mem_all]
  constructor
  · rintro ⟨place, node, found, _, ⟨direction, member⟩, same, rfl⟩
    exact ⟨place, node, direction, found, same, member⟩
  · rintro ⟨place, node, direction, found, same, member⟩
    exact ⟨place, node, found, port, ⟨direction, member⟩, same, rfl⟩

/-! ## Lookups in a well-filed graph -/

section WellFiled

variable {graph : Graph}

theorem WellFiled.port_unique (filed : graph.WellFiled) {first second : Port}
    (firstMember : first ∈ graph.allPorts) (secondMember : second ∈ graph.allPorts)
    (sameId : first.id = second.id) : first = second :=
  List.inj_on_of_nodup_map filed.unique firstMember secondMember sameId

theorem WellFiled.mem_ports (filed : graph.WellFiled) {port : Port}
    (member : port ∈ graph.allPorts) :
    ∃ place, port.place? = .ok (some place) ∧ port ∈ graph.ports place port.direction := by
  rcases mem_allPorts.1 member with ⟨place, node, direction, found, present⟩
  rcases filed.placed place node direction found port present with ⟨rfl, isPlace⟩
  exact ⟨place, isPlace, by simpa [ports, found] using present⟩

/-- A record is found under its id and in its own category, and nothing else is found. -/
theorem WellFiled.find?_eq_some_iff (filed : graph.WellFiled) {id : ObjectId}
    {category : Category} {port : Port} :
    graph.find? id = some (category, port) ↔
      port ∈ graph.allPorts ∧ port.id = id ∧
        ∃ node, port.place? = .ok (some ⟨category, node⟩) := by
  constructor
  · intro found
    have isId : port.id = id := by simpa using List.find?_some found
    rcases mem_located.1 (List.mem_of_find?_eq_some found) with
      ⟨place, node, direction, atPlace, rfl, member⟩
    refine ⟨mem_allPorts.2 ⟨place, node, direction, atPlace, member⟩, isId, place.node, ?_⟩
    exact (filed.placed place node direction atPlace port member).2
  · rintro ⟨member, rfl, nodeId, isPlace⟩
    cases found : graph.find? port.id with
    | none =>
        rw [← map_located] at member
        rcases List.mem_map.1 member with ⟨entry, located, rfl⟩
        have absent := List.find?_eq_none.1 found entry located
        simp at absent
    | some entry =>
        rcases entry with ⟨other, present⟩
        have isId : present.id = port.id := by simpa using List.find?_some found
        rcases mem_located.1 (List.mem_of_find?_eq_some found) with
          ⟨place, node, direction, atPlace, rfl, presentMember⟩
        have same : present = port :=
          filed.port_unique (mem_allPorts.2 ⟨place, node, direction, atPlace, presentMember⟩)
            member isId
        subst same
        have samePlace := (filed.placed place node direction atPlace present presentMember).2
        rw [samePlace] at isPlace
        cases isPlace
        rfl

theorem WellFiled.find?_map_eq_some_iff (filed : graph.WellFiled) {id : ObjectId} {port : Port} :
    (graph.find? id).map (·.2) = some port ↔ port ∈ graph.allPorts ∧ port.id = id := by
  constructor
  · intro found
    rcases Option.map_eq_some_iff.1 found with ⟨⟨category, _⟩, entry, rfl⟩
    rcases filed.find?_eq_some_iff.1 entry with ⟨member, isId, _⟩
    exact ⟨member, isId⟩
  · rintro ⟨member, isId⟩
    rcases filed.mem_ports member with ⟨place, isPlace, _⟩
    have entry := filed.find?_eq_some_iff.2 ⟨member, isId, place.node, isPlace⟩
    simp [entry]

end WellFiled

/-! ## Dropping a port -/

/-- The graph without the ports that have an id. -/
def erase (graph : Graph) (id : ObjectId) : Graph :=
  ⟨graph.nodes.mapValues fun _ node => node.erase id⟩

theorem WellFiled.nodup_all {graph : Graph} (filed : graph.WellFiled) {place : Place} {node : Node}
    (found : graph.node? place = some node) : (node.all.map (·.id)).Nodup := by
  refine filed.unique.sublist (List.Sublist.map _ ?_)
  apply List.sublist_flatten_of_mem
  exact List.mem_map_of_mem ((Table.mem_values_iff graph.nodes node).2 ⟨place, found⟩)

theorem WellFiled.place_unique {graph : Graph} (filed : graph.WellFiled) {first second : Place}
    {node other : Node} (isFirst : graph.node? first = some node)
    (isSecond : graph.node? second = some other) {port twin : Port} (member : port ∈ node.all)
    (twinMember : twin ∈ other.all) (sameId : port.id = twin.id) : first = second := by
  rcases Node.mem_all.1 member with ⟨direction, present⟩
  rcases Node.mem_all.1 twinMember with ⟨twinDirection, twinPresent⟩
  have same : port = twin :=
    filed.port_unique (mem_allPorts.2 ⟨first, node, direction, isFirst, present⟩)
      (mem_allPorts.2 ⟨second, other, twinDirection, isSecond, twinPresent⟩) sameId
  subst same
  have isPlace := (filed.placed first node direction isFirst port present).2
  have isTwinPlace := (filed.placed second other twinDirection isSecond port twinPresent).2
  cases isPlace.symm.trans isTwinPlace
  rfl

/-- In a well-filed graph the search takes out the one port that there is, or nothing. -/
theorem remove_eq {graph : Graph} (filed : graph.WellFiled) (id : ObjectId) :
    graph.remove id = ((graph.find? id).map (·.2), graph.erase id) := by
  have isNode : ∀ {place node}, (place, node) ∈ graph.nodes.entries →
      graph.node? place = some node := fun member => (graph.nodes.get?_eq_some_iff _ _).2 member
  simp only [remove]
  cases found : graph.nodes.entries.findSome? fun entry =>
      (entry.2.remove? id).map fun rest => (entry.1, rest) with
  | none =>
      have absent : ∀ place node, graph.node? place = some node →
          ∀ port ∈ node.all, port.id ≠ id := by
        intro place node isThere port member
        have entry := (graph.nodes.get?_eq_some_iff place node).1 isThere
        have nothing := List.findSome?_eq_none_iff.1 found (place, node) entry
        rw [Node.remove?_eq (filed.nodup_all isThere)] at nothing
        have unseen := Option.map_eq_none_iff.1 (Option.map_eq_none_iff.1 nothing)
        simpa using List.find?_eq_none.1 unseen port member
      have unfound : (graph.find? id).map (·.2) = none := by
        apply Option.eq_none_iff_forall_ne_some.2
        intro port isFound
        rcases filed.find?_map_eq_some_iff.1 isFound with ⟨member, isId⟩
        rcases mem_allPorts.1 member with ⟨place, node, direction, isThere, present⟩
        exact absent place node isThere port (Node.mem_all.2 ⟨direction, present⟩) isId
      have same : graph.nodes.mapValues (fun _ node => node.erase id) = graph.nodes := by
        apply Table.ext_get?
        intro place
        rw [Table.get?_mapValues]
        cases isThere : graph.nodes.get? place with
        | none => rfl
        | some node => rw [Option.map_some, Node.erase_of_absent (absent place node isThere)]
      rw [unfound, erase, same]
  | some result =>
      rcases List.exists_of_findSome?_eq_some found with ⟨⟨place, node⟩, entry, taken⟩
      have isThere := isNode entry
      rw [Node.remove?_eq (filed.nodup_all isThere)] at taken
      rcases Option.map_eq_some_iff.1 taken with ⟨_, isTaken, rfl⟩
      rcases Option.map_eq_some_iff.1 isTaken with ⟨port, isFound, rfl⟩
      have member := List.mem_of_find?_eq_some isFound
      have isId : port.id = id := by simpa using List.find?_some isFound
      rcases Node.mem_all.1 member with ⟨direction, present⟩
      have isFirst : (graph.find? id).map (·.2) = some port :=
        filed.find?_map_eq_some_iff.2
          ⟨mem_allPorts.2 ⟨place, node, direction, isThere, present⟩, isId⟩
      have same : graph.nodes.insert place (node.erase id) =
          graph.nodes.mapValues fun _ node => node.erase id := by
        apply Table.ext_get?
        intro other
        rw [Table.get?_insert, Table.get?_mapValues]
        split
        case isTrue here =>
          rw [here, show graph.nodes.get? place = some node from isThere, Option.map_some]
        case isFalse elsewhere =>
          cases isOther : graph.nodes.get? other with
          | none => rfl
          | some neighbour =>
              have absent : ∀ twin ∈ neighbour.all, twin.id ≠ id := by
                intro twin twinMember twinId
                exact elsewhere (filed.place_unique isOther isThere twinMember member
                  (twinId.trans isId.symm))
              rw [Option.map_some, Node.erase_of_absent absent]
      rw [isFirst, erase, ← same]

theorem insert_eq {graph : Graph} (filed : graph.WellFiled) (port : Port) :
    graph.insert port =
      match port.place? with
      | .error malformed => .error malformed
      | .ok none => .ok (none, graph.erase port.id)
      | .ok (some place) => .ok (some place, (graph.erase port.id).file place port) := by
  rcases placed : port.place? with malformed | _ | place
  · simp only [insert, placed]
  · simp only [insert, placed, remove_eq filed]
  · simp only [insert, placed, remove_eq filed]

theorem insert_eq_error_iff (graph : Graph) {port : Port} {malformed : MalformedNode} :
    graph.insert port = .error malformed ↔ port.nodeId? = .error malformed := by
  simp only [insert, Port.place?]
  rcases port.nodeId? with _ | _ | node
  · simp
  · simp
  · cases port.category? <;> simp

theorem allPorts_erase (graph : Graph) (id : ObjectId) :
    (graph.erase id).allPorts = graph.allPorts.filter fun port => port.id ≠ id := by
  simp [allPorts, erase, Table.values, List.flatMap_map, List.filter_flatMap]

theorem WellFiled.erase {graph : Graph} (filed : graph.WellFiled) (id : ObjectId) :
    (graph.erase id).WellFiled := by
  constructor
  · intro place node direction found port member
    simp only [node?, Graph.erase, Table.get?_mapValues] at found
    rcases Option.map_eq_some_iff.1 found with ⟨former, formerFound, rfl⟩
    rw [Node.ports_erase] at member
    exact filed.placed place former direction formerFound port (List.mem_filter.1 member).1
  · rw [allPorts_erase]
    exact filed.unique.sublist (List.filter_sublist.map _)

theorem find?_erase {graph : Graph} (filed : graph.WellFiled) (id other : ObjectId) :
    (graph.erase id).find? other = if other = id then none else graph.find? other := by
  ext ⟨category, port⟩
  rw [(filed.erase id).find?_eq_some_iff, allPorts_erase, List.mem_filter]
  by_cases same : other = id
  · simp only [same, if_true]
    constructor
    · rintro ⟨⟨_, apart⟩, isId, _⟩
      simp [isId] at apart
    · simp
  · simp only [same, if_false, filed.find?_eq_some_iff]
    constructor
    · rintro ⟨⟨member, _⟩, isId, isPlace⟩
      exact ⟨member, isId, isPlace⟩
    · rintro ⟨member, isId, isPlace⟩
      exact ⟨⟨member, by simpa [isId] using same⟩, isId, isPlace⟩

/-! ## Filing a port -/

theorem allPorts_file (graph : Graph) (place : Place) (port : Port) :
    (graph.file place port).allPorts.Perm (port :: graph.allPorts) := by
  rcases graph.nodes.insert_split place with ⟨before, after, split, inserted⟩
  have former : graph.allPorts =
      (before.flatMap fun entry => entry.2.all) ++ ((graph.node? place).getD .empty).all ++
        after.flatMap fun entry => entry.2.all := by
    simp only [allPorts, Table.values, split, node?]
    cases found : graph.nodes.get? place <;>
      simp [List.flatMap_map, Node.all, Node.empty]
  have present : (graph.file place port).allPorts =
      (before.flatMap fun entry => entry.2.all) ++
        ((((graph.node? place).getD .empty).push port).all ++
          after.flatMap fun entry => entry.2.all) := by
    simp [allPorts, Table.values, file, inserted, List.flatMap_map]
  rw [former, present, List.append_assoc]
  apply (List.Perm.append_left _ ((Node.all_push _ port).append_right _)).trans
  simp

theorem WellFiled.file {graph : Graph} (filed : graph.WellFiled) {place : Place} {port : Port}
    (isPlace : port.place? = .ok (some place))
    (absent : ∀ other ∈ graph.allPorts, other.id ≠ port.id) :
    (graph.file place port).WellFiled := by
  constructor
  · intro somewhere node direction found other member
    simp only [node?, Graph.file, Table.get?_insert] at found
    split at found
    case isTrue same =>
      subst same
      cases found
      rw [Node.ports_push] at member
      have former : ∀ other ∈ ((graph.node? somewhere).getD .empty).ports direction,
          other.direction = direction ∧ other.place? = .ok (some somewhere) := by
        cases formerNode : graph.node? somewhere with
        | none => cases direction <;> simp [Node.empty, Node.ports]
        | some node => exact filed.placed somewhere node direction formerNode
      split at member
      case isTrue sameDirection =>
        rcases List.mem_append.1 member with old | new
        · exact former other old
        · cases List.mem_singleton.1 new
          exact ⟨sameDirection, isPlace⟩
      case isFalse => exact former other member
    case isFalse => exact filed.placed somewhere node direction found other member
  · rw [((allPorts_file graph place port).map (·.id)).nodup_iff, List.map_cons, List.nodup_cons]
    refine ⟨?_, filed.unique⟩
    intro member
    rcases List.mem_map.1 member with ⟨other, present, same⟩
    exact absent other present same

theorem WellFiled.empty : Graph.empty.WellFiled := by
  constructor
  · intro place node direction found
    simp [node?, Graph.empty] at found
  · simp [allPorts, Graph.empty, Table.values]

/-- Filing a port keeps the order of the graph, whatever the port was before. -/
theorem WellFiled.insert {graph filedGraph : Graph} {port : Port} {place : Option Place}
    (filed : graph.WellFiled) (inserted : graph.insert port = .ok (place, filedGraph)) :
    filedGraph.WellFiled := by
  rw [insert_eq filed] at inserted
  split at inserted
  case h_1 => simp at inserted
  case h_2 =>
    cases inserted
    exact filed.erase port.id
  case h_3 somewhere isPlace =>
    cases inserted
    apply (filed.erase port.id).file isPlace
    intro other member
    rw [allPorts_erase, List.mem_filter] at member
    simpa using member.2

theorem place?_of_insert {graph filedGraph : Graph} {port : Port} {place : Option Place}
    (inserted : graph.insert port = .ok (place, filedGraph)) : port.place? = .ok place := by
  simp only [insert] at inserted
  split at inserted
  case h_1 => simp at inserted
  case h_2 isPlace => cases inserted; exact isPlace
  case h_3 isPlace => cases inserted; exact isPlace

/-- Filing a port decides the lookup of its id and leaves all others alone. -/
theorem find?_of_insert {graph filedGraph : Graph} {port : Port} {place : Option Place}
    (filed : graph.WellFiled) (inserted : graph.insert port = .ok (place, filedGraph))
    (other : ObjectId) :
    filedGraph.find? other =
      if other = port.id then place.map fun place => (place.category, port)
      else graph.find? other := by
  have filedAfter := filed.insert inserted
  have isPlace := place?_of_insert inserted
  simp only [insert_eq filed, isPlace] at inserted
  cases place with
  | none =>
      cases inserted
      rw [find?_erase filed]
      rfl
  | some place =>
      cases inserted
      ext ⟨category, found⟩
      have members := (allPorts_file (graph.erase port.id) place port).mem_iff (a := found)
      rw [allPorts_erase, List.mem_cons, List.mem_filter] at members
      rw [filedAfter.find?_eq_some_iff, members]
      by_cases same : other = port.id
      · simp only [same, if_true, Option.map_some, Option.some.injEq, Prod.mk.injEq]
        constructor
        · rintro ⟨rfl | ⟨_, apart⟩, isId, node, foundPlace⟩
          · rw [isPlace] at foundPlace
            cases foundPlace
            exact ⟨rfl, rfl⟩
          · simp [isId] at apart
        · rintro ⟨rfl, rfl⟩
          exact ⟨.inl rfl, rfl, place.node, isPlace⟩
      · simp only [same, if_false, filed.find?_eq_some_iff]
        constructor
        · rintro ⟨rfl | ⟨member, _⟩, isId, foundPlace⟩
          · exact absurd isId.symm same
          · exact ⟨member, isId, foundPlace⟩
        · rintro ⟨member, isId, foundPlace⟩
          exact ⟨.inr ⟨member, by simpa [isId] using same⟩, isId, foundPlace⟩

@[simp]
theorem find?_empty (id : ObjectId) : Graph.empty.find? id = none := rfl

end Graph

end MediaGraph
