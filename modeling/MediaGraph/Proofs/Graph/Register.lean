import MediaGraph.Proofs.Graph.Filing

/-!
# The graph is a list of live ports

A `Register` keeps the live ports in one list, in the order in which they came, and remembers where
ports have landed since it was last cleared. It is the simplest thing that a graph could be:
inserting a port drops the one with its id and adds the new one at the end, removing drops by id.

The graph spreads the same ports over places, nodes and directions and takes one out by searching
for it. `edits_refine_register` shows that no sequence of edits can tell the two apart: they give
the same replies, and every query of the graph answers from the list (`Graph.Presents`).

The invariant of the simulation is `Graph.Refines`. It holds of the empty graph, each edit preserves
it (`Refines.perform`), and so does a whole sequence of edits (`Refines.run`).
-/

namespace MediaGraph

/-- A change that is asked of a graph. -/
inductive Edit where
  | insert (port : Port)
  | remove (id : ObjectId)
  | clear
  deriving DecidableEq

/-- What the caller of an edit is told. -/
inductive Edit.Reply where
  | malformed (error : MalformedNode)
  | landed (place : Option Place)
  | taken (port : Option Port)
  | cleared
  deriving DecidableEq

/-- Performs edits in turn and collects their replies. -/
def Edit.run {σ : Type} (perform : Edit → σ → Edit.Reply × σ) : List Edit → σ → List Edit.Reply × σ
  | [], state => ([], state)
  | edit :: rest, state =>
    let (reply, next) := perform edit state
    let (replies, final) := run perform rest next
    (reply :: replies, final)

def Graph.perform : Edit → Graph → Edit.Reply × Graph
  | .insert port, graph =>
    match graph.insert port with
    | .ok (place, graph) => (.landed place, graph)
    | .error malformed => (.malformed malformed, graph)
  | .remove id, graph =>
    let (taken, graph) := graph.remove id
    (.taken taken, graph)
  | .clear, graph => (.cleared, graph.clear)

/-- The live ports in order of arrival, and the places where a port has landed. -/
structure Register where
  ports : List Port
  landings : List Place
  deriving DecidableEq

namespace Register

def empty : Register := ⟨[], []⟩

def without (register : Register) (id : ObjectId) : Register :=
  { register with ports := register.ports.filter fun port => port.id ≠ id }

def append (register : Register) (place : Place) (port : Port) : Register :=
  ⟨register.ports ++ [port], register.landings ++ [place]⟩

/-- A port lands if it names a node and has a category; it drops the one with its id even if not. -/
def insert (register : Register) (port : Port) : Edit.Reply × Register :=
  match port.nodeId?, port.category? with
  | .error malformed, _ => (.malformed malformed, register)
  | .ok (some node), some category =>
    (.landed (some ⟨category, node⟩), (register.without port.id).append ⟨category, node⟩ port)
  | .ok _, _ => (.landed none, register.without port.id)

def perform : Edit → Register → Edit.Reply × Register
  | .insert port, register => register.insert port
  | .remove id, register =>
    (.taken (register.ports.find? fun port => port.id = id), register.without id)
  | .clear, _ => (.cleared, empty)

/-- The live ports with a category, a node and a direction. -/
def portsAt (register : Register) (place : Place) (direction : Direction) : List Port :=
  register.ports.filter fun port =>
    port.category? = some place.category ∧ port.nodeId? = .ok (some place.node) ∧
      port.direction = direction

theorem mem_portsAt {register : Register} {place : Place} {direction : Direction} {port : Port} :
    port ∈ register.portsAt place direction ↔
      port ∈ register.ports ∧ port.place? = .ok (some place) ∧ port.direction = direction := by
  rcases place with ⟨category, node⟩
  rw [portsAt, List.mem_filter, Port.place?_eq_some_iff, decide_eq_true_iff]
  constructor
  · rintro ⟨member, isCategory, isNode, isDirection⟩
    exact ⟨member, ⟨isNode, isCategory⟩, isDirection⟩
  · rintro ⟨member, ⟨isNode, isCategory⟩, isDirection⟩
    exact ⟨member, isCategory, isNode, isDirection⟩

theorem portsAt_without (register : Register) (id : ObjectId) (place : Place)
    (direction : Direction) :
    (register.without id).portsAt place direction =
      (register.portsAt place direction).filter fun port => port.id ≠ id := by
  simp only [portsAt, without, List.filter_filter, Bool.and_comm]

theorem portsAt_append (register : Register) {place : Place} {port : Port}
    (isPlace : port.place? = .ok (some place)) (other : Place) (direction : Direction) :
    (register.append place port).portsAt other direction =
      if other = place ∧ port.direction = direction then register.portsAt other direction ++ [port]
      else register.portsAt other direction := by
  have lands : (port.category? = some other.category ∧ port.nodeId? = .ok (some other.node) ∧
      port.direction = direction) ↔ other = place ∧ port.direction = direction := by
    rcases place with ⟨category, node⟩
    rcases other with ⟨otherCategory, otherNode⟩
    rcases Port.place?_eq_some_iff.1 isPlace with ⟨isNode, isCategory⟩
    simp only [isNode, isCategory, Option.some.injEq, Except.ok.injEq, Place.mk.injEq,
      eq_comm (a := category), eq_comm (a := node), and_assoc]
  simp only [portsAt, append, List.filter_append, List.filter_singleton, lands]
  by_cases here : other = place ∧ port.direction = direction <;> simp [here]

/-- Read through the place of the port, an insertion has the three outcomes that a graph knows. -/
theorem insert_eq (register : Register) (port : Port) :
    register.insert port =
      match port.place? with
      | .error malformed => (.malformed malformed, register)
      | .ok none => (.landed none, register.without port.id)
      | .ok (some place) =>
        (.landed (some place), (register.without port.id).append place port) := by
  simp only [insert, Port.place?]
  rcases port.nodeId? with malformed | _ | node
  · rfl
  · rfl
  · cases port.category? <;> rfl

end Register

namespace Graph

/-! ## What an edit does to the ports and the nodes of each place -/

theorem mem_allPorts_iff_ports {graph : Graph} {port : Port} :
    port ∈ graph.allPorts ↔ ∃ place direction, port ∈ graph.ports place direction := by
  rw [mem_allPorts]
  constructor
  · rintro ⟨place, node, direction, found, member⟩
    exact ⟨place, direction, by simpa [ports, found] using member⟩
  · rintro ⟨place, direction, member⟩
    cases found : graph.node? place with
    | none => simp [ports, found] at member
    | some node => exact ⟨place, node, direction, found, by simpa [ports, found] using member⟩

theorem node?_erase (graph : Graph) (id : ObjectId) (place : Place) :
    (graph.erase id).node? place = (graph.node? place).map fun node => node.erase id := by
  simp [node?, erase]

theorem node?_file (graph : Graph) (place : Place) (port : Port) (other : Place) :
    (graph.file place port).node? other =
      if other = place then some (((graph.node? place).getD .empty).push port)
      else graph.node? other := by
  simp [node?, file]

theorem ports_erase (graph : Graph) (id : ObjectId) (place : Place) (direction : Direction) :
    (graph.erase id).ports place direction =
      (graph.ports place direction).filter fun port => port.id ≠ id := by
  simp only [ports, node?_erase]
  cases graph.node? place <;> simp

theorem ports_file (graph : Graph) (place : Place) (port : Port) (other : Place)
    (direction : Direction) :
    (graph.file place port).ports other direction =
      if other = place ∧ port.direction = direction then graph.ports other direction ++ [port]
      else graph.ports other direction := by
  by_cases here : other = place
  · subst here
    have former : ((graph.node? other).getD .empty).ports direction =
        graph.ports other direction := by
      cases found : graph.node? other with
      | none => cases direction <;> simp [ports, found, Node.ports, Node.empty]
      | some node => simp [ports, found]
    simp only [ports, node?_file, if_true, Node.ports_push, true_and]
    simp only [ports] at former
    rw [former]
  · simp only [ports, node?_file, here, if_false, false_and]

/-! ## The ports of a node -/

theorem flatMap_ports_node (graph : Graph) (node : ObjectId) (direction : Direction) :
    ((Category.all.filterMap fun category => graph.node? ⟨category, node⟩).flatMap fun node =>
      node.ports direction) =
      Category.all.flatMap fun category => graph.ports ⟨category, node⟩ direction := by
  induction Category.all with
  | nil => rfl
  | cons category rest ih =>
      cases found : graph.node? ⟨category, node⟩ <;> simp [ports, found, ih]

theorem WellFiled.mem_ports_iff {graph : Graph} (filed : graph.WellFiled) {place : Place}
    {direction : Direction} {port : Port} : port ∈ graph.ports place direction ↔
      port ∈ graph.allPorts ∧ port.place? = .ok (some place) ∧ port.direction = direction := by
  constructor
  · intro member
    refine ⟨mem_allPorts_iff_ports.2 ⟨place, direction, member⟩, ?_⟩
    cases found : graph.node? place with
    | none => simp [ports, found] at member
    | some node =>
        have present : port ∈ node.ports direction := by simpa [ports, found] using member
        exact (filed.placed place node direction found port present).symm
  · rintro ⟨member, isPlace, rfl⟩
    rcases filed.mem_ports member with ⟨own, isOwn, present⟩
    cases isOwn.symm.trans isPlace
    exact present

theorem WellFiled.nodup_ports {graph : Graph} (filed : graph.WellFiled) (place : Place)
    (direction : Direction) : (graph.ports place direction).Nodup := by
  cases found : graph.node? place with
  | none => simp [ports, found]
  | some node =>
      have once := (filed.nodup_all found).of_map
      simp only [ports, found]
      cases direction with
      | input => exact (List.nodup_append.1 once).1
      | output => exact (List.nodup_append.1 once).2.1

/-- The ports of a node in all categories together are the ports that name the node. -/
theorem WellFiled.perm_of_node {graph : Graph} (filed : graph.WellFiled) (node : ObjectId)
    (direction : Direction) :
    (Category.all.flatMap fun category => graph.ports ⟨category, node⟩ direction).Perm
      (graph.allPorts.filter (·.isAt node direction)) := by
  apply (List.perm_ext_iff_of_nodup ?_ (filed.unique.of_map.filter _)).2
  · intro port
    simp only [List.mem_flatMap, filed.mem_ports_iff, Port.place?_eq_some_iff, List.mem_filter,
      Port.isAt_iff]
    constructor
    · rintro ⟨category, -, member, ⟨isNode, -⟩, isDirection⟩
      exact ⟨member, isNode, isDirection⟩
    · rintro ⟨member, isNode, isDirection⟩
      rcases filed.mem_ports member with ⟨place, isPlace, -⟩
      rcases Port.place?_eq_some_iff.1 isPlace with ⟨-, isCategory⟩
      exact ⟨place.category, Category.mem_all _, member, ⟨isNode, isCategory⟩, isDirection⟩
  · refine List.nodup_flatMap.2 ⟨fun category _ => filed.nodup_ports _ direction, ?_⟩
    have apart : Category.all.Nodup := by decide
    refine apart.imp fun different port inFirst inSecond => different ?_
    have isFirst := (filed.mem_ports_iff.1 inFirst).2.1
    have isSecond := (filed.mem_ports_iff.1 inSecond).2.1
    cases isFirst.symm.trans isSecond
    rfl

theorem WellFiled.portCounts_eq {graph : Graph} (filed : graph.WellFiled) (node : ObjectId) :
    graph.portCounts node = (graph.allPorts.countP (·.isAt node .input),
      graph.allPorts.countP (·.isAt node .output)) := by
  have inputs := (filed.perm_of_node node .input).length_eq
  have outputs := (filed.perm_of_node node .output).length_eq
  rw [← flatMap_ports_node, ← List.countP_eq_length_filter] at inputs outputs
  exact Prod.ext inputs outputs

/-! ## The simulation -/

/-- The graph holds at each place what the register does, and nodes where ports have landed. -/
structure Refines (graph : Graph) (register : Register) : Prop where
  filed : graph.WellFiled
  ports : ∀ place direction, graph.ports place direction = register.portsAt place direction
  nodes : ∀ place, (graph.node? place).isSome ↔ place ∈ register.landings
  placed : ∀ port ∈ register.ports, ∃ place, port.place? = .ok (some place)
  once : (register.ports.map (·.id)).Nodup

section Refines

variable {graph : Graph} {register : Register}

theorem Refines.empty : Graph.empty.Refines .empty where
  filed := .empty
  ports place direction := rfl
  nodes place := by simp [node?, Graph.empty, Register.empty]
  placed port member := absurd member List.not_mem_nil
  once := List.nodup_nil

theorem Refines.mem_iff (refines : graph.Refines register) {port : Port} :
    port ∈ graph.allPorts ↔ port ∈ register.ports := by
  rw [mem_allPorts_iff_ports]
  constructor
  · rintro ⟨place, direction, member⟩
    rw [refines.ports] at member
    exact (Register.mem_portsAt.1 member).1
  · intro member
    rcases refines.placed port member with ⟨place, isPlace⟩
    refine ⟨place, port.direction, ?_⟩
    rw [refines.ports]
    exact Register.mem_portsAt.2 ⟨member, isPlace, rfl⟩

/-- The lookup by id finds the one live port that has it. -/
theorem Refines.find?_eq (refines : graph.Refines register) (id : ObjectId) :
    (graph.find? id).map (·.2) = register.ports.find? fun port => port.id = id := by
  cases found : register.ports.find? fun port => port.id = id with
  | none =>
      apply Option.eq_none_iff_forall_ne_some.2
      intro port isFound
      rcases refines.filed.find?_map_eq_some_iff.1 isFound with ⟨member, isId⟩
      have absent := List.find?_eq_none.1 found port (refines.mem_iff.1 member)
      simp [isId] at absent
  | some port =>
      have isId : port.id = id := by simpa using List.find?_some found
      apply refines.filed.find?_map_eq_some_iff.2
      exact ⟨refines.mem_iff.2 (List.mem_of_find?_eq_some found), isId⟩

theorem Refines.erase (refines : graph.Refines register) (id : ObjectId) :
    (graph.erase id).Refines (register.without id) where
  filed := refines.filed.erase id
  ports place direction := by
    rw [ports_erase, Register.portsAt_without, refines.ports]
  nodes place := by
    rw [node?_erase, Option.isSome_map]
    exact refines.nodes place
  placed port member := refines.placed port (List.mem_filter.1 member).1
  once := refines.once.sublist (List.filter_sublist.map _)

theorem Refines.file (refines : graph.Refines register) {place : Place} {port : Port}
    (isPlace : port.place? = .ok (some place))
    (absent : ∀ other ∈ register.ports, other.id ≠ port.id) :
    (graph.file place port).Refines (register.append place port) where
  filed := by
    apply refines.filed.file isPlace
    intro other member
    exact absent other (refines.mem_iff.1 member)
  ports other direction := by
    rw [ports_file, Register.portsAt_append register isPlace, refines.ports]
  nodes other := by
    rw [node?_file, Register.append, List.mem_append, List.mem_singleton, ← refines.nodes]
    by_cases here : other = place <;> simp [here]
  placed other member := by
    rcases List.mem_append.1 member with former | new
    · exact refines.placed other former
    · cases List.mem_singleton.1 new
      exact ⟨place, isPlace⟩
  once := by
    simp only [Register.append, List.map_append, List.map_singleton]
    apply List.nodup_append.2
    refine ⟨refines.once, List.nodup_singleton _, ?_⟩
    rintro id former _ new rfl
    rcases List.mem_map.1 former with ⟨other, member, same⟩
    exact absent other member (same.trans (List.mem_singleton.1 new))

/-- One edit gives the same reply on both sides and keeps them together. -/
theorem Refines.perform (refines : graph.Refines register) (edit : Edit) :
    (graph.perform edit).1 = (register.perform edit).1 ∧
      (graph.perform edit).2.Refines (register.perform edit).2 := by
  cases edit with
  | insert port =>
      simp only [Graph.perform, Register.perform, insert_eq refines.filed, Register.insert_eq]
      rcases isPlace : port.place? with malformed | _ | place
      · exact ⟨rfl, refines⟩
      · exact ⟨rfl, refines.erase port.id⟩
      · refine ⟨rfl, (refines.erase port.id).file isPlace ?_⟩
        intro other member
        simpa using (List.mem_filter.1 member).2
  | remove id =>
      simp only [Graph.perform, Register.perform, remove_eq refines.filed]
      exact ⟨congrArg Edit.Reply.taken (refines.find?_eq id), refines.erase id⟩
  | clear => exact ⟨rfl, .empty⟩

theorem Refines.run (refines : graph.Refines register) (edits : List Edit) :
    (Edit.run Graph.perform edits graph).1 = (Edit.run Register.perform edits register).1 ∧
      (Edit.run Graph.perform edits graph).2.Refines
        (Edit.run Register.perform edits register).2 := by
  induction edits generalizing graph register with
  | nil => exact ⟨rfl, refines⟩
  | cons edit rest ih =>
      rcases refines.perform edit with ⟨sameReply, next⟩
      rcases ih next with ⟨sameReplies, final⟩
      simp only [Edit.run]
      exact ⟨by rw [sameReply, sameReplies], final⟩

/-! ## What the queries answer -/

theorem Refines.perm (refines : graph.Refines register) : graph.allPorts.Perm register.ports := by
  apply (List.perm_ext_iff_of_nodup refines.filed.unique.of_map refines.once.of_map).2
  exact fun port => refines.mem_iff

end Refines

/-- Every query of the graph answers from the list of live ports. -/
structure Presents (graph : Graph) (register : Register) : Prop where
  ports : ∀ category node direction, graph.ports ⟨category, node⟩ direction =
    register.ports.filter fun port =>
      port.category? = some category ∧ port.nodeId? = .ok (some node) ∧ port.direction = direction
  nodes : ∀ place, (graph.node? place).isSome ↔ place ∈ register.landings
  found : ∀ id, graph.find? id =
    (register.ports.find? fun port => port.id = id).bind fun port =>
      port.category?.map fun category => (category, port)
  count : graph.portCount = register.ports.length
  isEmpty : graph.isEmpty = register.ports.isEmpty
  counts : ∀ node, graph.portCounts node =
    (register.ports.countP fun port =>
      port.nodeId? = .ok (some node) ∧ port.direction = .input,
    register.ports.countP fun port =>
      port.nodeId? = .ok (some node) ∧ port.direction = .output)
  walked : graph.allPorts.Perm register.ports
  visited : ∀ {σ : Type} (visit : Port → σ → σ) (world : σ),
    ∃ order : List Port, order.Perm register.ports ∧
      graph.forEach visit world = order.foldl (fun world port => visit port world) world
  once : (register.ports.map (·.id)).Nodup
  isNamed : ∀ text, (graph.findNamed? text).isSome ↔ ∃ port ∈ register.ports, port.isNamed text
  named : ∀ text port, graph.findNamed? text = some port →
    port ∈ register.ports ∧ port.isNamed text

theorem Refines.presents {graph : Graph} {register : Register} (refines : graph.Refines register) :
    graph.Presents register where
  ports category node direction := refines.ports ⟨category, node⟩ direction
  nodes := refines.nodes
  found id := by
    rw [← refines.find?_eq]
    cases found : graph.find? id with
    | none => rfl
    | some entry =>
        rcases entry with ⟨category, port⟩
        rcases refines.filed.find?_eq_some_iff.1 found with ⟨-, -, node, isPlace⟩
        simp [(Port.place?_eq_some_iff.1 isPlace).2]
  count := refines.perm.length_eq
  isEmpty := by
    rw [Graph.isEmpty, portCount, refines.perm.length_eq]
    cases register.ports <;> simp
  counts node := by
    rw [refines.filed.portCounts_eq, refines.perm.countP_eq, refines.perm.countP_eq]
    rfl
  walked := refines.perm
  visited visit world := ⟨graph.allPorts, refines.perm, rfl⟩
  once := refines.once
  isNamed text := by
    rw [findNamed?, List.find?_isSome]
    constructor
    · rintro ⟨port, member, isNamed⟩
      exact ⟨port, refines.mem_iff.1 member, isNamed⟩
    · rintro ⟨port, member, isNamed⟩
      exact ⟨port, refines.mem_iff.2 member, isNamed⟩
  named text port found := by
    have isNamed : port.isNamed text = true := by
      rw [findNamed?] at found
      simpa using List.find?_some found
    exact ⟨refines.mem_iff.1 (List.mem_of_find?_eq_some found), isNamed⟩

/-- After any edits the graph has given the replies of the register and answers queries from it. -/
theorem edits_refine_register (edits : List Edit) :
    (Edit.run Graph.perform edits .empty).1 = (Edit.run Register.perform edits .empty).1 ∧
      (Edit.run Graph.perform edits .empty).2.Presents
        (Edit.run Register.perform edits .empty).2 := by
  rcases Refines.empty.run edits with ⟨sameReplies, refines⟩
  exact ⟨sameReplies, refines.presents⟩

end Graph

end MediaGraph
