import MediaGraph.Proofs.Graph.Register
import Mathlib.Data.List.Flatten
import Mathlib.Data.List.Sort

/-!
# Listings

`Graph.listPorts` gathers ports from all the nodes of a kind and sorts them. `Listing` says what a
caller may rely on: the listing holds the live ports of one kind and direction, and each of them
precedes all that follow it, by the number of its node and then by its own id (`Port.Precedes`).

There is at most one such listing of a set of ports (`Listing.unique`). So it can depend neither on
the history that led to these ports nor on the order in which the nodes are walked
(`listPorts_is_listing`). That no two ports tie rests on their ids being unique in the whole graph.
-/

namespace MediaGraph

/-- The node of the first port has the smaller number, or they share it and the id is smaller. -/
def Port.Precedes (first second : Port) : Prop :=
  ∃ node other, first.nodeId? = .ok (some node) ∧ second.nodeId? = .ok (some other) ∧
    (node < other ∨ node = other ∧ first.id < second.id)

theorem Port.Precedes.asymm {first second : Port} (before : first.Precedes second) :
    ¬second.Precedes first := by
  rintro ⟨other, node, isOther, isNode, after⟩
  rcases before with ⟨firstNode, secondNode, isFirst, isSecond, before⟩
  cases isFirst.symm.trans isNode
  cases isSecond.symm.trans isOther
  grind

theorem Port.Precedes.ne {first second : Port} (before : first.Precedes second) :
    first ≠ second := by
  rintro rfl
  exact before.asymm before

theorem Port.category?_eq_some_iff {port : Port} {category : Category} :
    port.category? = some category ↔
      port.kind? = some category.kind ∧ port.origin = category.origin := by
  rcases category with ⟨origin, kind⟩
  simp only [category?, Option.map_eq_some_iff, Category.mk.injEq]
  constructor
  · rintro ⟨_, isKind, isOrigin, rfl⟩
    exact ⟨isKind, isOrigin⟩
  · rintro ⟨isKind, isOrigin⟩
    exact ⟨kind, isKind, isOrigin, rfl⟩

/-- A list holds the ports of one kind and direction, each preceding all that follow it. -/
structure Listing (ports : List Port) (kind : MediaKind) (direction : Direction)
    (listed : List Port) : Prop where
  mem_iff : ∀ port, port ∈ listed ↔
    port ∈ ports ∧ port.kind? = some kind ∧ port.direction = direction
  increasing : listed.Pairwise Port.Precedes

namespace Listing

variable {ports others listed second : List Port} {kind : MediaKind} {direction : Direction}

theorem nodup (listing : Listing ports kind direction listed) : listed.Nodup :=
  listing.increasing.imp Port.Precedes.ne

/-- The listing of a set of ports is unique. -/
theorem unique (listing : Listing ports kind direction listed)
    (other : Listing others kind direction second) (same : ∀ port, port ∈ ports ↔ port ∈ others) :
    listed = second := by
  have perm : listed.Perm second := by
    apply (List.perm_ext_iff_of_nodup listing.nodup other.nodup).2
    intro port
    rw [listing.mem_iff, other.mem_iff, same]
  refine perm.eq_of_pairwise ?_ listing.increasing other.increasing
  intro first last _ _ before after
  exact absurd after before.asymm

end Listing

namespace Graph

/-! ## The ports to be listed -/

theorem mem_selection {graph : Graph} {kind : MediaKind} {direction : Direction}
    {node : ObjectId} {port : Port} :
    (node, port) ∈ graph.selection kind direction ↔
      ∃ place, place.category.kind = kind ∧ place.node = node ∧
        port ∈ graph.ports place direction := by
  simp only [selection, List.mem_flatMap, ports, node?]
  constructor
  · rintro ⟨⟨place, found⟩, entry, member⟩
    split at member
    case isTrue isKind =>
      rcases List.mem_map.1 member with ⟨_, present, same⟩
      cases same
      have isThere := (graph.nodes.get?_eq_some_iff place found).2 entry
      exact ⟨place, isKind, rfl, by simpa [isThere] using present⟩
    case isFalse => exact absurd member List.not_mem_nil
  · rintro ⟨place, isKind, rfl, member⟩
    cases isThere : graph.nodes.get? place with
    | none => simp [isThere] at member
    | some found =>
        have present : port ∈ found.ports direction := by simpa [isThere] using member
        refine ⟨(place, found), (graph.nodes.get?_eq_some_iff place found).1 isThere, ?_⟩
        simpa [isKind] using present

/-- Each selected port comes with the id of the node that it names. -/
theorem WellFiled.mem_selection_iff {graph : Graph} (filed : graph.WellFiled) {kind : MediaKind}
    {direction : Direction} {node : ObjectId} {port : Port} :
    (node, port) ∈ graph.selection kind direction ↔
      port ∈ graph.allPorts ∧ port.kind? = some kind ∧ port.direction = direction ∧
        port.nodeId? = .ok (some node) := by
  simp only [mem_selection, filed.mem_ports_iff]
  constructor
  · rintro ⟨⟨category, own⟩, rfl, rfl, member, isPlace, isDirection⟩
    rcases Port.place?_eq_some_iff.1 isPlace with ⟨isNode, isCategory⟩
    exact ⟨member, (Port.category?_eq_some_iff.1 isCategory).1, isDirection, isNode⟩
  · rintro ⟨member, isKind, isDirection, isNode⟩
    have isCategory : port.category? = some ⟨port.origin, kind⟩ :=
      Port.category?_eq_some_iff.2 ⟨isKind, rfl⟩
    have isPlace := Port.place?_eq_some_iff.2 ⟨isNode, isCategory⟩
    exact ⟨⟨⟨port.origin, kind⟩, node⟩, rfl, rfl, member, isPlace, isDirection⟩

theorem selection_sublist (graph : Graph) (kind : MediaKind) (direction : Direction) :
    ((graph.selection kind direction).map (·.2)).Sublist graph.allPorts := by
  simp only [selection, allPorts, Table.values, List.map_flatMap, List.flatMap_map]
  apply List.Sublist.flatMap_right
  rintro ⟨place, node⟩ -
  split
  case isTrue =>
    rw [List.map_map, show (·.2) ∘ (fun port : Port => (place.node, port)) = id from rfl,
      List.map_id]
    cases direction with
    | input => exact List.sublist_append_left _ _
    | output => exact List.sublist_append_right _ _
  case isFalse => exact List.nil_sublist _

/-! ## Sorting them -/

theorem listedBefore_trans (first second third : ObjectId × Port)
    (before : listedBefore first second) (after : listedBefore second third) :
    listedBefore first third := by
  simp only [listedBefore, Bool.or_eq_true, Bool.and_eq_true, decide_eq_true_eq] at *
  grind

theorem listedBefore_total (first second : ObjectId × Port) :
    listedBefore first second || listedBefore second first := by
  simp only [listedBefore, Bool.or_eq_true, Bool.and_eq_true, decide_eq_true_eq]
  grind

/-- In whatever order the selection is walked, sorting it makes the listing of the live ports. -/
theorem WellFiled.listing {graph : Graph} (filed : graph.WellFiled) {kind : MediaKind}
    {direction : Direction} {walked : List (ObjectId × Port)}
    (isWalk : walked.Perm (graph.selection kind direction)) :
    Listing graph.allPorts kind direction ((walked.mergeSort listedBefore).map (·.2)) := by
  have sortedPerm := (List.mergeSort_perm walked listedBefore).trans isWalk
  refine ⟨fun port => ?_, ?_⟩
  · simp only [List.mem_map, sortedPerm.mem_iff, Prod.exists, exists_eq_right,
      filed.mem_selection_iff]
    constructor
    · rintro ⟨node, member, isKind, isDirection, -⟩
      exact ⟨member, isKind, isDirection⟩
    · rintro ⟨member, isKind, isDirection⟩
      rcases filed.mem_ports member with ⟨⟨category, node⟩, isPlace, -⟩
      exact ⟨node, member, isKind, isDirection, (Port.place?_eq_some_iff.1 isPlace).1⟩
  · have ordered := List.pairwise_mergeSort listedBefore_trans listedBefore_total walked
    have apart : (walked.mergeSort listedBefore).Pairwise fun first second =>
        first.2.id ≠ second.2.id := by
      have once := filed.unique.sublist ((graph.selection_sublist kind direction).map (·.id))
      rw [List.map_map] at once
      exact List.pairwise_map.1 ((sortedPerm.map _).nodup_iff.2 once)
    rw [List.pairwise_map]
    refine (ordered.and apart).imp_of_mem ?_
    rintro ⟨node, port⟩ ⟨other, next⟩ isFirst isSecond ⟨before, different⟩
    have inSelection := filed.mem_selection_iff.1 (sortedPerm.mem_iff.1 isFirst)
    have nextInSelection := filed.mem_selection_iff.1 (sortedPerm.mem_iff.1 isSecond)
    refine ⟨node, other, inSelection.2.2.2, nextInSelection.2.2.2, ?_⟩
    -- Ties are ruled out by the ids, not by the comparison, which is not strict.
    simp only [listedBefore, Bool.or_eq_true, Bool.and_eq_true, decide_eq_true_eq] at before
    grind

/-- What edits leave to be listed is the listing of the ports that they leave alive. -/
theorem listing_of_edits (edits : List Edit) {kind : MediaKind} {direction : Direction}
    {walked : List (ObjectId × Port)}
    (isWalk : walked.Perm ((Edit.run perform edits .empty).2.selection kind direction)) :
    Listing (Edit.run Register.perform edits .empty).2.ports kind direction
      ((walked.mergeSort listedBefore).map (·.2)) := by
  have refines := (Refines.empty.run edits).2
  have listing := refines.filed.listing isWalk
  refine ⟨fun port => ?_, listing.increasing⟩
  rw [listing.mem_iff, refines.mem_iff]

/--
After any edits, the list of the ports of a kind and direction is their listing, physical ports and
software ports together. The order in which the nodes are walked does not show in it, and two
histories that leave the same live ports lead to the same list.
-/
theorem listPorts_is_listing (edits : List Edit) (kind : MediaKind) (direction : Direction) :
    Listing (Edit.run Register.perform edits .empty).2.ports kind direction
        ((Edit.run perform edits .empty).2.listPorts kind direction) ∧
      (∀ walked : List (ObjectId × Port),
        walked.Perm ((Edit.run perform edits .empty).2.selection kind direction) →
          (walked.mergeSort listedBefore).map (·.2) =
            (Edit.run perform edits .empty).2.listPorts kind direction) ∧
      ∀ others : List Edit,
        (∀ port, port ∈ (Edit.run Register.perform edits .empty).2.ports ↔
          port ∈ (Edit.run Register.perform others .empty).2.ports) →
            (Edit.run perform edits .empty).2.listPorts kind direction =
              (Edit.run perform others .empty).2.listPorts kind direction := by
  have listing : Listing _ kind direction _ := listing_of_edits edits (.refl _)
  refine ⟨listing, ?_, ?_⟩
  · intro walked isWalk
    exact (listing_of_edits edits isWalk).unique listing fun _ => Iff.rfl
  · intro others same
    exact listing.unique (listing_of_edits others (.refl _)) same

/-- An audio input that names its node by a numeral. -/
def audioInput (id : ObjectId) (node : String) (physical : Bool) : Edit :=
  .insert { Port.blank with
    id := id
    format := "audio"
    node := node
    physical := physical }

/-- Three inputs, first the one with the largest node number. -/
def arrivals : List Edit :=
  [audioInput 5 "10" false, audioInput 7 "9" true, audioInput 3 "+10" true]

/-- The same inputs the other way round; one of them has been at another node before. -/
def otherArrivals : List Edit :=
  [audioInput 3 "+10" true, audioInput 7 "1" false, audioInput 5 "10" false, audioInput 7 "9" true]

/-- Node numbers count as numbers, `9` before `+10`, and devices stand among programs. -/
theorem listPorts_is_listing_arrivals :
    (∀ port, port ∈ (Edit.run Register.perform arrivals .empty).2.ports ↔
      port ∈ (Edit.run Register.perform otherArrivals .empty).2.ports) ∧
    (Edit.run perform arrivals .empty).2.listPorts .audio .input =
      (Edit.run perform otherArrivals .empty).2.listPorts .audio .input ∧
    ((Edit.run perform arrivals .empty).2.listPorts .audio .input).map (·.id) = [7, 3, 5] := by
  have same : ∀ port, port ∈ (Edit.run Register.perform arrivals .empty).2.ports ↔
      port ∈ (Edit.run Register.perform otherArrivals .empty).2.ports := fun port =>
    List.Perm.mem_iff (by decide +kernel)
  rcases listPorts_is_listing arrivals .audio .input with ⟨-, walks, histories⟩
  refine ⟨same, histories _ same, ?_⟩
  rw [← walks _ (List.perm_insertionSort (listedBefore · ·) _),
    List.mergeSort_of_pairwise (by decide +kernel)]
  decide +kernel

end Graph

end MediaGraph
