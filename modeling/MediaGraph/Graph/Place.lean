import MediaGraph.Port.Basic

/-!
# Places of the graph

Ports are filed by category and then by the id of their node. A `Place` is one such pair; places
are ordered by category first, which is the order in which the graph is walked.
-/

namespace MediaGraph

/-- Where the ports of one node and one category are filed. -/
structure Place where
  category : Category
  node : ObjectId
  deriving DecidableEq

namespace Place

/-- Places are compared by the rank of their category, then by their node. -/
def order : Place → Place → Ordering :=
  compareLex (compareOn fun place => place.category.rank) (compareOn fun place => place.node)

instance : Ord Place := ⟨order⟩

instance : Std.TransOrd Place :=
  inferInstanceAs (Std.TransCmp (compareLex (compareOn fun place : Place => place.category.rank)
    (compareOn fun place : Place => place.node)))

instance : Std.LawfulEqOrd Place where
  eq_of_compare {left right} equal := by
    have parts := Ordering.then_eq_eq.1 equal
    have sameRank : left.category.rank = right.category.rank :=
      Std.compare_eq_iff_eq.1 parts.1
    have sameNode : left.node = right.node :=
      Std.compare_eq_iff_eq.1 parts.2
    cases left
    cases right
    cases Category.rank_injective sameRank
    cases sameNode
    rfl

end Place

end MediaGraph
