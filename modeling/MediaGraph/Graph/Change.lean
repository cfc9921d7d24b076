import MediaGraph.Graph.Basic

/-!
# Changes of a graph

A `Change` says what happened to the record of one port: it was filed, replaced or dropped.
-/

namespace MediaGraph

inductive Change where
  | added (port : Port)
  | updated (previous current : Port)
  | removed (port : Port)
  deriving DecidableEq

/-- The port after the change, or as it was when it left. -/
def Change.port : Change → Port
  | added port | removed port => port
  | updated _ current => current

end MediaGraph
