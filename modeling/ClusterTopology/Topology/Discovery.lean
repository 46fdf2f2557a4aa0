import ClusterTopology.Topology.Basic

/-!
Discovery of topology labels. Every recognized label of a node is recorded with its value, but not
the node, and each pair that was not known before is reported once.
-/

namespace ClusterTopology.Topology

variable {α : Type} [Name α]

def discoverLabels (node : Text) : List (Text × Text) → Topology α → Outcome (Topology α) Unit
  | [], t => .done t ()
  | (label, value) :: labels, t =>
    if isTopologyLabel label && !t.hasValue label (Name.ofText value) then
      (discoverLabels node labels (t.addValue label (Name.ofText value))).after
        [.labelFound node label value]
    else discoverLabels node labels t

def discoverNodes : List Node → Topology α → Outcome (Topology α) Unit
  | [], t => .done t ()
  | node :: nodes, t =>
    (discoverLabels node.name node.labels.entries t).andThen fun t _ => discoverNodes nodes t

def discover (nodes : List Node) (minimum : Int) (t : Topology α) : Outcome (Topology α) Nat :=
  if (nodes.length : Int) < minimum then .failed t (.tooFewNodes minimum nodes.length)
  else (discoverNodes (Node.sortByName nodes) t).andThen fun t _ => .done t nodes.length

end ClusterTopology.Topology
