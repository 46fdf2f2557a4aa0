import ClusterTopology.Node

/-!
The order in which nodes are placed. The zones take turns, so that none of them claims every empty
rack before the others come; nodes without a zone come last.
-/

namespace ClusterTopology

/-- One item of each group in turn, in the order of the groups, until all are used up. -/
def roundRobin {α : Type} (groups : List (List α)) : List α :=
  let longest := (groups.map List.length).max?.getD 0
  (List.range longest).flatMap fun turn => groups.filterMap fun group => group[turn]?

namespace Node

def zonesInOrder (zoneOf : Node → Text) (nodes : List Node) : List Text :=
  (KeySet.ofList (nodes.map zoneOf)).keys

def placementOrder (zoneOf : Node → Text) (nodes : List Node) : List Node :=
  let sorted := sortByName nodes
  let group := fun zone => sorted.filter fun node => zoneOf node = zone
  let zoned := (zonesInOrder zoneOf nodes).filter fun zone => !zone.isEmpty
  roundRobin (zoned.map group) ++ group []

end Node
end ClusterTopology
