import ClusterTopology.Label

/-!
Nodes as they are found in a snapshot, the zones they stand in, and the patches of their labels.
-/

namespace ClusterTopology

structure Node where
  name : Text
  labels : Labels

namespace Node

/-- The zone that the labels of a node name. The preferred form of key decides, and among labels of
that form the first in order; without any the zone is empty. -/
def zone (node : Node) : Text :=
  (recognizedKeys.findSome? fun key =>
    node.labels.entries.findSome? fun (label, value) =>
      if key.occursIn label && Text.occursIn "zone" label then some value else none).getD []

def sortByName (nodes : List Node) : List Node :=
  nodes.mergeSort fun node other => !decide (other.name < node.name)

end Node

abbrev Zones := Table Text Text

def Zones.ofNodes (nodes : List Node) : Zones :=
  Table.ofList (nodes.map fun node => (node.name, node.zone))

/-- The labels of a node before and after an intended change. -/
structure LabelPatch where
  node : Text
  old : Labels
  new : Labels

namespace LabelPatch

def recordRack (node : Node) (rack : Text) : LabelPatch :=
  ⟨node.name, node.labels, node.labels.put rackKey rack⟩

def change (patch : LabelPatch) : Table Text (Option Text) := Labels.change patch.old patch.new

end LabelPatch
end ClusterTopology
