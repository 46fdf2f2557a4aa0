import ClusterTopology.Rack.Order
import ClusterTopology.Rack.Placement
import ClusterTopology.Topology.Basic

/-!
Rack labels for every node. A node keeps the rack that one of its labels names or that was recorded
for it before. Each other node is placed, the rack is recorded with the node, and the change of its
labels is offered right away. The first patch that is not accepted ends the pass, and what was done
before stays done.
-/

namespace ClusterTopology

/-- What becomes of a patch that is offered: it is accepted, refused, or broken off by an exception
that the pass catches. One that nothing catches ends the program and is no answer. -/
inductive PatchAnswer where
  | accepted
  | refused (node reason : Text)
  | brokenOff (reason : Text)

abbrev Patcher := List LabelPatch → LabelPatch → PatchAnswer

namespace Topology

variable {α : Type} [Name α]

/-- The rack recorded for a node, the first in order if there are several; empty without any. -/
def recordedRack (t : Topology α) (node : Text) : Except Fault Text :=
  (t.values rackKey).map fun racks =>
    (racks.findSome? fun rack =>
      match Name.toJson rack with
      | .text name => if t.records rackKey rack (Name.ofText node) then some name else none
      | _ => none).getD []

def rackPatches (t : Topology α) (nodes : List Node) : Except Fault (List LabelPatch) :=
  (Node.sortByName nodes).filterMapM fun node => do
    let rack ← t.recordedRack node.name
    return if rack.isEmpty then none else some (.recordRack node rack)

end Topology

namespace Racks

def isRackLabel (label : Text) : Bool := Text.occursIn "rack" label

def ofLabels (racks : Racks) (node : Node) : Racks :=
  (node.labels.entries.filter fun (label, _) => isRackLabel label).foldl
    (fun racks (_, rack) => racks.addNode rack node.name) racks

/-- The racks that nodes stand in before a pass. -/
def known {α : Type} [Name α] (t : Topology α) : Racks → List Node → Except Fault Racks
  | racks, [] => .ok racks
  | racks, node :: nodes => do
    let recorded ← t.recordedRack node.name
    let labelled := racks.ofLabels node
    known t (if recorded.isEmpty then labelled else labelled.addNode recorded node.name) nodes

end Racks

structure Balance (α : Type) [Name α] where
  racks : Racks
  topology : Topology α
  offered : List LabelPatch

structure BalanceRules where
  minimumRacks : Int
  zones : Zones
  patcher : Patcher

namespace Balance

variable {α : Type} [Name α]

def record (balance : Balance α) (node : Node) (rack : Text) : Outcome (Balance α) Unit :=
  let known := balance.topology.hasValue rackKey (Name.ofText rack)
  let recorded := balance.topology.addNode rackKey (Name.ofText rack) (Name.ofText node.name)
  ⟨{ balance with racks := balance.racks.addNode rack node.name, topology := recorded },
    (if known then [] else [.rackFound node.name rack]) ++ [.rackAssigned node.name rack], .ok ()⟩

def offer (balance : Balance α) (patcher : Patcher) (patch : LabelPatch) :
    Outcome (Balance α) LabelPatch :=
  let after := { balance with offered := balance.offered ++ [patch] }
  match patcher balance.offered patch with
  | .accepted => ⟨after, [.patchOffered patch true], .ok patch⟩
  | .refused node reason => ⟨after, [.patchOffered patch false], .error (.patch node reason none)⟩
  | .brokenOff reason =>
    ⟨after, [.patchOffered patch false], .error (.patch patch.node reason (some reason))⟩

def placeNode (rules : BalanceRules) (balance : Balance α) (node : Node) :
    Outcome (Balance α) LabelPatch :=
  let placed := balance.racks.place rules.minimumRacks rules.zones node
  (placed.within fun racks => { balance with racks := racks }).andThen fun balance rack =>
    (balance.record node rack).andThen fun balance _ =>
      balance.offer rules.patcher (.recordRack node rack)

def placeNodes (rules : BalanceRules) :
    List Node → Balance α → Outcome (Balance α) (List LabelPatch)
  | [], balance => .done balance []
  | node :: nodes, balance =>
    (balance.placeNode rules node).andThen fun balance patch =>
      (placeNodes rules nodes balance).andThen fun balance patches =>
        .done balance (patch :: patches)

end Balance

namespace Topology

variable {α : Type} [Name α]

/-- The nodes without a rack, in the order in which they are placed. -/
def unplaced (racks : Racks) (zones : Zones) (nodes : List Node) : List Node :=
  Node.placementOrder (fun node => (zones.find? node.name).getD [])
    (nodes.filter fun node => !racks.nodes.contains node.name)

/-- One pass over nodes: those without a rack are placed one after the other. -/
def balance (t : Topology α) (nodes : List Node) (minimumRacks : Int) (patcher : Patcher) :
    Outcome (Balance α) (List LabelPatch) :=
  match Racks.known t .empty nodes with
  | .error fault => .failed ⟨.empty, t, []⟩ fault
  | .ok racks =>
    let zones := Zones.ofNodes nodes
    Balance.placeNodes ⟨minimumRacks, zones, patcher⟩ (unplaced racks zones nodes) ⟨racks, t, []⟩

def ensureRacks (t : Topology α) (nodes : List Node) (minimumRacks : Int) (patcher : Patcher) :
    Outcome (Topology α) (List LabelPatch) :=
  (t.balance nodes minimumRacks patcher).within Balance.topology

end Topology
end ClusterTopology
