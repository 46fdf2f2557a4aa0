import ClusterTopology.Proofs.Alike
import ClusterTopology.Proofs.Status.Selection

/-!
The order of the input does not matter. Nodes are looked at in the order of their names, labels in
the order of their keys, racks and zones in the order of theirs; so a reconciliation of the same
nodes in another order comes to the same status and the same result by the same events.
-/

namespace ClusterTopology

section

variable {nodes others : List Node}

theorem Node.sortByName_eq_of_perm (distinct : (nodes.map Node.name).Nodup)
    (reordered : nodes.Perm others) : sortByName nodes = sortByName others := by
  have distinctOthers : (others.map Node.name).Nodup :=
    (reordered.map Node.name).nodup_iff.mp distinct
  exact Key.mergeSort_eq_of_perm Node.name (Key.ascending_mergeSort Node.name distinctOthers)
    (reordered.trans (sortByName_perm others).symm)

theorem Zones.ofNodes_eq_of_perm (distinct : (nodes.map Node.name).Nodup)
    (reordered : nodes.Perm others) : ofNodes nodes = ofNodes others := by
  apply Table.ofList_eq_of_perm
  · rw [List.map_map]
    exact distinct
  · exact reordered.map _

theorem Node.placementOrder_eq_of_perm (zoneOf : Node → Text)
    (distinct : (nodes.map Node.name).Nodup) (reordered : nodes.Perm others) :
    placementOrder zoneOf nodes = placementOrder zoneOf others := by
  have sameZones : zonesInOrder zoneOf nodes = zonesInOrder zoneOf others :=
    congrArg Table.keys (KeySet.ofList_eq_of_perm (reordered.map zoneOf))
  unfold placementOrder
  rw [sortByName_eq_of_perm distinct reordered, sameZones]

theorem Racks.known_eq_of_perm (t : Topology Text) (reordered : nodes.Perm others) :
    known t .empty nodes = known t .empty others := by
  obtain ⟨before, knownBefore, holds⟩ := exists_known t .empty nodes
  obtain ⟨other, knownOther, holdsOther⟩ := exists_known t .empty others
  rw [knownBefore, knownOther, Except.ok.injEq]
  apply ext_holds (inhabited_of_known knownBefore) (inhabited_of_known knownOther)
  intro rack member
  simp only [holds, holdsOther, reordered.mem_iff]

namespace Topology

variable (t : Topology Text)

theorem ensureRacks_eq_of_perm (minimum : Int) (patcher : Patcher)
    (distinct : (nodes.map Node.name).Nodup) (reordered : nodes.Perm others) :
    t.ensureRacks nodes minimum patcher = t.ensureRacks others minimum patcher := by
  have samePlaced : ∀ racks zones, unplaced racks zones nodes = unplaced racks zones others := by
    intro racks zones
    exact Node.placementOrder_eq_of_perm _ (distinct.sublist (List.filter_sublist.map Node.name))
      (reordered.filter _)
  unfold ensureRacks balance
  simp only [Racks.known_eq_of_perm t reordered, Zones.ofNodes_eq_of_perm distinct reordered,
    samePlaced]

theorem discover_eq_of_perm (minimum : Int) (distinct : (nodes.map Node.name).Nodup)
    (reordered : nodes.Perm others) :
    discover nodes minimum t = discover others minimum t := by
  unfold discover
  rw [Node.sortByName_eq_of_perm distinct reordered, reordered.length_eq]

end Topology

namespace Status

variable (status : Status Text) (spec : ClusterSpec) (patcher : Patcher)

theorem reconcile_eq_of_perm (distinct : (nodes.map Node.name).Nodup)
    (reordered : nodes.Perm others) :
    status.reconcile spec nodes patcher = status.reconcile spec others patcher := by
  have surveyed : status.survey spec nodes = status.survey spec others := by
    unfold survey
    rw [Topology.discover_eq_of_perm _ _ distinct reordered]
  have chosen : ∀ (status : Status Text) (t : Topology Text),
      status.choose spec nodes patcher t = status.choose spec others patcher t := by
    intro status t
    unfold choose
    rw [Topology.ensureRacks_eq_of_perm _ _ _ distinct reordered]
  unfold reconcile determine
  simp only [surveyed, chosen]

end Status
end

/-- Two lists hold the same nodes, in whatever order: there is an order of the first in which its
nodes are alike to those of the second one by one. -/
def SameNodes (nodes others : List Node) : Prop :=
  ∃ reordered, reordered.Perm nodes
    ∧ List.Forall₂ (fun node other => node.alike other = true) reordered others

theorem SameNodes.perm {nodes others : List Node} (same : SameNodes nodes others) :
    nodes.Perm others := by
  obtain ⟨reordered, perm, alike⟩ := same
  obtain rfl : reordered = others :=
    List.forall₂_eq_eq_eq ▸ alike.imp fun _ _ => Node.eq_of_alike
  exact perm.symm

/-- A reconciliation does not depend on the order of its input. The same nodes, whatever the order
of the list and of their labels, and statuses alike, in whatever order they were filled, lead with
the same answers to the patches to the same status, the same events, so the same patches and log
lines in the same order, and the same domain or the same fault. -/
theorem Status.reconcile_ignores_order {nodes others : List Node} {status other : Status Text}
    (distinct : (nodes.map Node.name).Nodup) (sameNodes : SameNodes nodes others)
    (sameStatus : status.alike other = true) (spec : ClusterSpec) (patcher : Patcher) :
    status.reconcile spec nodes patcher = other.reconcile spec others patcher := by
  rw [Status.eq_of_alike sameStatus]
  exact other.reconcile_eq_of_perm spec patcher distinct sameNodes.perm

/-! Two nodes and a record, each of them given in two orders. -/

def labelledPair : List Node :=
  [⟨"n1", .ofList [("kubernetes.io/hostname", "h1"), ("disk", "ssd")]⟩, ⟨"n0", .empty⟩]

def labelledPairReordered : List Node :=
  [⟨"n0", .empty⟩, ⟨"n1", .ofList [("disk", "ssd"), ("kubernetes.io/hostname", "h1")]⟩]

def twoHosts : Status Text :=
  let found : Topology Text := .empty
  Status.initial.withTopology ((found.addValue "host" "h0").addValue "host" "h1")

def twoHostsReordered : Status Text :=
  let found : Topology Text := .empty
  Status.initial.withTopology ((found.addValue "host" "h1").addValue "host" "h0")

/-- Both orders lead to the same outcome, also when the second patch is refused. -/
theorem Status.same_outcome_for_reordered :
    let answer : Patcher := fun _ patch =>
      if patch.node = "n1" then .refused "n1" "refused" else .accepted
    twoHosts.reconcile .standard labelledPair answer =
      twoHostsReordered.reconcile .standard labelledPairReordered answer := by
  have sameNodes : SameNodes labelledPair labelledPairReordered :=
    ⟨labelledPair.reverse, List.reverse_perm _, .cons (by decide) (.cons (by decide) .nil)⟩
  have sameStatus : twoHosts.alike twoHostsReordered = true := by decide
  exact Status.reconcile_ignores_order (by decide) sameNodes sameStatus _ _

end ClusterTopology
