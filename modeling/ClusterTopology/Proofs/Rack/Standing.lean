import ClusterTopology.Proofs.Rack.Order
import ClusterTopology.Proofs.Rack.Pass
import ClusterTopology.Proofs.Topology.Record

/-!
Where the listed nodes stand. Before a pass a node stands in every rack that one of its labels names
and in the rack that is recorded for it; during the pass also in the rack that its patch gives it.
The racks of a pass hold just these nodes, and the pass places just the nodes that stand nowhere.
-/

namespace ClusterTopology

def Node.NamesRack (node : Node) (rack : Text) : Prop :=
  ∃ label, Racks.isRackLabel label = true ∧ node.labels.find? label = some rack

/-- Where a listed node stands after some patches were offered: in the racks of its labels, in the
rack recorded for it before, and in the racks that the patches give it. -/
def Topology.Stands (t : Topology Text) (offered : List LabelPatch) (rack : Text) (node : Node) :
    Prop :=
  node.NamesRack rack ∨ (rack ≠ [] ∧ t.recordedRack node.name = .ok rack)
    ∨ GivenBy offered rack node.name

theorem Topology.stands_iff {t : Topology Text} {offered : List LabelPatch} {rack : Text}
    {node : Node} :
    t.Stands offered rack node ↔ t.Stands [] rack node ∨ GivenBy offered rack node.name := by
  simp [Stands, GivenBy, or_assoc]

theorem Topology.stands_append_iff {t : Topology Text} {offered : List LabelPatch}
    {patch : LabelPatch} {rack : Text} {node : Node} :
    t.Stands (offered ++ [patch]) rack node ↔
      t.Stands offered rack node ∨ (patch.node = node.name ∧ patch.rack? = some rack) := by
  simp only [Stands, givenBy_append_iff, or_assoc]

namespace Racks

theorem holds_foldl_addNode_iff (entries : List (Text × Text)) (racks : Racks) (node : Text)
    (rack member : Text) :
    (entries.foldl (fun racks entry => racks.addNode entry.2 node) racks).Holds rack member ↔
      racks.Holds rack member ∨ (member = node ∧ ∃ entry ∈ entries, entry.2 = rack) := by
  induction entries generalizing racks with
  | nil => simp
  | cons entry entries ih =>
    rw [List.foldl_cons, ih, holds_addNode_iff]
    simp only [List.mem_cons, exists_eq_or_imp]
    constructor
    · rintro ((⟨rfl, rfl⟩ | before) | ⟨rfl, later⟩)
      · exact Or.inr ⟨rfl, Or.inl rfl⟩
      · exact Or.inl before
      · exact Or.inr ⟨rfl, Or.inr later⟩
    · rintro (before | ⟨rfl, here | later⟩)
      · exact Or.inl (Or.inr before)
      · exact Or.inl (Or.inl ⟨here.symm, rfl⟩)
      · exact Or.inr ⟨rfl, later⟩

theorem holds_ofLabels_iff (racks : Racks) (node : Node) (rack member : Text) :
    (racks.ofLabels node).Holds rack member ↔
      racks.Holds rack member ∨ (member = node.name ∧ node.NamesRack rack) := by
  rw [ofLabels, holds_foldl_addNode_iff]
  have named : (∃ entry ∈ node.labels.entries.filter fun entry => isRackLabel entry.1,
      entry.2 = rack) ↔ node.NamesRack rack := by
    simp only [List.mem_filter, Node.NamesRack, Table.find?_eq_some_iff]
    constructor
    · rintro ⟨⟨label, value⟩, ⟨listed, isRack⟩, rfl⟩
      exact ⟨label, isRack, listed⟩
    · rintro ⟨label, isRack, listed⟩
      exact ⟨(label, rack), ⟨listed, isRack⟩, rfl⟩
  rw [← named]

theorem exists_known (t : Topology Text) (racks : Racks) (nodes : List Node) :
    ∃ before, known t racks nodes = .ok before ∧ ∀ rack member, before.Holds rack member ↔
      racks.Holds rack member ∨ ∃ node ∈ nodes, node.name = member ∧ t.Stands [] rack node := by
  induction nodes generalizing racks with
  | nil => exact ⟨racks, rfl, by simp⟩
  | cons node nodes ih =>
    have found := t.recordedRack_eq node.name
    generalize t.rackOf node.name = recorded at found
    let first := if recorded.isEmpty then racks.ofLabels node
      else (racks.ofLabels node).addNode recorded node.name
    have standing : ∀ rack member, first.Holds rack member ↔
        racks.Holds rack member ∨ (node.name = member ∧ t.Stands [] rack node) := by
      intro rack member
      simp only [first, Topology.Stands, found, Except.ok.injEq, GivenBy, List.not_mem_nil,
        false_and, exists_false, or_false, List.isEmpty_iff]
      split
      · next unnamed =>
        rw [holds_ofLabels_iff]
        grind
      · next named =>
        rw [holds_addNode_iff, holds_ofLabels_iff]
        grind
    obtain ⟨before, known, holds⟩ := ih first
    refine ⟨before, ?_, ?_⟩
    · simp only [Racks.known, found, bind, Except.bind]
      exact known
    · intro rack member
      rw [holds, standing]
      simp only [List.mem_cons, exists_eq_or_imp, or_assoc]

theorem holds_known_iff {t : Topology Text} {nodes : List Node} {before : Racks}
    (known : Racks.known t .empty nodes = .ok before) (rack member : Text) :
    before.Holds rack member ↔ ∃ node ∈ nodes, node.name = member ∧ t.Stands [] rack node := by
  obtain ⟨racks, same, holds⟩ := exists_known t .empty nodes
  obtain rfl : before = racks := Except.ok.inj (known.symm.trans same)
  simpa [holds_empty] using holds rack member

def Inhabited (racks : Racks) : Prop :=
  ∀ rack, racks.contains rack = true → ∃ member, racks.Holds rack member

theorem Inhabited.addNode {racks : Racks} (inhabited : racks.Inhabited) (rack node : Text) :
    (racks.addNode rack node).Inhabited := by
  intro other there
  rw [Racks.addNode, Table.contains_put, Bool.or_eq_true, decide_eq_true_eq] at there
  rcases there with rfl | before
  · exact ⟨node, (holds_addNode_iff ..).mpr (Or.inl ⟨rfl, rfl⟩)⟩
  · obtain ⟨member, holds⟩ := inhabited other before
    exact ⟨member, (holds_addNode_iff ..).mpr (Or.inr holds)⟩

theorem Inhabited.ofLabels {racks : Racks} (inhabited : racks.Inhabited) (node : Node) :
    (racks.ofLabels node).Inhabited :=
  List.foldlRecOn _ _ inhabited fun _ before entry _ => before.addNode entry.2 node.name

theorem Inhabited.known {t : Topology Text} {nodes : List Node} {racks before : Racks}
    (inhabited : racks.Inhabited) (known : Racks.known t racks nodes = .ok before) :
    before.Inhabited := by
  induction nodes generalizing racks with
  | nil =>
    obtain rfl := Except.ok.inj known
    exact inhabited
  | cons node nodes ih =>
    have labelled := inhabited.ofLabels node
    simp only [Racks.known, t.recordedRack_eq, bind, Except.bind] at known
    split at known
    · exact ih labelled known
    · exact ih (labelled.addNode _ _) known

theorem inhabited_of_known {t : Topology Text} {nodes : List Node} {before : Racks}
    (known : Racks.known t .empty nodes = .ok before) : before.Inhabited :=
  Inhabited.known (fun _ there => absurd there (by simp)) known

theorem Inhabited.contains_iff {racks : Racks} (inhabited : racks.Inhabited) {rack : Text} :
    racks.contains rack = true ↔ ∃ member, racks.Holds rack member :=
  ⟨inhabited rack, fun ⟨_, holds⟩ => contains_of_holds holds⟩

/-- Racks with a node in each of them are determined by where the nodes stand. -/
theorem ext_holds {racks other : Racks} (inhabited : racks.Inhabited)
    (inhabitedOther : other.Inhabited)
    (same : ∀ rack member, racks.Holds rack member ↔ other.Holds rack member) : racks = other := by
  apply Table.ext_find?
  intro rack
  have sameMembers : racks.members rack = other.members rack := members_eq_of_holds_iff (same rack)
  have together : racks.contains rack = other.contains rack := by
    rw [Bool.eq_iff_iff, inhabited.contains_iff, inhabitedOther.contains_iff]
    simp only [same]
  rw [Table.contains_eq_isSome_find?, Table.contains_eq_isSome_find?] at together
  unfold members at sameMembers
  cases found : racks.find? rack <;> cases foundOther : other.find? rack <;> simp_all

end Racks

namespace Topology

theorem recordedRack_of_stands_nowhere {t : Topology Text} {node : Node}
    (nowhere : ∀ rack, ¬t.Stands [] rack node) : t.recordedRack node.name = .ok [] := by
  rw [t.recordedRack_eq]
  by_contra filled
  have named : t.rackOf node.name ≠ [] := fun nothing => filled (by rw [nothing])
  exact nowhere _ (Or.inr (Or.inl ⟨named, t.recordedRack_eq node.name⟩))

theorem mem_unplaced_iff {racks : Racks} {zones : Zones} {nodes : List Node} {node : Node} :
    node ∈ unplaced racks zones nodes ↔ node ∈ nodes ∧ ∀ rack, ¬racks.Holds rack node.name := by
  simp [unplaced, Node.mem_placementOrder_iff, Racks.mem_nodes_iff]

theorem nodup_unplaced {nodes : List Node} (distinct : (nodes.map Node.name).Nodup) (racks : Racks)
    (zones : Zones) : ((unplaced racks zones nodes).map Node.name).Nodup :=
  ((Node.placementOrder_perm _ _).map Node.name).nodup_iff.mpr
    (distinct.sublist (List.filter_sublist.map Node.name))

theorem balance_of_known {t : Topology Text} {nodes : List Node} {before : Racks}
    (known : Racks.known t .empty nodes = .ok before) (minimum : Int) (patcher : Patcher) :
    t.balance nodes minimum patcher =
      Balance.placeNodes ⟨minimum, Zones.ofNodes nodes, patcher⟩
        (unplaced before (Zones.ofNodes nodes) nodes) ⟨before, t, []⟩ := by
  simp only [balance, known]

/-- A pass over nodes that are sorted already, of which none has a zone or stands anywhere. -/
theorem ensureRacks_of_sorted {t : Topology Text} {nodes : List Node} {before : Racks}
    (known : Racks.known t .empty nodes = .ok before)
    (nowhere : ∀ node ∈ nodes, before.nodes.contains node.name = false)
    (zoneless : ∀ node ∈ nodes, ((Zones.ofNodes nodes).find? node.name).getD [] = [])
    (sorted : nodes.Pairwise fun node later => ¬later.name < node.name) (minimum : Int)
    (patcher : Patcher) :
    t.ensureRacks nodes minimum patcher =
      (Balance.placeNodes ⟨minimum, Zones.ofNodes nodes, patcher⟩ nodes ⟨before, t, []⟩).within
        Balance.topology := by
  have all : (nodes.filter fun node => !before.nodes.contains node.name) = nodes :=
    List.filter_eq_self.mpr fun node listed => by rw [nowhere node listed]; rfl
  have order : Node.sortByName nodes = nodes :=
    List.mergeSort_of_pairwise (sorted.imp fun notAfter => by simpa using notAfter)
  rw [ensureRacks, balance_of_known known, unplaced, all, Node.placementOrder_of_zoneless zoneless,
    order]

theorem exists_balance_eq (t : Topology Text) (nodes : List Node) (minimum : Int)
    (patcher : Patcher) :
    ∃ before : Racks,
      (∀ rack member, before.Holds rack member ↔
        ∃ node ∈ nodes, node.name = member ∧ t.Stands [] rack node)
      ∧ t.balance nodes minimum patcher =
        Balance.placeNodes ⟨minimum, Zones.ofNodes nodes, patcher⟩
          (unplaced before (Zones.ofNodes nodes) nodes) ⟨before, t, []⟩ := by
  obtain ⟨before, known, _⟩ := Racks.exists_known t .empty nodes
  exact ⟨before, Racks.holds_known_iff known, balance_of_known known minimum patcher⟩

end Topology
end ClusterTopology
