import ClusterTopology.Proofs.Rack.Naming
import ClusterTopology.Proofs.Resource

/-!
What the patches of racks change. A node that is placed has no rack label, so its patch sets that
label and nothing else; the patch of a recorded rack does so too, unless the label is there already.
Whatever labels a node has by the time its patch arrives, none of them goes away and none changes but
that of the rack.
-/

namespace ClusterTopology

namespace LabelPatch

/-- Merged into whatever labels, the change takes none away and leaves all but that of the rack. -/
structure TouchesRackOnly (patch : LabelPatch) : Prop where
  keeps : ∀ (live : Labels) (key : Text), live.contains key = true →
    (Labels.merge live patch.change).contains key = true
  spares : ∀ (live : Labels) (key : Text), key ≠ rackKey →
    (Labels.merge live patch.change).find? key = live.find? key

theorem find?_merge_recordRack (live : Labels) (node : Node) (rack key : Text) :
    (Labels.merge live (recordRack node rack).change).find? key =
      if key = rackKey ∧ node.labels.find? rackKey ≠ some rack then some rack
      else live.find? key := by
  rw [Labels.find?_merge, change_recordRack]
  by_cases shown : node.labels.find? rackKey = some rack
  · simp [shown]
  · by_cases here : key = rackKey <;> simp [shown, here, Table.ofList, Table.find?_put]

theorem touchesRackOnly_recordRack (node : Node) (rack : Text) :
    (recordRack node rack).TouchesRackOnly := by
  constructor
  · intro live key there
    rw [Table.contains_eq_isSome_find?] at there ⊢
    rw [find?_merge_recordRack]
    split
    · rfl
    · exact there
  · intro live key other
    rw [find?_merge_recordRack, if_neg fun here => other here.1]

theorem change_recordRack_of_unlabelled {node : Node} (unlabelled : ∀ rack, ¬node.NamesRack rack)
    (rack : Text) : (recordRack node rack).change = Table.ofList [(rackKey, some rack)] := by
  rw [change_recordRack, if_neg]
  intro shown
  exact unlabelled rack ⟨rackKey, by decide, shown⟩

end LabelPatch

namespace Topology

section

variable {t : Topology Text} {nodes : List Node} {minimum : Int} {patcher : Patcher}

theorem node_ne_of_offered_of_stands (distinct : (nodes.map Node.name).Nodup) {node : Node}
    (listed : node ∈ nodes) {rack : Text} (stands : t.Stands [] rack node) {patch : LabelPatch}
    (offered : patch ∈ offeredIn (t.ensureRacks nodes minimum patcher).events) :
    patch.node ≠ node.name := by
  intro sameName
  obtain ⟨placed, listedPlaced, nowhere, _, rfl⟩ :=
    t.formed_of_mem_offeredIn nodes minimum patcher offered
  obtain rfl : placed = node := List.inj_on_of_nodup_map distinct listedPlaced listed sameName
  exact nowhere rack stands

end

/-- The patches of a pass change one label each: they set that of the rack to the one rack that the
pass records for the node. The patches of the recorded racks do so as well, or change nothing where
the label says so already. None of them takes a label away or changes another one; and a pass has no
patch for a node with a rack label or a recorded rack. -/
theorem patches_change_rack_label_only {nodes : List Node} (distinct : (nodes.map Node.name).Nodup)
    (t : Topology Text) (minimum : Int) (patcher : Patcher) :
    let pass := t.ensureRacks nodes minimum patcher
    (∀ patch ∈ offeredIn pass.events, ∃ node ∈ nodes, ∃ rack,
        patch.node = node.name ∧ patch.old = node.labels
          ∧ patch.change = Table.ofList [(rackKey, some rack)] ∧ patch.TouchesRackOnly
          ∧ ∀ other, pass.state.records rackKey other node.name = true ↔
            t.records rackKey other node.name = true ∨ other = rack)
      ∧ (∃ declared, t.rackPatches nodes = .ok declared ∧ ∀ patch ∈ declared, ∃ node ∈ nodes,
        ∃ rack, patch.node = node.name ∧ patch.old = node.labels
          ∧ t.recordedRack node.name = .ok rack ∧ rack ≠ []
          ∧ patch.change = (if node.labels.find? rackKey = some rack then .empty
            else Table.ofList [(rackKey, some rack)]) ∧ patch.TouchesRackOnly)
      ∧ ∀ node ∈ nodes, (∃ rack, node.NamesRack rack) ∨ t.recordedRack node.name ≠ .ok [] →
        ∀ patch ∈ offeredIn pass.events, patch.node ≠ node.name := by
  intro pass
  refine ⟨fun patch offered => ?_, ?_, fun node listed known patch offered => ?_⟩
  · obtain ⟨node, listed, nowhere, rack, rfl⟩ :=
      t.formed_of_mem_offeredIn nodes minimum patcher offered
    have unlabelled : ∀ rack, ¬node.NamesRack rack := fun rack names => nowhere rack (Or.inl names)
    exact ⟨node, listed, rack, rfl, rfl, LabelPatch.change_recordRack_of_unlabelled unlabelled rack,
      LabelPatch.touchesRackOnly_recordRack node rack,
      records_ensureRacks_iff_of_offered distinct offered⟩
  · obtain ⟨declared, made, formed⟩ := t.exists_rackPatches nodes
    refine ⟨declared, made, fun patch member => ?_⟩
    obtain ⟨node, listed, rack, named, recorded, rfl⟩ := (formed patch).mp member
    exact ⟨node, listed, rack, rfl, rfl, recorded, named, LabelPatch.change_recordRack node rack,
      LabelPatch.touchesRackOnly_recordRack node rack⟩
  · have stands : ∃ rack, t.Stands [] rack node := by
      rcases known with ⟨rack, names⟩ | recorded
      · exact ⟨rack, Or.inl names⟩
      · rw [t.recordedRack_eq, Ne, Except.ok.injEq] at recorded
        exact ⟨_, Or.inr (Or.inl ⟨recorded, t.recordedRack_eq node.name⟩)⟩
    obtain ⟨rack, stands⟩ := stands
    exact node_ne_of_offered_of_stands distinct listed stands offered

/-! Three nodes: one with a rack label of its own, one with a recorded rack that its labels
contradict, and one with neither. -/

def ownLabel : Node := ⟨"n0", .ofList [("example.org/track", "left")]⟩

def contradicted : Node := ⟨"n1", .ofList [(rackKey, "rack7")]⟩

def unlabelledWithDisk : Node := ⟨"n2", .ofList [("disk", "ssd")]⟩

def secondRecorded : Topology Text := empty.addNode rackKey "rack1" "n1"

def labellingPass : Outcome (Topology Text) (List LabelPatch) :=
  secondRecorded.ensureRacks [ownLabel, contradicted, unlabelledWithDisk] 3 .acceptAll

theorem offered_labellingPass :
    (offeredIn labellingPass.events).map LabelPatch.node = [("n2" : Text)] := by
  decide +kernel

theorem third_patched_beside_disk :
    ([ownLabel, contradicted, unlabelledWithDisk].map Node.name).Nodup
      ∧ ∃ patch ∈ offeredIn labellingPass.events, patch.node = "n2"
        ∧ (Labels.merge unlabelledWithDisk.labels patch.change).find? "disk" = some "ssd" := by
  have distinct : ([ownLabel, contradicted, unlabelledWithDisk].map Node.name).Nodup := by decide
  obtain ⟨changes, _, _⟩ := patches_change_rack_label_only distinct secondRecorded 3 .acceptAll
  obtain ⟨patch, offered, third⟩ : ∃ patch ∈ offeredIn labellingPass.events, patch.node = "n2" :=
    List.mem_map.mp (offered_labellingPass ▸ List.mem_singleton_self _)
  obtain ⟨_, _, _, _, _, _, touches, _⟩ := changes patch offered
  refine ⟨distinct, patch, offered, third, ?_⟩
  rw [touches.spares _ _ (by decide)]
  decide

end Topology
end ClusterTopology
