import ClusterTopology.Proofs.Rack.Interruption
import ClusterTopology.Proofs.Rack.Permanence

/-!
The names of the racks that a pass assigns. The empty name stands for no rack, and the racks that are
made or taken from the record have names; but the value of a rack label is taken as it is. So a node
is given the empty rack only where a label names it, and then no rack is found for the node
afterwards, as is the case if the node was recorded in the empty rack before.
-/

namespace ClusterTopology.Topology

section

variable {t : Topology Text} {nodes : List Node} {minimum : Int} {patcher : Patcher}

/-- Besides what was recorded for it before, a node is recorded in the one rack that it was given. -/
theorem records_ensureRacks_iff_of_offered (distinct : (nodes.map Node.name).Nodup) {node : Node}
    {rack : Text}
    (offered : .recordRack node rack ∈ offeredIn (t.ensureRacks nodes minimum patcher).events)
    (other : Text) :
    (t.ensureRacks nodes minimum patcher).state.records rackKey other node.name = true ↔
      t.records rackKey other node.name = true ∨ other = rack := by
  obtain ⟨before, known, _⟩ := Racks.exists_known t .empty nodes
  have offers := offers_of_known known minimum patcher
  have remembered : (t.balance nodes minimum patcher).state.offered =
      offeredIn (t.ensureRacks nodes minimum patcher).events := offers.remembered
  have given : GivenBy (t.balance nodes minimum patcher).state.offered rack node.name :=
    ⟨_, remembered ▸ offered, by simp⟩
  rw [records_ensureRacks_iff, ← remembered]
  exact or_congr_right
    ⟨offers.rack_unique (nodup_unplaced distinct before _) given, fun same => same ▸ given⟩

/-- The rack found for a node that was just placed is the one it was given, or none if the node was
recorded in the empty rack before. -/
theorem recordedRack_ensureRacks_of_offered (distinct : (nodes.map Node.name).Nodup) {node : Node}
    {rack : Text}
    (offered : .recordRack node rack ∈ offeredIn (t.ensureRacks nodes minimum patcher).events)
    (nowhere : ∀ rack, ¬t.Stands [] rack node) :
    (t.ensureRacks nodes minimum patcher).state.recordedRack node.name =
      .ok (if t.records rackKey [] node.name then [] else rack) := by
  have recorded := records_ensureRacks_iff_of_offered distinct offered
  have unfound := recordedRack_of_stands_nowhere nowhere
  rw [recordedRack_eq_ok_iff] at unfound ⊢
  rcases unfound with ⟨unnamed, _⟩ | ⟨_, nothing⟩
  · -- No name comes before the empty one.
    refine Or.inl ⟨?_, fun other _ => ?_⟩
    · simp [unnamed, recorded]
    · simp [unnamed]
  · refine Or.inl ⟨?_, fun other again => ?_⟩
    · simp [nothing, recorded]
    · have same : other = rack := by simpa [nothing] using (recorded other).mp again
      simp [nothing, same]

/-- A node is given the empty rack only if a label of a listed node names it. -/
theorem exists_namesRack_nil_of_offered {node : Node}
    (offered : .recordRack node [] ∈ offeredIn (t.ensureRacks nodes minimum patcher).events) :
    ∃ other ∈ nodes, other.NamesRack [] := by
  by_contra none
  have labelled : ∀ other ∈ nodes, ∀ rack, other.NamesRack rack → rack ≠ [] := by
    rintro other listed _ names rfl
    exact none ⟨other, listed, names⟩
  obtain ⟨before, known, _⟩ := Racks.exists_known t .empty nodes
  have given : GivenBy (t.balance nodes minimum patcher).state.offered [] node.name := by
    rw [(offers_of_known known minimum patcher).remembered]
    exact ⟨_, offered, by simp⟩
  rw [balance_of_known known] at given
  exact Balance.ne_nil_of_givenBy _ _ rfl (Racks.named_of_known labelled known) given rfl

end

/-- A pass gives a node a rack with a name unless a label of a listed node names the empty rack, and
finds the rack it gave afterwards unless the node was recorded in the empty rack before. -/
theorem rack_unnamed_only_by_empty_label {nodes : List Node}
    (distinct : (nodes.map Node.name).Nodup) (t : Topology Text) (minimum : Int)
    (patcher : Patcher) :
    let pass := t.ensureRacks nodes minimum patcher
    ∀ patch ∈ offeredIn pass.events, ∃ node ∈ nodes, ∃ rack, patch = .recordRack node rack
      ∧ (rack = [] → ∃ other ∈ nodes, other.NamesRack [])
      ∧ pass.state.recordedRack node.name =
        .ok (if t.records rackKey [] node.name then [] else rack) := by
  intro pass patch offered
  obtain ⟨node, listed, nowhere, rack, rfl⟩ := t.formed_of_mem_offeredIn nodes minimum patcher offered
  refine ⟨node, listed, rack, rfl, ?_, recordedRack_ensureRacks_of_offered distinct offered nowhere⟩
  rintro rfl
  exact exists_namesRack_nil_of_offered offered

/-! A node whose rack label has no value, beside one without labels. -/

def besideEmptyRackLabel : List Node := [⟨"n0", .ofList [("example.org/rack", "")]⟩, ⟨"n1", .empty⟩]

theorem offered_two_racks :
    offeredIn ((empty : Topology Text).ensureRacks besideEmptyRackLabel 2 .acceptAll).events =
      [.recordRack ⟨"n1", .empty⟩ "rack0"] := by
  with_unfolding_all rfl

theorem offered_one_rack :
    offeredIn ((empty : Topology Text).ensureRacks besideEmptyRackLabel 1 .acceptAll).events =
      [.recordRack ⟨"n1", .empty⟩ []] := by
  with_unfolding_all rfl

theorem second_node_found_in_new_rack :
    (besideEmptyRackLabel.map Node.name).Nodup
      ∧ ((empty : Topology Text).ensureRacks besideEmptyRackLabel 2 .acceptAll).state.recordedRack
        "n1" = .ok "rack0" := by
  have distinct : (besideEmptyRackLabel.map Node.name).Nodup := by decide
  obtain ⟨node, _, rack, formed, _, found⟩ := rack_unnamed_only_by_empty_label distinct empty 2
    .acceptAll (.recordRack ⟨"n1", .empty⟩ "rack0") (by simp [offered_two_racks])
  have sameNode : node.name = "n1" := (congrArg LabelPatch.node formed).symm
  have sameRack : rack = "rack0" := by simpa using (congrArg LabelPatch.rack? formed).symm
  have fresh : (empty : Topology Text).records rackKey [] "n1" = false := rfl
  rw [sameNode, sameRack, fresh] at found
  exact ⟨distinct, found⟩

/-- Where one rack is asked for, the node is given the rack without a name, and is found in none. -/
theorem not_every_assigned_rack_named :
    ¬∀ (nodes : List Node), (nodes.map Node.name).Nodup → ∀ (t : Topology Text) (minimum : Int),
      1 ≤ minimum → ∀ patcher, let pass := t.ensureRacks nodes minimum patcher
        ∀ patch ∈ offeredIn pass.events, patch.rack? ≠ some []
          ∧ pass.state.recordedRack patch.node ≠ .ok [] := by
  intro claimed
  have named := (claimed besideEmptyRackLabel (by decide) empty 1 (by decide) .acceptAll
    (.recordRack ⟨"n1", .empty⟩ []) (by simp [offered_one_rack])).1
  exact named (LabelPatch.rack?_recordRack _ _)

end ClusterTopology.Topology
