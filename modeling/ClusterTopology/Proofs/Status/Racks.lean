import ClusterTopology.Proofs.Status.Selection

/-!
Recorded racks through a reconciliation. The rack that is recorded for a node stays its rack,
whatever is chosen and wherever the reconciliation ends.
-/

namespace ClusterTopology

namespace Topology

theorem recordedRack_congr_key {t u : Topology Text}
    (same : t.table.find? rackKey = u.table.find? rackKey) (node : Text) :
    t.recordedRack node = u.recordedRack node := by
  apply recordedRack_congr
  intro rack
  unfold records nodesOf
  rw [valuesOf_congr same]

theorem recordedRack_dropDeprecated (t : Topology Text) (node : Text) :
    t.dropDeprecated.state.recordedRack node = t.recordedRack node :=
  recordedRack_congr_key t.find?_rackKey_dropDeprecated node

theorem isEmpty_of_recordedRack {t : Topology Text} {node rack : Text} (named : rack ≠ [])
    (recorded : t.recordedRack node = .ok rack) : t.isEmpty = false := by
  rw [← Bool.not_eq_true]
  intro nothing
  have there := t.records_of_recordedRack recorded named
  have absent : t.table.find? rackKey = none :=
    find?_of_not_hasKey (Table.isEmpty_iff.mp nothing rackKey)
  simp [records, nodesOf, valuesOf, absent] at there

end Topology

namespace Status

variable {status : Status Text} {spec : ClusterSpec} {nodes : List Node} {patcher : Patcher}

theorem recorded_reconcile :
    (status.reconcile spec nodes patcher).state.recorded =
      (status.determine spec nodes patcher).state.recorded := by
  unfold reconcile
  cases result : (status.determine spec nodes patcher).result with
  | error fault => rw [Outcome.andThen_of_error _ result]
  | ok domain =>
    rw [Outcome.andThen_of_ok _ result]
    rfl

theorem recordedRack_choose (distinct : (nodes.map Node.name).Nodup) {node : Node}
    (listed : node ∈ nodes) {t : Topology Text} {rack : Text} (named : rack ≠ [])
    (recorded : t.recordedRack node.name = .ok rack) :
    (status.choose spec nodes patcher t).state.recorded.recordedRack node.name = .ok rack := by
  rcases choose_cases with ⟨same, _⟩ | ⟨_, pass, _⟩
  · rw [same]
    exact recorded
  · have stands : t.Stands [] rack node := Or.inr (Or.inl ⟨named, recorded⟩)
    rw [pass]
    exact (Topology.recordedRack_ensureRacks_of_stands distinct listed stands).trans recorded

theorem recordedRack_reconcile (distinct : (nodes.map Node.name).Nodup) {node : Node}
    (listed : node ∈ nodes) {rack : Text} (named : rack ≠ [])
    (recorded : status.recorded.recordedRack node.name = .ok rack) :
    (status.reconcile spec nodes patcher).state.recorded.recordedRack node.name = .ok rack := by
  have known : status.recorded.isEmpty = false := Topology.isEmpty_of_recordedRack named recorded
  rw [recorded_reconcile, determine_of_survey (survey_of_recorded spec nodes known)]
  apply recordedRack_choose distinct listed named
  rw [Topology.recordedRack_dropDeprecated]
  exact recorded

end Status
end ClusterTopology
