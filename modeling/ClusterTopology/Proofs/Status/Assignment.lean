import ClusterTopology.Proofs.Rack.Permanence
import ClusterTopology.Proofs.Status.RackDomain
import ClusterTopology.Proofs.Status.Racks

/-!
The racks that a reconciliation assigns. Besides what it discovers, a reconciliation either records
nothing new and offers no patch, or it is one pass over the nodes. So a node has a rack recorded
afterwards and none before just when a patch for it was offered. This takes a status in which each
node has one rack, unless the domain was chosen before; then no rack is assigned at all.
-/

namespace ClusterTopology

theorem Topology.OneRackEach.congr {t u : Topology Text} (each : t.OneRackEach)
    (same : ∀ rack node, u.records rackKey rack node = t.records rackKey rack node) :
    u.OneRackEach := by
  constructor
  · intro rack node recorded
    exact each.named ((same rack node).symm.trans recorded)
  · intro rack other node recorded again
    exact each.single ((same rack node).symm.trans recorded) ((same other node).symm.trans again)

namespace Status

section

variable {status : Status Text} {spec : ClusterSpec} {nodes : List Node} {patcher : Patcher}
  {domain : FailureDomain Text}

theorem records_survey {surveyed : Status Text} {events : List Event} {t : Topology Text}
    (found : status.survey spec nodes = ⟨surveyed, events, .ok t⟩) (rack node : Text) :
    t.records rackKey rack node = status.recorded.records rackKey rack node := by
  cases unknown : status.recorded.isEmpty with
  | false =>
    rw [survey_of_recorded spec nodes unknown] at found
    cases found
    rfl
  | true =>
    by_cases few : (nodes.length : Int) < spec.minimumNodes
    · rw [survey_of_few unknown few] at found
      cases found
    · obtain ⟨_, _, went⟩ := survey_of_enough unknown few
      rw [went] at found
      cases found
      rw [not_records_discovered, Topology.eq_empty_of_isEmpty unknown]
      rfl

theorem offeredIn_reconcile (success : (status.reconcile spec nodes patcher).result = .ok domain) :
    offeredIn (status.reconcile spec nodes patcher).events =
        offeredIn (status.determine spec nodes patcher).events
      ∧ acceptedIn (status.reconcile spec nodes patcher).events =
        acceptedIn (status.determine spec nodes patcher).events := by
  rw [reconcile, Outcome.andThen_of_ok _ (determine_of_reconcile_ok success)]
  simp only [Outcome.after, offeredIn_append, acceptedIn_append]
  split <;> exact ⟨List.append_nil _, List.append_nil _⟩

/-- A reconciliation that returns offers nothing and keeps the recorded racks, or no domain was chosen
before and it made a pass over the nodes, which returned. -/
theorem reconcile_cases (success : (status.reconcile spec nodes patcher).result = .ok domain) :
    let outcome := status.reconcile spec nodes patcher
    (offeredIn outcome.events = [] ∧ ∀ rack node,
        outcome.state.recorded.records rackKey rack node = status.recorded.records rackKey rack node)
      ∨ (status.domain.type = [] ∧ ∃ (t : Topology Text) (patches : List LabelPatch),
        let pass := t.ensureRacks nodes spec.minimumRacks patcher
        (∀ rack node, t.records rackKey rack node = status.recorded.records rackKey rack node)
          ∧ pass.result = .ok patches ∧ outcome.state.recorded = pass.state
          ∧ offeredIn outcome.events = offeredIn pass.events
          ∧ acceptedIn outcome.events = acceptedIn pass.events) := by
  intro outcome
  obtain ⟨t, surveyed, found, went⟩ := exists_survey_of_reconcile_ok success
  obtain ⟨sameDomain, nothing, _⟩ := hasKey_survey_iff went
  have nothingAccepted := acceptedIn_of_offeredIn_eq_nil nothing
  have determined := determine_of_reconcile_ok success
  obtain ⟨offered, accepted⟩ := offeredIn_reconcile success
  have recorded : outcome.state.recorded = (status.determine spec nodes patcher).state.recorded :=
    recorded_reconcile
  have before : ∀ rack node, t.dropDeprecated.state.records rackKey rack node =
      status.recorded.records rackKey rack node := by
    intro rack node
    rw [← records_survey went, Topology.records, Topology.records, Topology.nodesOf,
      Topology.nodesOf, Topology.valuesOf_congr t.find?_rackKey_dropDeprecated]
  rw [determine_of_survey went] at determined offered accepted recorded
  simp only [Outcome.after, offeredIn_append, acceptedIn_append, nothing, nothingAccepted,
    List.nil_append] at determined offered accepted recorded
  rcases choose_cases with ⟨kept, quiet⟩ | ⟨unchosen, pass, events, result⟩
  · left
    rw [quiet] at offered
    rw [kept] at recorded
    exact ⟨offered, fun rack node => by rw [recorded, before]⟩
  · right
    rw [events] at offered accepted
    rw [pass] at recorded
    rw [result] at determined
    refine ⟨sameDomain ▸ unchosen, t.dropDeprecated.state, ?_⟩
    cases ended : (t.dropDeprecated.state.ensureRacks nodes spec.minimumRacks patcher).result with
    | error fault =>
      rw [ended] at determined
      exact absurd determined (by simp [Except.map])
    | ok patches => exact ⟨patches, before, ended, recorded, offered, accepted⟩

end

end Status
end ClusterTopology
