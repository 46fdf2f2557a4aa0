import ClusterTopology.Proofs.Status.Settled

/-!
A reconciliation made again. With the same nodes and spec it returns the same domain and leaves the
status just as it is. That is so by what is recorded or, where the nodes have nothing to record, by
a discovery that finds nothing again.
-/

namespace ClusterTopology

namespace Status

variable {status : Status Text} {spec : ClusterSpec} {nodes : List Node} {patcher : Patcher}
  {domain : FailureDomain Text}

theorem survey_of_isEmpty_reconcile
    (success : (status.reconcile spec nodes patcher).result = .ok domain)
    (nothing : (status.reconcile spec nodes patcher).state.recorded.isEmpty = true) :
    ¬(nodes.length : Int) < spec.minimumNodes ∧ discovered nodes = .empty
      ∧ ∃ (type key : Text), type ≠ [] ∧ domain = Topology.empty.domainOf type key
        ∧ (status.reconcile spec nodes patcher).state = ⟨some .empty, domain, nodes.length⟩ := by
  obtain ⟨t, surveyed, events, found⟩ := exists_survey_of_reconcile_ok success
  obtain ⟨u, type, key, named, _, filled, state, read⟩ := exists_of_reconcile_eq_ok found success
  rw [state] at nothing
  obtain rfl : u = .empty := Topology.eq_empty_of_isEmpty nothing
  have noTopology : t.isEmpty = true := by
    rw [← Bool.not_eq_false]
    intro known
    exact absurd (filled known) (by decide)
  have unknown : status.recorded.isEmpty = true := by
    rw [← Bool.not_eq_false]
    intro known
    rw [survey_of_recorded spec nodes known] at found
    obtain ⟨_, _, same⟩ := Outcome.mk.inj found
    rw [Except.ok.inj same, noTopology] at known
    exact absurd known (by simp)
  by_cases few : (nodes.length : Int) < spec.minimumNodes
  · rw [survey_of_few unknown few] at found
    obtain ⟨_, _, same⟩ := Outcome.mk.inj found
    exact absurd same (by simp)
  · obtain ⟨events, _, again⟩ := survey_of_enough unknown few
    rw [again] at found
    obtain ⟨rfl, _, same⟩ := Outcome.mk.inj found
    obtain rfl := Except.ok.inj same
    exact ⟨few, Topology.eq_empty_of_isEmpty noTopology, type, key, named, read, state⟩

theorem reconcile_again (success : (status.reconcile spec nodes patcher).result = .ok domain)
    (other : Patcher) :
    ((status.reconcile spec nodes patcher).state.reconcile spec nodes other).state =
        (status.reconcile spec nodes patcher).state
      ∧ ((status.reconcile spec nodes patcher).state.reconcile spec nodes other).result =
        .ok domain := by
  have steady := steady_of_reconcile_eq_ok spec nodes patcher success
  cases known : (status.reconcile spec nodes patcher).state.recorded.isEmpty with
  | false =>
    rw [steady.reconcile_eq spec nodes other known]
    exact ⟨rfl, rfl⟩
  | true =>
    obtain ⟨enough, nothing, type, key, named, read, state⟩ :=
      survey_of_isEmpty_reconcile success known
    obtain ⟨events, _, found⟩ := survey_of_enough known enough
    have chosen : (status.reconcile spec nodes patcher).state.domain.type ≠ [] := by
      rw [steady.recorded]
      exact steady.chosen
    have trimmed : (Topology.empty : Topology Text).dropDeprecated.state = .empty := by rfl
    have same : Topology.empty.domainOf domain.type domain.key = domain := by
      rw [read, Topology.type_domainOf]
      exact Topology.empty.domainOf_key named key
    rw [reconcile_of_chosen chosen found rfl, nothing, trimmed, steady.recorded, same, state]
    exact ⟨rfl, rfl⟩

end Status
end ClusterTopology
