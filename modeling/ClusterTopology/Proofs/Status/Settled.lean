import ClusterTopology.Proofs.Status.Document
import ClusterTopology.Proofs.Status.Selection

/-!
The chosen domain stays. Once a reconciliation has returned, the status holds a domain that is read
from its topology again in the same way, and a topology from which nothing is dropped. Both are kept
by everything that may come later: further reconciliations with whatever nodes and specs, and
readings of the status from its own document.
-/

namespace ClusterTopology.Status

/-- A status after a choice: a reconciliation returned the domain, and only reconciliations that
failed and readings of the document came after it. -/
inductive Settled : FailureDomain Text → Status Text → Prop
  | returned {status : Status Text} {spec : ClusterSpec} {nodes : List Node} {patcher : Patcher}
      {domain : FailureDomain Text}
      (success : (status.reconcile spec nodes patcher).result = .ok domain) :
      Settled domain (status.reconcile spec nodes patcher).state
  | failed {status : Status Text} {spec : ClusterSpec} {nodes : List Node} {patcher : Patcher}
      {domain : FailureDomain Text} {fault : Fault} (settled : Settled domain status)
      (failure : (status.reconcile spec nodes patcher).result = .error fault) :
      Settled domain (status.reconcile spec nodes patcher).state
  | reread {status read : Status Text} {domain : FailureDomain Text} {members : Json.Members}
      (settled : Settled domain status) (written : status.toDocument = .ok (.object members))
      (loaded : StoredStatus.ofMembers members = .ok (.regular read)) : Settled domain read

/-- Reconciliations from a status on, with readings of the document anywhere between them: what
came of each reconciliation, and the status they lead to. -/
inductive Course (status : Status Text) :
    List (Outcome (Status Text) (FailureDomain Text)) → Status Text → Prop
  | none : Course status [] status
  | reconciled {outcomes : List (Outcome (Status Text) (FailureDomain Text))}
      {reached : Status Text} (earlier : Course status outcomes reached) (spec : ClusterSpec)
      (nodes : List Node) (patcher : Patcher) :
      Course status (outcomes ++ [reached.reconcile spec nodes patcher])
        (reached.reconcile spec nodes patcher).state
  | reread {outcomes : List (Outcome (Status Text) (FailureDomain Text))}
      {reached read : Status Text} {members : Json.Members}
      (earlier : Course status outcomes reached)
      (written : reached.toDocument = .ok (.object members))
      (loaded : StoredStatus.ofMembers members = .ok (.regular read)) : Course status outcomes read

/-- A domain is recorded, and where a topology is recorded too, it has no redundant keys and the
domain is read from it again as it is. -/
structure Steady (domain : FailureDomain Text) (status : Status Text) : Prop where
  recorded : status.domain = domain
  chosen : domain.type ≠ []
  consistent : status.recorded.isEmpty = false →
    status.recorded.Trimmed ∧ status.recorded.domainOf domain.type domain.key = domain

theorem reread_eq {status read : Status Text} {members : Json.Members}
    (written : status.toDocument = .ok (.object members))
    (loaded : StoredStatus.ofMembers members = .ok (.regular read)) : read = status := by
  obtain ⟨same, document, again⟩ := status.exists_toDocument
  rw [written] at document
  obtain rfl : members = same := by simpa using document
  rw [loaded] at again
  simpa using again

section

variable {status : Status Text} {domain : FailureDomain Text} (spec : ClusterSpec)
  (nodes : List Node) (patcher : Patcher)

theorem steady_of_reconcile_eq_ok
    (success : (status.reconcile spec nodes patcher).result = .ok domain) :
    Steady domain (status.reconcile spec nodes patcher).state := by
  obtain ⟨t, surveyed, events, found⟩ := exists_survey_of_reconcile_ok success
  obtain ⟨u, type, key, named, trimmed, _, state, read⟩ := exists_of_reconcile_eq_ok found success
  rw [state]
  refine ⟨rfl, ?_, fun _ => ⟨trimmed, ?_⟩⟩
  · rw [read, Topology.type_domainOf]
    exact named
  · rw [read, Topology.type_domainOf]
    exact u.domainOf_key named key

theorem Steady.reconcile_eq (steady : Steady domain status)
    (known : status.recorded.isEmpty = false) :
    status.reconcile spec nodes patcher = ⟨status, [], .ok domain⟩ := by
  obtain ⟨trimmed, read⟩ := steady.consistent known
  have chosen : status.domain.type ≠ [] := by
    rw [steady.recorded]
    exact steady.chosen
  have topology : status.topology = some status.recorded := by
    unfold Status.recorded at known ⊢
    cases there : status.topology with
    | none =>
      rw [there] at known
      exact absurd known (by decide)
    | some t => rfl
  rw [reconcile_of_chosen chosen (survey_of_recorded spec nodes known) rfl,
    trimmed.dropDeprecated_eq_done, steady.recorded]
  have same : ({ status with topology := some status.recorded, domain := domain } : Status Text) =
      status := by
    rw [← topology, ← steady.recorded]
  simp only [Outcome.done, read, same]

theorem Steady.withTopology_empty (steady : Steady domain status) :
    Steady domain (status.withTopology .empty) :=
  ⟨steady.recorded, steady.chosen, fun known => Bool.noConfusion known⟩

/-- Whatever comes of it, a reconciliation of a steady status offers no patch. It fails and leaves
the status steady, or it returns a domain of the same type and leaves the status steady with that. -/
theorem Steady.reconcile (steady : Steady domain status) :
    offeredIn (status.reconcile spec nodes patcher).events = []
      ∧ ((∃ fault, (status.reconcile spec nodes patcher).result = .error fault
          ∧ Steady domain (status.reconcile spec nodes patcher).state)
        ∨ ∃ later, (status.reconcile spec nodes patcher).result = .ok later
          ∧ later.type = domain.type ∧ Steady later (status.reconcile spec nodes patcher).state) := by
  cases known : status.recorded.isEmpty with
  | false =>
    rw [steady.reconcile_eq spec nodes patcher known]
    exact ⟨rfl, Or.inr ⟨domain, rfl, rfl, steady⟩⟩
  | true =>
    by_cases few : (nodes.length : Int) < spec.minimumNodes
    · rw [reconcile_of_survey_failed (survey_of_few known few)]
      exact ⟨rfl, Or.inl ⟨_, rfl, steady.withTopology_empty⟩⟩
    · obtain ⟨events, nothing, found⟩ := survey_of_enough known few
      have chosen : status.domain.type ≠ [] := by
        rw [steady.recorded]
        exact steady.chosen
      have returned : status.reconcile spec nodes patcher = _ :=
        reconcile_of_chosen chosen found rfl
      have success := congrArg Outcome.result returned
      refine ⟨?_, Or.inr ⟨_, success, ?_, steady_of_reconcile_eq_ok spec nodes patcher success⟩⟩
      · rw [returned]
        exact nothing
      · rw [Topology.type_domainOf, steady.recorded]

end

theorem Settled.steady {domain : FailureDomain Text} {status : Status Text}
    (settled : Settled domain status) : Steady domain status := by
  induction settled with
  | returned success => exact steady_of_reconcile_eq_ok _ _ _ success
  | @failed status spec nodes patcher domain fault _ failure steady =>
    rcases (steady.reconcile spec nodes patcher).2 with ⟨_, _, kept⟩ | ⟨_, success, _⟩
    · exact kept
    · rw [failure] at success
      exact absurd success (by simp)
  | reread _ written loaded steady =>
    rw [reread_eq written loaded]
    exact steady

section

variable {domain : FailureDomain Text} {status reached : Status Text}
  {outcomes : List (Outcome (Status Text) (FailureDomain Text))}

/-- With a topology a steady status stays as it is, and every reconciliation returns its domain. -/
theorem Course.eq_of_steady (course : Course status outcomes reached)
    (steady : Steady domain status) (known : status.recorded.isEmpty = false) :
    reached = status ∧ ∀ outcome ∈ outcomes, outcome = ⟨status, [], .ok domain⟩ := by
  induction course with
  | none => exact ⟨rfl, fun outcome member => absurd member (by simp)⟩
  | reconciled _ spec nodes patcher ih =>
    obtain ⟨rfl, before⟩ := ih
    rw [steady.reconcile_eq spec nodes patcher known]
    refine ⟨rfl, fun outcome member => ?_⟩
    rcases List.mem_append.mp member with earlier | last
    · exact before outcome earlier
    · exact List.mem_singleton.mp last
  | reread _ written loaded ih =>
    rw [reread_eq written loaded]
    exact ih

theorem Course.type_of_steady (course : Course status outcomes reached)
    (steady : Steady domain status) :
    (∀ outcome ∈ outcomes, offeredIn outcome.events = []
        ∧ ∀ later, outcome.result = .ok later → later.type = domain.type)
      ∧ ∃ last, last.type = domain.type ∧ Steady last reached := by
  induction course with
  | none => exact ⟨fun outcome member => absurd member (by simp), domain, rfl, steady⟩
  | @reconciled outcomes reached _ spec nodes patcher ih =>
    obtain ⟨before, last, sameType, steadyLast⟩ := ih
    obtain ⟨nothing, ended⟩ := steadyLast.reconcile spec nodes patcher
    refine ⟨fun outcome member => ?_, ?_⟩
    · rcases List.mem_append.mp member with earlier | final
      · exact before outcome earlier
      · obtain rfl := List.mem_singleton.mp final
        refine ⟨nothing, fun later returned => ?_⟩
        rcases ended with ⟨_, failure, _⟩ | ⟨_, success, same, _⟩
        · rw [failure] at returned
          exact absurd returned (by simp)
        · rw [success] at returned
          rw [← Except.ok.inj returned, same, sameType]
    · rcases ended with ⟨_, _, kept⟩ | ⟨later, _, same, kept⟩
      · exact ⟨last, sameType, kept⟩
      · exact ⟨later, same.trans sameType, kept⟩
  | reread _ written loaded ih =>
    rw [reread_eq written loaded]
    exact ih

/-- A chosen domain never changes. If the settled status has a topology, every later reconciliation
returns just that domain, leaves the status as it is, and has no events, so nothing is offered and
nothing logged. If it has none, those that return still agree in the type and offer no patch. And
the status can be read from its own document at any time. -/
theorem settled_domain_never_changes (settled : Settled domain status)
    (course : Course status outcomes reached) :
    (status.recorded.isEmpty = false →
        reached = status ∧ ∀ outcome ∈ outcomes, outcome = ⟨status, [], .ok domain⟩)
      ∧ (∀ outcome ∈ outcomes, offeredIn outcome.events = []
        ∧ ∀ later, outcome.result = .ok later → later.type = domain.type)
      ∧ ∃ members, reached.toDocument = .ok (.object members)
        ∧ StoredStatus.ofMembers members = .ok (.regular reached) :=
  ⟨course.eq_of_steady settled.steady, (course.type_of_steady settled.steady).1,
    reached.exists_toDocument⟩

end

def firstChoice : Outcome (Status Text) (FailureDomain Text) :=
  (initial : Status Text).reconcile ⟨true, false, none, 1, 3⟩
    [⟨"n0", .ofList [("kubernetes.io/hostname", "n0")]⟩] fun _ _ => .accepted

theorem result_firstChoice :
    firstChoice.result = .ok ⟨"host", "kubernetes.io/hostname", [("n0" : Text)]⟩ := by
  with_unfolding_all rfl

theorem isEmpty_firstChoice : firstChoice.state.recorded.isEmpty = false := by
  decide +kernel

theorem host_stays_without_nodes :
    firstChoice.state.reconcile .standard [] (fun _ _ => .brokenOff "unreachable") =
      ⟨firstChoice.state, [], .ok ⟨"host", "kubernetes.io/hostname", [("n0" : Text)]⟩⟩ := by
  have settled : Settled _ firstChoice.state := .returned result_firstChoice
  have course : Course firstChoice.state _ _ :=
    .reconciled .none .standard [] fun _ _ => .brokenOff "unreachable"
  exact ((settled_domain_never_changes settled course).1 isEmpty_firstChoice).2 _
    (List.mem_singleton.mpr rfl)

end ClusterTopology.Status
