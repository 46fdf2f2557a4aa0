import ClusterTopology.Proofs.Rack.Recording

/-!
When a pass succeeds. As long as at least one rack is asked for there is a rack for every node, so
the only thing that can end a pass early is a patch that is not accepted.
-/

namespace ClusterTopology

namespace Racks

theorem isEmpty_withFresh_of_filled {racks : Racks} (filled : racks.isEmpty = false) (count : Nat) :
    (racks.withFresh count).isEmpty = false := by
  induction count generalizing racks with
  | zero => exact filled
  | succ count ih => exact ih (Topology.isEmpty_put _ _ _)

theorem isEmpty_withAtLeast {minimum : Int} (positive : 1 ≤ minimum) (racks : Racks) :
    (racks.withAtLeast minimum).isEmpty = false := by
  cases nothing : racks.isEmpty with
  | false => exact isEmpty_withFresh_of_filled nothing _
  | true =>
    have none : racks.size = 0 := by
      unfold Table.size
      rw [List.isEmpty_iff.mp nothing]
      rfl
    obtain ⟨count, more⟩ : ∃ count, (minimum - racks.size).toNat = count + 1 :=
      Nat.exists_eq_add_one.mpr (by omega)
    unfold withAtLeast
    rw [more]
    exact isEmpty_withFresh_of_filled (Topology.isEmpty_put _ _ _) count

theorem eq_nil_of_leastPopulated_eq_none {racks : List (Text × KeySet Text)}
    (none : leastPopulated racks = none) : racks = [] := by
  cases racks with
  | nil => rfl
  | cons first rest =>
    unfold leastPopulated at none
    split at none
    · exact absurd none (by simp)
    · split at none <;> exact absurd none (by simp)

theorem exists_place_eq_ok {minimum : Int} (positive : 1 ≤ minimum) (racks : Racks) (zones : Zones)
    (node : Node) : ∃ rack, (racks.place minimum zones node).result = .ok rack := by
  cases least : leastPopulated
      (candidates zones (targetZone zones node) (racks.withAtLeast minimum)) with
  | some chosen => exact ⟨chosen.1, by rw [place_of_some least]; rfl⟩
  | none =>
    rw [place_of_none least]
    have zoned : targetZone zones node ≠ [] := by
      intro zoneless
      have nothing : (racks.withAtLeast minimum).entries = [] := by
        simpa [candidates, zoneless] using eq_nil_of_leastPopulated_eq_none least
      have filled := isEmpty_withAtLeast positive racks
      simp [Table.isEmpty, nothing] at filled
    rw [if_neg zoned]
    exact ⟨_, rfl⟩

end Racks

namespace Balance

variable {α : Type} [Name α] (rules : BalanceRules)

theorem exists_unaccepted_of_placeNodes_error (positive : 1 ≤ rules.minimumRacks)
    {nodes : List Node} {balance : Balance α} {fault : Fault}
    (failure : (balance.placeNodes rules nodes).result = .error fault) :
    let accepted := acceptedIn (balance.placeNodes rules nodes).events
    ∃ patch, offeredIn (balance.placeNodes rules nodes).events = accepted ++ [patch]
      ∧ (rules.patcher (balance.offered ++ accepted) patch).isAccepted = false := by
  induction nodes generalizing balance with
  | nil => exact absurd failure (by simp [placeNodes, Outcome.done])
  | cons node nodes ih =>
    obtain ⟨rack, chosen⟩ :=
      Racks.exists_place_eq_ok positive balance.racks rules.zones node
    have step := placeNode_of_ok rules chosen
    obtain ⟨offered, remembered, answered⟩ := placeNode_offers rules chosen
    cases answer : (rules.patcher balance.offered (.recordRack node rack)).isAccepted with
    | true =>
      have success : (balance.placeNode rules node).result = .ok (.recordRack node rack) := by
        rw [step]
        exact PatchAnswer.result_of_isAccepted answer
      have accepted : acceptedIn (balance.placeNode rules node).events = [.recordRack node rack] := by
        rcases answered with ⟨_, accepted⟩ | ⟨⟨other, failed⟩, _⟩
        · exact accepted
        · rw [success] at failed
          exact absurd failed (by simp)
      have later : ((balance.placeNode rules node).state.placeNodes rules nodes).result =
          .error fault := by
        rw [placeNodes_cons_of_ok rules nodes success] at failure
        cases rest : ((balance.placeNode rules node).state.placeNodes rules nodes).result with
        | error other =>
          rw [rest] at failure
          exact failure
        | ok patches =>
          rw [rest] at failure
          exact absurd failure (by simp [Except.map])
      obtain ⟨patch, last, refused⟩ := ih later
      rw [remembered] at refused
      rw [placeNodes_cons_of_ok rules nodes success]
      refine ⟨patch, ?_, ?_⟩
      · simp [offered, accepted, last]
      · simpa [accepted] using refused
    | false =>
      obtain ⟨other, failed⟩ := PatchAnswer.result_of_not_isAccepted (.recordRack node rack) answer
      have stopped : (balance.placeNode rules node).result = .error other := by
        rw [step]
        exact failed
      have accepted : acceptedIn (balance.placeNode rules node).events = [] := by
        rcases answered with ⟨success, _⟩ | ⟨_, accepted⟩
        · rw [stopped] at success
          exact absurd success (by simp)
        · exact accepted
      rw [placeNodes_cons_of_error rules nodes stopped]
      exact ⟨.recordRack node rack, by simp [offered, accepted], by simpa [accepted] using answer⟩

/-- A pass fails just with what comes of a patch that it offers, and that is then its last one. -/
theorem placeNodes_eq_error_iff (positive : 1 ≤ rules.minimumRacks) {nodes : List Node}
    {balance : Balance α} {fault : Fault} :
    (balance.placeNodes rules nodes).result = .error fault ↔
      ∃ earlier patch, earlier ++ [patch] <+: offeredIn (balance.placeNodes rules nodes).events
        ∧ (rules.patcher (balance.offered ++ earlier) patch).result patch = .error fault := by
  induction nodes generalizing balance with
  | nil => simp [placeNodes, Outcome.done]
  | cons node nodes ih =>
    obtain ⟨rack, found⟩ := Racks.exists_place_eq_ok positive balance.racks rules.zones node
    obtain ⟨offered, remembered, _⟩ := placeNode_offers rules found
    have answer : (balance.placeNode rules node).result =
        (rules.patcher balance.offered (.recordRack node rack)).result (.recordRack node rack) := by
      rw [placeNode_of_ok rules found]
    cases step : (balance.placeNode rules node).result with
    | error first =>
      -- The patch of the node is the only one that is offered.
      rw [step] at answer
      rw [placeNodes_cons_of_error rules nodes step, offered]
      constructor
      · intro failure
        obtain rfl : first = fault := Except.error.inj failure
        exact ⟨[], _, List.prefix_rfl, by rw [List.append_nil, answer]⟩
      · rintro ⟨earlier, patch, begins, failure⟩
        cases earlier with
        | nil =>
          obtain ⟨rfl, _⟩ := List.cons_prefix_cons.mp begins
          rw [List.append_nil, ← answer] at failure
          rw [Except.error.inj failure]
        | cons _ earlier =>
          have nothing := List.prefix_nil.mp (List.cons_prefix_cons.mp begins).2
          exact absurd nothing (by simp)
    | ok patch =>
      -- The patch of the node is accepted, so the failing one is a later one.
      rw [step] at answer
      have later : (balance.placeNodes rules (node :: nodes)).result = .error fault ↔
          ((balance.placeNode rules node).state.placeNodes rules nodes).result = .error fault := by
        rw [placeNodes_cons_of_ok rules nodes step]
        cases ((balance.placeNode rules node).state.placeNodes rules nodes).result <;>
          simp [Except.map]
      rw [later, ih, remembered, placeNodes_cons_of_ok rules nodes step, offeredIn_append, offered]
      constructor
      · rintro ⟨earlier, failing, begins, failure⟩
        exact ⟨.recordRack node rack :: earlier, failing,
          List.cons_prefix_cons.mpr ⟨rfl, begins⟩, by simpa using failure⟩
      · rintro ⟨earlier, failing, begins, failure⟩
        cases earlier with
        | nil =>
          obtain ⟨rfl, _⟩ := List.cons_prefix_cons.mp begins
          rw [List.append_nil, ← answer] at failure
          exact absurd failure (by simp)
        | cons _ earlier =>
          obtain ⟨rfl, rest⟩ := List.cons_prefix_cons.mp begins
          exact ⟨earlier, failing, rest, by simpa using failure⟩

end Balance

theorem Topology.exists_unaccepted_of_error {minimum : Int} (positive : 1 ≤ minimum)
    {t : Topology Text} {nodes : List Node} {patcher : Patcher} {fault : Fault}
    (failure : (t.ensureRacks nodes minimum patcher).result = .error fault) :
    let accepted := acceptedIn (t.ensureRacks nodes minimum patcher).events
    ∃ patch, offeredIn (t.ensureRacks nodes minimum patcher).events = accepted ++ [patch]
      ∧ (patcher accepted patch).isAccepted = false := by
  obtain ⟨before, _, pass⟩ := t.exists_balance_eq nodes minimum patcher
  unfold ensureRacks at failure ⊢
  rw [pass] at failure ⊢
  exact Balance.exists_unaccepted_of_placeNodes_error ⟨minimum, Zones.ofNodes nodes, patcher⟩
    positive failure

theorem Topology.ensureRacks_eq_error_iff {minimum : Int} (positive : 1 ≤ minimum)
    {t : Topology Text} {nodes : List Node} {patcher : Patcher} {fault : Fault} :
    (t.ensureRacks nodes minimum patcher).result = .error fault ↔
      ∃ earlier patch, earlier ++ [patch] <+: offeredIn (t.ensureRacks nodes minimum patcher).events
        ∧ (patcher earlier patch).result patch = .error fault := by
  obtain ⟨before, _, pass⟩ := t.exists_balance_eq nodes minimum patcher
  unfold ensureRacks
  rw [pass]
  exact Balance.placeNodes_eq_error_iff ⟨minimum, Zones.ofNodes nodes, patcher⟩ positive

theorem Topology.exists_patches_of_accepting {minimum : Int} (positive : 1 ≤ minimum)
    (t : Topology Text) (nodes : List Node) {patcher : Patcher} (accepting : patcher.Accepting) :
    ∃ patches, (t.ensureRacks nodes minimum patcher).result = .ok patches
      ∧ (t.balance nodes minimum patcher).state.offered = patches := by
  cases result : (t.ensureRacks nodes minimum patcher).result with
  | error fault =>
    obtain ⟨patch, _, refused⟩ := exists_unaccepted_of_error positive result
    rw [accepting] at refused
    exact absurd refused (by simp)
  | ok patches =>
    obtain ⟨_, _, offers⟩ := t.exists_offers nodes minimum patcher
    refine ⟨patches, rfl, ?_⟩
    rw [offers.remembered, (offers.succeeded patches result).1, List.nil_append]

end ClusterTopology
