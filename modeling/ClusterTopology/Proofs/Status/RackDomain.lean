import ClusterTopology.Proofs.Status.ZoneChoice

/-!
The rack as the failure domain. Racks are recorded under one label, but the domain is read from the
first label in order that names racks. The two agree unless nodes show, or the status records, a
label of that kind that comes before; then the domain names that label, and the racks that were
assigned stand in the record only.
-/

namespace ClusterTopology

namespace Topology

theorem find?_dropDeprecated_of_isRackLabel (t : Topology Text) {key : Text}
    (named : Racks.isRackLabel key = true) :
    t.dropDeprecated.state.table.find? key = t.table.find? key := by
  have noRack : ∀ entry ∈ deprecatedKeys, ∀ key ∈ entry.2, Racks.isRackLabel key = false := by
    decide
  rw [find?_dropDeprecated, if_neg]
  intro ⟨entry, member, among, _⟩
  rw [noRack entry member key among] at named
  exact absurd named (by simp)

section

variable {t : Topology Text} {nodes : List Node} {minimum : Int} {patcher : Patcher}

theorem hasKey_ensureRacks_dropDeprecated {key : Text} (different : key ≠ rackKey)
    (named : Racks.isRackLabel key = true) :
    (t.dropDeprecated.state.ensureRacks nodes minimum patcher).state.hasKey key = t.hasKey key :=
  hasKey_congr ((find?_ensureRacks_of_ne _ nodes minimum patcher different).trans
    (t.find?_dropDeprecated_of_isRackLabel named))

theorem records_ensureRacks_of_givenBy {rack node : Text}
    (given : GivenBy (offeredIn (t.ensureRacks nodes minimum patcher).events) rack node) :
    (t.ensureRacks nodes minimum patcher).state.records rackKey rack node = true :=
  (records_ensureRacks_iff _ _ _ _ rack node).mpr (Or.inr given)

theorem hasKey_rackKey_of_offered
    (offered : offeredIn (t.ensureRacks nodes minimum patcher).events ≠ []) :
    (t.ensureRacks nodes minimum patcher).state.hasKey rackKey = true := by
  obtain ⟨patch, member⟩ := List.exists_mem_of_ne_nil _ offered
  obtain ⟨node, _, _, rack, rfl⟩ := formed_of_mem_offeredIn _ _ _ _ member
  have recorded := records_ensureRacks_of_givenBy ⟨_, member, rfl, LabelPatch.rack?_recordRack ..⟩
  exact hasKey_iff_exists_hasValue.mpr
    ⟨rack, mem_keys_valuesOf_iff.mp (mem_keys_of_records _ recorded)⟩

end

/-- The rack domain is read from the first recorded label that names racks. -/
theorem domainOf_rack_of_hasKey {t : Topology Text} (recorded : t.hasKey rackKey = true) :
    ∃ first, t.domainOf FailureDomain.rack [] =
        ⟨FailureDomain.rack, first, (t.valuesOf first).keys⟩
      ∧ t.hasKey first = true ∧ Racks.isRackLabel first = true
      ∧ ∀ other, t.hasKey other = true → Racks.isRackLabel other = true → ¬other < first := by
  have listed : rackKey ∈ t.keys := Table.mem_keys_iff.mpr recorded
  cases found : t.keys.find? fun key => FailureDomain.rack.occursIn key with
  | none => exact absurd (by decide) (List.find?_eq_none.mp found rackKey listed)
  | some first =>
    obtain ⟨member, named, least⟩ := Table.find?_keys_eq_some_iff.mp found
    refine ⟨first, ?_, Table.mem_keys_iff.mp member, named, ?_⟩
    · simp [domainOf, found]
    · intro other there namedOther
      exact of_decide_eq_false (least other (Table.mem_keys_iff.mpr there) namedOther)

end Topology

namespace Status

def ShowsLabel (status : Status Text) (nodes : List Node) (key : Text) : Prop :=
  if status.recorded.isEmpty then
    isTopologyLabel key = true ∧ (carriedValues nodes key).Nonempty
  else status.recorded.hasKey key = true

/-- A label that names racks and comes before the one under which racks are recorded. -/
structure ShowsEarlierRacks (status : Status Text) (nodes : List Node) (key : Text) : Prop where
  named : Racks.isRackLabel key = true
  earlier : key < rackKey
  shown : status.ShowsLabel nodes key

section

variable {status : Status Text} {spec : ClusterSpec} {nodes : List Node} {patcher : Patcher}
  {domain : FailureDomain Text}

/-- A survey that succeeds records the labels that are shown and keeps the domain. -/
theorem hasKey_survey_iff {surveyed : Status Text} {events : List Event} {t : Topology Text}
    (found : status.survey spec nodes = ⟨surveyed, events, .ok t⟩) :
    surveyed.domain = status.domain ∧ offeredIn events = []
      ∧ ∀ key, t.hasKey key = true ↔ status.ShowsLabel nodes key := by
  unfold ShowsLabel
  cases unknown : status.recorded.isEmpty with
  | false =>
    rw [survey_of_recorded spec nodes unknown] at found
    cases found
    exact ⟨rfl, rfl, fun key => Iff.rfl⟩
  | true =>
    by_cases few : (nodes.length : Int) < spec.minimumNodes
    · rw [survey_of_few unknown few] at found
      cases found
    · obtain ⟨_, nothing, went⟩ := survey_of_enough unknown few
      rw [went] at found
      cases found
      exact ⟨rfl, nothing, fun key => hasKey_discovered_iff⟩

theorem exists_pass_of_rack (unchosen : status.domain.type = [])
    (success : (status.determine spec nodes patcher).result = .ok domain)
    (isRack : domain.type = FailureDomain.rack) :
    ∃ (t : Topology Text) (found : List Event),
      let pass := t.dropDeprecated.state.ensureRacks nodes spec.minimumRacks patcher
      (∀ key, t.hasKey key = true ↔ status.ShowsLabel nodes key) ∧ offeredIn found = []
        ∧ (status.determine spec nodes patcher).state.recorded = pass.state
        ∧ (status.determine spec nodes patcher).events = found ++ pass.events
        ∧ domain = pass.state.domainOf FailureDomain.rack [] := by
  cases survey : (status.survey spec nodes).result with
  | error fault =>
    unfold determine at success
    rw [Outcome.andThen_of_error _ survey] at success
    exact absurd success (by simp)
  | ok t =>
    have went : status.survey spec nodes =
        ⟨(status.survey spec nodes).state, (status.survey spec nodes).events, .ok t⟩ := by
      rw [← survey]
    obtain ⟨sameDomain, nothing, shown⟩ := hasKey_survey_iff went
    generalize (status.survey spec nodes).state = surveyed at went sameDomain
    generalize (status.survey spec nodes).events = found at went nothing
    have unchosenThere : (surveyed.withTopology t.dropDeprecated.state).domain.type = [] := by
      rw [withTopology, sameDomain, unchosen]
    rw [determine_of_survey went] at success ⊢
    cases flexible : spec.flexibleScaling with
    | true =>
      rw [choose_of_flexible unchosenThere flexible] at success
      obtain rfl := Except.ok.inj success
      rw [Topology.type_domainOf] at isRack
      exact absurd isRack (by decide)
    | false =>
      cases zone : t.dropDeprecated.state.keys.find? fun key =>
          Text.occursIn FailureDomain.zone key
            && spec.minimumZones ≤ (t.dropDeprecated.state.valuesOf key).keys.length with
      | some key =>
        rw [choose_of_zone unchosenThere flexible (by rw [Topology.zoneKey?_eq, zone])] at success
        obtain rfl := Except.ok.inj success
        rw [Topology.type_domainOf] at isRack
        exact absurd isRack (by decide)
      | none =>
        rw [choose_of_racks unchosenThere flexible (by rw [Topology.zoneKey?_eq, zone])]
          at success ⊢
        refine ⟨t, found, shown, nothing, rfl, rfl, ?_⟩
        cases ended : (t.dropDeprecated.state.ensureRacks nodes spec.minimumRacks
            patcher).result with
        | error fault =>
          rw [Outcome.after, ended] at success
          exact absurd success (by simp [Except.map])
        | ok patches =>
          rw [Outcome.after, ended] at success
          exact (Except.ok.inj success).symm

/-- When a pass that assigned racks leads to the rack as the domain, the key of the domain is the one
under which racks are recorded if and only if no label of that kind that comes before is shown, and
then every rack that was assigned is among the values. Otherwise the key is the first such label. The
values are always those recorded under the key, and every assignment is recorded. -/
theorem rack_domain_describes_assigned_racks (unchosen : status.domain.type = [])
    (success : (status.determine spec nodes patcher).result = .ok domain)
    (isRack : domain.type = FailureDomain.rack)
    (assigned : offeredIn (status.determine spec nodes patcher).events ≠ []) :
    let outcome := status.determine spec nodes patcher
    (domain.key = rackKey ↔ ∀ key, ¬status.ShowsEarlierRacks nodes key)
      ∧ (domain.key = rackKey →
        ∀ rack node, GivenBy (offeredIn outcome.events) rack node → rack ∈ domain.values)
      ∧ (domain.key ≠ rackKey → status.ShowsEarlierRacks nodes domain.key
        ∧ ∀ other, status.ShowsEarlierRacks nodes other → ¬other < domain.key)
      ∧ domain.values = (outcome.state.recorded.valuesOf domain.key).keys
      ∧ ∀ rack node, GivenBy (offeredIn outcome.events) rack node →
        outcome.state.recorded.records rackKey rack node = true := by
  intro outcome
  obtain ⟨t, found, shown, nothing, recorded, events, read⟩ :=
    exists_pass_of_rack unchosen success isRack
  set pass := t.dropDeprecated.state.ensureRacks nodes spec.minimumRacks patcher
  have offered : offeredIn outcome.events = offeredIn pass.events := by
    rw [show outcome.events = found ++ pass.events from events, offeredIn_append, nothing,
      List.nil_append]
  have kept : ∀ rack node, GivenBy (offeredIn outcome.events) rack node →
      pass.state.records rackKey rack node = true := by
    intro rack node given
    rw [offered] at given
    exact Topology.records_ensureRacks_of_givenBy given
  have others : ∀ key, key ≠ rackKey → Racks.isRackLabel key = true →
      (pass.state.hasKey key = true ↔ status.ShowsLabel nodes key) := by
    intro key different named
    rw [← shown, Topology.hasKey_ensureRacks_dropDeprecated different named]
  have racksThere : pass.state.hasKey rackKey = true := by
    rw [show offeredIn (status.determine spec nodes patcher).events = _ from offered] at assigned
    exact Topology.hasKey_rackKey_of_offered assigned
  obtain ⟨first, chosen, there, named, least⟩ := Topology.domainOf_rack_of_hasKey racksThere
  obtain rfl := read.trans chosen
  have earlier_of_ne : first ≠ rackKey → status.ShowsEarlierRacks nodes first := by
    intro different
    have before : first < rackKey :=
      Text.lt_of_not_lt different.symm (least rackKey racksThere (by decide))
    exact ⟨named, before, (others first different named).mp there⟩
  have not_before : ∀ other, status.ShowsEarlierRacks nodes other → ¬other < first := by
    intro other shows
    have different : other ≠ rackKey := by
      rintro rfl
      exact absurd shows.earlier (by decide)
    exact least other ((others other different shows.named).mpr shows.shown) shows.named
  rw [show outcome.state.recorded = pass.state from recorded]
  refine ⟨⟨?_, ?_⟩, ?_, fun different => ⟨earlier_of_ne different, not_before⟩, rfl, kept⟩
  · rintro rfl key shows
    exact not_before key shows shows.earlier
  · intro none
    by_contra different
    exact none first (earlier_of_ne different)
  · rintro rfl rack node given
    exact Topology.mem_keys_of_records _ (kept rack node given)

end

/-! Two nodes of which the first has a rack of its own, under a label that comes before the one for
recorded racks or under one that comes after, and the second is assigned a rack. -/

def rackShownUnder (label : Text) : List Node := [⟨"n0", .ofList [(label, "r1")]⟩, ⟨"n1", .empty⟩]

def smallSpec : ClusterSpec := { ClusterSpec.standard with minimumNodes := 1, minimumRacks := 2 }

def shownUnder (label : Text) : Outcome (Status Text) (FailureDomain Text) :=
  (initial : Status Text).determine smallSpec (rackShownUnder label) fun _ _ => .accepted

theorem sortByName_rackShownUnder (label : Text) :
    Node.sortByName (rackShownUnder label) = rackShownUnder label := by
  have inOrder : (!decide (("n1" : Text) < "n0")) = true := by decide
  exact List.mergeSort_of_pairwise (List.pairwise_pair.mpr inOrder)

def ComesTo (outcome : Outcome (Status Text) (FailureDomain Text)) (key : Text) (values : List Text)
    (node rack : Text) : Prop :=
  (outcome.result.toOption.map fun domain => (domain.type, domain.key, domain.values))
      = some (FailureDomain.rack, key, values)
    ∧ ((offeredIn outcome.events).map fun patch => (patch.node, patch.rack?)) = [(node, some rack)]

instance (outcome : Outcome (Status Text) (FailureDomain Text)) (key : Text) (values : List Text)
    (node rack : Text) : Decidable (ComesTo outcome key values node rack) :=
  inferInstanceAs (Decidable (_ ∧ _))

theorem ComesTo.result_eq {outcome : Outcome (Status Text) (FailureDomain Text)} {key : Text}
    {values : List Text} {node rack : Text} (comes : ComesTo outcome key values node rack) :
    outcome.result = .ok ⟨FailureDomain.rack, key, values⟩ ∧ offeredIn outcome.events ≠ []
      ∧ GivenBy (offeredIn outcome.events) rack node := by
  obtain ⟨chosen, assigned⟩ := comes
  have given : (node, some rack) ∈
      (offeredIn outcome.events).map fun patch => (patch.node, patch.rack?) := by
    rw [assigned]
    exact List.mem_singleton_self _
  obtain ⟨patch, member, same⟩ := List.mem_map.mp given
  obtain ⟨sameNode, sameRack⟩ := Prod.mk.inj same
  refine ⟨?_, List.ne_nil_of_mem member, patch, member, sameNode, sameRack⟩
  cases result : outcome.result with
  | error fault =>
    rw [result] at chosen
    exact absurd chosen (by simp [Except.toOption])
  | ok domain =>
    rw [result] at chosen
    obtain ⟨isRack, rfl, rfl⟩ :
        domain.type = FailureDomain.rack ∧ domain.key = key ∧ domain.values = values := by
      simpa [Except.toOption] using chosen
    rw [← isRack]

/-- The label that comes before is the key, and the rack that was assigned is not a value. -/
theorem assigned_rack_not_described :
    ¬∀ (status : Status Text) (spec : ClusterSpec) (nodes : List Node) (patcher : Patcher)
      (domain : FailureDomain Text), status.domain.type = [] → 1 ≤ spec.minimumRacks →
      (nodes.map Node.name).Nodup → (status.determine spec nodes patcher).result = .ok domain →
      domain.type = FailureDomain.rack →
      offeredIn (status.determine spec nodes patcher).events ≠ [] →
      domain.key = rackKey ∧ ∀ rack node,
        GivenBy (offeredIn (status.determine spec nodes patcher).events) rack node →
        rack ∈ domain.values := by
  intro claimed
  have comes : ComesTo (shownUnder "topology.kubernetes.io/rack") "topology.kubernetes.io/rack"
      ["r1"] "n1" "rack0" := by
    unfold shownUnder determine survey Topology.discover
    rw [sortByName_rackShownUnder]
    decide +kernel
  obtain ⟨success, assigned, _⟩ := comes.result_eq
  obtain ⟨same, _⟩ := claimed initial smallSpec (rackShownUnder "topology.kubernetes.io/rack")
    (fun _ _ => .accepted) _ rfl (by decide) (by decide) success rfl assigned
  exact absurd same (by decide)

theorem assigned_rack_described_beside_later :
    ∃ domain, (shownUnder "topology.rook.io/rack-row").result = .ok domain
      ∧ domain.key = rackKey ∧ ("rack0" : Text) ∈ domain.values := by
  have comes : ComesTo (shownUnder "topology.rook.io/rack-row") rackKey ["rack0"] "n1" "rack0" := by
    unfold shownUnder determine survey Topology.discover
    rw [sortByName_rackShownUnder]
    decide +kernel
  obtain ⟨success, assigned, given⟩ := comes.result_eq
  obtain ⟨_, described, _⟩ := rack_domain_describes_assigned_racks
    (rfl : (initial : Status Text).domain.type = []) success rfl assigned
  exact ⟨_, success, rfl, described rfl "rack0" "n1" given⟩

end Status
end ClusterTopology
