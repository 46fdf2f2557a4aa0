import ClusterTopology.Proofs.Rack.Success
import ClusterTopology.Proofs.Status.Selection

/-!
The choice between zone and rack where nothing was recorded before. It is decided by what the labels
of the nodes say: the zone is chosen when the nodes span enough zones under some label, and the label
that is named is the first one that does, leaving out deprecated labels that only repeat the one that
took their place. Leaving them out never takes the last such label away, since that other one has the
same values.
-/

namespace ClusterTopology

def zoneLabel : Text := "topology.kubernetes.io/zone"

def deprecatedZoneLabels : List Text :=
  ["failure-domain.beta.kubernetes.io/zone", "failure-domain.kubernetes.io/zone"]

/-- The nodes span enough zones under a label: it is one of topology, its key contains the word, and
they carry at least three different values under it, or two with an arbiter. -/
structure SpansZones (spec : ClusterSpec) (nodes : List Node) (key : Text) : Prop where
  recognized : isTopologyLabel key = true
  named : Text.occursIn FailureDomain.zone key = true
  enough : (if spec.arbiter then 2 else 3) ≤ (carriedValues nodes key).card

/-- A deprecated zone label that says just what the label in its place says. -/
def RepeatsZone (nodes : List Node) (key : Text) : Prop :=
  key ∈ deprecatedZoneLabels ∧ carriedValues nodes key = carriedValues nodes zoneLabel

theorem SpansZones.nonempty {spec : ClusterSpec} {nodes : List Node} {key : Text}
    (spans : SpansZones spec nodes key) : (carriedValues nodes key).Nonempty := by
  have enough := spans.enough
  rw [← Finset.card_pos]
  split at enough <;> omega

/-- Where a label that spans enough zones is only repeated, the one it repeats spans as many. -/
theorem exists_spansZones_not_repeated {spec : ClusterSpec} {nodes : List Node} {key : Text}
    (spans : SpansZones spec nodes key) :
    ∃ other, SpansZones spec nodes other ∧ ¬RepeatsZone nodes other := by
  by_cases repeated : RepeatsZone nodes key
  · have enough := spans.enough
    rw [repeated.2] at enough
    refine ⟨zoneLabel, ⟨by decide, by decide, enough⟩, fun again => ?_⟩
    have notDeprecated : zoneLabel ∉ deprecatedZoneLabels := by decide
    exact notDeprecated again.1
  · exact ⟨key, spans, repeated⟩

namespace Status

section

variable {nodes : List Node}

/-! What is discovered, by the labels of the nodes. -/

theorem hasValue_discovered_iff {key value : Text} :
    (discovered nodes).hasValue key value = true ↔
      isTopologyLabel key = true ∧ value ∈ carriedValues nodes key := by
  have nothing : (Topology.empty : Topology Text).hasValue key value = false := rfl
  unfold discovered
  rw [Topology.hasValue_discoverNodes_iff, nothing]
  simp [Node.mem_sortByName_iff]

theorem not_records_discovered (key value node : Text) :
    (discovered nodes).records key value node = false := by
  unfold discovered
  rw [Topology.records_discoverNodes]
  rfl

theorem mem_valuesOf_discovered_iff {key value : Text} (recognized : isTopologyLabel key = true) :
    value ∈ ((discovered nodes).valuesOf key).keys ↔ value ∈ carriedValues nodes key := by
  rw [Topology.mem_keys_valuesOf_iff, hasValue_discovered_iff, and_iff_right recognized]

theorem length_valuesOf_discovered {key : Text} (recognized : isTopologyLabel key = true) :
    ((discovered nodes).valuesOf key).keys.length = (carriedValues nodes key).card := by
  rw [← List.toFinset_card_of_nodup (Table.keys_nodup _)]
  congr 1
  ext value
  rw [List.mem_toFinset, mem_valuesOf_discovered_iff recognized]

theorem hasKey_discovered_iff {key : Text} :
    (discovered nodes).hasKey key = true ↔
      isTopologyLabel key = true ∧ (carriedValues nodes key).Nonempty := by
  rw [Topology.hasKey_iff_exists_hasValue]
  simp only [hasValue_discovered_iff, exists_and_left, Finset.Nonempty]

theorem valuesOf_discovered_eq_iff {key other : Text} (recognized : isTopologyLabel key = true)
    (recognizedOther : isTopologyLabel other = true) :
    ((discovered nodes).valuesOf key).keys = ((discovered nodes).valuesOf other).keys ↔
      carriedValues nodes key = carriedValues nodes other := by
  constructor
  · intro same
    ext value
    rw [← mem_valuesOf_discovered_iff recognized, same,
      mem_valuesOf_discovered_iff recognizedOther]
  · intro same
    apply Table.keys_eq_of_mem_iff
    intro value
    rw [mem_valuesOf_discovered_iff recognized, same, mem_valuesOf_discovered_iff recognizedOther]

theorem redundant_discovered_iff {key : Text} (recognized : isTopologyLabel key = true)
    (named : Text.occursIn FailureDomain.zone key = true)
    (carried : (carriedValues nodes key).Nonempty) :
    (discovered nodes).Redundant key ↔ RepeatsZone nodes key := by
  have recognizedZone : isTopologyLabel zoneLabel = true := by decide
  constructor
  · rintro ⟨entry, member, among, _, same⟩
    have otherwise : ∀ entry ∈ deprecatedKeys, entry ≠ (zoneLabel, deprecatedZoneLabels) →
        ∀ key ∈ entry.2, Text.occursIn FailureDomain.zone key = false := by decide
    obtain rfl : entry = (zoneLabel, deprecatedZoneLabels) := by
      by_contra different
      rw [otherwise entry member different key among] at named
      exact absurd named (by simp)
    exact ⟨among, (valuesOf_discovered_eq_iff recognized recognizedZone).mp same⟩
  · rintro ⟨among, same⟩
    have there : (discovered nodes).hasKey zoneLabel = true :=
      hasKey_discovered_iff.mpr ⟨recognizedZone, same ▸ carried⟩
    exact ⟨(zoneLabel, deprecatedZoneLabels), by decide, among, there,
      (valuesOf_discovered_eq_iff recognized recognizedZone).mpr same⟩

/-- The keys from which the zone key is chosen are those under which the nodes span enough zones,
but for the repeated ones. -/
theorem zoneCandidate_iff {spec : ClusterSpec} {key : Text} :
    (key ∈ (discovered nodes).dropDeprecated.state.keys
        ∧ (Text.occursIn FailureDomain.zone key
          && spec.minimumZones ≤ ((discovered nodes).dropDeprecated.state.valuesOf key).keys.length)
          = true)
      ↔ SpansZones spec nodes key ∧ ¬RepeatsZone nodes key := by
  have listed : key ∈ (discovered nodes).dropDeprecated.state.keys ↔
      (discovered nodes).dropDeprecated.state.hasKey key = true := Table.mem_keys_iff
  rw [listed, Bool.and_eq_true, decide_eq_true_iff]
  by_cases redundant : (discovered nodes).Redundant key
  · have gone : (discovered nodes).dropDeprecated.state.hasKey key = false := by
      unfold Topology.hasKey
      rw [Table.contains_eq_isSome_find?, Topology.find?_dropDeprecated, if_pos redundant]
      rfl
    rw [gone]
    constructor
    · rintro ⟨there, _⟩
      exact absurd there (by simp)
    · rintro ⟨spans, unrepeated⟩
      exact absurd ((redundant_discovered_iff spans.recognized spans.named spans.nonempty).mp
        redundant) unrepeated
  · have same : (discovered nodes).dropDeprecated.state.table.find? key =
        (discovered nodes).table.find? key := by
      rw [Topology.find?_dropDeprecated, if_neg redundant]
    rw [Topology.hasKey_congr same, Topology.valuesOf_congr same, hasKey_discovered_iff]
    constructor
    · rintro ⟨⟨recognized, carried⟩, named, enough⟩
      rw [length_valuesOf_discovered recognized] at enough
      refine ⟨⟨recognized, named, enough⟩, fun repeated => redundant ?_⟩
      exact (redundant_discovered_iff recognized named carried).mpr repeated
    · rintro ⟨spans, _⟩
      refine ⟨⟨spans.recognized, spans.nonempty⟩, spans.named, ?_⟩
      rw [length_valuesOf_discovered spans.recognized]
      exact spans.enough

end

section

variable {status : Status Text} {spec : ClusterSpec} {nodes : List Node} (patcher : Patcher)

theorem exists_determine_eq_choose (unknown : status.recorded.isEmpty = true)
    (enough : spec.minimumNodes ≤ nodes.length) :
    ∃ (surveyed : Status Text) (found : List Event), surveyed.domain = status.domain
      ∧ offeredIn found = [] ∧ status.determine spec nodes patcher =
        (surveyed.choose spec nodes patcher (discovered nodes).dropDeprecated.state).after found := by
  obtain ⟨found, nothing, went⟩ := survey_of_enough unknown (Int.not_lt.mpr enough)
  refine ⟨_, found, ?_, nothing, determine_of_survey went⟩
  rfl

theorem determine_of_spansZones (unchosen : status.domain.type = [])
    (unknown : status.recorded.isEmpty = true) (fixed : spec.flexibleScaling = false)
    (enough : spec.minimumNodes ≤ nodes.length) {key : Text} (spans : SpansZones spec nodes key) :
    ∃ first values, SpansZones spec nodes first ∧ ¬RepeatsZone nodes first
      ∧ (∀ other, SpansZones spec nodes other → ¬RepeatsZone nodes other → ¬other < first)
      ∧ values.Pairwise (· < ·) ∧ (∀ value, value ∈ values ↔ value ∈ carriedValues nodes first)
      ∧ (status.determine spec nodes patcher).result = .ok ⟨FailureDomain.zone, first, values⟩
      ∧ offeredIn (status.determine spec nodes patcher).events = [] := by
  obtain ⟨surveyed, found, sameDomain, nothing, determined⟩ :=
    exists_determine_eq_choose patcher unknown enough
  let t := (discovered nodes).dropDeprecated.state
  cases zone : t.keys.find? fun key => Text.occursIn FailureDomain.zone key
      && spec.minimumZones ≤ (t.valuesOf key).keys.length with
  | none =>
    obtain ⟨other, spansOther, unrepeated⟩ := exists_spansZones_not_repeated spans
    obtain ⟨listed, property⟩ := zoneCandidate_iff.mpr ⟨spansOther, unrepeated⟩
    exact absurd property (List.find?_eq_none.mp zone other listed)
  | some first =>
    obtain ⟨listed, property, least⟩ := Table.find?_keys_eq_some_iff.mp zone
    obtain ⟨spansFirst, unrepeated⟩ := zoneCandidate_iff.mp ⟨listed, property⟩
    have present : t.hasKey first = true := Table.mem_keys_iff.mp listed
    have named : first ≠ [] := by
      rintro rfl
      exact absurd spansFirst.named (by decide)
    have read : t.domainOf FailureDomain.zone first =
        ⟨FailureDomain.zone, first, (t.valuesOf first).keys⟩ := if_pos ⟨named, present⟩
    rw [determined, choose_of_zone (by rw [sameDomain, unchosen]) fixed
      (by rw [Topology.zoneKey?_eq, zone]), read]
    refine ⟨first, (t.valuesOf first).keys, spansFirst, unrepeated, ?_, ?_, ?_, rfl, ?_⟩
    · intro other spansOther unrepeatedOther
      obtain ⟨listedOther, propertyOther⟩ :=
        zoneCandidate_iff.mpr ⟨spansOther, unrepeatedOther⟩
      exact of_decide_eq_false (least other listedOther propertyOther)
    · exact (Table.keys_ordered _).imp of_decide_eq_true
    · intro value
      rw [← mem_valuesOf_discovered_iff spansFirst.recognized,
        Topology.valuesOf_dropDeprecated present]
    · simpa [Outcome.after, Outcome.done] using nothing

theorem exists_determine_of_not_spansZones (unchosen : status.domain.type = [])
    (unknown : status.recorded.isEmpty = true) (fixed : spec.flexibleScaling = false)
    (enough : spec.minimumNodes ≤ nodes.length) (few : ∀ key, ¬SpansZones spec nodes key) :
    let pass := (discovered nodes).dropDeprecated.state.ensureRacks nodes spec.minimumRacks patcher
    ∃ (surveyed : Status Text) (found : List Event), offeredIn found = []
      ∧ status.determine spec nodes patcher = ⟨surveyed.withTopology pass.state,
          found ++ pass.events,
          pass.result.map fun _ => pass.state.domainOf FailureDomain.rack []⟩ := by
  intro pass
  obtain ⟨surveyed, found, sameDomain, nothing, determined⟩ :=
    exists_determine_eq_choose patcher unknown enough
  have noZone : (discovered nodes).dropDeprecated.state.zoneKey? spec.minimumZones
      (discovered nodes).dropDeprecated.state.keys = .ok none := by
    rw [Topology.zoneKey?_eq, Except.ok.injEq, List.find?_eq_none]
    intro key listed property
    exact few key (zoneCandidate_iff.mp ⟨listed, property⟩).1
  refine ⟨surveyed, found, nothing, ?_⟩
  rw [determined, choose_of_racks (by rw [sameDomain, unchosen]) fixed noZone]
  rfl

/-- Where nothing is chosen or recorded and scaling is not flexible, the zone is chosen if and only
if the nodes span enough zones under some label. The key is then the first such label that does not
just repeat another, the values are those that the nodes carry under it, in order, and no patch is
offered. Otherwise a pass places the nodes in racks, and the type is rack unless the pass comes upon
a patch that is not accepted. -/
theorem zone_chosen_iff_nodes_span_zones (unchosen : status.domain.type = [])
    (unknown : status.recorded.isEmpty = true) (fixed : spec.flexibleScaling = false)
    (someRacks : 1 ≤ spec.minimumRacks) (enough : spec.minimumNodes ≤ nodes.length) :
    let outcome := status.determine spec nodes patcher
    let pass := (discovered nodes).dropDeprecated.state.ensureRacks nodes spec.minimumRacks patcher
    ((∃ domain, outcome.result = .ok domain ∧ domain.type = FailureDomain.zone) ↔
        ∃ key, SpansZones spec nodes key)
      ∧ (∀ domain, outcome.result = .ok domain → domain.type = FailureDomain.zone →
        SpansZones spec nodes domain.key ∧ ¬RepeatsZone nodes domain.key
          ∧ (∀ other, SpansZones spec nodes other → ¬RepeatsZone nodes other → ¬other < domain.key)
          ∧ domain.values.Pairwise (· < ·)
          ∧ (∀ value, value ∈ domain.values ↔ value ∈ carriedValues nodes domain.key)
          ∧ offeredIn outcome.events = [])
      ∧ ((∀ key, ¬SpansZones spec nodes key) →
        outcome.state.recorded = pass.state
          ∧ (∃ found, offeredIn found = [] ∧ outcome.events = found ++ pass.events)
          ∧ ((∃ domain, outcome.result = .ok domain ∧ domain.type = FailureDomain.rack)
            ∨ ((∃ fault, outcome.result = .error fault)
              ∧ ∃ patch, offeredIn outcome.events = acceptedIn outcome.events ++ [patch]
                ∧ (patcher (acceptedIn outcome.events) patch).isAccepted = false))) := by
  intro outcome pass
  by_cases spans : ∃ key, SpansZones spec nodes key
  · obtain ⟨key, spansKey⟩ := spans
    obtain ⟨first, values, spansFirst, unrepeated, least, ordered, carried, success, nothing⟩ :=
      determine_of_spansZones patcher unchosen unknown fixed enough spansKey
    refine ⟨⟨fun _ => ⟨key, spansKey⟩, fun _ => ⟨_, success, rfl⟩⟩, ?_,
      fun none => absurd spansKey (none key)⟩
    intro domain returned _
    obtain rfl := Except.ok.inj (success.symm.trans returned)
    exact ⟨spansFirst, unrepeated, least, ordered, carried, nothing⟩
  · have few : ∀ key, ¬SpansZones spec nodes key := not_exists.mp spans
    obtain ⟨surveyed, found, nothing, determined⟩ :=
      exists_determine_of_not_spansZones patcher unchosen unknown fixed enough few
    have result : outcome.result =
        pass.result.map fun _ => pass.state.domainOf FailureDomain.rack [] :=
      congrArg Outcome.result determined
    have notZone : ∀ domain, outcome.result = .ok domain → domain.type = FailureDomain.rack := by
      intro domain returned
      rw [result] at returned
      cases ended : pass.result with
      | error fault =>
        rw [ended] at returned
        exact absurd returned (by simp [Except.map])
      | ok patches =>
        rw [ended] at returned
        obtain rfl := Except.ok.inj returned
        exact Topology.type_domainOf _ _ _
    have different : FailureDomain.rack ≠ FailureDomain.zone := by decide
    refine ⟨⟨?_, fun found => absurd found spans⟩, ?_, fun _ => ?_⟩
    · intro ⟨domain, returned, isZone⟩
      exact absurd ((notZone domain returned).symm.trans isZone) different
    · intro domain returned isZone
      exact absurd ((notZone domain returned).symm.trans isZone) different
    · have events : outcome.events = found ++ pass.events := congrArg Outcome.events determined
      refine ⟨congrArg (fun outcome => outcome.state.recorded) determined,
        ⟨found, nothing, events⟩, ?_⟩
      cases ended : pass.result with
      | ok patches =>
        have success : outcome.result = .ok (pass.state.domainOf FailureDomain.rack []) := by
          rw [result, ended]
          rfl
        exact Or.inl ⟨_, success, notZone _ success⟩
      | error fault =>
        have failure : outcome.result = .error fault := by
          rw [result, ended]
          rfl
        have accepted : acceptedIn outcome.events = acceptedIn pass.events := by
          rw [events, acceptedIn_append, acceptedIn_of_offeredIn_eq_nil nothing, List.nil_append]
        obtain ⟨patch, last, refused⟩ := Topology.exists_unaccepted_of_error someRacks ended
        refine Or.inr ⟨⟨fault, failure⟩, patch, ?_, ?_⟩
        · rw [accepted, events, offeredIn_append, nothing, List.nil_append]
          exact last
        · rw [accepted]
          exact refused

end

def threeZones : List Node :=
  ["a", "b", "c"].map fun zone => ⟨zone, .ofList
    [("failure-domain.beta.kubernetes.io/zone", zone), ("topology.kubernetes.io/zone", zone)]⟩

/-- The deprecated label comes first and spans three zones, but it only repeats the other one. -/
theorem zone_chosen_for_threeZones :
    let outcome := (initial : Status Text).determine .standard threeZones fun _ _ => .accepted
    SpansZones .standard threeZones "failure-domain.beta.kubernetes.io/zone"
      ∧ ∃ domain, outcome.result = .ok domain ∧ domain.type = FailureDomain.zone
        ∧ domain.key ≠ "failure-domain.beta.kubernetes.io/zone" := by
  intro outcome
  have spans : SpansZones .standard threeZones "failure-domain.beta.kubernetes.io/zone" :=
    ⟨by decide, by decide, by decide⟩
  have repeated : RepeatsZone threeZones "failure-domain.beta.kubernetes.io/zone" :=
    ⟨by decide, by decide⟩
  obtain ⟨chosen, named, _⟩ := zone_chosen_iff_nodes_span_zones (fun _ _ => .accepted)
    (rfl : (initial : Status Text).domain.type = []) rfl
    (rfl : ClusterSpec.standard.flexibleScaling = false) (by decide)
    (by decide : ClusterSpec.standard.minimumNodes ≤ threeZones.length)
  obtain ⟨domain, success, isZone⟩ := chosen.mpr ⟨_, spans⟩
  obtain ⟨_, unrepeated, _⟩ := named domain success isZone
  refine ⟨spans, domain, success, isZone, fun same => ?_⟩
  rw [same] at unrepeated
  exact unrepeated repeated

end Status
end ClusterTopology
