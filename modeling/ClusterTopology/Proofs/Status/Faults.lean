import ClusterTopology.Proofs.Rack.Choice
import ClusterTopology.Proofs.Rack.Retry
import ClusterTopology.Proofs.Rack.Zones
import ClusterTopology.Proofs.Status.Selection

/-!
When a reconciliation fails, and with what. There may be too few nodes to discover a topology for, and
then nothing is recorded. Past that nothing can fail but a pass over the nodes, which is made only
where no other domain can be chosen; it finds a rack for every node, so it fails only with what comes
of a patch. The domain that was chosen before stays in any case.
-/

namespace ClusterTopology

/-- The key of a zone label that has enough values for the zone to be the failure domain. -/
def Topology.HasZoneKey (t : Topology Text) (spec : ClusterSpec) (key : Text) : Prop :=
  t.hasKey key = true ∧ Text.occursIn FailureDomain.zone key = true
    ∧ spec.minimumZones ≤ (t.valuesOf key).size

theorem Topology.zoneKey?_eq_none_iff {t : Topology Text} {spec : ClusterSpec} :
    t.zoneKey? spec.minimumZones t.keys = .ok none ↔ ∀ key, ¬t.HasZoneKey spec key := by
  rw [zoneKey?_eq, Except.ok.injEq, List.find?_eq_none]
  simp only [keys, Table.mem_keys_iff, HasZoneKey, hasKey, Bool.and_eq_true, decide_eq_true_eq,
    Table.size_eq_length_keys, not_and]

/-- The zone key that is found is the first of those with enough values. -/
theorem Topology.zoneKey?_eq_some_iff {t : Topology Text} {spec : ClusterSpec} {key : Text} :
    t.zoneKey? spec.minimumZones t.keys = .ok (some key) ↔
      t.HasZoneKey spec key ∧ ∀ other, t.HasZoneKey spec other → ¬other < key := by
  rw [zoneKey?_eq, Except.ok.injEq, keys, Table.find?_keys_eq_some_iff]
  simp only [Table.mem_keys_iff, HasZoneKey, hasKey, Bool.and_eq_true, decide_eq_true_eq,
    Table.size_eq_length_keys, and_imp, Key.before, decide_eq_false_iff_not, and_assoc]

theorem Topology.exists_zoneKey?_iff {t : Topology Text} {spec : ClusterSpec} :
    (∃ key, t.zoneKey? spec.minimumZones t.keys = .ok (some key)) ↔
      ∃ key, t.HasZoneKey spec key := by
  rw [← not_iff_not, not_exists, not_exists, ← zoneKey?_eq_none_iff, zoneKey?_eq]
  simp only [Except.ok.injEq, Option.eq_none_iff_forall_ne_some, ne_eq]

theorem PatchAnswer.exists_eq_patch_of_result {answer : PatchAnswer} {patch : LabelPatch}
    {fault : Fault} (failure : answer.result patch = .error fault) :
    ∃ node reason cause, fault = .patch node reason cause := by
  cases answer with
  | accepted => exact absurd failure (by simp [result])
  | refused node reason => exact ⟨node, reason, none, (Except.error.inj failure).symm⟩
  | brokenOff reason => exact ⟨patch.node, reason, some reason, (Except.error.inj failure).symm⟩

theorem Racks.exists_contains_of_place {minimum : Int} (positive : 1 ≤ minimum) (racks : Racks)
    (zones : Zones) (node : Node) :
    ∃ rack, (racks.place minimum zones node).result = .ok rack
      ∧ (racks.place minimum zones node).state.contains rack = true := by
  obtain ⟨rack, found⟩ := exists_place_eq_ok positive racks zones node
  exact ⟨rack, found, (suits_of_place positive found).1⟩

namespace Status

variable (status : Status Text) (spec : ClusterSpec) (nodes : List Node)

def LacksNodes : Prop :=
  status.recorded.isEmpty = true ∧ (nodes.length : Int) < spec.minimumNodes

def trimmed : Topology Text :=
  (if status.recorded.isEmpty then discovered nodes else status.recorded).dropDeprecated.state

variable {status spec nodes} {patcher : Patcher} {fault : Fault}

theorem survey_of_lacksNodes (lacks : status.LacksNodes spec nodes) :
    status.survey spec nodes =
      .failed (status.withTopology status.recorded) (.tooFewNodes spec.minimumNodes nodes.length) := by
  obtain ⟨unknown, few⟩ := lacks
  have nothing : status.recorded = .empty :=
    Topology.ext (Table.ext (List.isEmpty_iff.mp unknown))
  rw [survey_of_few unknown few, nothing]

theorem exists_survey_of_not_lacksNodes (enough : ¬status.LacksNodes spec nodes) :
    ∃ surveyed events t, status.survey spec nodes = ⟨surveyed, events, .ok t⟩
      ∧ surveyed.domain = status.domain ∧ t.dropDeprecated.state = status.trimmed nodes := by
  unfold trimmed
  cases unknown : status.recorded.isEmpty with
  | true =>
    obtain ⟨events, _, found⟩ := survey_of_enough unknown fun few => enough ⟨unknown, few⟩
    exact ⟨_, events, _, found, rfl, rfl⟩
  | false => exact ⟨_, _, _, survey_of_recorded spec nodes unknown, rfl, rfl⟩

theorem choose_eq_error_iff (status : Status Text) (spec : ClusterSpec) (nodes : List Node)
    (patcher : Patcher) (t : Topology Text) (fault : Fault) :
    ((status.choose spec nodes patcher t).result = .error fault ↔
        status.domain.type = [] ∧ spec.flexibleScaling = false ∧ (∀ key, ¬t.HasZoneKey spec key)
          ∧ (t.ensureRacks nodes spec.minimumRacks patcher).result = .error fault)
      ∧ (status.choose spec nodes patcher t).state.domain = status.domain := by
  by_cases unchosen : status.domain.type = []
  · cases flexible : spec.flexibleScaling with
    | true =>
      rw [choose_of_flexible unchosen flexible]
      exact ⟨by simp [Outcome.done], rfl⟩
    | false =>
      by_cases zoneless : ∀ key, ¬t.HasZoneKey spec key
      · rw [choose_of_racks unchosen flexible (Topology.zoneKey?_eq_none_iff.mpr zoneless)]
        refine ⟨?_, rfl⟩
        simp only [unchosen, zoneless, not_false_eq_true, implies_true, true_and]
        cases (t.ensureRacks nodes spec.minimumRacks patcher).result <;> simp [Except.map]
      · obtain ⟨key, zone⟩ := Topology.exists_zoneKey?_iff.mpr (not_forall_not.mp zoneless)
        rw [choose_of_zone unchosen flexible zone]
        exact ⟨by simp [Outcome.done, zoneless], rfl⟩
  · rw [choose_of_chosen spec nodes patcher unchosen]
    exact ⟨by simp [Outcome.done, unchosen], rfl⟩

theorem reconcile_of_determine_error
    (failure : (status.determine spec nodes patcher).result = .error fault) :
    status.reconcile spec nodes patcher =
      ⟨(status.determine spec nodes patcher).state, (status.determine spec nodes patcher).events,
        .error fault⟩ := by
  unfold reconcile
  exact Outcome.andThen_of_error _ failure

theorem reconcile_eq_error_iff_determine :
    (status.reconcile spec nodes patcher).result = .error fault ↔
      (status.determine spec nodes patcher).result = .error fault := by
  cases determined : (status.determine spec nodes patcher).result with
  | error other => rw [reconcile_of_determine_error determined]
  | ok domain => simp [(reconcile_of_determine_ok determined).2]

theorem reconcile_eq_error_iff_of_not_lacksNodes (enough : ¬status.LacksNodes spec nodes) :
    ((status.reconcile spec nodes patcher).result = .error fault ↔
        status.domain.type = [] ∧ spec.flexibleScaling = false
          ∧ (∀ key, ¬(status.trimmed nodes).HasZoneKey spec key)
          ∧ ((status.trimmed nodes).ensureRacks nodes spec.minimumRacks patcher).result =
            .error fault)
      ∧ ((status.reconcile spec nodes patcher).result = .error fault →
        (status.reconcile spec nodes patcher).state.domain = status.domain) := by
  obtain ⟨surveyed, events, t, found, sameDomain, sameTopology⟩ :=
    exists_survey_of_not_lacksNodes enough
  have determined : status.determine spec nodes patcher =
      ((surveyed.withTopology (status.trimmed nodes)).choose spec nodes patcher
        (status.trimmed nodes)).after events := by
    rw [determine_of_survey found, sameTopology]
  have chosen := choose_eq_error_iff (surveyed.withTopology (status.trimmed nodes)) spec nodes patcher
    (status.trimmed nodes) fault
  have kept : (surveyed.withTopology (status.trimmed nodes)).domain = status.domain := sameDomain
  rw [kept] at chosen
  constructor
  · rw [reconcile_eq_error_iff_determine, determined]
    exact chosen.1
  · intro failure
    rw [reconcile_of_determine_error (reconcile_eq_error_iff_determine.mp failure), determined]
    exact chosen.2

/-- A reconciliation fails in two ways only. There are too few nodes to discover a topology for; then
it does nothing but make up an empty topology for a status without one. Or the nodes are placed in
racks, since no domain was chosen, scaling is not flexible and no zone key has enough values, and a
patch that the pass offers is not accepted; then it fails with what comes of that patch. The domain of
the status stays in both cases. No lookup on the way can fail: the zone of each listed node is known,
and every node is given a rack that is there. -/
theorem reconcile_error_iff_few_nodes_or_unaccepted_patch {nodes : List Node}
    (distinct : (nodes.map Node.name).Nodup) {spec : ClusterSpec} (positive : 1 ≤ spec.minimumRacks)
    (status : Status Text) (patcher : Patcher) :
    let outcome := status.reconcile spec nodes patcher
    let t := status.trimmed nodes
    (∀ fault, outcome.result = .error fault ↔
        (status.LacksNodes spec nodes ∧ fault = .tooFewNodes spec.minimumNodes nodes.length)
          ∨ (¬status.LacksNodes spec nodes ∧ status.domain.type = [] ∧ spec.flexibleScaling = false
            ∧ (∀ key, ¬t.HasZoneKey spec key) ∧ (∃ node reason cause, fault = .patch node reason cause)
            ∧ ∃ earlier patch,
              earlier ++ [patch] <+: offeredIn (t.ensureRacks nodes spec.minimumRacks patcher).events
                ∧ (patcher earlier patch).result patch = .error fault))
      ∧ (∀ fault, outcome.result = .error fault → outcome.state.domain = status.domain)
      ∧ (status.LacksNodes spec nodes → outcome =
        .failed (status.withTopology status.recorded) (.tooFewNodes spec.minimumNodes nodes.length))
      ∧ (∀ node ∈ nodes, (Zones.ofNodes nodes).find? node.name = some node.zone)
      ∧ ∀ (racks : Racks) (node : Node),
        let placed := racks.place spec.minimumRacks (Zones.ofNodes nodes) node
        ∃ rack, placed.result = .ok rack ∧ placed.state.contains rack = true := by
  intro outcome t
  have failed : status.LacksNodes spec nodes → outcome = .failed (status.withTopology status.recorded)
      (.tooFewNodes spec.minimumNodes nodes.length) :=
    fun lacks => reconcile_of_survey_failed (survey_of_lacksNodes lacks)
  refine ⟨fun fault => ?_, fun fault failure => ?_, failed, fun node listed => ?_, fun racks node =>
    Racks.exists_contains_of_place positive racks _ node⟩
  · by_cases lacks : status.LacksNodes spec nodes
    · rw [failed lacks]
      simp only [Outcome.failed, Except.error.injEq, lacks, true_and, not_true_eq_false, false_and,
        or_false, eq_comm]
    · rw [(reconcile_eq_error_iff_of_not_lacksNodes lacks).1, Topology.ensureRacks_eq_error_iff positive]
      simp only [lacks, false_and, not_false_eq_true, true_and, false_or]
      have isPatch : (∃ earlier patch,
          earlier ++ [patch] <+: offeredIn (t.ensureRacks nodes spec.minimumRacks patcher).events
            ∧ (patcher earlier patch).result patch = .error fault) →
          ∃ node reason cause, fault = .patch node reason cause := by
        rintro ⟨_, _, _, failure⟩
        exact PatchAnswer.exists_eq_patch_of_result failure
      exact and_congr_right fun _ => and_congr_right fun _ => and_congr_right fun _ =>
        (and_iff_right_of_imp isPatch).symm
  · by_cases lacks : status.LacksNodes spec nodes
    · rw [failed lacks]
      rfl
    · exact (reconcile_eq_error_iff_of_not_lacksNodes lacks).2 failure
  · exact (Zones.find?_ofNodes_iff distinct).mpr ⟨node, listed, rfl, rfl⟩

/-! Two nodes without labels, of which the first is refused its patch. -/

def pairSpec : ClusterSpec := { ClusterSpec.standard with minimumNodes := 2 }

theorem trimmed_unlabelledPair :
    (initial : Status Text).trimmed Topology.unlabelledPair = Topology.empty := by
  have sorted : Node.sortByName Topology.unlabelledPair = Topology.unlabelledPair :=
    List.mergeSort_of_pairwise (by decide)
  unfold trimmed discovered
  rw [sorted]
  rfl

theorem offered_unlabelledPair :
    offeredIn ((Topology.empty : Topology Text).ensureRacks Topology.unlabelledPair
      pairSpec.minimumRacks (Topology.refusing "n0")).events = [.recordRack ⟨"n0", .empty⟩ "rack0"] := by
  rw [Topology.ensureRacks_unlabelledPair]
  rfl

theorem unlabelledPair_fails :
    (Topology.unlabelledPair.map Node.name).Nodup ∧ 1 ≤ ClusterSpec.standard.minimumRacks
      ∧ 1 ≤ pairSpec.minimumRacks
      ∧ ((initial : Status Text).reconcile ClusterSpec.standard Topology.unlabelledPair
        (Topology.refusing "n0")).result = .error (.tooFewNodes 3 2)
      ∧ ((initial : Status Text).reconcile pairSpec Topology.unlabelledPair
        (Topology.refusing "n0")).result = .error (.patch "n0" "refused" none) := by
  have distinct : (Topology.unlabelledPair.map Node.name).Nodup := by decide
  have positive : 1 ≤ ClusterSpec.standard.minimumRacks := by decide
  have positivePair : 1 ≤ pairSpec.minimumRacks := by decide
  refine ⟨distinct, positive, positivePair, ?_, ?_⟩
  · have lacks : (initial : Status Text).LacksNodes ClusterSpec.standard Topology.unlabelledPair :=
      ⟨rfl, by decide⟩
    exact ((reconcile_error_iff_few_nodes_or_unaccepted_patch distinct positive initial
      (Topology.refusing "n0")).1 _).mpr (Or.inl ⟨lacks, rfl⟩)
  · have enough : ¬(initial : Status Text).LacksNodes pairSpec Topology.unlabelledPair :=
      fun lacks => absurd lacks.2 (by decide)
    have refused : (Topology.refusing "n0" [] (.recordRack ⟨"n0", .empty⟩ "rack0")).result
        (.recordRack ⟨"n0", .empty⟩ "rack0") = .error (.patch "n0" "refused" none) := rfl
    refine ((reconcile_error_iff_few_nodes_or_unaccepted_patch distinct positivePair initial
      (Topology.refusing "n0")).1 _).mpr (Or.inr ⟨enough, rfl, rfl, ?_, ⟨_, _, _, rfl⟩, ?_⟩)
    · rw [trimmed_unlabelledPair]
      exact fun key zone => absurd zone.1 (by simp [Topology.hasKey, Topology.empty])
    · rw [trimmed_unlabelledPair, offered_unlabelledPair]
      exact ⟨[], _, List.prefix_rfl, refused⟩

end Status
end ClusterTopology
