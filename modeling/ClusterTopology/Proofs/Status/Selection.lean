import ClusterTopology.Proofs.Rack.Recording
import ClusterTopology.Proofs.Topology.Discovery
import ClusterTopology.Proofs.Topology.Lineage
import ClusterTopology.Status.Selection

/-!
What a reconciliation of a status of texts comes to. It discovers a topology unless one is recorded,
drops the redundant keys, and reads the domain that was chosen before; only when none was chosen, it
chooses one, and only then it may place nodes in racks.
-/

namespace ClusterTopology

namespace Topology

section

variable (t : Topology Text)

/-- The domain of a type, without the faults that only names of other kinds can bring. -/
def domainOf (type key : Text) : FailureDomain Text :=
  if key ≠ [] ∧ t.hasKey key = true then ⟨type, key, (t.valuesOf key).keys⟩
  else match t.keys.find? fun key => type.occursIn key with
    | some first => ⟨type, first, (t.valuesOf first).keys⟩
    | none => ⟨type, [], []⟩

theorem firstKeyWith_eq (part : Text) :
    t.firstKeyWith part = .ok (match t.keys.find? fun key => part.occursIn key with
      | some first => (first, (t.valuesOf first).keys)
      | none => ([], [])) := by
  unfold firstKeyWith
  cases t.keys with
  | nil => rfl
  | cons first keys =>
    simp only [Name.toJson]
    cases (first :: keys).find? fun key => part.occursIn key <;> rfl

theorem domain_eq (type key : Text) : t.domain type key = .ok (t.domainOf type key) := by
  have first : domain.firstDomain t type = .ok
      (match t.keys.find? fun key => type.occursIn key with
        | some first => ⟨type, first, (t.valuesOf first).keys⟩
        | none => ⟨type, [], []⟩) := by
    unfold domain.firstDomain
    rw [firstKeyWith_eq]
    cases t.keys.find? fun key => type.occursIn key <;> rfl
  unfold domain domainOf
  cases key with
  | nil => exact first
  | cons c rest =>
    cases present : t.hasKey (c :: rest) with
    | true => simp [Name.isEmpty, Name.toJson, Json.isScalar, present, values_eq]
    | false => simpa [Name.isEmpty, Name.toJson, Json.isScalar, present] using first

@[simp] theorem type_domainOf (type key : Text) : (t.domainOf type key).type = type := by
  unfold domainOf
  split
  · rfl
  · split <;> rfl

theorem domainOf_key {type : Text} (named : type ≠ []) (key : Text) :
    t.domainOf type (t.domainOf type key).key = t.domainOf type key := by
  by_cases recorded : key ≠ [] ∧ t.hasKey key = true
  · have found : t.domainOf type key = ⟨type, key, (t.valuesOf key).keys⟩ := if_pos recorded
    rw [found]
    exact found
  · cases first : t.keys.find? fun key => type.occursIn key with
    | none =>
      have found : t.domainOf type key = ⟨type, [], []⟩ := by
        unfold domainOf
        rw [if_neg recorded, first]
      rw [found]
      simp [domainOf, first]
    | some other =>
      have found : t.domainOf type key = ⟨type, other, (t.valuesOf other).keys⟩ := by
        unfold domainOf
        rw [if_neg recorded, first]
      have contains : type.occursIn other = true := by simpa only using List.find?_some first
      have nonempty : other ≠ [] := by
        rintro rfl
        exact named (List.isEmpty_iff.mp contains)
      have there : t.hasKey other = true := Table.mem_keys_iff.mp (List.mem_of_find?_eq_some first)
      rw [found]
      exact if_pos ⟨nonempty, there⟩

end

theorem zoneKey?_eq (t : Topology Text) (minimum : Nat) (keys : List Text) :
    t.zoneKey? minimum keys = .ok (keys.find? fun key =>
      Text.occursIn FailureDomain.zone key && minimum ≤ (t.valuesOf key).keys.length) := by
  induction keys with
  | nil => rfl
  | cons key keys ih =>
    rw [zoneKey?, List.find?_cons]
    cases named : Text.occursIn FailureDomain.zone key with
    | false => simpa using ih
    | true =>
      simp only [values_eq, bind, Except.bind, Bool.true_and, ↓reduceIte]
      by_cases enough : minimum ≤ (t.valuesOf key).keys.length
      · simp only [enough, decide_true, ↓reduceIte]
      · simp only [enough, decide_false, ↓reduceIte]
        exact ih

end Topology

namespace Status

section

variable (status : Status Text) (spec : ClusterSpec) (nodes : List Node) (patcher : Patcher)

def recorded : Topology Text := status.topology.getD .empty

theorem survey_of_recorded {status : Status Text} (known : status.recorded.isEmpty = false) :
    status.survey spec nodes = .done status status.recorded := by
  unfold recorded at known ⊢
  simp [survey, known]

def discovered : Topology Text := (Topology.empty.discoverNodes (Node.sortByName nodes)).state

theorem survey_of_few {status : Status Text} (unknown : status.recorded.isEmpty = true)
    {spec : ClusterSpec} {nodes : List Node} (few : (nodes.length : Int) < spec.minimumNodes) :
    status.survey spec nodes =
      .failed (status.withTopology .empty) (.tooFewNodes spec.minimumNodes nodes.length) := by
  unfold recorded at unknown
  simp [survey, unknown, Topology.discover, few]

theorem survey_of_enough {status : Status Text} (unknown : status.recorded.isEmpty = true)
    {spec : ClusterSpec} {nodes : List Node} (enough : ¬(nodes.length : Int) < spec.minimumNodes) :
    ∃ events, offeredIn events = [] ∧ status.survey spec nodes =
      ⟨{ status.withTopology (discovered nodes) with nodeCount := nodes.length }, events,
        .ok (discovered nodes)⟩ := by
  unfold recorded at unknown
  obtain ⟨found, events, went, nothing⟩ :=
    (Topology.empty : Topology Text).exists_discoverNodes (Node.sortByName nodes)
  refine ⟨events, nothing, ?_⟩
  simp [survey, unknown, Topology.discover, enough, went, discovered, Outcome.andThen,
    Outcome.within, Outcome.after, Outcome.done, withTopology]

theorem choose_of_chosen {status : Status Text} (chosen : status.domain.type ≠ [])
    (t : Topology Text) :
    status.choose spec nodes patcher t =
      .done (status.withTopology t) (t.domainOf status.domain.type status.domain.key) := by
  have named : Name.isEmpty status.domain.type = false := by
    simpa [Name.isEmpty, Name.toJson] using chosen
  simp [choose, named, Topology.domain_eq, Outcome.get]

variable {status : Status Text} {t : Topology Text} {domain : FailureDomain Text} {spec nodes patcher}

theorem choose_of_flexible (unchosen : status.domain.type = [])
    (flexible : spec.flexibleScaling = true) :
    status.choose spec nodes patcher t =
      .done (status.withTopology t) (t.domainOf FailureDomain.host []) := by
  simp [choose, Name.isEmpty, Name.toJson, Name.ofText, unchosen, flexible, Topology.domain_eq,
    Outcome.get]

theorem choose_of_zone (unchosen : status.domain.type = [])
    (fixed : spec.flexibleScaling = false) {key : Text}
    (zone : t.zoneKey? spec.minimumZones t.keys = .ok (some key)) :
    status.choose spec nodes patcher t =
      .done (status.withTopology t) (t.domainOf FailureDomain.zone key) := by
  simp [choose, Name.isEmpty, Name.toJson, Name.ofText, unchosen, fixed, zone, Topology.domain_eq,
    Outcome.get]

theorem choose_of_racks (unchosen : status.domain.type = [])
    (fixed : spec.flexibleScaling = false)
    (noZone : t.zoneKey? spec.minimumZones t.keys = .ok none) :
    status.choose spec nodes patcher t =
      ⟨status.withTopology (t.ensureRacks nodes spec.minimumRacks patcher).state,
        (t.ensureRacks nodes spec.minimumRacks patcher).events,
        (t.ensureRacks nodes spec.minimumRacks patcher).result.map fun _ =>
          (t.ensureRacks nodes spec.minimumRacks patcher).state.domainOf FailureDomain.rack []⟩ := by
  simp only [choose, Name.isEmpty, Name.toJson, Name.ofText, unchosen, fixed, noZone,
    Topology.domain_eq]
  generalize t.ensureRacks nodes spec.minimumRacks patcher = pass
  obtain ⟨state, events, result⟩ := pass
  cases result with
  | error fault => rfl
  | ok patches =>
    simp [Outcome.andThen, Outcome.within, Outcome.after, Outcome.get, Outcome.done, withTopology,
      Except.map]

/-- A choice leaves the topology it was made for and reports nothing, or no domain was chosen before
and it is a pass over the nodes. -/
theorem choose_cases :
    ((status.choose spec nodes patcher t).state.recorded = t
        ∧ (status.choose spec nodes patcher t).events = [])
      ∨ (status.domain.type = []
        ∧ (status.choose spec nodes patcher t).state.recorded =
          (t.ensureRacks nodes spec.minimumRacks patcher).state
        ∧ (status.choose spec nodes patcher t).events =
          (t.ensureRacks nodes spec.minimumRacks patcher).events
        ∧ (status.choose spec nodes patcher t).result =
          (t.ensureRacks nodes spec.minimumRacks patcher).result.map fun _ =>
            (t.ensureRacks nodes spec.minimumRacks patcher).state.domainOf FailureDomain.rack []) := by
  by_cases unchosen : status.domain.type = []
  · cases flexible : spec.flexibleScaling with
    | true =>
      rw [choose_of_flexible unchosen flexible]
      exact Or.inl ⟨rfl, rfl⟩
    | false =>
      cases zone : t.keys.find? fun key => Text.occursIn FailureDomain.zone key
          && spec.minimumZones ≤ (t.valuesOf key).keys.length with
      | some key =>
        rw [choose_of_zone unchosen flexible (by rw [Topology.zoneKey?_eq, zone])]
        exact Or.inl ⟨rfl, rfl⟩
      | none =>
        rw [choose_of_racks unchosen flexible (by rw [Topology.zoneKey?_eq, zone])]
        exact Or.inr ⟨unchosen, rfl, rfl, rfl⟩
  · rw [choose_of_chosen spec nodes patcher unchosen]
    exact Or.inl ⟨rfl, rfl⟩

theorem exists_of_choose_eq_ok
    (success : (status.choose spec nodes patcher t).result = .ok domain) :
    ∃ (u : Topology Text) (type key : Text), type ≠ []
      ∧ (∀ key, key ≠ rackKey → u.table.find? key = t.table.find? key)
      ∧ (t.isEmpty = false → u.isEmpty = false)
      ∧ (status.choose spec nodes patcher t).state = status.withTopology u
      ∧ domain = u.domainOf type key := by
  by_cases unchosen : status.domain.type = []
  · cases flexible : spec.flexibleScaling with
    | true =>
      rw [choose_of_flexible unchosen flexible] at success ⊢
      exact ⟨t, _, _, by decide, fun _ _ => rfl, id, rfl, (Except.ok.inj success).symm⟩
    | false =>
      cases zone : t.keys.find? fun key => Text.occursIn FailureDomain.zone key
          && spec.minimumZones ≤ (t.valuesOf key).keys.length with
      | some key =>
        rw [choose_of_zone unchosen flexible (by rw [Topology.zoneKey?_eq, zone])] at success ⊢
        exact ⟨t, _, _, by decide, fun _ _ => rfl, id, rfl, (Except.ok.inj success).symm⟩
      | none =>
        rw [choose_of_racks unchosen flexible (by rw [Topology.zoneKey?_eq, zone])] at success ⊢
        refine ⟨_, FailureDomain.rack, [], by decide, fun key different => ?_,
          Topology.isEmpty_ensureRacks nodes spec.minimumRacks patcher, rfl, ?_⟩
        · exact t.find?_ensureRacks_of_ne nodes spec.minimumRacks patcher different
        · cases racks : (t.ensureRacks nodes spec.minimumRacks patcher).result with
          | error fault =>
            rw [racks] at success
            exact absurd success (by simp [Except.map])
          | ok patches =>
            rw [racks] at success
            exact (Except.ok.inj success).symm
  · rw [choose_of_chosen spec nodes patcher unchosen] at success ⊢
    exact ⟨t, _, _, unchosen, fun _ _ => rfl, id, rfl, (Except.ok.inj success).symm⟩

/-! A reconciliation after its survey: the redundant keys go, and the domain is chosen. -/

section

variable {surveyed : Status Text} {events : List Event}

theorem reconcile_of_survey_failed {fault : Fault}
    (failure : status.survey spec nodes = .failed surveyed fault) :
    status.reconcile spec nodes patcher = .failed surveyed fault := by
  unfold reconcile determine
  rw [failure]
  rfl

theorem determine_of_survey
    (found : status.survey spec nodes = ⟨surveyed, events, .ok t⟩) :
    status.determine spec nodes patcher =
      ((surveyed.withTopology t.dropDeprecated.state).choose spec nodes patcher
        t.dropDeprecated.state).after events := by
  unfold determine
  rw [Outcome.andThen_of_ok _ (congrArg Outcome.result found), found]
  dsimp only
  rw [t.dropDeprecated_eq]
  rfl

theorem reconcile_of_determine_ok
    (success : (status.determine spec nodes patcher).result = .ok domain) :
    (status.reconcile spec nodes patcher).state =
        { (status.determine spec nodes patcher).state with domain := domain }
      ∧ (status.reconcile spec nodes patcher).result = .ok domain := by
  unfold reconcile
  rw [Outcome.andThen_of_ok _ success]
  exact ⟨rfl, rfl⟩

theorem determine_of_reconcile_ok
    (success : (status.reconcile spec nodes patcher).result = .ok domain) :
    (status.determine spec nodes patcher).result = .ok domain := by
  obtain ⟨found, determined, same⟩ := Outcome.result_andThen_eq_ok success
  obtain rfl := Except.ok.inj same
  exact determined

theorem exists_survey_of_reconcile_ok
    (success : (status.reconcile spec nodes patcher).result = .ok domain) :
    ∃ t surveyed events, status.survey spec nodes = ⟨surveyed, events, .ok t⟩ := by
  have determined := determine_of_reconcile_ok success
  cases survey : (status.survey spec nodes).result with
  | ok t => exact ⟨t, _, _, by rw [← survey]⟩
  | error fault =>
    unfold determine at determined
    rw [Outcome.andThen_of_error _ survey] at determined
    exact absurd determined (by simp)

theorem exists_of_reconcile_eq_ok (found : status.survey spec nodes = ⟨surveyed, events, .ok t⟩)
    (success : (status.reconcile spec nodes patcher).result = .ok domain) :
    ∃ (u : Topology Text) (type key : Text), type ≠ [] ∧ u.Trimmed
      ∧ (t.isEmpty = false → u.isEmpty = false)
      ∧ (status.reconcile spec nodes patcher).state =
        { surveyed with topology := some u, domain := domain }
      ∧ domain = u.domainOf type key := by
  have determined := determine_of_reconcile_ok success
  have state := (reconcile_of_determine_ok determined).1
  rw [determine_of_survey found] at state determined
  obtain ⟨u, type, key, named, others, filled, chosen, read⟩ := exists_of_choose_eq_ok determined
  refine ⟨u, type, key, named, t.trimmed_dropDeprecated.of_same_but_racks others, ?_, ?_, read⟩
  · rw [Topology.isEmpty_dropDeprecated] at filled
    exact filled
  · rw [state]
    exact congrArg (fun status : Status Text => { status with domain := domain }) chosen

theorem reconcile_of_chosen (chosen : status.domain.type ≠ [])
    (found : status.survey spec nodes = ⟨surveyed, events, .ok t⟩)
    (kept : surveyed.domain = status.domain) :
    status.reconcile spec nodes patcher =
      ⟨{ surveyed with
          topology := some t.dropDeprecated.state
          domain := t.dropDeprecated.state.domainOf status.domain.type status.domain.key },
        events,
        .ok (t.dropDeprecated.state.domainOf status.domain.type status.domain.key)⟩ := by
  have chosenThere : (surveyed.withTopology t.dropDeprecated.state).domain.type ≠ [] := by
    simpa [withTopology, kept] using chosen
  unfold reconcile
  rw [determine_of_survey found, choose_of_chosen spec nodes patcher chosenThere]
  simp [Outcome.andThen, Outcome.after, Outcome.done, withTopology, kept, Json.equal, Json.same,
    Json.worth?, Name.toJson]

end

end

end Status
end ClusterTopology
