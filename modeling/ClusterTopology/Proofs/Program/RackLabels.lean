import ClusterTopology.Proofs.Config
import ClusterTopology.Proofs.Program.Runs
import ClusterTopology.Proofs.Status.Racks

/-!
The rack labels that a run declares. A run that succeeds makes the patches of all recorded racks of
the eligible nodes. Since a patch that changes nothing has no resource, the label is declared for
just those nodes whose configured labels do not show it yet.
-/

namespace ClusterTopology

def Resource.rackLabel (node : Node) (rack : Text) : Resource :=
  .nodePatch ("label-" ++ node.name ++ "-topology") node.name (Table.ofList [(rackKey, some rack)])

theorem LabelPatch.resource_recordRack {node : Node} {rack : Text}
    (unshown : node.labels.find? rackKey ≠ some rack) :
    (recordRack node rack).resource = .rackLabel node rack := by
  unfold resource Resource.rackLabel
  rw [change_recordRack, if_neg unshown]
  rfl

theorem LabelPatch.isEmpty_change_recordRack (node : Node) (rack : Text) :
    (recordRack node rack).change.isEmpty = true ↔ node.labels.find? rackKey = some rack := by
  rw [change_recordRack]
  by_cases shown : node.labels.find? rackKey = some rack
  · simp [shown, Table.empty, Table.isEmpty]
  · simp only [shown, iff_false, Bool.not_eq_true]
    exact Topology.isEmpty_put _ _ _

namespace Run

variable {start : Run} {surroundings : Surroundings} {config : Config} {status : Status Text}

theorem isNodePatch_iff (success : (start.reconcile surroundings config status).fault = none)
    {nodes : List Node}
    (selected : Node.eligible config.nodes config.cluster.selector = .ok nodes)
    (resource : Resource) :
    (resource ∈ (start.reconcile surroundings config status).resources
        ∧ resource.isNodePatch = true) ↔
      ∃ node ∈ nodes, ∃ rack, rack ≠ []
        ∧ (status.reconcile config.cluster nodes fun _ _ => .accepted).state.recorded.recordedRack
          node.name = .ok rack
        ∧ node.labels.find? rackKey ≠ some rack ∧ resource = .rackLabel node rack := by
  obtain ⟨passage⟩ := nonempty_passage success
  obtain rfl : nodes = passage.nodes := Except.ok.inj (selected.symm.trans passage.selected)
  obtain ⟨found, made, listed⟩ := Topology.exists_rackPatches
    (status.reconcile config.cluster passage.nodes fun _ _ => .accepted).state.recorded passage.nodes
  obtain rfl : found = passage.patches := Except.ok.inj (made.symm.trans passage.recorded)
  rw [passage.reconcile_eq, Passage.last, Passage.labels, List.mem_append, List.mem_map]
  constructor
  · rintro ⟨inAccess | ⟨patch, member, rfl⟩, isPatch⟩
    · rw [Access.isNodePatch_of_mem passage.reachable inAccess] at isPatch
      exact absurd isPatch (by simp)
    · obtain ⟨inPatches, changes⟩ := List.mem_filter.mp member
      obtain ⟨node, inNodes, rack, named, recorded, rfl⟩ := (listed patch).mp inPatches
      have unshown : node.labels.find? rackKey ≠ some rack := by
        intro shown
        rw [(LabelPatch.isEmpty_change_recordRack node rack).mpr shown] at changes
        exact absurd changes (by simp)
      exact ⟨node, inNodes, rack, named, recorded, unshown, LabelPatch.resource_recordRack unshown⟩
  · rintro ⟨node, inNodes, rack, named, recorded, unshown, rfl⟩
    refine ⟨Or.inr ⟨.recordRack node rack, ?_, LabelPatch.resource_recordRack unshown⟩, rfl⟩
    refine List.mem_filter.mpr ⟨(listed _).mpr ⟨node, inNodes, rack, named, recorded, rfl⟩, ?_⟩
    rw [Bool.not_eq_true', ← Bool.not_eq_true, LabelPatch.isEmpty_change_recordRack]
    exact unshown

def DeclaresRack (run : Run) (node : Node) (rack : Text) : Prop :=
  ∃ labels, .nodePatch ("label-" ++ node.name ++ "-topology") node.name labels ∈ run.resources
    ∧ labels.find? rackKey = some (some rack)

theorem declaresRack_iff (success : (start.reconcile surroundings config status).fault = none)
    (distinct : (config.nodes.map Node.name).Nodup) {nodes : List Node}
    (selected : Node.eligible config.nodes config.cluster.selector = .ok nodes) {node : Node}
    (listed : node ∈ nodes) {rack : Text} (named : rack ≠ [])
    (recorded : status.recorded.recordedRack node.name = .ok rack) :
    (start.reconcile surroundings config status).DeclaresRack node rack ↔
      node.labels.find? rackKey ≠ some rack := by
  have unrepeated := Node.nodup_eligible distinct selected
  constructor
  · rintro ⟨labels, member, sets⟩
    obtain ⟨other, inNodes, given, _, _, unshown, same⟩ :=
      (isNodePatch_iff success selected _).mp ⟨member, rfl⟩
    obtain ⟨_, sameName, rfl⟩ := Resource.nodePatch.inj same
    obtain rfl : node = other := List.inj_on_of_nodup_map unrepeated listed inNodes sameName
    obtain rfl : given = rack := by
      simpa [Table.ofList, Table.find?_put] using sets
    exact unshown
  · intro unshown
    have kept : (status.reconcile config.cluster nodes fun _ _ => .accepted).state.recorded.recordedRack
        node.name = .ok rack :=
      Status.recordedRack_reconcile unrepeated listed named recorded
    have declared := (isNodePatch_iff success selected (.rackLabel node rack)).mpr
      ⟨node, listed, rack, named, kept, unshown, rfl⟩
    exact ⟨_, declared.1, by simp [Table.ofList, Table.find?_put]⟩

end Run

namespace Settings

variable {settings : Settings} {files : Files} {surroundings : Surroundings} {config : Config}

/-- In every run that succeeds after others in the same folder, the rack that the stored status
records for an eligible node is declared as its label unless the configured labels of the node show
it already. -/
theorem rack_declared_iff_unshown {path : Text} {start : Files} {earlier : List Run}
    (texts : StoresTexts start path) (runs : Runs path start earlier files)
    (configured : settings.config files = .ok config) (stored : config.statusPath = path)
    (success : (settings.run files surroundings).fault = none) :
    ∃ saved nodes, settings.Finds files config saved nodes
      ∧ ∀ node ∈ nodes, ∀ rack, rack ≠ [] → saved.recorded.recordedRack node.name = .ok rack →
        ((settings.run files surroundings).DeclaresRack node rack ↔
          node.labels.find? rackKey ≠ some rack) := by
  subst stored
  obtain ⟨saved, nodes, finds⟩ := exists_finds configured (runs.storesTexts texts) success
  refine ⟨saved, nodes, finds, fun node listed rack named recorded => ?_⟩
  rw [finds.run_eq] at success ⊢
  exact Run.declaresRack_iff success (nodup_config finds.configured) finds.selected listed named
    recorded

/-! Two runs in one folder: in the second the node shows the label that the first declared. -/

def oneNode (labels : String) : Settings := ⟨.standard, .ofList [
  ("minimumNodes", "1"),
  ("minimumRackCount", "1"),
  ("nodes", "[\x7b\"name\": \"n0\", \"labels\": \x7b\"cluster.ocs.openshift.io/openshift-storage\": \"\""
    ++ labels ++ "\x7d\x7d]")]⟩

def unshown : Settings := oneNode ""

def shown : Settings := oneNode ", \"topology.rook.io/rack\": \"rack0\""

def update : Surroundings := ⟨false, fun _ => none⟩

def firstRun : Run := unshown.run .empty update

theorem statusPath_unshown : (unshown.config .empty).toOption.map Config.statusPath =
    some Config.standardStatusPath := by
  decide +kernel

theorem fault_firstRun : firstRun.fault = none :=
  Option.isNone_iff_eq_none.mp (by decide +kernel)

theorem runs_firstRun : Runs Config.standardStatusPath .empty ([] ++ [firstRun]) firstRun.files := by
  have configured := statusPath_unshown
  cases found : unshown.config .empty with
  | error fault =>
    rw [found] at configured
    exact absurd configured (by simp [Except.toOption])
  | ok config =>
    rw [found] at configured
    exact .again .none found (Option.some.inj configured) rfl fault_firstRun

/-- What a run finds of the only eligible node: the path of the status file, the name of the node,
the rack that its labels show, and the rack that is stored for it. -/
structure Sight where
  path : Text
  name : Text
  label : Option Text
  rack : Text
  deriving DecidableEq

def sight? (settings : Settings) (files : Files) : Option Sight :=
  match settings.config files with
  | .error _ => none
  | .ok config =>
    match StoredStatus.load settings.engine.statusRoom files config.statusPath,
        Node.eligible config.nodes config.cluster.selector with
    | .ok (.regular saved), .ok [node] =>
      some ⟨config.statusPath, node.name, node.labels.find? rackKey, saved.recorded.rackOf node.name⟩
    | _, _ => none

theorem exists_of_sight? {sight : Sight} (seen : settings.sight? files = some sight) :
    ∃ config saved node, settings.Finds files config saved [node] ∧ config.statusPath = sight.path
      ∧ node.name = sight.name ∧ node.labels.find? rackKey = sight.label
      ∧ saved.recorded.recordedRack node.name = .ok sight.rack := by
  unfold sight? at seen
  split at seen
  · exact absurd seen (by simp)
  · next config configured =>
    split at seen
    · next saved node stored selected =>
      obtain rfl := Option.some.inj seen
      exact ⟨config, saved, node, ⟨configured, stored, selected⟩, rfl, rfl, rfl,
        Topology.recordedRack_eq _ _⟩
    · exact absurd seen (by simp)

theorem sight_after_firstRun :
    unshown.sight? firstRun.files = some ⟨Config.standardStatusPath, "n0", none, "rack0"⟩
      ∧ shown.sight? firstRun.files =
        some ⟨Config.standardStatusPath, "n0", some ("rack0" : Text), "rack0"⟩ := by
  decide +kernel

theorem fault_run_after_firstRun :
    (unshown.run firstRun.files update).fault.isNone = true
      ∧ (shown.run firstRun.files update).fault.isNone = true := by
  decide +kernel

theorem declared_again_while_unshown :
    ∃ node : Node, node.name = "n0" ∧ (unshown.run firstRun.files update).DeclaresRack node "rack0" := by
  obtain ⟨config, saved, node, finds, path, name, absent, recorded⟩ :=
    exists_of_sight? sight_after_firstRun.1
  obtain ⟨_, _, found, declared⟩ := rack_declared_iff_unshown (storesTexts_empty _) runs_firstRun
    finds.configured path (Option.isNone_iff_eq_none.mp fault_run_after_firstRun.1)
  obtain ⟨_, rfl, rfl⟩ := finds.unique found
  refine ⟨node, name, (declared node (List.mem_singleton.mpr rfl) "rack0" (by decide) recorded).mpr ?_⟩
  rw [absent]
  simp

/-- Once the snapshot shows the label, the second run does not declare it. -/
theorem not_declared_on_every_run :
    ¬∀ (path : Text) (start files : Files) (earlier : List Run), StoresTexts start path →
      Runs path start earlier files → earlier ≠ [] →
      ∀ (settings : Settings) (surroundings : Surroundings) (config : Config) (saved : Status Text)
        (nodes : List Node), settings.Finds files config saved nodes → config.statusPath = path →
      surroundings.isPreview = false → (settings.run files surroundings).fault = none →
      ∀ node ∈ nodes, ∀ rack, rack ≠ [] → saved.recorded.recordedRack node.name = .ok rack →
        (settings.run files surroundings).DeclaresRack node rack := by
  intro claimed
  obtain ⟨config, saved, node, finds, path, _, visible, recorded⟩ :=
    exists_of_sight? sight_after_firstRun.2
  have success : (shown.run firstRun.files update).fault = none :=
    Option.isNone_iff_eq_none.mp fault_run_after_firstRun.2
  have declared := claimed _ _ _ _ (storesTexts_empty _) runs_firstRun (by simp) shown update config
    saved [node] finds path rfl success node (List.mem_singleton.mpr rfl) "rack0" (by decide) recorded
  rw [finds.run_eq] at declared success
  exact (Run.declaresRack_iff success (nodup_config finds.configured) finds.selected
    (List.mem_singleton.mpr rfl) (by decide) recorded).mp declared visible

end Settings
end ClusterTopology
