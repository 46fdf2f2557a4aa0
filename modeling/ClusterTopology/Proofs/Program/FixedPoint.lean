import ClusterTopology.Proofs.Program.RackLabels
import ClusterTopology.Proofs.Program.Secrets
import ClusterTopology.Proofs.Status.Repetition
import ClusterTopology.Proofs.Status.Restored

/-!
A run made again. The first run leaves a status from which the second reconciles the same domain and
the same racks, so it declares the same patches, exports the same values, and stores the same bytes.
Two things can come between them: a text of the status with two halves of a surrogate pair is read
back as another text, and a file that the settings name is gone if it stood where the status was
prepared.
-/

namespace ClusterTopology

/-- A run succeeds with the node patches and exports of another one, and leaves the files as that
did. -/
structure Run.Repeats (again first : Run) : Prop where
  succeeded : again.fault = none
  patches : again.resources.filter Resource.isNodePatch = first.resources.filter Resource.isNodePatch
  exports : again.exports = first.exports
  files : again.files = first.files

namespace Run.Passage

variable {files : Files} {surroundings : Surroundings} {config : Config} {saved : Status Text}

theorem filter_isNodePatch {start : Run} (passage : Passage start surroundings config saved) :
    passage.last.resources.filter Resource.isNodePatch = passage.labels := by
  have noAccess : passage.access.filter Resource.isNodePatch = [] := by
    rw [List.filter_eq_nil_iff]
    intro resource member isPatch
    rw [Access.isNodePatch_of_mem passage.reachable member] at isPatch
    exact absurd isPatch (by simp)
  have allLabels : passage.labels.filter Resource.isNodePatch = passage.labels := by
    rw [List.filter_eq_self]
    intro resource member
    obtain ⟨patch, _, rfl⟩ := List.mem_map.mp member
    rfl
  unfold last
  rw [List.filter_append, noAccess, allLabels, List.nil_append]

theorem save_last (passage : Passage (.start files) surroundings config saved)
    (real : surroundings.isPreview = false) :
    passage.outcome.state.save passage.last.files config.statusPath =
      .done passage.last.files () := by
  rw [passage.files_last real]
  exact Status.save_again (passage.stores real)

theorem reconcile_outcome {start : Run} (passage : Passage start surroundings config saved) :
    (passage.outcome.state.reconcile config.cluster passage.nodes fun _ _ => .accepted).state =
      passage.outcome.state :=
  (Status.reconcile_again passage.chosen _).1

def again (passage : Passage (.start files) surroundings config saved)
    (real : surroundings.isPreview = false) {access : Access} {made : List Resource}
    (reachable : access.resources passage.last.files = .ok made)
    (granted : (Resource.makeAll surroundings.refusal made).2 = .ok ()) :
    Passage (.start passage.last.files) surroundings { config with access := access }
      passage.outcome.state where
  nodes := passage.nodes
  access := made
  domain := passage.domain
  patches := passage.patches
  selected := passage.selected
  reachable := reachable
  granted := granted
  chosen := (Status.reconcile_again passage.chosen _).2
  recorded := calc
    (passage.outcome.state.reconcile config.cluster passage.nodes
        fun _ _ => .accepted).state.recorded.rackPatches passage.nodes
      = passage.outcome.state.recorded.rackPatches passage.nodes := by
        rw [passage.reconcile_outcome]
    _ = .ok passage.patches := passage.recorded
  declared := passage.declared
  stores _ := calc
    ((passage.outcome.state.reconcile config.cluster passage.nodes fun _ _ => .accepted).state.save
        passage.last.files config.statusPath).result
      = (passage.outcome.state.save passage.last.files config.statusPath).result := by
        rw [passage.reconcile_outcome]
    _ = .ok () := congrArg Outcome.result (passage.save_last real)

theorem repeats_again (passage : Passage (.start files) surroundings config saved)
    (real : surroundings.isPreview = false) {access : Access} {made : List Resource}
    (reachable : access.resources passage.last.files = .ok made)
    (granted : (Resource.makeAll surroundings.refusal made).2 = .ok ()) :
    (passage.again real reachable granted).last.Repeats passage.last := by
  have same : (passage.again real reachable granted).outcome.state = passage.outcome.state :=
    passage.reconcile_outcome
  refine ⟨rfl, ?_, ?_, ?_⟩
  · rw [filter_isNodePatch, filter_isNodePatch]
    rfl
  · exact congrArg (fun after => allExports config after passage.domain passage.patches) same
  · calc (passage.again real reachable granted).last.files
      _ = (passage.outcome.state.save passage.last.files config.statusPath).state := by
        rw [(passage.again real reachable granted).files_last real, same]
      _ = passage.last.files := congrArg Outcome.state (passage.save_last real)

end Run.Passage

namespace Settings

variable {settings : Settings} {start files : Files} {surroundings : Surroundings} {config : Config}

/-- A run that is no preview succeeds on files that any earlier runs left, the first of which began
without a status file or with a status of texts. -/
structure Succeeds (settings : Settings) (start files : Files) (surroundings : Surroundings)
    (config : Config) : Prop where
  texts : StoresTexts start config.statusPath
  reached : Reached config.statusPath start files
  configured : settings.config files = .ok config
  real : surroundings.isPreview = false
  success : (settings.run files surroundings).fault = none

/-- The status to which a run comes holds no two halves of a surrogate pair that stand together. -/
def ComesToWhole (settings : Settings) (files : Files) : Prop :=
  ∀ config saved nodes, settings.Finds files config saved nodes →
    (saved.reconcile config.cluster nodes fun _ _ => .accepted).state.IsWhole

/-- A run that succeeds and is made again succeeds again. It declares the same node patches in the
same order, exports the same values, and leaves the status file as it is, like all other files. This
takes that the files which the settings name are still there, whatever they hold now, and that the
status can be read back text by text. -/
theorem second_run_repeats (succeeds : settings.Succeeds start files surroundings config)
    (ignores : ∀ resource, surroundings.refusal resource =
      surroundings.refusal resource.withoutSecrets)
    (there : settings.HasSecrets (settings.run files surroundings).files)
    (whole : settings.ComesToWhole files) :
    (settings.run (settings.run files surroundings).files surroundings).Repeats
      (settings.run files surroundings) := by
  obtain ⟨texts, reached, configured, real, success⟩ := succeeds
  obtain ⟨saved, nodes, finds⟩ := exists_finds configured (reached.storesTexts texts) success
  rw [finds.run_eq] at success there ⊢
  obtain ⟨passage⟩ := Run.nonempty_passage success
  obtain rfl : nodes = passage.nodes := Except.ok.inj (finds.selected.symm.trans passage.selected)
  rw [passage.reconcile_eq] at there ⊢
  have saving : (passage.outcome.state.save files config.statusPath).result = .ok () :=
    passage.stores real
  have left := passage.files_last real
  have stored : passage.outcome.state.IsWhole := whole config saved passage.nodes finds
  have loaded := StoredStatus.load_save_of_isWhole stored settings.engine.statusRoom saving
  rw [left] at there
  obtain ⟨key, made, configuredAgain, reachable, alike⟩ :=
    exists_config_save saving there configured passage.reachable
  rw [← left] at loaded configuredAgain reachable
  have granted := Resource.makeAll_of_map_withoutSecrets ignores alike passage.granted
  have second : settings.run passage.last.files surroundings =
      (passage.again real reachable granted).last :=
    calc settings.run passage.last.files surroundings
        = (Run.start passage.last.files).reconcile surroundings
            { config with access := { config.access with privateKey := key } }
            passage.outcome.state := by
          simp only [run, configuredAgain, loaded]
      _ = (passage.again real reachable granted).last :=
          (passage.again real reachable granted).reconcile_eq
  rw [second]
  exact passage.repeats_again real reachable granted

/-! Runs over the one node that is eligible. -/

def comesToWhole? (settings : Settings) (files : Files) : Bool :=
  match settings.config files with
  | .error _ => false
  | .ok config =>
    match StoredStatus.load settings.engine.statusRoom files config.statusPath,
        Node.eligible config.nodes config.cluster.selector with
    | .ok (.regular saved), .ok nodes =>
      decide (saved.reconcile config.cluster nodes fun _ _ => .accepted).state.IsWhole
    | _, _ => false

theorem comesToWhole_of_comesToWhole? (seen : settings.comesToWhole? files = true) :
    settings.ComesToWhole files := by
  intro config saved nodes finds
  simp only [comesToWhole?, finds.configured, finds.stored, finds.selected,
    decide_eq_true_eq] at seen
  exact seen

theorem exists_succeeds {path : Text} (texts : StoresTexts files path)
    (configured : (settings.config files).toOption.map Config.statusPath = some path)
    (success : (settings.run files update).fault.isNone = true) :
    ∃ config, settings.Succeeds files files update config := by
  cases made : settings.config files with
  | error fault =>
    rw [made] at configured
    exact absurd configured (by simp [Except.toOption])
  | ok config =>
    rw [made] at configured
    obtain rfl : config.statusPath = path := Option.some.inj configured
    exact ⟨config, texts, .start, made, rfl, Option.isNone_iff_eq_none.mp success⟩

theorem firstRun_repeated : (unshown.run firstRun.files update).Repeats firstRun := by
  have configured : (unshown.config .empty).toOption.map Config.statusPath =
      some Config.standardStatusPath := by decide +kernel
  have success : (unshown.run .empty update).fault.isNone = true := by decide +kernel
  have whole : unshown.comesToWhole? .empty = true := by decide +kernel
  have noSecrets : unshown.secretPaths = [] := by decide +kernel
  obtain ⟨config, succeeds⟩ := exists_succeeds (storesTexts_empty _) configured success
  apply second_run_repeats succeeds fun _ => rfl
  · intro path named
    rw [noSecrets] at named
    exact absurd named (by simp)
  · exact comesToWhole_of_comesToWhole? whole

def accessByDraft : Settings :=
  let access : Text := draftPath Config.standardStatusPath
  { unshown with texts := unshown.texts.put "kubeconfigPath" access }

def draftFolder : Files :=
  { Files.empty with contents := .ofList [(draftPath Config.standardStatusPath, [])] }

def splitName : Settings :=
  let front : Text := "[\x7b\"name\": \"\\ud83d"
  let back : Text :=
    "\", \"labels\": \x7b\"cluster.ocs.openshift.io/openshift-storage\": \"\"\x7d\x7d]"
  ⟨.standard, .ofList
    [("minimumNodes", "1"), ("minimumRackCount", "1"), ("nodes", front ++ [0xdc00] ++ back)]⟩

theorem succeeds_accessByDraft :
    ∃ config, accessByDraft.Succeeds draftFolder draftFolder update config := by
  have noStatus : StoresTexts draftFolder Config.standardStatusPath := by
    apply storesTexts_of_absent
    intro home expanded
    have itself : draftFolder.expandHome Config.standardStatusPath =
        .ok Config.standardStatusPath := rfl
    obtain rfl := Except.ok.inj (itself.symm.trans expanded)
    decide +kernel
  exact exists_succeeds noStatus (by decide +kernel) (by decide +kernel)

theorem succeeds_splitName : ∃ config, splitName.Succeeds .empty .empty update config :=
  exists_succeeds (storesTexts_empty Config.standardStatusPath) (by decide +kernel)
    (by decide +kernel)

/-- Neither condition can be left out. The run whose access file was the draft is not repeated, since
that file is gone; nor is the run over the split name, since the name is read back as another. -/
theorem second_run_differs :
    ((∃ config, accessByDraft.Succeeds draftFolder draftFolder update config)
      ∧ accessByDraft.ComesToWhole draftFolder
      ∧ ¬(accessByDraft.run (accessByDraft.run draftFolder update).files update).Repeats
        (accessByDraft.run draftFolder update))
    ∧ (∃ config, splitName.Succeeds .empty .empty update config)
      ∧ splitName.HasSecrets (splitName.run .empty update).files
      ∧ ¬(splitName.run (splitName.run .empty update).files update).Repeats
        (splitName.run .empty update) := by
  have draftFails :
      (accessByDraft.run (accessByDraft.run draftFolder update).files update).fault.isNone =
        false := by decide +kernel
  have draftWhole : accessByDraft.comesToWhole? draftFolder = true := by decide +kernel
  have noSecrets : splitName.secretPaths = [] := by decide +kernel
  have fewerPatches :
      ((splitName.run (splitName.run .empty update).files update).resources.filter
          Resource.isNodePatch).length <
        ((splitName.run .empty update).resources.filter Resource.isNodePatch).length := by
    decide +kernel
  refine ⟨⟨succeeds_accessByDraft, comesToWhole_of_comesToWhole? draftWhole, fun repeats => ?_⟩,
    succeeds_splitName, fun path named => ?_, fun repeats => ?_⟩
  · rw [repeats.succeeded] at draftFails
    exact absurd draftFails (by simp)
  · rw [noSecrets] at named
    exact absurd named (by simp)
  · rw [repeats.patches] at fewerPatches
    exact absurd fewerPatches (by simp)

end Settings
end ClusterTopology
