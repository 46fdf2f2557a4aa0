import ClusterTopology.Program
import ClusterTopology.Proofs.Resource
import ClusterTopology.Proofs.Status.Draft
import ClusterTopology.Proofs.Status.Selection
import ClusterTopology.Proofs.Status.Stored

/-!
Runs one after the other in a folder. A run goes through when each of its steps does, and what it
leaves is then made up of what these came by. It stores the status that it found and reconciled,
unless it is a preview; so a status of texts is followed by statuses of texts only.
-/

namespace ClusterTopology

namespace Run

def allExports (config : Config) (status : Status Text) (domain : FailureDomain Text)
    (patches : List LabelPatch) : List (Text × Json) :=
  exportsOf config status domain patches
    ++ [(("nodeTopologies" : Text), Topology.documentOf status.recorded.listed)]

section

variable {α : Type} [Name α] {run : Run} {surroundings : Surroundings} {config : Config}
  {status : Status α} {domain : FailureDomain α} {patches : List LabelPatch}

theorem conclude_eq_of_document {document : Json}
    (written : (status.topology.getD .empty).toDocument = .ok document)
    (stores : surroundings.isPreview = false →
      (status.save run.files config.statusPath).result = .ok ()) :
    run.conclude surroundings config status domain patches = { run with
      files := if surroundings.isPreview then run.files
        else (status.save run.files config.statusPath).state
      exports := exportsOf config status domain patches
        ++ [(("nodeTopologies" : Text), document)] } := by
  unfold conclude
  cases preview : surroundings.isPreview with
  | true => simp only [Outcome.done, written, ↓reduceIte]
  | false => simp only [stores preview, written, Bool.false_eq_true, ↓reduceIte]

theorem stores_of_conclude
    (success : (run.conclude surroundings config status domain patches).fault = none)
    (real : surroundings.isPreview = false) :
    (status.save run.files config.statusPath).result = .ok () := by
  unfold conclude at success
  simp only [real, Bool.false_eq_true, ↓reduceIte] at success
  cases stored : (status.save run.files config.statusPath).result with
  | error fault =>
    simp only [stored] at success
    exact absurd success (by simp [fail])
  | ok _ => rfl

theorem files_conclude :
    (run.conclude surroundings config status domain patches).files =
      if surroundings.isPreview then run.files
      else (status.save run.files config.statusPath).state := by
  unfold conclude
  cases preview : surroundings.isPreview with
  | true =>
    simp only [Outcome.done, ↓reduceIte]
    split <;> rfl
  | false =>
    simp only [Bool.false_eq_true, ↓reduceIte]
    split
    · rfl
    · split <;> rfl

def StoppedFrom (start stopped : Run) : Prop :=
  stopped.files = start.files ∧ ∃ fault, stopped.fault = some fault

/-- The declaration of racks stops the run, or it comes to store its status. It makes no difference
if the run is a preview. -/
theorem declareRacks_cases (run : Run) (refusal : Resource → Option Text) (config : Config)
    (nodes : List Node) (status : Status α) (domain : FailureDomain α) :
    (∃ stopped, run.StoppedFrom stopped
        ∧ ∀ isPreview, run.declareRacks ⟨isPreview, refusal⟩ config nodes status domain = stopped)
      ∨ ∃ patches, ∃ ready : Run, ready.files = run.files ∧ ready.fault = run.fault
        ∧ ∀ isPreview, run.declareRacks ⟨isPreview, refusal⟩ config nodes status domain =
          ready.conclude ⟨isPreview, refusal⟩ config status domain patches := by
  unfold declareRacks
  cases (status.topology.getD .empty).rackPatches nodes with
  | error fault => exact Or.inl ⟨run.fail fault, ⟨rfl, fault, rfl⟩, fun _ => rfl⟩
  | ok patches =>
    let declared : Run := { run with
      resources := run.resources ++ (LabelPatch.declareAll refusal patches).1 }
    dsimp only
    cases (LabelPatch.declareAll refusal patches).2 with
    | error fault => exact Or.inl ⟨declared.fail fault, ⟨rfl, fault, rfl⟩, fun _ => rfl⟩
    | ok _ => exact Or.inr ⟨patches, declared, rfl, rfl, fun _ => rfl⟩

theorem reconcile_cases (start : Run) (refusal : Resource → Option Text) (config : Config)
    (status : Status α) :
    (∃ stopped, start.StoppedFrom stopped
        ∧ ∀ isPreview, start.reconcile ⟨isPreview, refusal⟩ config status = stopped)
      ∨ ∃ nodes domain patches, ∃ ready : Run,
        Node.eligible config.nodes config.cluster.selector = .ok nodes
          ∧ ready.files = start.files ∧ ready.fault = start.fault
          ∧ ∀ isPreview, start.reconcile ⟨isPreview, refusal⟩ config status =
            ready.conclude ⟨isPreview, refusal⟩ config
              (status.reconcile config.cluster nodes fun _ _ => .accepted).state domain patches := by
  unfold reconcile
  cases Node.eligible config.nodes config.cluster.selector with
  | error fault => exact Or.inl ⟨start.fail fault, ⟨rfl, fault, rfl⟩, fun _ => rfl⟩
  | ok nodes =>
    cases config.access.resources start.files with
    | error fault => exact Or.inl ⟨start.fail fault, ⟨rfl, fault, rfl⟩, fun _ => rfl⟩
    | ok access =>
      let reached : Run := { start with resources := (Resource.makeAll refusal access).1 }
      dsimp only
      cases (Resource.makeAll refusal access).2 with
      | error fault => exact Or.inl ⟨reached.fail fault, ⟨rfl, fault, rfl⟩, fun _ => rfl⟩
      | ok _ =>
        let outcome := status.reconcile config.cluster nodes fun _ _ => .accepted
        let reconciled : Run := { reached with events := outcome.events }
        dsimp only
        cases (status.reconcile config.cluster nodes fun _ _ => .accepted).result with
        | error fault => exact Or.inl ⟨reconciled.fail fault, ⟨rfl, fault, rfl⟩, fun _ => rfl⟩
        | ok domain =>
          rcases declareRacks_cases reconciled refusal config nodes outcome.state domain with
            ⟨stopped, ended, same⟩ | ⟨patches, ready, files, fault, same⟩
          · exact Or.inl ⟨stopped, ended, same⟩
          · exact Or.inr ⟨nodes, domain, patches, ready, rfl, files, fault, same⟩

end

theorem conclude_eq {run : Run} {surroundings : Surroundings} {config : Config}
    {status : Status Text} {domain : FailureDomain Text} {patches : List LabelPatch}
    (stores : surroundings.isPreview = false →
      (status.save run.files config.statusPath).result = .ok ()) :
    run.conclude surroundings config status domain patches = { run with
      files := if surroundings.isPreview then run.files
        else (status.save run.files config.statusPath).state
      exports := allExports config status domain patches } :=
  conclude_eq_of_document status.recorded.exists_toDocument.1 stores

/-- What a run comes by that goes through: the eligible nodes, the resources that give access, the
failure domain, and the patches of all recorded racks. No resource is refused. -/
structure Passage (start : Run) (surroundings : Surroundings) (config : Config)
    (status : Status Text) where
  nodes : List Node
  access : List Resource
  domain : FailureDomain Text
  patches : List LabelPatch
  selected : Node.eligible config.nodes config.cluster.selector = .ok nodes
  reachable : config.access.resources start.files = .ok access
  granted : (Resource.makeAll surroundings.refusal access).2 = .ok ()
  chosen : (status.reconcile config.cluster nodes fun _ _ => .accepted).result = .ok domain
  recorded : (status.reconcile config.cluster nodes fun _ _ => .accepted).state.recorded.rackPatches
    nodes = .ok patches
  declared : (LabelPatch.declareAll surroundings.refusal patches).2 = .ok ()
  stores : surroundings.isPreview = false →
    ((status.reconcile config.cluster nodes fun _ _ => .accepted).state.save start.files
      config.statusPath).result = .ok ()

namespace Passage

variable {start : Run} {surroundings : Surroundings} {config : Config} {status : Status Text}

def outcome (passage : Passage start surroundings config status) :
    Outcome (Status Text) (FailureDomain Text) :=
  status.reconcile config.cluster passage.nodes fun _ _ => .accepted

def labels (passage : Passage start surroundings config status) : List Resource :=
  (passage.patches.filter fun patch => !patch.change.isEmpty).map LabelPatch.resource

def last (passage : Passage start surroundings config status) : Run where
  files := if surroundings.isPreview then start.files
    else (passage.outcome.state.save start.files config.statusPath).state
  events := passage.outcome.events
  resources := passage.access ++ passage.labels
  exports := allExports config passage.outcome.state passage.domain passage.patches
  fault := start.fault

theorem reconcile_eq (passage : Passage start surroundings config status) :
    start.reconcile surroundings config status = passage.last := by
  have recorded : (passage.outcome.state.topology.getD .empty).rackPatches passage.nodes =
      .ok passage.patches := passage.recorded
  unfold reconcile
  simp only [passage.selected, passage.reachable, passage.granted, passage.chosen,
    Resource.makeAll_eq_ok passage.granted]
  unfold declareRacks
  rw [show (status.reconcile config.cluster passage.nodes fun _ _ => .accepted) = passage.outcome
    from rfl, recorded]
  simp only [passage.declared]
  rw [conclude_eq, LabelPatch.declareAll_eq_ok passage.declared]
  · rfl
  · exact passage.stores

theorem files_last {files : Files} (passage : Passage (.start files) surroundings config status)
    (real : surroundings.isPreview = false) :
    passage.last.files = (passage.outcome.state.save files config.statusPath).state := by
  simp only [last, Run.start, real, Bool.false_eq_true, ↓reduceIte]

end Passage

theorem nonempty_passage {start : Run} {surroundings : Surroundings} {config : Config}
    {status : Status Text} (success : (start.reconcile surroundings config status).fault = none) :
    Nonempty (Passage start surroundings config status) := by
  unfold reconcile at success
  cases selected : Node.eligible config.nodes config.cluster.selector with
  | error fault =>
    simp only [selected] at success
    exact absurd success (by simp [fail])
  | ok nodes =>
    cases reachable : config.access.resources start.files with
    | error fault =>
      simp only [selected, reachable] at success
      exact absurd success (by simp [fail])
    | ok access =>
      cases granted : (Resource.makeAll surroundings.refusal access).2 with
      | error fault =>
        simp only [selected, reachable, granted] at success
        exact absurd success (by simp [fail])
      | ok _ =>
        cases chosen : (status.reconcile config.cluster nodes fun _ _ => .accepted).result with
        | error fault =>
          simp only [selected, reachable, granted, chosen] at success
          exact absurd success (by simp [fail])
        | ok domain =>
          simp only [selected, reachable, granted, chosen] at success
          unfold declareRacks at success
          split at success
          · exact absurd success (by simp [fail])
          next patches recorded =>
          cases declared : (LabelPatch.declareAll surroundings.refusal patches).2 with
          | error fault =>
            simp only [declared] at success
            exact absurd success (by simp [fail])
          | ok _ =>
            simp only [declared] at success
            have stores := stores_of_conclude success
            exact ⟨nodes, access, domain, patches, selected, reachable, granted, chosen, recorded,
              declared, stores⟩

/-- Whatever comes of a run, it leaves the files as they were, or as they are after storing a status,
be it in vain. -/
theorem files_reconcile {α : Type} [Name α] (start : Run) (surroundings : Surroundings)
    (config : Config) (status : Status α) :
    (start.reconcile surroundings config status).files = start.files
      ∨ ∃ after : Status α, (start.reconcile surroundings config status).files =
        (after.save start.files config.statusPath).state := by
  obtain ⟨isPreview, refusal⟩ := surroundings
  rcases reconcile_cases start refusal config status with
    ⟨stopped, ended, same⟩ | ⟨nodes, domain, patches, ready, _, files, _, same⟩
  · rw [same]
    exact Or.inl ended.1
  · rw [same, files_conclude, files]
    split
    · exact Or.inl rfl
    · exact Or.inr ⟨_, rfl⟩

end Run

namespace Settings

variable {settings : Settings} {files : Files} {surroundings : Surroundings} {config : Config}
  {path : Text} {start : Files}

/-- What a run finds before it does anything: its configuration, the status that is stored, in which
names are texts, and the eligible nodes. -/
structure Finds (settings : Settings) (files : Files) (config : Config) (saved : Status Text)
    (nodes : List Node) : Prop where
  configured : settings.config files = .ok config
  stored : StoredStatus.load settings.engine.statusRoom files config.statusPath = .ok (.regular saved)
  selected : Node.eligible config.nodes config.cluster.selector = .ok nodes

theorem Finds.run_eq {saved : Status Text} {nodes : List Node}
    (finds : settings.Finds files config saved nodes) :
    settings.run files surroundings = (Run.start files).reconcile surroundings config saved := by
  simp only [run, finds.configured, finds.stored]

theorem Finds.unique {other : Config} {saved found : Status Text} {nodes others : List Node}
    (finds : settings.Finds files config saved nodes)
    (again : settings.Finds files other found others) :
    config = other ∧ saved = found ∧ nodes = others := by
  obtain rfl : config = other := Except.ok.inj (finds.configured.symm.trans again.configured)
  have sameStatus := Except.ok.inj (finds.stored.symm.trans again.stored)
  exact ⟨rfl, StoredStatus.regular.inj sameStatus,
    Except.ok.inj (finds.selected.symm.trans again.selected)⟩

/-- Runs one after the other that store their statuses at one path, and the files that they lead to.
None of them is a preview, all succeed, and each starts from the files that the one before it left. -/
inductive Runs (path : Text) (start : Files) : List Run → Files → Prop
  | none : Runs path start [] start
  | again {earlier : List Run} {files : Files} {settings : Settings} {surroundings : Surroundings}
      {config : Config} (runs : Runs path start earlier files)
      (configured : settings.config files = .ok config) (stored : config.statusPath = path)
      (real : surroundings.isPreview = false)
      (success : (settings.run files surroundings).fault = none) :
      Runs path start (earlier ++ [settings.run files surroundings])
        (settings.run files surroundings).files

/-- The status that is stored at a path, if one can be read there, has texts as its names, however
much room its reader has. -/
def StoresTexts (files : Files) (path : Text) : Prop :=
  ∀ room stored, StoredStatus.load room files path = .ok stored →
    ∃ saved : Status Text, stored = .regular saved

theorem storesTexts_of_absent
    (absent : ∀ home, files.expandHome path = .ok home → files.isFile home = false) :
    StoresTexts files path := by
  intro room stored loaded
  unfold StoredStatus.load at loaded
  cases expanded : files.expandHome path with
  | error fault =>
    rw [expanded] at loaded
    exact absurd loaded (by simp [bind, Except.bind])
  | ok home =>
    rw [expanded] at loaded
    simp only [mapError_ok, bind, Except.bind, absent home expanded] at loaded
    exact ⟨_, (Except.ok.inj loaded).symm⟩

theorem storesTexts_empty (path : Text) : StoresTexts .empty path := by
  apply storesTexts_of_absent
  intro home _
  unfold Files.isFile
  split
  · exact congrArg Option.isSome (Table.find?_empty _)
  · rfl

theorem exists_finds (configured : settings.config files = .ok config)
    (texts : StoresTexts files config.statusPath)
    (success : (settings.run files surroundings).fault = none) :
    ∃ saved nodes, settings.Finds files config saved nodes := by
  cases loaded : StoredStatus.load settings.engine.statusRoom files config.statusPath with
  | error fault =>
    simp only [run, configured, loaded] at success
    exact absurd success (by simp [Run.fail])
  | ok stored =>
    obtain ⟨saved, rfl⟩ := texts _ stored loaded
    simp only [run, configured, loaded] at success
    obtain ⟨passage⟩ := Run.nonempty_passage success
    exact ⟨saved, passage.nodes, configured, loaded, passage.selected⟩

/-- A run on a status of texts leaves one, whatever comes of it. -/
theorem StoresTexts.run (texts : StoresTexts files path)
    (stored : ∀ config, settings.config files = .ok config → config.statusPath = path) :
    StoresTexts (settings.run files surroundings).files path := by
  unfold Settings.run
  cases configured : settings.config files with
  | error fault => exact texts
  | ok config =>
    obtain rfl := stored config configured
    cases loaded : StoredStatus.load settings.engine.statusRoom files config.statusPath with
    | error fault =>
      dsimp only
      rw [loaded]
      exact texts
    | ok found =>
      obtain ⟨saved, rfl⟩ := texts _ found loaded
      dsimp only
      rw [loaded]
      dsimp only
      rcases Run.files_reconcile (Run.start files) surroundings config saved with
        unchanged | ⟨after, left⟩
      · rw [unchanged]
        exact texts
      · rw [left]
        intro room found loaded
        cases saving : (after.save (Run.start files).files config.statusPath).result with
        | ok _ => exact StoredStatus.exists_eq_regular_of_save saving loaded
        | error fault =>
          rw [Status.load_of_save_failed room saving] at loaded
          exact texts room found loaded

theorem Runs.storesTexts {earlier : List Run} (runs : Runs path start earlier files)
    (texts : StoresTexts start path) : StoresTexts files path := by
  induction runs with
  | none => exact texts
  | again _ configured stored _ _ ih =>
    refine ih.run fun config made => ?_
    rw [← stored, Except.ok.inj (made.symm.trans configured)]

/-- Files that earlier runs lead to, whatever came of each of them and whether or not it was a
preview, as long as they all have their status at one path. -/
inductive Reached (path : Text) (start : Files) : Files → Prop
  | start : Reached path start start
  | run {files : Files} (earlier : Reached path start files) {settings : Settings}
      {surroundings : Surroundings}
      (stored : ∀ config, settings.config files = .ok config → config.statusPath = path) :
      Reached path start (settings.run files surroundings).files

theorem Reached.storesTexts (reached : Reached path start files) (texts : StoresTexts start path) :
    StoresTexts files path := by
  induction reached with
  | start => exact texts
  | run _ stored ih => exact ih.run stored

end Settings
end ClusterTopology
