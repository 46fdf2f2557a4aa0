import ClusterTopology.Proofs.Planner.Prediction

/-!
When the status file changes. A run over a stack and the planner both store their status as the last
thing that can fail, and storing either fails and leaves the status file alone or replaces it as a
whole. So the file is as it was after a preview, after a plan that is not to be stored, and after
everything that did not come to its end; and otherwise it is the stored form of the status that the
run came to. What a run declares and exports is the same in a preview.
-/

namespace ClusterTopology

def Files.fileAt (files : Files) (path : Text) : Option Utf8.Bytes :=
  match files.expandHome path with
  | .error _ => none
  | .ok home => (files.bytesAt home).toOption

namespace StoredStatus

def toText : StoredStatus → Except Fault Text
  | .regular status => status.toText
  | .loose status => status.toText

def reconciled (spec : ClusterSpec) (nodes : List Node) : StoredStatus → StoredStatus
  | .regular status => .regular (status.reconcile spec nodes fun _ _ => .accepted).state
  | .loose status => .loose (status.reconcile spec nodes fun _ _ => .accepted).state

def planned (arguments : Planner.Arguments) (nodes : List Node) (selector : Option Selector) :
    StoredStatus → StoredStatus
  | .regular status => .regular (Planner.reconcile status arguments nodes selector).state
  | .loose status => .loose (Planner.reconcile status arguments nodes selector).state

end StoredStatus

/-- What a run does to the file at its status path, which it may not have come to know: nothing unless
the run was completed, and then the file holds the stored form of a status that the run came to. -/
structure StatusFileReplaced (before after : Files) (path? : Option Text) (completed : Prop)
    (comesTo : StoredStatus → Prop) : Prop where
  untouched : path? = none → after = before
  kept : ¬completed → ∀ path, path? = some path → after.fileAt path = before.fileAt path
  replaced : completed → ∃ path final text, path? = some path ∧ comesTo final
    ∧ final.toText = .ok text ∧ after.fileAt path = some (Utf8.encode text)

theorem StatusFileReplaced.of_incomplete {files : Files} {path? : Option Text} {completed : Prop}
    {comesTo : StoredStatus → Prop} (incomplete : ¬completed) :
    StatusFileReplaced files files path? completed comesTo :=
  ⟨fun _ => rfl, fun _ _ _ => rfl, fun done => absurd done incomplete⟩

namespace Status

variable {α : Type} [Name α] {status : Status α} {files : Files} {path : Text}

theorem fileAt_of_save_failed {fault : Fault}
    (failure : (status.save files path).result = .error fault) :
    (status.save files path).state.fileAt path = files.fileAt path := by
  unfold Files.fileAt
  rw [expandHome_save]
  cases expanded : files.expandHome path with
  | error problem => rfl
  | ok home =>
    apply Option.ext
    intro bytes
    have same := bytesAt_of_save_failed failure expanded bytes
    simpa only [toOption_eq_some_iff] using same

theorem exists_fileAt_of_save (saved : (status.save files path).result = .ok ()) :
    ∃ text, status.toText = .ok text
      ∧ (status.save files path).state.fileAt path = some (Utf8.encode text) := by
  obtain ⟨home, text, expanded, written, _, bytes⟩ := StoredStatus.exists_bytesAt_save saved
  refine ⟨text, written, ?_⟩
  simp only [Files.fileAt, expandHome_save, expanded, bytes, toOption_ok]

theorem exists_document_of_save (saved : (status.save files path).result = .ok ()) :
    ∃ document, (status.topology.getD .empty).toDocument = .ok document := by
  obtain ⟨_, _, _, _, _, written, _⟩ := exists_canStore_of_save_done saved
  obtain ⟨_, made, _⟩ := exists_of_bind_eq_ok written
  obtain ⟨document, topologyMade, _⟩ := exists_of_bind_eq_ok made
  unfold topologyDocument at topologyMade
  cases recorded : status.topology with
  | none => exact ⟨_, rfl⟩
  | some topology =>
    rw [recorded] at topologyMade
    exact ⟨document, topologyMade⟩

end Status

theorem statusFileReplaced_save {α : Type} [Name α] {status : Status α} {files : Files} {path : Text}
    {completed : Prop} {comesTo : StoredStatus → Prop}
    (stores : completed ↔ (status.save files path).result = .ok ())
    (comes : ∃ final, comesTo final ∧ final.toText = status.toText) :
    StatusFileReplaced files (status.save files path).state (some path) completed comesTo where
  untouched := fun unknown => absurd unknown (by simp)
  kept := by
    rintro incomplete _ ⟨⟩
    cases saved : (status.save files path).result with
    | error fault => exact Status.fileAt_of_save_failed saved
    | ok _ => exact absurd (stores.mpr saved) incomplete
  replaced := by
    intro done
    obtain ⟨final, comes, sameText⟩ := comes
    obtain ⟨text, written, there⟩ := Status.exists_fileAt_of_save (stores.mp done)
    exact ⟨path, final, text, rfl, comes, sameText.trans written, there⟩

namespace Run

variable {α : Type} [Name α] {files : Files} {refusal : Resource → Option Text} {config : Config}
  {status : Status α}

theorem conclude_succeeds_iff {run : Run} {domain : FailureDomain α} {patches : List LabelPatch}
    (running : run.fault = none) :
    (run.conclude ⟨false, refusal⟩ config status domain patches).fault = none ↔
      (status.save run.files config.statusPath).result = .ok () := by
  constructor
  · exact fun success => stores_of_conclude success rfl
  · intro stores
    -- after the storing only the export of the topology can fail, and that was stored just now
    obtain ⟨document, written⟩ := Status.exists_document_of_save stores
    rw [conclude_eq_of_document written fun _ => stores]
    exact running

theorem statusFileReplaced_reconcile (surroundings : Surroundings) {comesTo : StoredStatus → Prop}
    (comes : ∀ nodes, Node.eligible config.nodes config.cluster.selector = .ok nodes →
      ∃ final, comesTo final ∧ final.toText =
        (status.reconcile config.cluster nodes fun _ _ => .accepted).state.toText) :
    let run := (Run.start files).reconcile surroundings config status
    StatusFileReplaced files run.files (some config.statusPath)
      (surroundings.isPreview = false ∧ run.fault = none) comesTo := by
  intro run
  obtain ⟨isPreview, refusal⟩ := surroundings
  rcases reconcile_cases (Run.start files) refusal config status with
    ⟨stopped, ⟨unchanged, fault, failed⟩, same⟩ |
      ⟨nodes, domain, patches, ready, selected, there, running, same⟩
  · obtain rfl : run = stopped := same isPreview
    rw [unchanged]
    exact .of_incomplete fun done => absurd (failed.symm.trans done.2) (by simp)
  · have ends : run = ready.conclude ⟨isPreview, refusal⟩ config _ domain patches := same isPreview
    rw [ends, files_conclude, there]
    cases isPreview with
    | true => exact .of_incomplete fun done => absurd done.1 (by simp)
    | false =>
      refine statusFileReplaced_save ?_ (comes nodes selected)
      rw [conclude_succeeds_iff running, there]
      exact and_iff_right rfl

theorem preview_conclude_eq {run : Run} {domain : FailureDomain α} {patches : List LabelPatch}
    (success : (run.conclude ⟨false, refusal⟩ config status domain patches).fault = none) :
    run.conclude ⟨true, refusal⟩ config status domain patches =
      { run.conclude ⟨false, refusal⟩ config status domain patches with files := run.files } := by
  have stores := stores_of_conclude success rfl
  obtain ⟨document, written⟩ := Status.exists_document_of_save stores
  rw [conclude_eq_of_document written fun _ => stores,
    conclude_eq_of_document written fun _ => stores]
  rfl

theorem preview_reconcile_eq
    (success : ((Run.start files).reconcile ⟨false, refusal⟩ config status).fault = none) :
    (Run.start files).reconcile ⟨true, refusal⟩ config status =
      { (Run.start files).reconcile ⟨false, refusal⟩ config status with files := files } := by
  rcases reconcile_cases (Run.start files) refusal config status with
    ⟨stopped, ⟨_, fault, failed⟩, same⟩ | ⟨nodes, domain, patches, ready, _, there, _, same⟩
  · rw [same, failed] at success
    exact absurd success (by simp)
  · rw [same] at success
    rw [same, same, preview_conclude_eq success, there]
    rfl

end Run

namespace Settings

variable {settings : Settings} {files : Files}

def statusPath? (settings : Settings) (files : Files) : Option Text :=
  (settings.config files).toOption.map Config.statusPath

/-- The status that a run comes to: the one that is stored, reconciled for the eligible nodes. -/
inductive ComesTo (settings : Settings) (files : Files) : StoredStatus → Prop
  | reconciled {config : Config} {stored : StoredStatus} {nodes : List Node}
      (configured : settings.config files = .ok config)
      (loaded : StoredStatus.load settings.engine.statusRoom files config.statusPath = .ok stored)
      (selected : Node.eligible config.nodes config.cluster.selector = .ok nodes) :
      ComesTo settings files (stored.reconciled config.cluster nodes)

theorem statusFileReplaced_run (settings : Settings) (files : Files) (surroundings : Surroundings) :
    StatusFileReplaced files (settings.run files surroundings).files (settings.statusPath? files)
      (surroundings.isPreview = false ∧ (settings.run files surroundings).fault = none)
      (settings.ComesTo files) := by
  have stopped : ∀ (fault : Fault) (path? : Option Text),
      StatusFileReplaced files ((Run.start files).fail fault).files path?
        (surroundings.isPreview = false ∧ ((Run.start files).fail fault).fault = none)
        (settings.ComesTo files) :=
    fun fault _ => .of_incomplete fun done => absurd done.2 (by simp [Run.fail])
  unfold run statusPath?
  cases configured : settings.config files with
  | error fault => exact stopped fault _
  | ok config =>
    cases loaded : StoredStatus.load settings.engine.statusRoom files config.statusPath with
    | error fault =>
      simp only [loaded]
      exact stopped fault _
    | ok stored =>
      cases stored <;>
        · simp only [loaded]
          exact Run.statusFileReplaced_reconcile surroundings fun nodes selected =>
            ⟨_, .reconciled configured loaded selected, rfl⟩

theorem preview_run_eq {refusal : Resource → Option Text}
    (success : (settings.run files ⟨false, refusal⟩).fault = none) :
    settings.run files ⟨true, refusal⟩ =
      { settings.run files ⟨false, refusal⟩ with files := files } := by
  unfold run at success ⊢
  cases configured : settings.config files with
  | error fault => rfl
  | ok config =>
    simp only [configured] at success ⊢
    cases loaded : StoredStatus.load settings.engine.statusRoom files config.statusPath with
    | error fault => rfl
    | ok stored =>
      simp only [loaded] at success ⊢
      cases stored <;> exact Run.preview_reconcile_eq success

end Settings

namespace Planner

variable {α : Type} [Name α] {host : Host} {files : Files} {words : List Text}
  {arguments : Arguments} {path : Text} {nodes : List Node} {selector : Option Selector}
  {status : Status α} {comesTo : StoredStatus → Prop}

theorem statusFileReplaced_choose
    (comes : ∀ eligible, Node.eligible nodes selector = .ok eligible →
      ∃ final, comesTo final
        ∧ final.toText = (reconcile status arguments eligible selector).state.toText) :
    let chosen := choose host (start files) arguments path nodes selector status
    StatusFileReplaced files chosen.files (some path)
      (arguments.write = true ∧ chosen.exit.IsLast host path) comesTo := by
  intro chosen
  have short : chosen.LeavesFiles host files arguments.write path →
      StatusFileReplaced files chosen.files (some path)
        (arguments.write = true ∧ chosen.exit.IsLast host path) comesTo := by
    intro leaves
    rw [leaves.same]
    exact .of_incomplete fun done => leaves.unstored done.1 done.2
  have running : (start files).exit = .code 0 := rfl
  rcases choose_cases host running arguments path nodes selector status with
    leaves | ⟨eligible, domain, selected, _, concludes⟩
  · exact short leaves
  · cases concludes with
    | short leaves => exact short leaves
    | stored asked left last =>
      rw [show chosen.files = _ from left]
      exact statusFileReplaced_save ((and_iff_right asked).trans last) (comes eligible selected)

def arguments? (words : List Text) : Option Arguments :=
  match parse words with
  | .ok (.plan arguments) => some arguments
  | _ => none

def AsksToWrite (words : List Text) : Prop :=
  ∃ arguments, arguments? words = some arguments ∧ arguments.write = true

def statusPath? (words : List Text) : Option Text := (arguments? words).bind Arguments.status

/-- A plan that is to be stored came to its last line. -/
def Completes (host : Host) (files : Files) (words : List Text) : Prop :=
  AsksToWrite words ∧ ∃ path, statusPath? words = some path
    ∧ (run host files words).exit.IsLast host path

/-- The status that a plan comes to: the one that is stored, reconciled for the eligible nodes. -/
inductive ComesTo (host : Host) (files : Files) (words : List Text) : StoredStatus → Prop
  | planned {arguments : Arguments} {path : Text} {nodes eligible : List Node}
      {selector : Option Selector} {stored : StoredStatus}
      (asked : arguments? words = some arguments) (named : arguments.status = some path)
      (read : readInput host files arguments = .ok (nodes, selector))
      (loaded : StoredStatus.load host.statusRoom files path = .ok stored)
      (selected : Node.eligible nodes selector = .ok eligible) :
      ComesTo host files words (stored.planned arguments eligible selector)

theorem statusFileReplaced_plan
    (comes : ∀ {path nodes selector stored eligible}, arguments.status = some path →
      readInput host files arguments = .ok (nodes, selector) →
      StoredStatus.load host.statusRoom files path = .ok stored →
      Node.eligible nodes selector = .ok eligible →
      comesTo (stored.planned arguments eligible selector)) :
    let planned := plan host files arguments
    StatusFileReplaced files planned.files arguments.status
      (arguments.write = true ∧ ∃ path, arguments.status = some path
        ∧ planned.exit.IsLast host path) comesTo := by
  intro planned
  unfold planned plan
  cases read : readInput host files arguments with
  | error exit =>
    refine .of_incomplete fun done => ?_
    obtain ⟨_, path, _, last⟩ := done
    exact endsShort_readInput host files arguments exit read host path last
  | ok input =>
    obtain ⟨nodes, selector⟩ := input
    cases named : arguments.status with
    | none => exact .of_incomplete fun done => by simp at done
    | some path =>
      simp only [Option.some.injEq, exists_eq_left']
      cases loaded : StoredStatus.load host.statusRoom files path with
      | error fault =>
        refine .of_incomplete fun done => ?_
        exact nomatch done.2
      | ok stored =>
        cases stored <;>
          exact statusFileReplaced_choose fun eligible selected =>
            ⟨_, comes named read loaded selected, rfl⟩

theorem not_completes_of_unasked (unasked : arguments? words = none) : ¬Completes host files words := by
  intro ⟨⟨arguments, asked, _⟩, _⟩
  exact absurd (unasked.symm.trans asked) (by simp)

theorem statusFileReplaced_run (host : Host) (files : Files) (words : List Text) :
    StatusFileReplaced files (run host files words).files (statusPath? words)
      (Completes host files words) (ComesTo host files words) := by
  have unasked : arguments? words = none → (run host files words).files = files →
      StatusFileReplaced files (run host files words).files (statusPath? words)
        (Completes host files words) (ComesTo host files words) := by
    intro unasked same
    rw [same]
    exact .of_incomplete (not_completes_of_unasked unasked)
  cases parsed : parse words with
  | error fault =>
    apply unasked
    · simp only [arguments?, parsed]
    · simp only [run, parsed]
      rfl
  | ok request =>
    cases request with
    | help =>
      apply unasked
      · simp only [arguments?, parsed]
      · simp only [run, parsed]
        rfl
    | plan arguments =>
      have asked : arguments? words = some arguments := by simp only [arguments?, parsed]
      have asks : AsksToWrite words ↔ arguments.write = true := by
        simp [AsksToWrite, asked]
      unfold Completes
      simp only [run_of_parse parsed, statusPath?, asked, asks, Option.bind_some]
      exact statusFileReplaced_plan fun named read loaded selected =>
        .planned asked named read loaded selected

theorem exists_status_of_plan (ended : (plan host files arguments).exit = .code 0) :
    ∃ path, arguments.status = some path := by
  cases named : arguments.status with
  | some path => exact ⟨path, rfl⟩
  | none =>
    unfold plan at ended
    cases read : readInput host files arguments with
    | error exit =>
      rw [read] at ended
      obtain rfl : exit = .code 0 := ended
      exact absurd .ended (endsShort_readInput host files arguments _ read host [])
    | ok input =>
      simp only [read, named] at ended
      exact nomatch ended

/-- Where everything can be printed, the plans that are completed are those that come to their end. -/
theorem completes_iff_of_printsAll (prints : host.PrintsAll) :
    Completes host files words ↔ AsksToWrite words ∧ (run host files words).exit = .code 0 := by
  unfold Completes
  simp only [prints.isLast_iff, exists_and_right]
  refine and_congr_right fun asks => and_iff_right_of_imp fun ended => ?_
  obtain ⟨arguments, asked, _⟩ := asks
  have parsed : parse words = .ok (.plan arguments) := by
    unfold arguments? at asked
    split at asked
    · next parsed => rw [parsed, Option.some.inj asked]
    · exact absurd asked (by simp)
  rw [run_of_parse parsed] at ended
  obtain ⟨path, named⟩ := exists_status_of_plan ended
  exact ⟨path, by rw [statusPath?, asked, Option.bind_some, named]⟩

end Planner

/-- The status file changes only when a run is completed that is to store its status, be it a run over
a stack or a plan, and then it holds the text of the status that the run came to. A plan is completed
before it prints its last line, which says so; where everything can be printed, that is when it comes
to its end. A preview comes to the same end as the run that succeeds, but stores nothing. -/
theorem status_file_changes_only_on_completed_write :
    (∀ (settings : Settings) (files : Files) (surroundings : Surroundings),
        StatusFileReplaced files (settings.run files surroundings).files
          (settings.statusPath? files)
          (surroundings.isPreview = false ∧ (settings.run files surroundings).fault = none)
          (settings.ComesTo files))
      ∧ (∀ (host : Planner.Host) (files : Files) (words : List Text),
        StatusFileReplaced files (Planner.run host files words).files (Planner.statusPath? words)
            (Planner.Completes host files words) (Planner.ComesTo host files words)
          ∧ (host.PrintsAll → (Planner.Completes host files words ↔
            Planner.AsksToWrite words ∧ (Planner.run host files words).exit = .code 0)))
      ∧ ∀ (settings : Settings) (files : Files) (refusal : Resource → Option Text),
        (settings.run files ⟨false, refusal⟩).fault = none →
          settings.run files ⟨true, refusal⟩ =
            { settings.run files ⟨false, refusal⟩ with files := files } :=
  ⟨Settings.statusFileReplaced_run,
    fun host files words => ⟨Planner.statusFileReplaced_run host files words,
      Planner.completes_iff_of_printsAll⟩,
    fun _ _ _ => Settings.preview_run_eq⟩

/-! A console that has no bytes for half surrogates, and a status file with one in its name. -/

def strictHost : Planner.Host := { Planner.Host.standard with
  console := fun _ text =>
    if text.any Path.isSurrogate then some "surrogates not allowed" else none }

def halfPath : Text := ("s" : Text) ++ [0xdcff] ++ (".json" : Text)

def halfWords : List Text := planWords ++ [("--status" : Text), halfPath]

theorem fileAt_halfPath_ne :
    (Planner.run strictHost snapshot halfWords).files.fileAt halfPath ≠ snapshot.fileAt halfPath := by
  have there : ((Planner.run strictHost snapshot halfWords).files.fileAt halfPath).isSome = true := by
    decide +kernel
  have absent : (snapshot.fileAt halfPath).isSome = false := by decide +kernel
  intro same
  rw [same, absent] at there
  exact absurd there (by decide)

/-- A run and two plans in folders without a status file leave one, the preview of the run none. The
second plan cannot say so. -/
theorem status_file_left_by_first_run_and_plans :
    (∃ final text, Settings.unshown.ComesTo .empty final ∧ final.toText = .ok text
        ∧ Settings.firstRun.files.fileAt Config.standardStatusPath = some (Utf8.encode text))
      ∧ (Settings.unshown.run .empty ⟨true, Settings.update.refusal⟩).files = .empty
      ∧ (∃ final text, Planner.ComesTo .standard snapshot planWords final ∧ final.toText = .ok text
        ∧ (Planner.run .standard snapshot planWords).files.fileAt Config.standardStatusPath =
          some (Utf8.encode text))
      ∧ ∃ final text, Planner.ComesTo strictHost snapshot halfWords final ∧ final.toText = .ok text
        ∧ (Planner.run strictHost snapshot halfWords).files.fileAt halfPath =
          some (Utf8.encode text) := by
  obtain ⟨runs, plans, previews⟩ := status_file_changes_only_on_completed_write
  have runPath : Settings.unshown.statusPath? .empty = some Config.standardStatusPath :=
    Settings.statusPath_unshown
  have planPath : Planner.statusPath? planWords = some Config.standardStatusPath := rfl
  have planned : (Planner.run .standard snapshot planWords).exit.isEnd = true := by decide +kernel
  have halfPlanPath : Planner.statusPath? halfWords = some halfPath := rfl
  refine ⟨?_, ?_, ?_, ?_⟩
  · obtain ⟨path, final, text, known, comes, written, there⟩ :=
      (runs Settings.unshown .empty Settings.update).replaced ⟨rfl, Settings.fault_firstRun⟩
    obtain rfl := Option.some.inj (runPath.symm.trans known)
    exact ⟨final, text, comes, written, there⟩
  · rw [previews Settings.unshown .empty Settings.update.refusal Settings.fault_firstRun]
  · obtain ⟨replaced, completed⟩ := plans .standard snapshot planWords
    have completes := (completed fun _ _ => rfl).mpr
      ⟨⟨planArguments, rfl, rfl⟩, Planner.Exit.eq_of_isEnd planned⟩
    obtain ⟨path, final, text, known, comes, written, there⟩ := replaced.replaced completes
    obtain rfl := Option.some.inj (planPath.symm.trans known)
    exact ⟨final, text, comes, written, there⟩
  · have replaced := (plans strictHost snapshot halfWords).1
    have completes : Planner.Completes strictHost snapshot halfWords := by
      by_contra incomplete
      exact fileAt_halfPath_ne (replaced.kept incomplete halfPath halfPlanPath)
    obtain ⟨path, final, text, known, comes, written, there⟩ := replaced.replaced completes
    obtain rfl := Option.some.inj (halfPlanPath.symm.trans known)
    exact ⟨final, text, comes, written, there⟩

/-- That second plan does not come to its end, although its status is stored. -/
theorem status_file_changed_without_end :
    ¬∀ (host : Planner.Host) (files : Files) (words : List Text),
      StatusFileReplaced files (Planner.run host files words).files (Planner.statusPath? words)
        (Planner.AsksToWrite words ∧ (Planner.run host files words).exit = .code 0)
        (Planner.ComesTo host files words) := by
  intro replaced
  have unfinished : (Planner.run strictHost snapshot halfWords).exit.isEnd = false := by
    decide +kernel
  refine fileAt_halfPath_ne ((replaced strictHost snapshot halfWords).kept ?_ halfPath rfl)
  rintro ⟨_, ended⟩
  rw [ended] at unfinished
  exact absurd unfinished (by decide)

end ClusterTopology
