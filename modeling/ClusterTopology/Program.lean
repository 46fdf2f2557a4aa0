import ClusterTopology.Resource

/-!
One run over a stack: the configuration and the stored status are read, the failure domain is
reconciled for the eligible nodes, the rack labels of all recorded racks are declared, and the
status is stored unless the run is only a preview. What was found is exported at the end.
-/

namespace ClusterTopology

structure Run where
  files : Files
  events : List Event
  resources : List Resource
  exports : List (Text × Json)
  fault : Option Fault

namespace Run

def start (files : Files) : Run := ⟨files, [], [], [], none⟩

def fail (run : Run) (fault : Fault) : Run := { run with fault := some fault }

end Run

/-- What surrounds a run: whether it is a preview, and which resources are refused. -/
structure Surroundings where
  isPreview : Bool
  refusal : Resource → Option Text

namespace Run

variable {α : Type} [Name α]

def exportsOf (config : Config) (status : Status α) (domain : FailureDomain α)
    (patches : List LabelPatch) : List (Text × Json) := [
  ("stack", .text config.stack),
  ("nodeCount", .int status.nodeCount),
  ("failureDomain", Name.toJson domain.type),
  ("failureDomainKey", Name.toJson domain.key),
  ("failureDomainValues", .list (domain.values.map Name.toJson)),
  ("nodeRacks", Json.ofMembers (patches.map fun patch =>
    (patch.node, .text ((patch.new.find? rackKey).getD []))))]

def conclude (run : Run) (surroundings : Surroundings) (config : Config) (status : Status α)
    (domain : FailureDomain α) (patches : List LabelPatch) : Run :=
  let stored : Outcome Files Unit :=
    if surroundings.isPreview then .done run.files () else status.save run.files config.statusPath
  let run := { run with files := stored.state }
  match stored.result with
  | .error fault => run.fail fault
  | .ok () =>
    let run := { run with exports := exportsOf config status domain patches }
    match (status.topology.getD .empty).toDocument with
    | .error fault => run.fail fault
    | .ok document => { run with exports := run.exports ++ [(("nodeTopologies" : Text), document)] }

/-- Declares the rack labels of all recorded racks, and concludes. -/
def declareRacks (run : Run) (surroundings : Surroundings) (config : Config) (nodes : List Node)
    (status : Status α) (domain : FailureDomain α) : Run :=
  match (status.topology.getD .empty).rackPatches nodes with
  | .error fault => run.fail fault
  | .ok patches =>
    let (made, result) := LabelPatch.declareAll surroundings.refusal patches
    let run := { run with resources := run.resources ++ made }
    match result with
    | .error fault => run.fail fault
    | .ok () => run.conclude surroundings config status domain patches

def reconcile (run : Run) (surroundings : Surroundings) (config : Config) (status : Status α) :
    Run :=
  match Node.eligible config.nodes config.cluster.selector with
  | .error fault => run.fail fault
  | .ok nodes =>
    match config.access.resources run.files with
    | .error fault => run.fail fault
    | .ok resources =>
      let (made, result) := Resource.makeAll surroundings.refusal resources
      let run := { run with resources := made }
      match result with
      | .error fault => run.fail fault
      | .ok () =>
        let outcome := status.reconcile config.cluster nodes fun _ _ => .accepted
        let run := { run with events := outcome.events }
        match outcome.result with
        | .error fault => run.fail fault
        | .ok domain => run.declareRacks surroundings config nodes outcome.state domain

end Run

def Settings.run (settings : Settings) (files : Files) (surroundings : Surroundings) : Run :=
  match settings.config files with
  | .error fault => (Run.start files).fail fault
  | .ok config =>
    match StoredStatus.load settings.engine.statusRoom files config.statusPath with
    | .error fault => (Run.start files).fail fault
    | .ok (.regular status) => (Run.start files).reconcile surroundings config status
    | .ok (.loose status) => (Run.start files).reconcile surroundings config status

end ClusterTopology
