import ClusterTopology.Planner.Options
import ClusterTopology.Resource

/-!
The planner: it chooses the failure domain for a node list in a file, prints the rack labels that
nodes would be given, and stores the status when it is told to. Nothing else is changed.
-/

namespace ClusterTopology

namespace Path

/-- A path by its names. Empty names and names for the folder itself are left out, and exactly two
leading slashes are kept apart from one. -/
structure Parts where
  root : Text
  names : List Text

def parts (path : Text) : Parts :=
  let slashes := (path.takeWhile (· = separator)).length
  let root : Text := if slashes = 0 then "" else if slashes = 2 then "//" else "/"
  ⟨root, (names path).filter fun name => name ≠ here⟩

def Parts.text (parts : Parts) : Text :=
  if parts.root.isEmpty && parts.names.isEmpty then here
  else parts.root ++ Text.joined "/" parts.names

/-- A first name that begins with `~` stands for a home folder, which has to be known here. -/
def Parts.expandHome (homes : Text → Option Text) (parts : Parts) : Except Fault Parts :=
  match parts.root.isEmpty, parts.names with
  | true, name :: names =>
    match account? name with
    | none => .ok parts
    | some _ => do
      let home ← (Path.expandHome homes name).mapError .path
      if (account? home).isSome then throw .homeUnknown
      let expanded := Path.parts home
      return ⟨expanded.root, expanded.names ++ names⟩
  | _, _ => .ok parts

def normal (homes : Text → Option Text) (path : Text) : Except Fault Text := do
  return (← (parts path).expandHome homes).text

end Path

/-- Whether something is at a path; a name that is too long is a fault. -/
def Files.has (files : Files) (path : Text) : Except Fault Bool :=
  match Path.check path, files.locate path with
  | .error _, _ => .ok false
  | .ok (), .ok _ => .ok true
  | .ok (), .error .nameTooLong => .error (.file ⟨.nameTooLong, path, none⟩)
  | .ok (), .error _ => .ok false

namespace Fault

/-- Faults in what a configuration or a file says, as opposed to faults of the surroundings. -/
def isInvalidInput : Fault → Bool
  | .document .tooDeep => false
  | .form _ | .document _ | .encoding _ | .integer _ | .countUndefined | .path _
  | .statusNotNamed _ | .settingNotPositive .. | .serverKeyMissing
  | .tooFewNodes .. | .selector _ | .patch .. => true
  | _ => false

def isSelectionFault : Fault → Bool
  | .tooFewNodes .. | .selector _ | .patch .. => true
  | _ => false

end Fault

namespace Planner

/-- How a run ends: with a status of success, with a message, with a fault, or at a line that cannot be
printed. -/
inductive Exit where
  | code (value : Nat)
  | message (text : Text)
  | usage (fault : UsageFault)
  | fault (fault : Fault)
  | unprinted (line reason : Text)

structure Planned where
  files : Files
  exit : Exit
  output : Text
  events : List Event

/-- What the planner runs on: how many lists and objects inside each other there is room for in each
document that is read, and what keeps a text from being printed behind what was printed before. -/
structure Host where
  nodesRoom : Nat
  selectorRoom : Nat
  statusRoom : Status.Room
  console : (printed text : Text) → Option Text

namespace Host

/-- A thousand nested calls less those on the way to each reader, and a console that prints
everything. -/
def standard : Host := ⟨992, 994, ⟨992, by decide⟩, fun _ _ => none⟩

/-- Prints lines up to the first that the console refuses; what was printed before stays. -/
def printAll (host : Host) : (printed : Text) → List Text → Text × Except Exit Unit
  | printed, [] => (printed, .ok ())
  | printed, line :: lines =>
    match host.console printed (line ++ "\n") with
    | some reason => (printed, .error (.unprinted line reason))
    | none => host.printAll (printed ++ (line ++ "\n")) lines

end Host

def Planned.exiting (planned : Planned) (exit : Exit) : Planned := { planned with exit := exit }

def Planned.printing (planned : Planned) (host : Host) (lines : List Text)
    (next : Planned → Planned) : Planned :=
  let (output, result) := host.printAll planned.output lines
  let planned := { planned with output := output }
  match result with
  | .error exit => planned.exiting exit
  | .ok () => next planned

def start (files : Files) : Planned := ⟨files, .code 0, [], []⟩

def readInput (host : Host) (files : Files) (arguments : Arguments) :
    Except Exit (List Node × Option Selector) :=
  let invalid (fault : Fault) : Exit :=
    if fault.isInvalidInput then .message ("Invalid input: " ++ fault.message) else .fault fault
  do
    let some given := arguments.nodes | throw (.fault (.kind .notAText))
    let path ← (Path.normal files.homes given).mapError invalid
    if !(← (files.has path).mapError invalid) then
      throw (.message ("File does not exist: " ++ path))
    let nodes ← ((files.readDocument host.nodesRoom path).bind Node.listOfDocument).mapError invalid
    if arguments.selector.isEmpty then return (nodes, none)
    let document ←
      ((Json.read host.selectorRoom arguments.selector).mapError Fault.document).mapError invalid
    return (nodes, ← (Selector.ofDocument document).mapError invalid)

def shownChange : Text × Option Text → Text
  | (key, some value) => key ++ "=" ++ value
  | (key, none) => key ++ "=None"

def patchLine (patch : LabelPatch) : Text :=
  "+ label node " ++ patch.node ++ ": " ++ Text.joined ", " (patch.change.entries.map shownChange)

variable {α : Type} [Name α]

def valueTexts? (values : List α) : Option (List Text) :=
  values.mapM fun value =>
    match Name.toJson value with
    | .text text => some text
    | _ => none

def orHyphen (text : Text) : Text := if text.isEmpty then "-" else text

def storedLine (path : Text) : Text := "   Status written to " ++ path

def conclude (host : Host) (planned : Planned) (write : Bool) (path : Text) (status : Status α) :
    Planned :=
  if write then
    let stored := status.save planned.files path
    let planned := { planned with files := stored.state }
    match stored.result with
    | .error fault => planned.exiting (.fault fault)
    | .ok () => planned.printing host [storedLine path] id
  else planned

def domainLine (domain : FailureDomain α) : Text :=
  "\nFailure domain: " ++ Name.shown domain.type

def keyLine (domain : FailureDomain α) : Text :=
  "   Key: " ++ orHyphen (if Name.isEmpty domain.key then [] else Name.shown domain.key)

def valuesLine (values : List Text) : Text :=
  "   Values: " ++ orHyphen (Text.joined ", " values)

def report (host : Host) (planned : Planned) (write : Bool) (path : Text) (status : Status α)
    (domain : FailureDomain α) : Planned :=
  planned.printing host [domainLine domain, keyLine domain] fun planned =>
    match valueTexts? domain.values with
    | none => planned.exiting (.fault (.kind .notAText))
    | some values => planned.printing host [valuesLine values] fun planned =>
        conclude host planned write path status

/-- An outcome when no least number of racks is given: the number is missed as soon as a node has to
be placed, and what was reported before stays. -/
def untilPlacement (outcome : Outcome (Status α) (FailureDomain α)) :
    Outcome (Status α) (FailureDomain α) :=
  let before := outcome.events.takeWhile fun event => !event.isPlacement
  if before.length = outcome.events.length then outcome
  else ⟨outcome.state, before, .error (.kind .notACount)⟩

/-- Reconciles the status with minimums of which some may be missing. The least number of nodes is
missed when there is a topology to discover. -/
def reconcile (status : Status α) (arguments : Arguments) (nodes : List Node)
    (selector : Option Selector) : Outcome (Status α) (FailureDomain α) :=
  let spec (minimumNodes minimumRacks : Int) : ClusterSpec :=
    ⟨arguments.flexibleScaling, arguments.arbiter, selector, minimumNodes, minimumRacks⟩
  let run (minimumNodes minimumRacks : Int) :=
    status.reconcile (spec minimumNodes minimumRacks) nodes fun _ _ => .accepted
  if arguments.minimumNodes.isNone && (status.topology.getD .empty).isEmpty then
    .failed status (.kind .notACount)
  else
    let minimumNodes := arguments.minimumNodes.getD ClusterSpec.standardMinimum
    match arguments.minimumRacks with
    | some minimumRacks => run minimumNodes minimumRacks
    | none => untilPlacement (run minimumNodes ClusterSpec.standardMinimum)

def nodesLine (nodes eligible : List Node) : Text :=
  "+ " ++ Text.ofNat eligible.length ++ " eligible node(s) out of " ++ Text.ofNat nodes.length

def choose (host : Host) (planned : Planned) (arguments : Arguments) (path : Text)
    (nodes : List Node) (selector : Option Selector) (status : Status α) : Planned :=
  let failed (planned : Planned) (fault : Fault) : Planned :=
    planned.exiting
      (if fault.isSelectionFault then
        .message ("Failure domain selection failed: " ++ fault.message)
      else .fault fault)
  match Node.eligible nodes selector with
  | .error fault => failed planned fault
  | .ok eligible =>
    planned.printing host [nodesLine nodes eligible] fun planned =>
      let outcome := reconcile status arguments eligible selector
      let planned := { planned with events := outcome.events }
      match outcome.result with
      | .error fault => failed planned fault
      | .ok domain =>
        planned.printing host ((acceptedIn outcome.events).map patchLine) fun planned =>
          report host planned arguments.write path outcome.state domain

def plan (host : Host) (files : Files) (arguments : Arguments) : Planned :=
  match readInput host files arguments with
  | .error exit => (start files).exiting exit
  | .ok (nodes, selector) =>
    match arguments.status with
    | none => (start files).exiting (.fault (.kind .notAText))
    | some path =>
      match StoredStatus.load host.statusRoom files path with
      | .error fault => (start files).exiting (.fault fault)
      | .ok (.regular status) => choose host (start files) arguments path nodes selector status
      | .ok (.loose status) => choose host (start files) arguments path nodes selector status

/-- A run of the planner with the words of its command line, in a folder. The text of the help that
can be asked for is left out. -/
def run (host : Host) (files : Files) (words : List Text) : Planned :=
  match parse words with
  | .error fault => (start files).exiting (.usage fault)
  | .ok .help => start files
  | .ok (.plan arguments) => plan host files arguments

end Planner
end ClusterTopology
