import ClusterTopology.Proofs.Planner.Earlier
import ClusterTopology.Proofs.Planner.Input
import ClusterTopology.Proofs.Program.RackLabels
import ClusterTopology.Proofs.Status.Assignment

/-!
What a plan says of a run. The planner and a run over a stack take different ways through the same
steps: the planner prints the patches as they are accepted, the run makes its patches afterwards from
what is recorded. Given the same, both go through or neither does, and then they leave the same files
and come to the same domain. The patches that are printed are those that the run declares, but for
racks that were recorded before. Only a text can come between them that lies too deep for the reader
of one and not for that of the other.
-/

namespace ClusterTopology

section

variable {files : Files} {path : Text}

end

namespace Planner

end Planner

section

variable {files : Files} {surroundings : Surroundings} {config : Config} {status saved : Status Text}
  {nodes eligible : List Node} {domain : FailureDomain Text}

end

namespace Planner

variable {host : Host} {files : Files} {arguments : Arguments} {path : Text} {nodes : List Node}
  {selector : Option Selector} {status : Status Text}

theorem run_of_parse {words : List Text} (parsed : parse words = .ok (.plan arguments)) :
    run host files words = plan host files arguments := by
  simp only [run, parsed]

end Planner

def snapshot : Files := { Files.empty with
  contents := Files.empty.contents.put "nodes.json"
    (Utf8.encode ((Settings.unshown.find? "nodes").getD [])) }

def planWords : List Text :=
  ["--nodes", "nodes.json", "--min-nodes", "1", "--min-racks", "1", "--write"]

def planArguments : Planner.Arguments where
  nodes := some ("nodes.json" : Text)
  status := some Config.standardStatusPath
  selector := []
  flexibleScaling := false
  arbiter := false
  minimumNodes := some 1
  minimumRacks := some 1
  write := true

def Planner.Exit.isEnd : Planner.Exit → Bool
  | .code 0 => true
  | _ => false

theorem Planner.Exit.eq_of_isEnd {exit : Planner.Exit} (ended : exit.isEnd = true) :
    exit = .code 0 := by
  unfold isEnd at ended
  split at ended
  · rfl
  · exact absurd ended (by simp)

end ClusterTopology
