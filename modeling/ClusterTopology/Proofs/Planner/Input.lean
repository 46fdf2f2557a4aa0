import ClusterTopology.Proofs.Json.LineEnds
import ClusterTopology.Proofs.Json.Room
import ClusterTopology.Proofs.Planner.Plan
import ClusterTopology.Proofs.Status.Storage

/-!
What the planner and a run over a stack are given alike: the same text of nodes, once in a file and
once as a setting, the same selector, switches and minimums, and the same status file. Both read the
same nodes and the same selector from it, or both read nothing. The ways of the two differ: a file
may end its lines in any way, a missing node list is noticed at different places, and each reader has
room of its own.
-/

namespace ClusterTopology

section

variable {host : Planner.Host} {room : Nat} {files : Files} {settings : Settings}
  {arguments : Planner.Arguments} {text : Text}

/-- Each text that is given to both is not too deep for one reader while the other can read it. -/
structure Fits (host : Planner.Host) (settings : Settings) (arguments : Planner.Arguments)
    (room : Nat) : Prop where
  nodes : ∀ text, settings.find? "nodes" = some text → Json.FitsBoth host.nodesRoom room text
  selector : Json.FitsBoth host.selectorRoom room arguments.selector

end

end ClusterTopology
