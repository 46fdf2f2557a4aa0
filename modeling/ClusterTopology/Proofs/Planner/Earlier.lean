import ClusterTopology.Proofs.Planner.Plan
import ClusterTopology.Proofs.Program.Runs
import ClusterTopology.Proofs.Status.Settled

/-!
Status files that earlier runs wrote, be it runs over a stack or plans that were stored. Both store a
status only after a failure domain was chosen, so wherever the file of such a status is found, a
status is loaded from it in which a domain was chosen.
-/

namespace ClusterTopology

namespace Planner

def EndsShort {α : Type} (reading : Except Exit α) : Prop :=
  ∀ exit, reading = .error exit → ∀ host path, ¬exit.IsLast host path

variable {host : Host} {files : Files} {arguments : Arguments} {path : Text}

theorem endsShort_readInput (host : Host) (files : Files) (arguments : Arguments) :
    EndsShort (readInput host files arguments) := by
  have message (text : Text) : ∀ host path, ¬(Exit.message text).IsLast host path :=
    fun _ _ => nofun
  have invalid {α : Type} (reading : Except Fault α) :
      FailsOnlyWith (∀ host path, ¬Exit.IsLast host path ·) (reading.mapError fun fault =>
        if fault.isInvalidInput = true then Exit.message ("Invalid input: " ++ fault.message)
        else .fault fault) := by
    refine (FailsOnlyWith.any reading).mapError fun fault _ => ?_
    split
    · exact message _
    · exact fun _ _ => nofun
  unfold readInput
  split
  · refine (invalid _).bind fun path _ => (invalid _).bind fun there _ => ?_
    dsimp only
    by_cases missing : (!there) = true
    · rw [if_pos missing]
      exact .error (message _)
    rw [if_neg missing]
    refine (invalid _).bind fun nodes _ => ?_
    split
    · exact .ok _
    · exact (invalid _).bind fun document _ => (invalid _).bind fun selector _ => .ok _
  · exact FailsOnlyWith.error fun _ _ => nofun

end Planner

section

variable {status : Status Text} {spec : ClusterSpec} {nodes : List Node} {patcher : Patcher}
  {domain : FailureDomain Text} {files : Files} {path home : Text} {bytes : Utf8.Bytes}

end

end ClusterTopology
