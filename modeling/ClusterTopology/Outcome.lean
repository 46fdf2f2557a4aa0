import ClusterTopology.Fault
import ClusterTopology.Node

/-!
What an operation leaves behind: the state it reached, the events on the way, and its result. State
and events are there also when the operation failed, since whatever it did before stays done.
-/

namespace ClusterTopology

inductive Event where
  | labelFound (node label value : Text)
  | rackFound (node rack : Text)
  | rackAssigned (node rack : Text)
  /-- Every rack belonged to another zone. -/
  | rackOpened (zone rack node : Text)
  | patchOffered (patch : LabelPatch) (accepted : Bool)
  | domainSet (type key : Text)

namespace Event

inductive Level where
  | info
  | warning
  deriving DecidableEq

def line? : Event → Option (Level × Text)
  | .labelFound node label value =>
    some (.info, "Adding topology label from node " ++ node ++ ": " ++ label ++ "=" ++ value)
  | .rackFound node rack =>
    some (.info, "Adding rack label from node " ++ node ++ ": " ++ rackKey ++ "=" ++ rack)
  | .rackAssigned node rack =>
    some (.info, "Labeling node " ++ node ++ " with rack label " ++ rackKey ++ "=" ++ rack)
  | .rackOpened zone rack node =>
    some (.warning, "No rack available for zone " ++ zone.quoted ++ "; creating " ++ rack
      ++ " for node " ++ node)
  | .patchOffered _ _ => none
  | .domainSet type key => some (.info, "Failure domain set to " ++ type ++ " (" ++ key ++ ")")

def offered? : Event → Option LabelPatch
  | .patchOffered patch _ => some patch
  | _ => none

def accepted? : Event → Option LabelPatch
  | .patchOffered patch true => some patch
  | _ => none

def isPlacement : Event → Bool
  | .rackFound .. | .rackAssigned .. | .rackOpened .. | .patchOffered .. => true
  | .labelFound .. | .domainSet .. => false

end Event

def logOf (events : List Event) : List (Event.Level × Text) := events.filterMap Event.line?

def offeredIn (events : List Event) : List LabelPatch := events.filterMap Event.offered?

def acceptedIn (events : List Event) : List LabelPatch := events.filterMap Event.accepted?

structure Outcome (σ α : Type) where
  state : σ
  events : List Event
  result : Except Fault α

namespace Outcome

variable {σ α β : Type}

def done (state : σ) (value : α) : Outcome σ α := ⟨state, [], .ok value⟩

def failed (state : σ) (fault : Fault) : Outcome σ α := ⟨state, [], .error fault⟩

def after (events : List Event) (outcome : Outcome σ α) : Outcome σ α :=
  { outcome with events := events ++ outcome.events }

/-- Goes on from the state reached, unless the operation failed. -/
def andThen (outcome : Outcome σ α) (next : σ → α → Outcome σ β) : Outcome σ β :=
  match outcome.result with
  | .error fault => ⟨outcome.state, outcome.events, .error fault⟩
  | .ok value => (next outcome.state value).after outcome.events

def within {τ : Type} (put : σ → τ) (outcome : Outcome σ α) : Outcome τ α :=
  ⟨put outcome.state, outcome.events, outcome.result⟩

def get (state : σ) : Except Fault α → Outcome σ α
  | .ok value => done state value
  | .error fault => failed state fault

end Outcome
end ClusterTopology
