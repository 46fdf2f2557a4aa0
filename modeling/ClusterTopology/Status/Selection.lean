import ClusterTopology.Rack.Balance
import ClusterTopology.Status.Basic
import ClusterTopology.Topology.Discovery
import ClusterTopology.Topology.Lineage

/-!
The choice of the failure domain. A domain that was chosen before stays. Otherwise it is the host
when scaling is flexible, else the zone when some zone label has enough values, else the rack, and
then every node is given a rack first. Beforehand the topology is discovered if nothing is recorded,
and label keys that only repeat others are dropped.
-/

namespace ClusterTopology

structure ClusterSpec where
  flexibleScaling : Bool
  arbiter : Bool
  selector : Option Selector
  minimumNodes : Int
  minimumRacks : Int

namespace ClusterSpec

def standardMinimum : Int := 3

def standard : ClusterSpec := ⟨false, false, none, standardMinimum, standardMinimum⟩

def minimumZones (spec : ClusterSpec) : Nat := if spec.arbiter then 2 else 3

end ClusterSpec

namespace Topology

variable {α : Type} [Name α]

def zoneKey? (minimum : Nat) (t : Topology α) : List Text → Except Fault (Option Text)
  | [] => .ok none
  | key :: keys =>
    if Text.occursIn FailureDomain.zone key then do
      let values ← t.values key
      if minimum ≤ values.length then .ok (some key) else zoneKey? minimum t keys
    else zoneKey? minimum t keys

/-- The domain of a type, from a key if that is given and recorded, else from the first key that
contains the type. -/
def domain (t : Topology α) (type key : α) : Except Fault (FailureDomain α) := do
  if Name.isEmpty key then firstDomain
  else if !(Name.toJson key).isScalar then .error (.kind .notAName)
  else match Name.toJson key with
    | .text name =>
      if t.hasKey name then return ⟨type, key, ← t.values name⟩ else firstDomain
    | _ => firstDomain
where
  firstDomain : Except Fault (FailureDomain α) :=
    (t.firstKeyWith type).map fun (key, values) => ⟨type, Name.ofText key, values⟩

end Topology

namespace Status

variable {α : Type} [Name α]

def survey (status : Status α) (spec : ClusterSpec) (nodes : List Node) :
    Outcome (Status α) (Topology α) :=
  let recorded := status.topology.getD .empty
  if recorded.isEmpty then
    ((Topology.discover nodes spec.minimumNodes .empty).within status.withTopology).andThen
      fun status count =>
        .done { status with nodeCount := count } (status.topology.getD .empty)
  else .done status recorded

def choose (status : Status α) (spec : ClusterSpec) (nodes : List Node) (patcher : Patcher)
    (topology : Topology α) : Outcome (Status α) (FailureDomain α) :=
  let read (topology : Topology α) (type key : α) :=
    Outcome.get (status.withTopology topology) (topology.domain type key)
  if !Name.isEmpty status.domain.type then read topology status.domain.type status.domain.key
  else if spec.flexibleScaling then
    read topology (Name.ofText FailureDomain.host) (Name.ofText [])
  else match topology.zoneKey? spec.minimumZones topology.keys with
    | .error fault => .failed (status.withTopology topology) fault
    | .ok (some key) => read topology (Name.ofText FailureDomain.zone) (Name.ofText key)
    | .ok none =>
      ((topology.ensureRacks nodes spec.minimumRacks patcher).within status.withTopology).andThen
        fun status _ =>
          Outcome.get status
            ((status.topology.getD .empty).domain (Name.ofText FailureDomain.rack) (Name.ofText []))

/-- Determines the failure domain. The status takes up what was discovered and recorded on the way,
but not the domain itself. -/
def determine (status : Status α) (spec : ClusterSpec) (nodes : List Node) (patcher : Patcher) :
    Outcome (Status α) (FailureDomain α) :=
  (status.survey spec nodes).andThen fun status topology =>
    (topology.dropDeprecated.within status.withTopology).andThen fun status _ =>
      status.choose spec nodes patcher (status.topology.getD .empty)

/-- The key as it is reported; an absent key is called so. -/
def reportedKey (domain : FailureDomain α) : Text :=
  if Name.isEmpty domain.key then "no key" else Name.shown domain.key

def reconcile (status : Status α) (spec : ClusterSpec) (nodes : List Node) (patcher : Patcher) :
    Outcome (Status α) (FailureDomain α) :=
  (status.determine spec nodes patcher).andThen fun status domain =>
    let isNew := !Json.equal (Name.toJson status.domain.type) (Name.toJson domain.type)
    ⟨{ status with domain := domain },
      if isNew then [.domainSet (Name.shown domain.type) (reportedKey domain)] else [],
      .ok domain⟩

end Status
end ClusterTopology
