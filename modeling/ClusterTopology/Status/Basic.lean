import ClusterTopology.Topology.Basic

/-!
The status that is kept between runs: the topology once it was discovered, the failure domain once
it was chosen, and how many nodes the last discovery saw.
-/

namespace ClusterTopology

structure FailureDomain (α : Type) where
  type : α
  key : α
  values : List α

structure Status (α : Type) [Name α] where
  topology : Option (Topology α)
  /-- The chosen domain; its type is the empty text before the choice. -/
  domain : FailureDomain α
  nodeCount : Int

variable {α : Type} [Name α]

def Name.isEmpty (name : α) : Bool :=
  match Name.toJson name with
  | .text text => text.isEmpty
  | _ => false

def Name.shown (name : α) : Text := (Name.toJson name).shown

namespace FailureDomain

def unset : FailureDomain α := ⟨Name.ofText [], Name.ofText [], []⟩

def host : Text := "host"

def rack : Text := "rack"

def zone : Text := "zone"

end FailureDomain

namespace Status

def initial : Status α := ⟨none, .unset, 0⟩

def withTopology (status : Status α) (topology : Topology α) : Status α :=
  { status with topology := some topology }

def alike (status other : Status α) : Bool :=
  (match status.topology, other.topology with
    | none, none => true
    | some topology, some otherTopology => topology.alike otherTopology
    | _, _ => false)
    && Key.same status.domain.type other.domain.type
    && Key.same status.domain.key other.domain.key
    && status.domain.values.length = other.domain.values.length
    && (status.domain.values.zip other.domain.values).all (fun pair => Key.same pair.1 pair.2)
    && status.nodeCount = other.nodeCount

end Status
end ClusterTopology
