import ClusterTopology.Name
import ClusterTopology.Text.Basic

/-!
Node labels and the label keys that say where a node stands.
-/

namespace ClusterTopology

abbrev Labels := Table Text Text

def storageKey : Text := "cluster.ocs.openshift.io/openshift-storage"

def rackKey : Text := "topology.rook.io/rack"

/-- What the keys of topology labels contain, the preferred form first. -/
def recognizedKeys : List Text := [
  "topology.kubernetes.io",
  "failure-domain.beta.kubernetes.io",
  "failure-domain.kubernetes.io",
  "kubernetes.io/hostname",
  "topology.rook.io"]

def isTopologyLabel (label : Text) : Bool :=
  recognizedKeys.any fun key => key.occursIn label

theorem isTopologyLabel_iff (label : Text) :
    isTopologyLabel label = true ↔
      ∃ key ∈ recognizedKeys, ∃ front back, label = front ++ key ++ back := by
  simp [isTopologyLabel, Text.occursIn_iff]

/-- Label keys that took the place of others, with those others, the oldest first. -/
def deprecatedKeys : List (Text × List Text) := [
  ("topology.kubernetes.io/zone",
    ["failure-domain.beta.kubernetes.io/zone", "failure-domain.kubernetes.io/zone"]),
  ("topology.kubernetes.io/region",
    ["failure-domain.beta.kubernetes.io/region", "failure-domain.kubernetes.io/region"])]

namespace Labels

variable {α : Type} [Name α]

def say (labels : Table Text α) (key : Text) (value : α) : Bool :=
  Json.equal ((labels.find? key).elim .null Name.toJson) (Name.toJson value)

theorem say_iff (labels : Labels) (key value : Text) :
    say labels key value = true ↔ labels.find? key = some value := by
  cases found : labels.find? key <;>
    simp [say, found, Json.equal, Json.same, Name.toJson, Json.worth?]

/-- The smallest change that turns one set of labels into another: a new or changed value for a
key, or nothing for a key that goes away. -/
def change (old new : Table Text α) : Table Text (Option α) :=
  Table.ofList
    ((new.entries.filter fun (key, value) => !say old key value).map
        (fun (key, value) => (key, some value))
      ++ (old.entries.filter fun (key, _) => !new.contains key).map (fun (key, _) => (key, none)))

def merge (labels : Table Text α) (change : Table Text (Option α)) : Table Text α :=
  change.entries.foldl
    (fun sofar (key, value) =>
      match value with
      | some value => sofar.put key value
      | none => sofar.erase key)
    labels

end Labels
end ClusterTopology
