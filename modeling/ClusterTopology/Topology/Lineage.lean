import ClusterTopology.Topology.Basic

/-!
Deprecated label keys. A deprecated zone or region key is dropped when the key that took its place
has just the same values; while it says something else it stays.
-/

namespace ClusterTopology

def sameNames {α : Type} [Name α] : List α → List α → Bool
  | [], [] => true
  | name :: names, other :: others => Key.same name other && sameNames names others
  | _, _ => false

namespace Topology

variable {α : Type} [Name α]

/-- Drops the keys that have exactly the given values. -/
def dropEqual (values : List α) : List Text → Topology α → Outcome (Topology α) Unit
  | [], t => .done t ()
  | key :: keys, t =>
    if t.hasKey key then
      match t.values key with
      | .error fault => .failed t fault
      | .ok found => dropEqual values keys (if sameNames found values then t.removeKey key else t)
    else dropEqual values keys t

def dropAll : List (Text × List Text) → Topology α → Outcome (Topology α) Unit
  | [], t => .done t ()
  | (key, deprecated) :: rest, t =>
    if t.hasKey key then
      match t.values key with
      | .error fault => .failed t fault
      | .ok values => (dropEqual values deprecated t).andThen fun t _ => dropAll rest t
    else dropAll rest t

def dropDeprecated (t : Topology α) : Outcome (Topology α) Unit := dropAll deprecatedKeys t

end Topology
end ClusterTopology
