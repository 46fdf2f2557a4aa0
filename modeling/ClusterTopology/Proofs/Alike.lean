import ClusterTopology.Proofs.Table
import ClusterTopology.Node
import ClusterTopology.Status.Basic
import Mathlib.Data.List.Nodup
import Mathlib.Data.List.Perm.Subperm

/-!
What is alike is equal. Tables that hold the same, in whatever order they were filled, are the same
table, because their entries stand in the order of the keys; so the same topologies, statuses, labels
and nodes are equal, and nothing that is computed from them can tell one from the other.
-/

namespace ClusterTopology

namespace Table

variable {κ ν : Type} [Key κ] [LawfulKey κ] [DecidableEq κ]

theorem eq_of_alike {valuesAlike : ν → ν → Bool} {t u : Table κ ν}
    (sameValues : ∀ {value other}, valuesAlike value other = true → value = other)
    (alike : t.alike valuesAlike u = true) : t = u := by
  obtain ⟨sameSize, allFound⟩ := Bool.and_eq_true_iff.mp alike
  have sameLength : t.entries.length = u.entries.length := of_decide_eq_true sameSize
  have inside : t.entries ⊆ u.entries := by
    intro entry member
    have found := List.all_eq_true.mp allFound entry member
    cases other : u.find? entry.1 with
    | none =>
      rw [other] at found
      exact absurd found (by simp)
    | some value =>
      rw [other] at found
      rw [← sameValues found] at other
      exact (u.find?_eq_some_iff entry.1 entry.2).mp other
  have distinct : t.entries.Nodup := List.Nodup.of_map Prod.fst t.keys_nodup
  have reordered : t.entries.Perm u.entries :=
    (List.subperm_of_subset distinct inside).perm_of_length_le (Nat.le_of_eq sameLength.symm)
  apply ext_find?
  intro key
  apply Option.ext
  intro value
  rw [find?_eq_some_iff, find?_eq_some_iff, reordered.mem_iff]

theorem alike_self {valuesAlike : ν → ν → Bool} (sameValue : ∀ value, valuesAlike value value = true)
    (t : Table κ ν) : t.alike valuesAlike t = true := by
  unfold alike
  rw [decide_eq_true rfl, Bool.true_and, List.all_eq_true]
  intro entry member
  rw [(t.find?_eq_some_iff entry.1 entry.2).mpr member]
  exact sameValue entry.2

end Table

theorem KeySet.eq_of_alike {κ : Type} [Key κ] [LawfulKey κ] [DecidableEq κ] {set other : KeySet κ}
    (alike : set.alike other = true) : set = other :=
  Table.eq_of_alike (fun _ => rfl) alike

theorem Topology.eq_of_alike {t u : Topology Text} (alike : t.alike u = true) : t = u :=
  Topology.ext (Table.eq_of_alike (Table.eq_of_alike KeySet.eq_of_alike) alike)

theorem Topology.alike_iff {t u : Topology Text} : t.alike u = true ↔ t = u := by
  constructor
  · exact Topology.eq_of_alike
  · rintro rfl
    exact Table.alike_self (Table.alike_self (Table.alike_self fun _ => rfl)) t.table

theorem eq_of_sameAtEachPlace {names others : List Text} (sameLength : names.length = others.length)
    (same : (names.zip others).all (fun pair => Key.same pair.1 pair.2) = true) :
    names = others := by
  induction names generalizing others with
  | nil => exact (List.eq_nil_of_length_eq_zero sameLength.symm).symm
  | cons name names ih =>
    cases others with
    | nil => exact absurd sameLength (by simp)
    | cons other others =>
      simp only [List.zip_cons_cons, List.all_cons, Bool.and_eq_true, LawfulKey.same_iff] at same
      obtain ⟨rfl, rest⟩ := same
      rw [ih (Nat.succ.inj sameLength) rest]

theorem Status.eq_of_alike {status other : Status Text} (alike : status.alike other = true) :
    status = other := by
  obtain ⟨topology, ⟨type, key, values⟩, count⟩ := status
  obtain ⟨otherTopology, ⟨otherType, otherKey, otherValues⟩, otherCount⟩ := other
  simp only [Status.alike, Bool.and_eq_true, decide_eq_true_eq, LawfulKey.same_iff] at alike
  obtain ⟨⟨⟨⟨⟨sameTopology, rfl⟩, rfl⟩, sameLength⟩, sameValues⟩, rfl⟩ := alike
  obtain rfl := eq_of_sameAtEachPlace sameLength sameValues
  cases topology with
  | none =>
    cases otherTopology with
    | none => rfl
    | some u => exact absurd sameTopology (by simp)
  | some t =>
    cases otherTopology with
    | none => exact absurd sameTopology (by simp)
    | some u => rw [Topology.eq_of_alike sameTopology]

namespace Node

/-- The names are the same, and the labels hold the same. -/
def alike (node other : Node) : Bool :=
  node.name = other.name && node.labels.alike (fun value label => value = label) other.labels

theorem eq_of_alike {node other : Node} (alike : node.alike other = true) : node = other := by
  obtain ⟨name, labels⟩ := node
  obtain ⟨otherName, otherLabels⟩ := other
  obtain ⟨sameName, sameLabels⟩ := Bool.and_eq_true_iff.mp alike
  obtain rfl : name = otherName := of_decide_eq_true sameName
  rw [show labels = otherLabels from Table.eq_of_alike of_decide_eq_true sameLabels]

end Node
end ClusterTopology
