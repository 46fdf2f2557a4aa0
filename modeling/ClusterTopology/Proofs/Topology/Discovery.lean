import ClusterTopology.Proofs.Outcome
import ClusterTopology.Proofs.Topology.Record
import ClusterTopology.Topology.Discovery
import Mathlib.Data.Finset.Card

/-!
What discovery records. It always comes to its end and offers no patch; a value is recorded under a
key afterwards if it was before or some node carries it and the key is one of a topology label; and
no node is recorded.
-/

namespace ClusterTopology

/-- The values that nodes carry under a label key. -/
def carriedValues (nodes : List Node) (key : Text) : Finset Text :=
  (nodes.filterMap fun node => node.labels.find? key).toFinset

@[simp] theorem mem_carriedValues_iff {nodes : List Node} {key value : Text} :
    value ∈ carriedValues nodes key ↔ ∃ node ∈ nodes, node.labels.find? key = some value := by
  simp [carriedValues]

namespace Topology

/-! Discovery always comes to its end, and offers no patch. -/

theorem exists_discoverLabels {α : Type} [Name α] (node : Text) (labels : List (Text × Text))
    (t : Topology α) :
    ∃ found events, discoverLabels node labels t = ⟨found, events, .ok ()⟩
      ∧ offeredIn events = [] := by
  induction labels generalizing t with
  | nil => exact ⟨t, [], rfl, rfl⟩
  | cons label labels ih =>
    obtain ⟨label, value⟩ := label
    cases new : isTopologyLabel label && !t.hasValue label (Name.ofText value) with
    | false =>
      obtain ⟨found, events, rest, nothing⟩ := ih t
      exact ⟨found, events, by simp only [discoverLabels, new]; exact rest, nothing⟩
    | true =>
      obtain ⟨found, events, rest, nothing⟩ := ih (t.addValue label (Name.ofText value))
      refine ⟨found, .labelFound node label value :: events, ?_, nothing⟩
      simp only [discoverLabels, new, ↓reduceIte, rest]
      rfl

theorem exists_discoverNodes {α : Type} [Name α] (nodes : List Node) (t : Topology α) :
    ∃ found events, discoverNodes nodes t = ⟨found, events, .ok ()⟩ ∧ offeredIn events = [] := by
  induction nodes generalizing t with
  | nil => exact ⟨t, [], rfl, rfl⟩
  | cons node nodes ih =>
    obtain ⟨middle, first, labels, nothing⟩ := exists_discoverLabels node.name node.labels.entries t
    obtain ⟨found, events, rest, nothingLater⟩ := ih middle
    refine ⟨found, first ++ events, ?_, by simp [nothing, nothingLater]⟩
    rw [discoverNodes, labels, Outcome.andThen_of_ok _ rfl, rest]
    rfl

theorem hasKey_iff_exists_hasValue {t : Topology Text} {key : Text} :
    t.hasKey key = true ↔ ∃ value, t.hasValue key value = true := by
  unfold hasKey hasValue valuesOf
  cases found : t.table.find? key with
  | none => simp [Table.contains_eq_isSome_find?, found]
  | some values =>
    have filled : values.isEmpty = false := t.valued _ ((t.table.find?_eq_some_iff _ _).mp found)
    have someValue : ∃ value, values.contains value = true := by
      by_contra nothing
      have empty : values.isEmpty = true := Table.isEmpty_iff.mpr (by simpa using nothing)
      rw [filled] at empty
      exact absurd empty (by simp)
    simp only [t.table.contains_eq_isSome_find?, found, Option.isSome_some, Option.getD_some,
      true_iff]
    exact someValue

theorem mem_keys_valuesOf_iff {t : Topology Text} {key value : Text} :
    value ∈ (t.valuesOf key).keys ↔ t.hasValue key value = true :=
  Table.mem_keys_iff

/-! The labels of one node, and of one node after the other. -/

section

variable (node : Text) (labels : List (Text × Text)) (nodes : List Node) (t : Topology Text)

theorem hasValue_discoverLabels_iff (key value : Text) :
    (discoverLabels node labels t).state.hasValue key value = true ↔
      t.hasValue key value = true ∨ (isTopologyLabel key = true ∧ (key, value) ∈ labels) := by
  induction labels generalizing t with
  | nil => simp [discoverLabels, Outcome.done]
  | cons label labels ih =>
    obtain ⟨label, carried⟩ := label
    rw [List.mem_cons, Prod.mk.injEq]
    cases recognized : isTopologyLabel label with
    | false =>
      simp only [discoverLabels, recognized, Bool.false_and, Bool.false_eq_true, ↓reduceIte, ih]
      grind
    | true =>
      cases known : t.hasValue label carried with
      | true =>
        simp only [discoverLabels, recognized, Name.ofText, id, known, Bool.not_true,
          Bool.and_false, Bool.false_eq_true, ↓reduceIte, ih]
        grind
      | false =>
        simp only [discoverLabels, recognized, Name.ofText, id, known, Bool.not_false,
          Bool.and_true, ↓reduceIte, Outcome.after, ih, hasValue_addValue_iff]
        grind

theorem records_discoverLabels (key value member : Text) :
    (discoverLabels node labels t).state.records key value member = t.records key value member := by
  induction labels generalizing t with
  | nil => rfl
  | cons label labels ih =>
    obtain ⟨label, carried⟩ := label
    unfold discoverLabels
    split
    · rw [Outcome.after, ih]
      exact t.records_addValue label carried key value member
    · exact ih t

theorem discoverNodes_cons (first : Node) :
    discoverNodes (first :: nodes) t =
      (discoverNodes nodes (discoverLabels first.name first.labels.entries t).state).after
        (discoverLabels first.name first.labels.entries t).events := by
  obtain ⟨found, events, went, _⟩ := exists_discoverLabels first.name first.labels.entries t
  rw [discoverNodes, went, Outcome.andThen_of_ok _ rfl]

theorem hasValue_discoverNodes_iff (key value : Text) :
    (discoverNodes nodes t).state.hasValue key value = true ↔
      t.hasValue key value = true
        ∨ (isTopologyLabel key = true ∧ value ∈ carriedValues nodes key) := by
  induction nodes generalizing t with
  | nil => simp [discoverNodes, Outcome.done]
  | cons first nodes ih =>
    rw [discoverNodes_cons, Outcome.after, ih, hasValue_discoverLabels_iff,
      ← Table.find?_eq_some_iff]
    simp only [mem_carriedValues_iff, List.mem_cons, exists_eq_or_imp]
    grind

theorem records_discoverNodes (key value member : Text) :
    (discoverNodes nodes t).state.records key value member = t.records key value member := by
  induction nodes generalizing t with
  | nil => rfl
  | cons first nodes ih => rw [discoverNodes_cons, Outcome.after, ih, records_discoverLabels]

theorem nodesOf_discoverNodes (key value : Text) :
    (discoverNodes nodes t).state.nodesOf key value = t.nodesOf key value :=
  KeySet.ext_contains (records_discoverNodes nodes t key value)

theorem discover_of_enough {nodes : List Node} {minimum : Int}
    (enough : ¬(nodes.length : Int) < minimum) :
    discover nodes minimum t =
      ⟨(discoverNodes (Node.sortByName nodes) t).state,
        (discoverNodes (Node.sortByName nodes) t).events, .ok nodes.length⟩ := by
  obtain ⟨found, events, went, _⟩ := t.exists_discoverNodes (Node.sortByName nodes)
  rw [discover, if_neg enough, went, Outcome.andThen_of_ok _ rfl]
  simp [Outcome.after, Outcome.done]

theorem state_discoverNodes_of_recorded
    (recorded : ∀ key value, isTopologyLabel key = true → value ∈ carriedValues nodes key →
      t.hasValue key value = true) : (discoverNodes nodes t).state = t := by
  apply ext_records
  · intro key value
    rw [Bool.eq_iff_iff, hasValue_discoverNodes_iff]
    exact or_iff_left_of_imp fun carried => recorded key value carried.1 carried.2
  · exact records_discoverNodes nodes t

end

end Topology
end ClusterTopology
