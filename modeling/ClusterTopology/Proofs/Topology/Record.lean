import ClusterTopology.Proofs.Table
import ClusterTopology.Rack.Balance

/-!
What a topology of texts records. Recording a node with a value adds that pair and nothing else, and
the rack recorded for a node depends only on the pairs in which the node occurs.
-/

namespace ClusterTopology.Topology

variable {α : Type} [Name α]

theorem find?_putValues_of_ne (t : Topology α) {key other : Text} (values : Table α (KeySet α))
    (some : values.isEmpty = false) (different : other ≠ key) :
    (t.putValues key values some).table.find? other = t.table.find? other :=
  Table.find?_put_of_ne t.table values different

theorem find?_addNode_of_ne (t : Topology α) {key other : Text} (value node : α)
    (different : other ≠ key) : (t.addNode key value node).table.find? other = t.table.find? other :=
  find?_putValues_of_ne t _ (isEmpty_put _ _ _) different

theorem valuesOf_putValues (t : Topology α) (key other : Text) (values : Table α (KeySet α))
    (some : values.isEmpty = false) :
    (t.putValues key values some).valuesOf other = if other = key then values else t.valuesOf other := by
  unfold valuesOf putValues
  rw [Table.find?_put]
  by_cases same : other = key <;> simp [same]

theorem valuesOf_removeKey (t : Topology α) (key other : Text) :
    (t.removeKey key).valuesOf other = if other = key then .empty else t.valuesOf other := by
  unfold valuesOf removeKey
  rw [Table.find?_erase]
  by_cases same : other = key <;> simp [same]

theorem valuesOf_congr {t u : Topology Text} {key : Text}
    (same : t.table.find? key = u.table.find? key) : t.valuesOf key = u.valuesOf key := by
  unfold valuesOf
  rw [same]

theorem ext_valuesOf {t u : Topology Text} (same : ∀ key, t.valuesOf key = u.valuesOf key) : t = u := by
  have found : ∀ (t : Topology Text) (key : Text),
      t.table.find? key = if (t.valuesOf key).isEmpty then none else some (t.valuesOf key) := by
    intro t key
    unfold valuesOf
    cases there : t.table.find? key with
    | none => rfl
    | some values =>
      have nonempty := t.valued _ ((t.table.find?_eq_some_iff key values).mp there)
      simp only [Option.getD_some, nonempty]
      rfl
  apply Topology.ext
  apply Table.ext_find?
  intro key
  rw [found, found, same]

theorem valuesOf_eq_of_records {t u : Topology Text} {key : Text}
    (sameValues : ∀ value, t.hasValue key value = u.hasValue key value)
    (sameNodes : ∀ value node, t.records key value node = u.records key value node) :
    t.valuesOf key = u.valuesOf key := by
  apply Table.ext_find?
  intro value
  have together := sameValues value
  have members : t.nodesOf key value = u.nodesOf key value :=
    KeySet.ext_contains (sameNodes value)
  unfold hasValue at together
  unfold nodesOf at members
  rw [Table.contains_eq_isSome_find?, Table.contains_eq_isSome_find?] at together
  cases found : (t.valuesOf key).find? value <;>
    cases foundOther : (u.valuesOf key).find? value <;> simp_all

/-- Topologies are equal if the same pairs of keys and values are recorded in them, and the same nodes
with each of these. -/
theorem ext_records {t u : Topology Text}
    (sameValues : ∀ key value, t.hasValue key value = u.hasValue key value)
    (sameNodes : ∀ key value node, t.records key value node = u.records key value node) : t = u :=
  ext_valuesOf fun key => valuesOf_eq_of_records (sameValues key) (sameNodes key)

section

variable (t : Topology Text)

theorem values_eq (key : Text) : t.values key = .ok (t.valuesOf key).keys := rfl

theorem nodesOf_addNode (key value node other otherValue : Text) :
    (t.addNode key value node).nodesOf other otherValue =
      if other = key ∧ otherValue = value then (t.nodesOf key value).insert node
      else t.nodesOf other otherValue := by
  unfold nodesOf addNode
  rw [valuesOf_putValues]
  by_cases same : other = key
  · subst other
    by_cases sameValue : otherValue = value
    · simp [sameValue, Table.find?_put, nodesOf]
    · simp [sameValue, Table.find?_put]
  · simp [same]

theorem nodesOf_eq_empty_of_not_hasValue {t : Topology Text} {key value : Text}
    (unknown : t.hasValue key value = false) : t.nodesOf key value = .empty := by
  unfold hasValue at unknown
  rw [Table.contains_eq_isSome_find?, Option.isSome_eq_false_iff, Option.isNone_iff_eq_none] at unknown
  rw [nodesOf, unknown]
  rfl

theorem hasValue_putValues_put_iff {key value : Text} (nodes : KeySet Text)
    (some : ((t.valuesOf key).put value nodes).isEmpty = false) {other otherValue : Text} :
    (t.putValues key ((t.valuesOf key).put value nodes) some).hasValue other otherValue = true ↔
      (other = key ∧ otherValue = value) ∨ t.hasValue other otherValue = true := by
  unfold hasValue
  rw [valuesOf_putValues]
  by_cases same : other = key
  · subst other
    simp [Table.contains_put]
  · simp [same]

theorem hasValue_addNode_iff (key value node other otherValue : Text) :
    (t.addNode key value node).hasValue other otherValue = true ↔
      (other = key ∧ otherValue = value) ∨ t.hasValue other otherValue = true :=
  t.hasValue_putValues_put_iff _ _

theorem records_addNode_iff (key value node other otherValue otherNode : Text) :
    (t.addNode key value node).records other otherValue otherNode = true ↔
      (other = key ∧ otherValue = value ∧ otherNode = node)
        ∨ t.records other otherValue otherNode = true := by
  unfold records
  rw [nodesOf_addNode]
  by_cases same : other = key ∧ otherValue = value
  · obtain ⟨rfl, rfl⟩ := same
    simp [KeySet.contains_insert]
  · rw [if_neg same]
    simp only [iff_or_self]
    rintro ⟨sameKey, sameValue, _⟩
    exact absurd ⟨sameKey, sameValue⟩ same

theorem hasValue_addValue_iff (key value other otherValue : Text) :
    (t.addValue key value).hasValue other otherValue = true ↔
      (other = key ∧ otherValue = value) ∨ t.hasValue other otherValue = true :=
  t.hasValue_putValues_put_iff _ _

theorem records_addValue (key value other otherValue node : Text) :
    (t.addValue key value).records other otherValue node = t.records other otherValue node := by
  unfold records nodesOf addValue
  rw [valuesOf_putValues]
  by_cases same : other = key
  · subst other
    by_cases sameValue : otherValue = value
    · subst otherValue
      simp [Table.find?_put, nodesOf]
    · simp [Table.find?_put, sameValue]
  · simp [same]

theorem mem_keys_of_records {key value node : Text} (recorded : t.records key value node = true) :
    value ∈ (t.valuesOf key).keys := by
  rw [Table.mem_keys_iff, Table.contains_iff]
  unfold records nodesOf at recorded
  cases found : (t.valuesOf key).find? value with
  | none => simp [found] at recorded
  | some nodes => exact ⟨nodes, rfl⟩

/-! The rack recorded for a node. -/

/-- The rack recorded for a node, without the fault that only names of different kinds can bring. -/
def rackOf (node : Text) : Text :=
  ((t.valuesOf rackKey).keys.find? fun rack => t.records rackKey rack node).getD []

theorem recordedRack_eq (node : Text) : t.recordedRack node = .ok (t.rackOf node) := by
  unfold recordedRack rackOf
  rw [values_eq, Except.map]
  generalize (t.valuesOf rackKey).keys = racks
  induction racks with
  | nil => rfl
  | cons rack racks ih =>
    rw [List.findSome?_cons, List.find?_cons]
    cases recorded : t.records rackKey rack node with
    | true => simp [Name.toJson, Name.ofText, recorded]
    | false =>
      simp only [Name.toJson, Name.ofText, id, recorded, Bool.false_eq_true, ↓reduceIte]
      exact ih

theorem recordedRack_eq_ok_iff (node rack : Text) :
    t.recordedRack node = .ok rack ↔
      (t.records rackKey rack node = true
          ∧ ∀ other, t.records rackKey other node = true → ¬other < rack)
        ∨ (rack = [] ∧ ∀ other, t.records rackKey other node = false) := by
  rw [recordedRack_eq, Except.ok.injEq]
  unfold rackOf
  have listed : ∀ other, t.records rackKey other node = true →
      other ∈ (t.valuesOf rackKey).keys := fun other => t.mem_keys_of_records
  have ordered := (t.valuesOf rackKey).keys_ordered
  generalize (t.valuesOf rackKey).keys = racks at listed ordered
  cases found : racks.find? fun rack => t.records rackKey rack node with
  | none =>
    have absent : ∀ other, t.records rackKey other node = false := by
      intro other
      cases recorded : t.records rackKey other node with
      | false => rfl
      | true => exact absurd recorded (List.find?_eq_none.mp found other (listed other recorded))
    simp [absent, eq_comm]
  | some first =>
    have recorded : t.records rackKey first node = true := by
      simpa only using List.find?_some found
    have least : ∀ other, t.records rackKey other node = true → ¬other < first := by
      intro other recordedOther smaller
      obtain ⟨before, after, rfl, earlier⟩ := List.find?_eq_some_iff_append.mp found |>.2
      rcases List.mem_append.mp (listed other recordedOther) with inBefore | inAfter
      · simpa [recordedOther] using earlier other inBefore
      · rcases List.mem_cons.mp inAfter with rfl | inAfter
        · exact List.lt_irrefl _ smaller
        · have later := List.rel_of_pairwise_cons (List.pairwise_append.mp ordered).2.1 inAfter
          exact List.lt_asymm smaller (of_decide_eq_true later)
    constructor
    · rintro rfl
      exact Or.inl ⟨recorded, least⟩
    · rintro (⟨recordedRack, leastRack⟩ | ⟨_, absent⟩)
      · rcases Std.lt_trichotomy first rack with less | same | greater
        · exact absurd less (leastRack first recorded)
        · exact same
        · exact absurd greater (least rack recordedRack)
      · rw [absent first] at recorded
        exact absurd recorded (by simp)

theorem records_of_recordedRack {node rack : Text} (recorded : t.recordedRack node = .ok rack)
    (named : rack ≠ []) : t.records rackKey rack node = true := by
  rcases (t.recordedRack_eq_ok_iff node rack).mp recorded with ⟨records, _⟩ | ⟨empty, _⟩
  · exact records
  · exact absurd empty named

/-- The rack recorded for a node depends only on the pairs in which the node occurs. -/
theorem recordedRack_congr {t u : Topology Text} {node : Text}
    (same : ∀ rack, t.records rackKey rack node = u.records rackKey rack node) :
    t.recordedRack node = u.recordedRack node := by
  rw [u.recordedRack_eq, recordedRack_eq_ok_iff]
  simp only [same]
  exact (u.recordedRack_eq_ok_iff node _).mp (u.recordedRack_eq node)

end
end ClusterTopology.Topology
