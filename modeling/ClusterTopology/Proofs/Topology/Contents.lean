import ClusterTopology.Proofs.Topology.Record

/-!
The contents of a topology of texts: which values are under which keys, and which nodes are with which
values. They determine the topology. What is made of a listing has the contents of the listing, in
whatever order these are listed and whatever comes again.
-/

namespace ClusterTopology.Topology

/-- Values with nodes under keys, in whatever order. Keys and values may come again, and a key may
come without values. -/
abbrev Listing : Type := List (Text × List (Text × List Text))

@[ext]
structure Contents where
  hasValue : Text → Text → Prop
  records : Text → Text → Text → Prop

def Contents.ofListing (listing : Listing) : Contents where
  hasValue key value :=
    ∃ entry ∈ listing, key = entry.1 ∧ ∃ recorded ∈ entry.2, value = recorded.1
  records key value node :=
    ∃ entry ∈ listing, key = entry.1 ∧ ∃ recorded ∈ entry.2, value = recorded.1 ∧ node ∈ recorded.2

def contents (t : Topology Text) : Contents where
  hasValue key value := t.hasValue key value = true
  records key value node := t.records key value node = true

theorem eq_of_contents {t u : Topology Text} (same : t.contents = u.contents) : t = u := by
  apply ext_records
  · intro key value
    rw [Bool.eq_iff_iff]
    exact iff_of_eq (congrArg (fun contents => contents.hasValue key value) same)
  · intro key value node
    rw [Bool.eq_iff_iff]
    exact iff_of_eq (congrArg (fun contents => contents.records key value node) same)

/-! The contents of what is made of a listing. -/

theorem holds_foldl_iff {ι σ : Type} (holds : σ → Prop) (brings : ι → Prop) {step : σ → ι → σ}
    (once : ∀ state item, holds (step state item) ↔ brings item ∨ holds state) (items : List ι)
    (state : σ) : holds (items.foldl step state) ↔ (∃ item ∈ items, brings item) ∨ holds state := by
  induction items generalizing state with
  | nil => simp
  | cons item items ih =>
    calc holds ((item :: items).foldl step state)
      _ ↔ (∃ later ∈ items, brings later) ∨ holds (step state item) := ih (step state item)
      _ ↔ (∃ later ∈ items, brings later) ∨ brings item ∨ holds state := by rw [once]
      _ ↔ (∃ later ∈ item :: items, brings later) ∨ holds state := by
        simp only [List.mem_cons, exists_eq_or_imp, or_left_comm, or_assoc]

section

variable (t : Topology Text) (key value other otherValue node : Text) (nodes : List Text)

theorem hasValue_addListed_iff :
    (t.addListed key value nodes).hasValue other otherValue = true ↔
      (other = key ∧ otherValue = value) ∨ t.hasValue other otherValue = true := by
  have added := holds_foldl_iff (fun t => t.hasValue other otherValue = true)
    (fun _ => other = key ∧ otherValue = value)
    (fun t node => t.hasValue_addNode_iff key value node other otherValue) nodes
    (t.addValue key value)
  refine added.trans ?_
  rw [hasValue_addValue_iff, ← or_assoc]
  apply or_congr_left
  exact or_iff_right_of_imp fun ⟨_, _, same⟩ => same

theorem records_addListed_iff :
    (t.addListed key value nodes).records other otherValue node = true ↔
      (other = key ∧ otherValue = value ∧ node ∈ nodes) ∨ t.records other otherValue node = true := by
  have added := holds_foldl_iff (fun t => t.records other otherValue node = true)
    (fun member => other = key ∧ otherValue = value ∧ node = member)
    (fun t member => t.records_addNode_iff key value member other otherValue node) nodes
    (t.addValue key value)
  refine added.trans ?_
  rw [records_addValue]
  apply or_congr_left
  simp only [exists_and_left, exists_eq_right', and_left_comm]

end

theorem hasValue_addListing_iff (t : Topology Text) (entry : Text × List (Text × List Text))
    (key value : Text) :
    (entry.2.foldl (fun t recorded => t.addListed entry.1 recorded.1 recorded.2) t).hasValue key
        value = true ↔
      (key = entry.1 ∧ ∃ recorded ∈ entry.2, value = recorded.1) ∨ t.hasValue key value = true := by
  have added := holds_foldl_iff (fun t => t.hasValue key value = true)
    (fun recorded => key = entry.1 ∧ value = recorded.1)
    (fun t recorded => t.hasValue_addListed_iff entry.1 recorded.1 key value recorded.2) entry.2 t
  simpa only [exists_and_left, and_left_comm] using added

theorem records_addListing_iff (t : Topology Text) (entry : Text × List (Text × List Text))
    (key value node : Text) :
    (entry.2.foldl (fun t recorded => t.addListed entry.1 recorded.1 recorded.2) t).records key
        value node = true ↔
      (key = entry.1 ∧ ∃ recorded ∈ entry.2, value = recorded.1 ∧ node ∈ recorded.2)
        ∨ t.records key value node = true := by
  have added := holds_foldl_iff (fun t => t.records key value node = true)
    (fun recorded => key = entry.1 ∧ value = recorded.1 ∧ node ∈ recorded.2)
    (fun t recorded => t.records_addListed_iff entry.1 recorded.1 key value node recorded.2) entry.2 t
  simpa only [exists_and_left, and_left_comm] using added

/-- Neither the order of a listing nor what comes again in it matters, and keys without values are
left out. -/
theorem contents_ofListing (listing : Listing) :
    (ofListing listing).contents = Contents.ofListing listing := by
  apply Contents.ext
  · funext key value
    have made := holds_foldl_iff (fun t => t.hasValue key value = true)
      (fun entry => key = entry.1 ∧ ∃ recorded ∈ entry.2, value = recorded.1)
      (fun t entry => t.hasValue_addListing_iff entry key value) listing empty
    have nothing : empty.hasValue key value = false := rfl
    rw [nothing] at made
    exact propext (made.trans (or_iff_left Bool.false_ne_true))
  · funext key value node
    have made := holds_foldl_iff (fun t => t.records key value node = true)
      (fun entry => key = entry.1 ∧ ∃ recorded ∈ entry.2, value = recorded.1 ∧ node ∈ recorded.2)
      (fun t entry => t.records_addListing_iff entry key value node) listing empty
    have nothing : empty.records key value node = false := rfl
    rw [nothing] at made
    exact propext (made.trans (or_iff_left Bool.false_ne_true))

end ClusterTopology.Topology
