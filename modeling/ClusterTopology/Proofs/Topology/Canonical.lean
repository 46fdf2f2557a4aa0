import ClusterTopology.Proofs.Alike
import ClusterTopology.Proofs.Status.ZoneKey
import ClusterTopology.Proofs.Topology.Document

/-!
A topology of texts has one form. However it came about, its contents follow from the changes that were
made, and two topologies differ only in their contents; no key is there without a value; and what is
written of a topology is its contents in ascending order.
-/

namespace ClusterTopology.Topology

namespace Contents

def without (contents : Contents) (gone : Text → Prop) : Contents where
  hasValue key value := ¬gone key ∧ contents.hasValue key value
  records key value node := ¬gone key ∧ contents.records key value node

def Repeats (contents : Contents) (key : Text) : Prop :=
  ∃ entry ∈ deprecatedKeys, key ∈ entry.2 ∧ (∃ value, contents.hasValue entry.1 value)
    ∧ ∀ value, contents.hasValue key value ↔ contents.hasValue entry.1 value

/-- A listing of all of the contents and nothing else, everything in ascending order. -/
structure Lists (contents : Contents) (listing : Listing) : Prop where
  keysAscend : listing.Pairwise fun entry later => entry.1 < later.1
  valued : ∀ entry ∈ listing, entry.2 ≠ []
  valuesAscend : ∀ entry ∈ listing, entry.2.Pairwise fun recorded later => recorded.1 < later.1
  nodesAscend : ∀ entry ∈ listing, ∀ recorded ∈ entry.2,
    recorded.2.Pairwise fun node later => node < later
  complete : ofListing listing = contents

end Contents

/-! Changes of a topology. -/

inductive Change where
  | make (listing : Listing)
  | read (document : Json) (listing : Listing) (holds : HoldsListing document listing)
  | addValue (key value : Text)
  | addNode (key value node : Text)
  | removeKey (key : Text)
  | copy
  | dropDeprecated

namespace Change

def apply : Change → Topology Text → Except Fault (Topology Text)
  | .make listing, _ => .ok (ofListing listing)
  | .read document _ _, _ => ofDocument document
  | .addValue key value, t => .ok (t.addValue key value)
  | .addNode key value node, t => .ok (t.addNode key value node)
  | .removeKey key, t => .ok (t.removeKey key)
  | .copy, t => t.relisted
  | .dropDeprecated, t => t.dropDeprecated.result.map fun _ => t.dropDeprecated.state

def on : Change → Contents → Contents
  | .make listing, _ => .ofListing listing
  | .read _ listing _, _ => .ofListing listing
  | .addValue key value, contents =>
    { hasValue := fun other otherValue =>
        (other = key ∧ otherValue = value) ∨ contents.hasValue other otherValue
      records := contents.records }
  | .addNode key value node, contents =>
    { hasValue := fun other otherValue =>
        (other = key ∧ otherValue = value) ∨ contents.hasValue other otherValue
      records := fun other otherValue otherNode =>
        (other = key ∧ otherValue = value ∧ otherNode = node)
          ∨ contents.records other otherValue otherNode }
  | .removeKey key, contents => contents.without fun other => other = key
  | .copy, contents => contents
  | .dropDeprecated, contents => contents.without contents.Repeats

end Change

theorem contents_eq_without {t u : Topology Text} (gone : Text → Prop) [DecidablePred gone]
    (left : ∀ key, u.valuesOf key = if gone key then .empty else t.valuesOf key) :
    u.contents = t.contents.without gone := by
  apply Contents.ext
  · funext key value
    show (u.hasValue key value = true) = (¬gone key ∧ t.hasValue key value = true)
    unfold hasValue
    rw [left]
    by_cases there : gone key <;> simp [there]
  · funext key value node
    show (u.records key value node = true) = (¬gone key ∧ t.records key value node = true)
    unfold records nodesOf
    rw [left]
    by_cases there : gone key <;> simp [there]

section

variable (t : Topology Text)

theorem contents_removeKey (key : Text) :
    (t.removeKey key).contents = t.contents.without fun other => other = key :=
  contents_eq_without _ (t.valuesOf_removeKey key)

theorem contents_addValue (key value : Text) :
    (t.addValue key value).contents = (Change.addValue key value).on t.contents := by
  apply Contents.ext
  · funext other otherValue
    exact propext (t.hasValue_addValue_iff key value other otherValue)
  · funext other otherValue node
    exact congrArg (fun recorded => recorded = true)
      (t.records_addValue key value other otherValue node)

theorem contents_addNode (key value node : Text) :
    (t.addNode key value node).contents = (Change.addNode key value node).on t.contents := by
  apply Contents.ext
  · funext other otherValue
    exact propext (t.hasValue_addNode_iff key value node other otherValue)
  · funext other otherValue otherNode
    exact propext (t.records_addNode_iff key value node other otherValue otherNode)

theorem redundant_iff_repeats (key : Text) : t.Redundant key ↔ t.contents.Repeats key := by
  rw [redundant_iff_repeatsSuccessor]
  unfold RepeatsSuccessor Contents.Repeats
  simp only [hasKey_iff_exists_hasValue]
  rfl

theorem contents_dropDeprecated :
    t.dropDeprecated.state.contents = t.contents.without t.contents.Repeats := by
  have left : ∀ key, t.dropDeprecated.state.valuesOf key =
      if t.Redundant key then .empty else t.valuesOf key := by
    intro key
    rw [valuesOf, find?_dropDeprecated]
    by_cases redundant : t.Redundant key
    · rw [if_pos redundant, if_pos redundant]; rfl
    · rw [if_neg redundant, if_neg redundant]; rfl
  calc t.dropDeprecated.state.contents
    _ = t.contents.without t.Redundant := contents_eq_without _ left
    _ = t.contents.without t.contents.Repeats := by
      rw [funext fun key => propext (t.redundant_iff_repeats key)]

end

theorem Change.exists_apply (change : Change) (t : Topology Text) :
    ∃ u, change.apply t = .ok u ∧ u.contents = change.on t.contents := by
  cases change with
  | make listing => exact ⟨_, rfl, contents_ofListing listing⟩
  | read document listing holds => exact ⟨_, holds.ofDocument_eq, contents_ofListing listing⟩
  | addValue key value => exact ⟨_, rfl, t.contents_addValue key value⟩
  | addNode key value node => exact ⟨_, rfl, t.contents_addNode key value node⟩
  | removeKey key => exact ⟨_, rfl, t.contents_removeKey key⟩
  | copy => exact ⟨t, t.relisted_eq, rfl⟩
  | dropDeprecated =>
    have dropped : Change.dropDeprecated.apply t = .ok t.dropDeprecated.state := by
      show t.dropDeprecated.result.map _ = _
      rw [t.dropDeprecated_eq]
      rfl
    exact ⟨_, dropped, t.contents_dropDeprecated⟩

def run (changes : List Change) : Except Fault (Topology Text) :=
  changes.foldlM (fun t change => change.apply t) empty

def contentsAfter (changes : List Change) : Contents :=
  changes.foldl (fun contents change => change.on contents) (.ofListing [])

theorem exists_foldlM_apply (changes : List Change) (t : Topology Text) :
    ∃ u, changes.foldlM (fun t change => change.apply t) t = (.ok u : Except Fault (Topology Text))
      ∧ u.contents = changes.foldl (fun contents change => change.on contents) t.contents := by
  induction changes generalizing t with
  | nil => exact ⟨t, rfl, rfl⟩
  | cons change changes ih =>
    obtain ⟨middle, applied, first⟩ := change.exists_apply t
    obtain ⟨u, rest, later⟩ := ih middle
    refine ⟨u, ?_, ?_⟩
    · rw [List.foldlM_cons, applied]
      exact rest
    · rw [List.foldl_cons, ← first]
      exact later

theorem exists_run (changes : List Change) :
    ∃ t, run changes = .ok t ∧ t.contents = contentsAfter changes := by
  obtain ⟨t, reached, contents⟩ := exists_foldlM_apply changes empty
  have nothing : empty.contents = Contents.ofListing [] := contents_ofListing []
  rw [nothing] at contents
  exact ⟨t, reached, contents⟩

/-! What follows from the contents. -/

section

variable (t : Topology Text)

theorem isEmpty_iff : t.isEmpty = true ↔ ∀ key value, t.hasValue key value = false := by
  have noKey : t.isEmpty = true ↔ ∀ key, t.hasKey key = false := Table.isEmpty_iff
  rw [noKey]
  apply forall_congr'
  intro key
  rw [← Bool.not_eq_true, hasKey_iff_exists_hasValue, not_exists]
  simp only [Bool.not_eq_true]

theorem lists_listed : t.contents.Lists t.listed where
  keysAscend := List.pairwise_map.mpr (t.table.ordered.imp of_decide_eq_true)
  valued := by
    intro entry member
    obtain ⟨⟨key, values⟩, inside, rfl⟩ := List.mem_map.mp member
    have some : values.entries.isEmpty = false := t.valued _ inside
    show values.entries.map _ ≠ []
    rw [Ne, List.map_eq_nil_iff, ← List.isEmpty_iff, some]
    exact Bool.false_ne_true
  valuesAscend := by
    intro entry member
    obtain ⟨⟨key, values⟩, _, rfl⟩ := List.mem_map.mp member
    exact List.pairwise_map.mpr (values.ordered.imp of_decide_eq_true)
  nodesAscend := by
    intro entry member recorded inside
    obtain ⟨⟨key, values⟩, _, rfl⟩ := List.mem_map.mp member
    obtain ⟨⟨value, nodes⟩, _, rfl⟩ := List.mem_map.mp inside
    exact nodes.keys_ordered.imp of_decide_eq_true
  complete := t.contents_listed

end

theorem alike_iff_same_answers {t u : Topology Text} :
    t.alike u = true ↔
      (∀ key value, t.hasValue key value = u.hasValue key value)
        ∧ ∀ key value node, t.records key value node = u.records key value node := by
  rw [alike_iff]
  constructor
  · rintro rfl
    exact ⟨fun _ _ => rfl, fun _ _ _ => rfl⟩
  · intro ⟨sameValues, sameNodes⟩
    exact ext_records sameValues sameNodes

/-- Whatever changes are made, they succeed, and the contents follow from them. No key is there
without a value, so just a topology without any value is empty. Two topologies are alike if and only
if they have the same values under the same keys, with the same nodes. A document lists the contents
in ascending order, so it is the same for topologies that are alike; the topology is read back from
it, and is its own copy, in whatever order its contents are gone through. -/
theorem contents_determine_topology (changes : List Change) :
    ∃ t listing, run changes = .ok t ∧ t.contents = contentsAfter changes
      ∧ (∀ key, t.hasKey key = true ↔ ∃ value, t.hasValue key value = true)
      ∧ (t.isEmpty = true ↔ ∀ key value, t.hasValue key value = false)
      ∧ (∀ others u, run others = .ok u →
        (t.alike u = true ↔
          (∀ key value, t.hasValue key value = u.hasValue key value)
            ∧ ∀ key value node, t.records key value node = u.records key value node))
      ∧ t.contents.Lists listing ∧ t.toDocument = .ok (documentOf listing)
      ∧ (∀ others u, run others = .ok u → t.alike u = true → u.toDocument = t.toDocument)
      ∧ ofDocument (documentOf listing) = .ok t
      ∧ t.relisted = .ok t
      ∧ ∀ other, Contents.ofListing other = t.contents → ofListing other = t := by
  obtain ⟨t, reached, contents⟩ := exists_run changes
  obtain ⟨written, readBack⟩ := t.exists_toDocument
  refine ⟨t, t.listed, reached, contents, fun key => hasKey_iff_exists_hasValue, t.isEmpty_iff,
    fun others u _ => alike_iff_same_answers, t.lists_listed, written, ?_, readBack,
    t.relisted_eq, ?_⟩
  · intro others u _ alike
    rw [alike_iff.mp alike]
  · intro other same
    apply eq_of_contents
    exact (contents_ofListing other).trans same

/-! Zones and racks in two ways: from a document in both of its forms, and one by one. -/

def zonesInBothForms : Json :=
  .object [
    ("failure-domain.kubernetes.io/zone", .list [.text "b", .text "a", .text "b"]),
    ("topology.kubernetes.io/zone", .object [("a", .null), ("b", .list [])]),
    ("topology.kubernetes.io/region", .list []),
    ("topology.rook.io/rack", .object [("rack1", .list [.text "n2", .text "n1"])])]

def zonesListed : Listing := [
  ("failure-domain.kubernetes.io/zone", [("b", []), ("a", []), ("b", [])]),
  ("topology.kubernetes.io/zone", [("a", []), ("b", [])]),
  ("topology.kubernetes.io/region", []),
  ("topology.rook.io/rack", [("rack1", ["n2", "n1"])])]

theorem zonesInBothForms_holds : HoldsListing zonesInBothForms zonesListed :=
  .members
    (.cons (.bare ["b", "a", "b"])
    (.cons (.recorded (.cons (.absent rfl) (.cons (.absent rfl) .nil)))
    (.cons (.bare [])
    (.cons (.recorded (.cons (.items rfl) .nil)) .nil))))

def readAndTrimmed : List Change :=
  [.read zonesInBothForms zonesListed zonesInBothForms_holds, .dropDeprecated, .copy]

def oneByOne : List Change := [
  .make [("topology.kubernetes.io/region", [])],
  .addNode "topology.rook.io/rack" "rack1" "n1",
  .addValue "topology.kubernetes.io/zone" "b",
  .addValue "kubernetes.io/hostname" "n1",
  .addValue "topology.kubernetes.io/zone" "a",
  .removeKey "kubernetes.io/hostname",
  .addNode "topology.rook.io/rack" "rack1" "n2"]

def zonesWithRack : Topology Text :=
  ofListing [
    ("topology.kubernetes.io/zone", [("a", []), ("b", [])]),
    ("topology.rook.io/rack", [("rack1", ["n1", "n2"])])]

theorem zones_alike_in_two_ways :
    ∃ t u, run readAndTrimmed = .ok t ∧ run oneByOne = .ok u ∧ t.alike u = true
      ∧ u.toDocument = t.toDocument ∧ t.isEmpty = false
      ∧ t.hasKey "topology.kubernetes.io/region" = false
      ∧ t.hasKey "failure-domain.kubernetes.io/zone" = false := by
  have recorded : run oneByOne = .ok zonesWithRack := by rfl
  have read : run readAndTrimmed = .ok zonesWithRack := by rfl
  obtain ⟨t, _, reached, _, _, _, alikeIff, _, _, sameDocument, _⟩ :=
    contents_determine_topology readAndTrimmed
  obtain rfl : t = zonesWithRack := Except.ok.inj (reached.symm.trans read)
  have alike := (alikeIff oneByOne _ recorded).mpr ⟨fun _ _ => rfl, fun _ _ _ => rfl⟩
  exact ⟨_, _, reached, recorded, alike, sameDocument oneByOne _ recorded alike, rfl, rfl, rfl⟩

end ClusterTopology.Topology
