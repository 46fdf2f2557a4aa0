import ClusterTopology.Proofs.Resource

/-!
What declared patches make of the labels of live nodes. A patch resource is merged into the labels of
its node, so the resources of all patches give every node its new labels. A batch that breaks off has
done so for the nodes before the first patch that cannot be declared, and for no others.
-/

namespace ClusterTopology

namespace Resource

def appliedTo (live : Text → Labels) : Resource → Text → Labels
  | .nodePatch _ node change => fun other =>
    if other = node then Labels.merge (live node) change else live other
  | .provider .. => live
  | .command .. => live

def allAppliedTo (live : Text → Labels) (made : List Resource) : Text → Labels :=
  made.foldl appliedTo live

end Resource

namespace LabelPatch

/-- The nodes of patches have their new labels, and all other nodes the labels that they had. -/
structure Settled (patches : List LabelPatch) (before after : Text → Labels) : Prop where
  new : ∀ patch ∈ patches, after patch.node = patch.new
  others : ∀ node ∉ patches.map LabelPatch.node, after node = before node

section

variable {refusal : Resource → Option Text} {patch : LabelPatch} {patches : List LabelPatch}
  {live middle after : Text → Labels}

theorem Settled.cons (first : Settled [patch] live middle) (later : Settled patches middle after)
    (absent : patch.node ∉ patches.map LabelPatch.node) : Settled (patch :: patches) live after := by
  constructor
  · intro other member
    rcases List.mem_cons.mp member with rfl | member
    · rw [later.others _ absent]
      exact first.new _ (by simp)
    · exact later.new other member
  · intro node elsewhere
    rw [List.map_cons, List.mem_cons, not_or] at elsewhere
    rw [later.others node elsewhere.2]
    exact first.others node (by simpa using elsewhere.1)

/-- Nodes of later patches keep the labels that these were made for. -/
theorem Settled.old_of_later {earlier later : List LabelPatch} (settled : Settled earlier live after)
    (distinct : ((earlier ++ later).map LabelPatch.node).Nodup)
    (current : ∀ patch ∈ earlier ++ later, live patch.node = patch.old) :
    ∀ patch ∈ later, after patch.node = patch.old := by
  intro patch member
  have elsewhere : patch.node ∉ earlier.map LabelPatch.node := by
    intro among
    rw [List.map_append] at distinct
    exact (List.nodup_append.mp distinct).2.2 _ among _ (List.mem_map_of_mem member) rfl
  exact (settled.others _ elsewhere).trans (current patch (List.mem_append_right _ member))

theorem settled_declared (current : live patch.node = patch.old) :
    Settled [patch] live (Resource.allAppliedTo live
      (if patch.change.isEmpty then none else some patch.resource).toList) := by
  cases same : patch.change.isEmpty with
  | true =>
    have equal : patch.old = patch.new := Labels.isEmpty_change_iff.mp same
    exact ⟨by simp [Resource.allAppliedTo, current, equal], by simp [Resource.allAppliedTo]⟩
  | false =>
    have merged : Labels.merge patch.old patch.change = patch.new := Labels.merge_change _ _
    constructor
    · simp [Resource.allAppliedTo, Resource.appliedTo, resource, current, merged]
    · intro node elsewhere
      have different : node ≠ patch.node := by simpa using elsewhere
      simp [Resource.allAppliedTo, Resource.appliedTo, resource, different]

/-- The patches before the first that cannot be declared reach their nodes, and the others do not. -/
theorem exists_settled_declareAll (distinct : (patches.map LabelPatch.node).Nodup)
    (current : ∀ patch ∈ patches, live patch.node = patch.old) :
    ∃ earlier rest, patches = earlier ++ rest ∧ (∀ patch ∈ earlier, ¬patch.Undeclarable refusal)
      ∧ Settled earlier live (Resource.allAppliedTo live (declareAll refusal patches).1)
      ∧ ((rest = [] ∧ (declareAll refusal patches).2 = .ok ())
        ∨ ∃ failing later reason cause, rest = failing :: later ∧ failing.Undeclarable refusal
          ∧ (declareAll refusal patches).2 = .error (.patch failing.node reason cause)) := by
  induction patches generalizing live with
  | nil =>
    have nothing : Settled [] live (Resource.allAppliedTo live []) := ⟨by simp, fun _ _ => rfl⟩
    exact ⟨[], [], rfl, by simp, nothing, Or.inl ⟨rfl, rfl⟩⟩
  | cons patch patches ih =>
    rcases declare_cases refusal patch with ⟨failing, reason, cause, stopped⟩ | ⟨good, declared⟩
    · have none : declareAll refusal (patch :: patches) =
          ([], .error (.patch patch.node reason cause)) := by
        rw [declareAll, stopped]
      rw [none]
      exact ⟨[], patch :: patches, rfl, by simp, ⟨by simp, fun _ _ => rfl⟩,
        Or.inr ⟨patch, patches, reason, cause, rfl, failing, rfl⟩⟩
    · have first := settled_declared (current patch List.mem_cons_self)
      have others := first.old_of_later distinct current
      obtain ⟨absent, distinct⟩ := List.nodup_cons.mp distinct
      obtain ⟨earlier, rest, rfl, goods, settled, ends⟩ := ih distinct others
      have both : declareAll refusal (patch :: (earlier ++ rest)) =
          ((if patch.change.isEmpty then none else some patch.resource).toList
            ++ (declareAll refusal (earlier ++ rest)).1, (declareAll refusal (earlier ++ rest)).2) := by
        rw [declareAll, declared]
      rw [both]
      refine ⟨patch :: earlier, rest, rfl, ?_, ?_, ends⟩
      · rw [List.forall_mem_cons]
        exact ⟨good, goods⟩
      · have absentEarlier : patch.node ∉ earlier.map LabelPatch.node := by
          intro among
          rw [List.map_append] at absent
          exact absent (List.mem_append_left _ among)
        unfold Resource.allAppliedTo at settled ⊢
        rw [List.foldl_append]
        exact first.cons settled absentEarlier

theorem exists_of_mem_declareAll {made : Resource}
    (member : made ∈ (declareAll refusal patches).1) : ∃ patch ∈ patches, made = patch.resource := by
  induction patches with
  | nil => exact absurd member (by simp [declareAll])
  | cons patch patches ih =>
    rcases declare_cases refusal patch with ⟨_, _, _, stopped⟩ | ⟨_, declared⟩
    · rw [declareAll, stopped] at member
      exact absurd member (by simp)
    · rw [declareAll, declared] at member
      rcases List.mem_append.mp member with here | later
      · refine ⟨patch, List.mem_cons_self, ?_⟩
        split at here
        · exact absurd here (by simp)
        · simpa using here
      · obtain ⟨other, listed, same⟩ := ih later
        exact ⟨other, List.mem_cons_of_mem _ listed, same⟩

end

/-- Patches of different nodes, made for the labels that the nodes have. If all can be declared the
nodes have the new labels afterwards. Otherwise the first that cannot decides the fault; the nodes of
the patches before it have their new labels, and all others the old ones. No resource speaks of a
label of which another one to the same end would not have to speak as well. -/
theorem declared_patches_reach_new_labels {patches : List LabelPatch}
    (distinct : (patches.map LabelPatch.node).Nodup) (refusal : Resource → Option Text)
    {live : Text → Labels} (current : ∀ patch ∈ patches, live patch.node = patch.old) :
    let declared := declareAll refusal patches
    let after := Resource.allAppliedTo live declared.1
    ((declared.2 = .ok () ∧ (∀ patch ∈ patches, ¬patch.Undeclarable refusal)
          ∧ Settled patches live after)
        ∨ ∃ earlier failing later, patches = earlier ++ failing :: later
          ∧ (∀ patch ∈ earlier, ¬patch.Undeclarable refusal) ∧ failing.Undeclarable refusal
          ∧ (∃ reason cause, declared.2 = .error (.patch failing.node reason cause))
          ∧ Settled earlier live after ∧ ∀ patch ∈ failing :: later, after patch.node = patch.old)
      ∧ ∀ made ∈ declared.1, ∃ patch ∈ patches,
        made = .nodePatch patch.resourceName patch.node patch.change
          ∧ ∀ other, Labels.merge patch.old other = patch.new →
            ∀ key, patch.change.contains key = true → other.contains key = true := by
  intro declared after
  constructor
  · obtain ⟨earlier, rest, rfl, goods, settled, ends⟩ := exists_settled_declareAll distinct current
    rcases ends with ⟨rfl, success⟩ | ⟨failing, later, reason, cause, rfl, bad, failure⟩
    · rw [List.append_nil] at *
      exact Or.inl ⟨success, goods, settled⟩
    · exact Or.inr ⟨earlier, failing, later, rfl, goods, bad, ⟨reason, cause, failure⟩, settled,
        settled.old_of_later distinct current⟩
  · intro made member
    obtain ⟨patch, listed, rfl⟩ := exists_of_mem_declareAll member
    exact ⟨patch, listed, rfl, fun other leads key => Labels.contains_of_merge_eq leads⟩

/-! Three nodes, of which the second keeps its labels, where declarations are refused for all but the
first. -/

def relabelledFirst : LabelPatch :=
  ⟨"n0", .ofList [("disk", "ssd"), ("tier", "1")], .ofList [("disk", "hdd"), ("size", "2")]⟩

def relabelledThree : List LabelPatch :=
  [relabelledFirst, ⟨"n1", .empty, .empty⟩, ⟨"n2", .empty, .ofList [("disk", "ssd")]⟩]

def firstAlone : Resource → Option Text
  | .nodePatch _ node _ => if node = "n0" then none else some "boom"
  | _ => none

def labelsBefore (node : Text) : Labels := if node = "n0" then relabelledFirst.old else .empty

/-- The first node has its new labels although the third was refused. -/
theorem first_relabelled_though_third_refused :
    (relabelledThree.map node).Nodup
      ∧ (∀ patch ∈ relabelledThree, labelsBefore patch.node = patch.old)
      ∧ (declareAll firstAlone relabelledThree).2 = .error (.patch "n2" "boom" (some "boom"))
      ∧ Resource.allAppliedTo labelsBefore (declareAll firstAlone relabelledThree).1 "n0" =
        relabelledFirst.new := by
  have distinct : (relabelledThree.map node).Nodup := by decide
  have current : ∀ patch ∈ relabelledThree, labelsBefore patch.node = patch.old := by
    simp only [relabelledThree, List.forall_mem_cons]
    exact ⟨rfl, rfl, rfl, by simp⟩
  have failure : (declareAll firstAlone relabelledThree).2 =
      .error (.patch "n2" "boom" (some "boom")) := rfl
  refine ⟨distinct, current, failure, ?_⟩
  obtain ⟨⟨success, _⟩ | ⟨earlier, failing, later, split, _, bad, _, settled, _⟩, _⟩ :=
    declared_patches_reach_new_labels distinct firstAlone current
  · rw [failure] at success
    exact absurd success (by simp)
  · cases earlier with
    | nil =>
      obtain ⟨rfl, _⟩ := List.cons.inj split
      have named : relabelledFirst.node ≠ [] := by decide
      have unrefused : firstAlone relabelledFirst.resource = none := rfl
      rcases bad with unnamed | ⟨_, refused⟩
      · exact absurd unnamed named
      · rw [unrefused] at refused
        exact absurd refused (by simp)
    | cons first earlier =>
      obtain ⟨rfl, _⟩ := List.cons.inj split
      exact settled.new relabelledFirst List.mem_cons_self

end LabelPatch
end ClusterTopology
