import ClusterTopology.Proofs.Label
import ClusterTopology.Proofs.Outcome
import ClusterTopology.Resource

/-!
The resources that come of patches. When all patches are declared, each that changes something has
its resource, in their order, and there are no others.
-/

namespace ClusterTopology

namespace LabelPatch

theorem change_recordRack (node : Node) (rack : Text) :
    (recordRack node rack).change =
      if node.labels.find? rackKey = some rack then .empty
      else Table.ofList [(rackKey, some rack)] :=
  Labels.change_put node.labels rackKey rack

/-- A patch cannot be declared if its node has no name, or if it changes something and its resource is
refused. -/
def Undeclarable (refusal : Resource → Option Text) (patch : LabelPatch) : Prop :=
  patch.node = [] ∨ (patch.change.isEmpty = false ∧ (refusal patch.resource).isSome = true)

theorem declare_cases (refusal : Resource → Option Text) (patch : LabelPatch) :
    (patch.Undeclarable refusal
        ∧ ∃ reason cause, patch.declare refusal = .error (.patch patch.node reason cause))
      ∨ (¬patch.Undeclarable refusal ∧ patch.declare refusal =
        .ok (if patch.change.isEmpty then none else some patch.resource)) := by
  unfold declare Undeclarable
  by_cases unnamed : patch.node = []
  · exact Or.inl ⟨Or.inl unnamed, "node name is empty", none, by simp [unnamed]⟩
  · cases same : patch.change.isEmpty with
    | true => exact Or.inr ⟨by simp [unnamed], by simp [unnamed]⟩
    | false =>
      cases answer : refusal patch.resource with
      | some reason => exact Or.inl ⟨by simp, reason, some reason, by simp [unnamed]⟩
      | none => exact Or.inr ⟨by simp [unnamed], by simp [unnamed]⟩

theorem declareAll_eq_ok {refusal : Resource → Option Text} {patches : List LabelPatch}
    (success : (declareAll refusal patches).2 = .ok ()) :
    (declareAll refusal patches).1 =
      (patches.filter fun patch => !patch.change.isEmpty).map resource := by
  induction patches with
  | nil => rfl
  | cons patch patches ih =>
    rcases declare_cases refusal patch with ⟨_, _, _, stopped⟩ | ⟨_, declared⟩
    · rw [declareAll, stopped] at success
      exact absurd success (by simp)
    · rw [declareAll, declared] at success ⊢
      dsimp only at success ⊢
      rw [ih success, List.filter_cons]
      cases patch.change.isEmpty with
      | true => rfl
      | false => rfl

end LabelPatch

namespace Resource

theorem makeAll_eq_ok {refusal : Resource → Option Text} {resources : List Resource}
    (success : (makeAll refusal resources).2 = .ok ()) : (makeAll refusal resources).1 = resources := by
  induction resources with
  | nil => rfl
  | cons resource resources ih =>
    rw [makeAll] at success ⊢
    cases answer : refusal resource with
    | some reason =>
      rw [answer] at success
      exact absurd success (by simp)
    | none =>
      rw [answer] at success
      exact congrArg (resource :: ·) (ih success)

theorem makeAll_eq_ok_iff {refusal : Resource → Option Text} {resources : List Resource} :
    (makeAll refusal resources).2 = .ok () ↔ ∀ resource ∈ resources, refusal resource = none := by
  induction resources with
  | nil => exact iff_of_true rfl (by simp)
  | cons resource resources ih =>
    rw [makeAll, List.forall_mem_cons]
    cases refusal resource with
    | some reason => simp
    | none => simp [ih]

def withoutSecrets : Resource → Resource
  | .provider name (some (.content _)) => .provider name (some (.content ⟨[]⟩))
  | .command name host user _ create triggers => .command name host user ⟨[]⟩ create triggers
  | resource => resource

/-- Resources that differ in secrets only are all made alike by an engine that does not look at
secrets. -/
theorem makeAll_of_map_withoutSecrets {refusal : Resource → Option Text}
    (ignores : ∀ resource, refusal resource = refusal resource.withoutSecrets)
    {resources others : List Resource}
    (same : others.map withoutSecrets = resources.map withoutSecrets)
    (success : (makeAll refusal resources).2 = .ok ()) : (makeAll refusal others).2 = .ok () := by
  rw [makeAll_eq_ok_iff] at success ⊢
  intro other member
  have listed : other.withoutSecrets ∈ resources.map withoutSecrets :=
    same ▸ List.mem_map_of_mem member
  obtain ⟨resource, among, alike⟩ := List.mem_map.mp listed
  calc refusal other
    _ = refusal resource := by rw [ignores other, ignores resource, alike]
    _ = none := success resource among

def isNodePatch : Resource → Bool
  | .nodePatch .. => true
  | .provider .. => false
  | .command .. => false

end Resource

theorem Access.isNodePatch_of_mem {access : Access} {files : Files} {made : List Resource}
    (success : access.resources files = .ok made) {resource : Resource} (member : resource ∈ made) :
    resource.isNodePatch = false := by
  unfold resources at success
  split at success
  · obtain ⟨secret, _, success⟩ := exists_of_bind_eq_ok success
    obtain rfl := Except.ok.inj success
    rw [List.mem_singleton.mp member]
    rfl
  · obtain rfl := Except.ok.inj success
    rw [List.mem_singleton.mp member]
    rfl
  · split at success
    · exact absurd success (by simp)
    · obtain rfl := Except.ok.inj success
      rcases List.mem_cons.mp member with rfl | rest
      · rfl
      · rw [List.mem_singleton.mp rest]
        rfl

end ClusterTopology
