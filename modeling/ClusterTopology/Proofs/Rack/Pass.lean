import ClusterTopology.Proofs.Rack.Membership
import ClusterTopology.Rack.Balance

/-!
What one step of a pass does, and what a pass keeps because every step keeps it. A step either finds
no rack and ends the pass, or it puts its node into a rack, records the pair, and offers the patch;
whether the patch is accepted decides only if the pass goes on.
-/

namespace ClusterTopology

namespace PatchAnswer

def isAccepted : PatchAnswer → Bool
  | .accepted => true
  | .refused _ _ => false
  | .brokenOff _ => false

def result (patch : LabelPatch) : PatchAnswer → Except Fault LabelPatch
  | .accepted => .ok patch
  | .refused node reason => .error (.patch node reason none)
  | .brokenOff reason => .error (.patch patch.node reason (some reason))

theorem result_of_isAccepted {answer : PatchAnswer} {patch : LabelPatch}
    (accepted : answer.isAccepted = true) : answer.result patch = .ok patch := by
  cases answer with
  | accepted => rfl
  | refused node reason => exact absurd accepted (by simp [isAccepted])
  | brokenOff reason => exact absurd accepted (by simp [isAccepted])

theorem result_of_not_isAccepted {answer : PatchAnswer} (patch : LabelPatch)
    (notAccepted : answer.isAccepted = false) : ∃ fault, answer.result patch = .error fault := by
  cases answer with
  | accepted => exact absurd notAccepted (by simp [isAccepted])
  | refused node reason => exact ⟨_, rfl⟩
  | brokenOff reason => exact ⟨_, rfl⟩

end PatchAnswer

def Patcher.Accepting (patcher : Patcher) : Prop :=
  ∀ offered patch, (patcher offered patch).isAccepted = true

def LabelPatch.rack? (patch : LabelPatch) : Option Text := patch.new.find? rackKey

@[simp] theorem LabelPatch.rack?_recordRack (node : Node) (rack : Text) :
    (recordRack node rack).rack? = some rack :=
  Table.find?_put_self _ _ _

@[simp] theorem LabelPatch.node_recordRack (node : Node) (rack : Text) :
    (recordRack node rack).node = node.name := rfl

def GivenBy (patches : List LabelPatch) (rack node : Text) : Prop :=
  ∃ patch ∈ patches, patch.node = node ∧ patch.rack? = some rack

theorem givenBy_append_iff (patches : List LabelPatch) (patch : LabelPatch) (rack node : Text) :
    GivenBy (patches ++ [patch]) rack node ↔
      GivenBy patches rack node ∨ (patch.node = node ∧ patch.rack? = some rack) := by
  unfold GivenBy
  constructor
  · rintro ⟨found, listed, names⟩
    rcases List.mem_append.mp listed with earlier | last
    · exact Or.inl ⟨found, earlier, names⟩
    · obtain rfl := List.mem_singleton.mp last
      exact Or.inr names
  · rintro (⟨found, listed, names⟩ | names)
    · exact ⟨found, List.mem_append_left _ listed, names⟩
    · exact ⟨patch, List.mem_append_right _ List.mem_cons_self, names⟩

namespace Balance

variable {α : Type} [Name α]

def given (balance : Balance α) (racks : Racks) (node : Node) (rack : Text) : Balance α where
  racks := racks.addNode rack node.name
  topology := balance.topology.addNode rackKey (Name.ofText rack) (Name.ofText node.name)
  offered := balance.offered ++ [.recordRack node rack]

variable (rules : BalanceRules)

theorem placeNode_of_error {balance : Balance α} {node : Node} {fault : Fault}
    (none : (balance.racks.place rules.minimumRacks rules.zones node).result = .error fault) :
    balance.placeNode rules node =
      ⟨{ balance with racks := (balance.racks.place rules.minimumRacks rules.zones node).state },
        (balance.racks.place rules.minimumRacks rules.zones node).events, .error fault⟩ := by
  unfold placeNode
  exact Outcome.andThen_of_error _ none

theorem offer_eq (balance : Balance α) (patcher : Patcher) (patch : LabelPatch) :
    balance.offer patcher patch =
      ⟨{ balance with offered := balance.offered ++ [patch] },
        [.patchOffered patch (patcher balance.offered patch).isAccepted],
        (patcher balance.offered patch).result patch⟩ := by
  unfold offer
  cases patcher balance.offered patch <;> rfl

def assignmentEvents (balance : Balance α) (node : Node) (rack : Text) : List Event :=
  (if balance.topology.hasValue rackKey (Name.ofText rack) then []
    else [.rackFound node.name rack]) ++ [.rackAssigned node.name rack]

theorem placeNode_of_ok {balance : Balance α} {node : Node} {rack : Text}
    (found : (balance.racks.place rules.minimumRacks rules.zones node).result = .ok rack) :
    balance.placeNode rules node =
      ⟨balance.given (balance.racks.place rules.minimumRacks rules.zones node).state node rack,
        (balance.racks.place rules.minimumRacks rules.zones node).events
          ++ (balance.assignmentEvents node rack
            ++ [.patchOffered (.recordRack node rack)
              (rules.patcher balance.offered (.recordRack node rack)).isAccepted]),
        (rules.patcher balance.offered (.recordRack node rack)).result
          (.recordRack node rack)⟩ := by
  have placed : ((balance.racks.place rules.minimumRacks rules.zones node).within
      fun racks => { balance with racks := racks }).result = .ok rack := found
  unfold placeNode
  dsimp only
  rw [Outcome.andThen_of_ok _ placed,
    Outcome.andThen_of_ok _ (rfl : (record _ node rack).result = .ok ()), offer_eq]
  rfl

section

variable {rules} {balance : Balance α} {node : Node} {rack : Text}

theorem result_placeNode_of_accepted
    (found : (balance.racks.place rules.minimumRacks rules.zones node).result = .ok rack)
    (accepted : (rules.patcher balance.offered (.recordRack node rack)).isAccepted = true) :
    (balance.placeNode rules node).result = .ok (.recordRack node rack) := by
  rw [placeNode_of_ok rules found]
  exact PatchAnswer.result_of_isAccepted accepted

theorem state_placeNode_of_ok
    (found : (balance.racks.place rules.minimumRacks rules.zones node).result = .ok rack) :
    (balance.placeNode rules node).state =
      balance.given (balance.racks.place rules.minimumRacks rules.zones node).state node rack := by
  rw [placeNode_of_ok rules found]

theorem racks_placeNode
    (found : (balance.racks.place rules.minimumRacks rules.zones node).result = .ok rack) :
    (balance.placeNode rules node).state.racks =
      (balance.racks.place rules.minimumRacks rules.zones node).state.addNode rack node.name := by
  rw [state_placeNode_of_ok found]
  rfl

end

theorem state_placeNode {balance : Balance α} {node : Node} {motive : Balance α → Prop}
    (stuck : ∀ fault,
      (balance.racks.place rules.minimumRacks rules.zones node).result = .error fault →
        motive { balance with
          racks := (balance.racks.place rules.minimumRacks rules.zones node).state })
    (given : ∀ rack,
      (balance.racks.place rules.minimumRacks rules.zones node).result = .ok rack →
        motive (balance.given (balance.racks.place rules.minimumRacks rules.zones node).state
          node rack)) :
    motive (balance.placeNode rules node).state := by
  cases chosen : (balance.racks.place rules.minimumRacks rules.zones node).result with
  | error fault =>
    rw [placeNode_of_error rules chosen]
    exact stuck fault chosen
  | ok rack =>
    rw [placeNode_of_ok rules chosen]
    exact given rack chosen

/-! A pass is its first step and the pass over the nodes that are left. -/

theorem placeNodes_cons_of_error {balance : Balance α} {node : Node} {fault : Fault}
    (nodes : List Node) (failure : (balance.placeNode rules node).result = .error fault) :
    balance.placeNodes rules (node :: nodes) =
      ⟨(balance.placeNode rules node).state, (balance.placeNode rules node).events,
        .error fault⟩ := by
  unfold placeNodes
  exact Outcome.andThen_of_error _ failure

theorem placeNodes_cons_of_ok {balance : Balance α} {node : Node} {patch : LabelPatch}
    (nodes : List Node) (success : (balance.placeNode rules node).result = .ok patch) :
    balance.placeNodes rules (node :: nodes) =
      ⟨((balance.placeNode rules node).state.placeNodes rules nodes).state,
        (balance.placeNode rules node).events
          ++ ((balance.placeNode rules node).state.placeNodes rules nodes).events,
        ((balance.placeNode rules node).state.placeNodes rules nodes).result.map
          (patch :: ·)⟩ := by
  rw [placeNodes, Outcome.andThen_of_ok _ success]
  generalize (balance.placeNode rules node).state.placeNodes rules nodes = rest
  cases result : rest.result with
  | error fault =>
    rw [Outcome.andThen_of_error _ result]
    rfl
  | ok patches =>
    rw [Outcome.andThen_of_ok _ result]
    simp only [Outcome.after, Outcome.done, List.append_nil, Except.map]

/-- A pass keeps what every one of its steps keeps, also when a step ends it. -/
theorem placeNodes_invariant {motive : Balance α → Prop} {nodes : List Node}
    {balance : Balance α} (start : motive balance)
    (step : ∀ node ∈ nodes, ∀ balance : Balance α, motive balance →
      motive (balance.placeNode rules node).state) :
    motive (balance.placeNodes rules nodes).state := by
  induction nodes generalizing balance with
  | nil => exact start
  | cons node nodes ih =>
    have first := step node List.mem_cons_self balance start
    cases result : (balance.placeNode rules node).result with
    | error fault =>
      rw [placeNodes_cons_of_error rules nodes result]
      exact first
    | ok patch =>
      rw [placeNodes_cons_of_ok rules nodes result]
      exact ih first fun other member => step other (List.mem_cons_of_mem _ member)

/-- After a pass the racks hold the nodes they held before and those that its patches name. -/
theorem holds_placeNodes_iff {start : Balance α} (fresh : start.offered = []) (nodes : List Node)
    (rack member : Text) :
    (start.placeNodes rules nodes).state.racks.Holds rack member ↔
      start.racks.Holds rack member
        ∨ GivenBy (start.placeNodes rules nodes).state.offered rack member := by
  let kept (balance : Balance α) : Prop :=
    balance.racks.Holds rack member ↔
      start.racks.Holds rack member ∨ GivenBy balance.offered rack member
  apply placeNodes_invariant rules (motive := kept)
  · simp [kept, fresh, GivenBy]
  · intro node _ balance before
    apply state_placeNode rules (motive := kept)
    · intro fault _
      simp only [kept, Racks.holds_place_iff]
      exact before
    · intro chosen _
      simp only [kept, given, Racks.holds_addNode_iff, Racks.holds_place_iff,
        givenBy_append_iff, LabelPatch.node_recordRack, LabelPatch.rack?_recordRack,
        Option.some.injEq, before.eq]
      grind

end Balance
end ClusterTopology
