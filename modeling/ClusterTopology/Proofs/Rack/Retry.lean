import ClusterTopology.Proofs.Rack.Recording

/-!
Passes tried again. A pass records a node before it offers the patch, and a recorded node counts as
one with a rack; so the node at whose patch a pass is broken off is not offered a patch again. What
remains of it is the record, from which its patch is made whenever the recorded racks are declared.
-/

namespace ClusterTopology.Topology

/-- Passes over the same nodes, each on the topology that the one before it left: what came of each,
and the topology they lead to. -/
inductive Passes (nodes : List Node) (minimum : Int) (t : Topology Text) :
    List (Outcome (Topology Text) (List LabelPatch)) → Topology Text → Prop
  | none : Passes nodes minimum t [] t
  | again {outcomes : List (Outcome (Topology Text) (List LabelPatch))} {reached : Topology Text}
      (earlier : Passes nodes minimum t outcomes reached) (patcher : Patcher) :
      Passes nodes minimum t (outcomes ++ [reached.ensureRacks nodes minimum patcher])
        (reached.ensureRacks nodes minimum patcher).state

def AcceptedIn (outcomes : List (Outcome (Topology Text) (List LabelPatch))) (node : Node) : Prop :=
  ∃ pass ∈ outcomes, ∃ patch ∈ acceptedIn pass.events, patch.node = node.name

/-- A pass was broken off at the patch that gives a node a rack. -/
def BrokenOffAt (pass : Outcome (Topology Text) (List LabelPatch)) (node : Node) (rack : Text) :
    Prop :=
  (∃ fault, pass.result = .error fault)
    ∧ offeredIn pass.events = acceptedIn pass.events ++ [.recordRack node rack]

theorem Passes.exists_offered_of_records {nodes : List Node} {minimum : Int}
    {t reached : Topology Text} {outcomes : List (Outcome (Topology Text) (List LabelPatch))}
    (passes : Passes nodes minimum t outcomes reached)
    (free : ∀ rack node, t.records rackKey rack node = false) {rack node : Text}
    (recorded : reached.records rackKey rack node = true) :
    ∃ (start : Topology Text) (patcher : Patcher), start.ensureRacks nodes minimum patcher ∈ outcomes
      ∧ GivenBy (offeredIn (start.ensureRacks nodes minimum patcher).events) rack node := by
  induction passes with
  | none =>
    rw [free] at recorded
    exact absurd recorded (by simp)
  | @again outcomes middle _ patcher ih =>
    rcases (middle.records_ensureRacks_iff nodes minimum patcher rack node).mp recorded with
      before | offered
    · obtain ⟨start, answers, member, offered⟩ := ih before
      exact ⟨start, answers, List.mem_append_left _ member, offered⟩
    · exact ⟨middle, patcher, List.mem_append_right _ List.mem_cons_self, offered⟩

/-- The rack that is recorded for a node without a rack label was accepted as a patch in one of the
passes, or one of them was broken off at that patch. -/
theorem Passes.accepted_or_brokenOff {nodes : List Node} (distinct : (nodes.map Node.name).Nodup)
    {minimum : Int} {t reached : Topology Text}
    {outcomes : List (Outcome (Topology Text) (List LabelPatch))}
    (passes : Passes nodes minimum t outcomes reached)
    (free : ∀ rack node, t.records rackKey rack node = false) {node : Node} (listed : node ∈ nodes)
    {rack : Text} (recorded : reached.records rackKey rack node.name = true) :
    AcceptedIn outcomes node ∨ ∃ pass ∈ outcomes, BrokenOffAt pass node rack := by
  obtain ⟨start, patcher, member, patch, offered, sameName, names⟩ :=
    passes.exists_offered_of_records free recorded
  obtain ⟨placed, listedPlaced, _, given, rfl⟩ :=
    start.formed_of_mem_offeredIn nodes minimum patcher offered
  obtain rfl : placed = node := List.inj_on_of_nodup_map distinct listedPlaced listed sameName
  obtain rfl : given = rack := by simpa using names
  rcases accepted_or_last_of_offered offered with accepted | brokenOff
  · exact Or.inl ⟨_, member, _, accepted, rfl⟩
  · exact Or.inr ⟨_, member, brokenOff⟩

/-- When a pass succeeds at last, every node has a rack label, or had its patch accepted in this or
an earlier pass, or is the node at whose patch an earlier pass was broken off; and then its rack is
still recorded, so that the patches of the recorded racks contain its own. -/
theorem rack_label_kept_or_recorded {nodes : List Node} (distinct : (nodes.map Node.name).Nodup)
    {minimum : Int} {t reached : Topology Text}
    (free : ∀ rack node, t.records rackKey rack node = false)
    {earlier : List (Outcome (Topology Text) (List LabelPatch))}
    (passes : Passes nodes minimum t earlier reached) {patcher : Patcher}
    {patches : List LabelPatch}
    (success : (reached.ensureRacks nodes minimum patcher).result = .ok patches) :
    let last := reached.ensureRacks nodes minimum patcher
    ∀ node ∈ nodes,
      (∃ rack, node.NamesRack rack)
        ∨ AcceptedIn (earlier ++ [last]) node
        ∨ ∃ rack, rack ≠ [] ∧ (∃ pass ∈ earlier, BrokenOffAt pass node rack)
          ∧ last.state.recordedRack node.name = .ok rack
          ∧ ∃ declared, last.state.rackPatches nodes = .ok declared
            ∧ .recordRack node rack ∈ declared := by
  intro last node listed
  by_cases named : ∃ rack, node.NamesRack rack
  · exact Or.inl named
  refine Or.inr ?_
  by_cases unrecorded : reached.rackOf node.name = []
  · -- No rack is found for the node, so this pass places it.
    have nowhere : ∀ rack, ¬reached.Stands [] rack node := by
      rintro rack (names | ⟨nonempty, recorded⟩ | ⟨_, none, _⟩)
      · exact named ⟨rack, names⟩
      · rw [recordedRack_eq, unrecorded] at recorded
        exact nonempty (Except.ok.inj recorded).symm
      · exact absurd none (by simp)
    obtain ⟨patch, accepted, sameName⟩ := exists_accepted_of_ok distinct success listed nowhere
    exact Or.inl ⟨last, by simp, patch, accepted, sameName⟩
  · -- A rack was recorded before, so an earlier pass offered its patch.
    have recorded := reached.recordedRack_eq node.name
    rcases passes.accepted_or_brokenOff distinct free listed
        (reached.records_of_recordedRack recorded unrecorded) with accepted | brokenOff
    · obtain ⟨pass, member, found⟩ := accepted
      exact Or.inl ⟨pass, List.mem_append_left _ member, found⟩
    · have kept : last.state.recordedRack node.name = .ok (reached.rackOf node.name) :=
        (recordedRack_ensureRacks_of_stands distinct listed
          (Or.inr (Or.inl ⟨unrecorded, recorded⟩))).trans recorded
      obtain ⟨declared, made, member⟩ := last.state.exists_rackPatches nodes
      exact Or.inr ⟨_, unrecorded, brokenOff, kept, declared, made,
        (member _).mpr ⟨node, listed, _, unrecorded, kept, rfl⟩⟩

/-! The node at whose patch a pass is broken off: two nodes without labels, the second refused. -/

def unlabelledPair : List Node := [⟨"n0", .empty⟩, ⟨"n1", .empty⟩]

theorem ensureRacks_unlabelledPair (minimum : Int) (patcher : Patcher) :
    (empty : Topology Text).ensureRacks unlabelledPair minimum patcher =
      (Balance.placeNodes ⟨minimum, Zones.ofNodes unlabelledPair, patcher⟩ unlabelledPair
        ⟨.empty, empty, []⟩).within Balance.topology :=
  ensureRacks_of_sorted rfl (by decide) (by decide) (by decide) minimum patcher

def refusing (name : Text) : Patcher := fun _ patch =>
  if patch.node = name then .refused name "refused" else .accepted

def accepting : Patcher := fun _ _ => .accepted

def brokenOffPass : Outcome (Topology Text) (List LabelPatch) :=
  (empty : Topology Text).ensureRacks unlabelledPair 1 (refusing "n1")

def nextPass : Outcome (Topology Text) (List LabelPatch) :=
  brokenOffPass.state.ensureRacks unlabelledPair 1 accepting

theorem passes_brokenOffPass :
    Passes unlabelledPair 1 empty ([] ++ [brokenOffPass]) brokenOffPass.state :=
  .again .none (refusing "n1")

theorem result_nextPass : nextPass.result = .ok [] := by
  rw [nextPass, brokenOffPass, ensureRacks_unlabelledPair]
  with_unfolding_all rfl

theorem accepted_passes :
    ([brokenOffPass, nextPass].flatMap fun pass =>
      (acceptedIn pass.events).map LabelPatch.node) = [("n0" : Text)] := by
  rw [nextPass, brokenOffPass, ensureRacks_unlabelledPair]
  decide +kernel

theorem not_records_empty (rack node : Text) :
    (empty : Topology Text).records rackKey rack node = false :=
  rfl

theorem refused_unlabelled_unaccepted :
    (¬∃ rack, Node.NamesRack ⟨"n1", .empty⟩ rack)
      ∧ ¬AcceptedIn [brokenOffPass, nextPass] ⟨"n1", .empty⟩ := by
  constructor
  · rintro ⟨rack, label, _, found⟩
    rw [Table.find?_empty] at found
    exact absurd found (by simp)
  · rintro ⟨pass, member, patch, accepted, sameName⟩
    have named : patch.node ∈ [brokenOffPass, nextPass].flatMap fun pass =>
        (acceptedIn pass.events).map LabelPatch.node :=
      List.mem_flatMap.mpr ⟨pass, member, List.mem_map.mpr ⟨patch, accepted, rfl⟩⟩
    rw [accepted_passes, sameName] at named
    exact absurd named (by decide)

/-- Of the refused node the first pass did not get the patch accepted, the second pass does not
offer it, and it succeeds. -/
theorem not_labelled_or_accepted_after_retry :
    ¬∀ (nodes : List Node), (nodes.map Node.name).Nodup → ∀ (minimum : Int), 1 ≤ minimum →
      ∀ (t reached : Topology Text), (∀ rack node, t.records rackKey rack node = false) →
      ∀ earlier, Passes nodes minimum t earlier reached → ∀ patcher patches,
        (reached.ensureRacks nodes minimum patcher).result = .ok patches →
        ∀ node ∈ nodes, (∃ rack, node.NamesRack rack)
          ∨ AcceptedIn (earlier ++ [reached.ensureRacks nodes minimum patcher]) node := by
  intro claimed
  have found := claimed unlabelledPair (by decide) 1 (by decide) empty _ not_records_empty _
    passes_brokenOffPass accepting [] result_nextPass ⟨"n1", .empty⟩ (by simp [unlabelledPair])
  rcases found with labelled | accepted
  · exact refused_unlabelled_unaccepted.1 labelled
  · exact refused_unlabelled_unaccepted.2 accepted

theorem refused_declared_after_retry :
    ∃ rack, rack ≠ [] ∧ ∃ declared, nextPass.state.rackPatches unlabelledPair = .ok declared
      ∧ .recordRack ⟨"n1", .empty⟩ rack ∈ declared := by
  have distinct : (unlabelledPair.map Node.name).Nodup := by decide
  have found := rack_label_kept_or_recorded distinct not_records_empty passes_brokenOffPass
    result_nextPass ⟨"n1", .empty⟩ (by simp [unlabelledPair])
  rcases found with labelled | accepted | ⟨rack, nonempty, _, _, declared⟩
  · exact absurd labelled refused_unlabelled_unaccepted.1
  · exact absurd accepted refused_unlabelled_unaccepted.2
  · exact ⟨rack, nonempty, declared⟩

end ClusterTopology.Topology
