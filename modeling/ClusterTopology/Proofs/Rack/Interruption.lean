import ClusterTopology.Proofs.Rack.Success

/-!
Passes that are broken off. Whether a patch is accepted decides if a pass goes on, never where a node
goes. So a pass offers the patches that it would offer if all of them were accepted, up to the first
that is not, and leaves just the racks of those recorded.
-/

namespace ClusterTopology

def Patcher.acceptAll : Patcher := fun _ _ => .accepted

/-- All of some patches are accepted, each of them offered after the ones before it. -/
def Patcher.Accepts (patcher : Patcher) : (offered patches : List LabelPatch) → Prop
  | _, [] => True
  | offered, patch :: patches =>
    (patcher offered patch).isAccepted = true ∧ patcher.Accepts (offered ++ [patch]) patches

namespace Balance

variable {α : Type} [Name α] (rules : BalanceRules)

def plan (nodes : List Node) (balance : Balance α) : List LabelPatch :=
  offeredIn (balance.placeNodes { rules with patcher := .acceptAll } nodes).events

section

variable {rules} {node : Node} {balance : Balance α} {rack : Text}

theorem plan_cons (nodes : List Node)
    (found : (balance.racks.place rules.minimumRacks rules.zones node).result = .ok rack) :
    plan rules (node :: nodes) balance =
      .recordRack node rack :: plan rules nodes (balance.placeNode rules node).state := by
  let accepting : BalanceRules := { rules with patcher := .acceptAll }
  have foundAlike : (balance.racks.place accepting.minimumRacks accepting.zones node).result =
      .ok rack := found
  have success := result_placeNode_of_accepted foundAlike rfl
  unfold plan
  rw [placeNodes_cons_of_ok accepting nodes success, offeredIn_append,
    (placeNode_offers accepting foundAlike).1, state_placeNode_of_ok foundAlike,
    state_placeNode_of_ok found]
  rfl

end

variable (positive : 1 ≤ rules.minimumRacks)

include positive

theorem placeNodes_of_accepts {nodes : List Node} {balance : Balance α}
    (accepts : rules.patcher.Accepts balance.offered (plan rules nodes balance)) :
    (balance.placeNodes rules nodes).result = .ok (plan rules nodes balance)
      ∧ offeredIn (balance.placeNodes rules nodes).events = plan rules nodes balance := by
  induction nodes generalizing balance with
  | nil => exact ⟨rfl, rfl⟩
  | cons node nodes ih =>
    obtain ⟨rack, found⟩ := Racks.exists_place_eq_ok positive balance.racks rules.zones node
    obtain ⟨offered, remembered, _⟩ := placeNode_offers rules found
    rw [plan_cons nodes found] at accepts ⊢
    have success := result_placeNode_of_accepted found accepts.1
    obtain ⟨result, offeredLater⟩ := ih (remembered ▸ accepts.2)
    rw [placeNodes_cons_of_ok rules nodes success]
    exact ⟨by rw [result]; rfl, by rw [offeredIn_append, offered, offeredLater]; rfl⟩

/-- The first patch of the plan that is not accepted is the last one of the pass, which fails with
what came of that patch. -/
theorem placeNodes_of_unaccepted {nodes : List Node} {balance : Balance α}
    {earlier later : List LabelPatch} {patch : LabelPatch} {fault : Fault}
    (split : plan rules nodes balance = earlier ++ patch :: later)
    (accepts : rules.patcher.Accepts balance.offered earlier)
    (failure : (rules.patcher (balance.offered ++ earlier) patch).result patch = .error fault) :
    (balance.placeNodes rules nodes).result = .error fault
      ∧ offeredIn (balance.placeNodes rules nodes).events = earlier ++ [patch] := by
  induction nodes generalizing balance earlier with
  | nil => exact absurd split (by simp [plan, placeNodes, Outcome.done])
  | cons node nodes ih =>
    obtain ⟨rack, found⟩ := Racks.exists_place_eq_ok positive balance.racks rules.zones node
    obtain ⟨offered, remembered, _⟩ := placeNode_offers rules found
    rw [plan_cons nodes found] at split
    cases earlier with
    | nil =>
      -- The patch of the first node ends the pass.
      obtain ⟨rfl, _⟩ := List.cons.inj split
      have stopped : (balance.placeNode rules node).result = .error fault := by
        rw [placeNode_of_ok rules found]
        rwa [List.append_nil] at failure
      rw [placeNodes_cons_of_error rules nodes stopped]
      exact ⟨rfl, offered⟩
    | cons first earlier =>
      obtain ⟨rfl, splitLater⟩ := List.cons.inj split
      have success := result_placeNode_of_accepted found accepts.1
      obtain ⟨result, offeredLater⟩ := ih splitLater (remembered ▸ accepts.2) (by simpa [remembered])
      rw [placeNodes_cons_of_ok rules nodes success]
      exact ⟨by rw [result]; rfl, by rw [offeredIn_append, offered, offeredLater]; rfl⟩

end Balance

theorem Balance.hasValue_placeNodes_iff (rules : BalanceRules) (nodes : List Node)
    {start : Balance Text} (fresh : start.offered = []) (rack : Text) :
    (start.placeNodes rules nodes).state.topology.hasValue rackKey rack = true ↔
      start.topology.hasValue rackKey rack = true
        ∨ ∃ node, GivenBy (start.placeNodes rules nodes).state.offered rack node := by
  let kept (balance : Balance Text) : Prop :=
    balance.topology.hasValue rackKey rack = true ↔
      start.topology.hasValue rackKey rack = true ∨ ∃ node, GivenBy balance.offered rack node
  apply placeNodes_invariant rules (motive := kept)
  · simp [kept, fresh, GivenBy]
  · intro other _ balance before
    apply state_placeNode rules (motive := kept)
    · exact fun _ _ => before
    · intro chosen _
      simp only [kept, given, Topology.hasValue_addNode_iff, givenBy_append_iff,
        LabelPatch.node_recordRack, LabelPatch.rack?_recordRack, Option.some.injEq, Name.ofText,
        id, before.eq]
      grind

namespace Topology

/-- A topology is another one with the racks of some patches, each with the node of its patch, and is
the same under every other key and for every other rack and node. -/
structure AddsRacksOf (t : Topology Text) (patches : List LabelPatch) (after : Topology Text) :
    Prop where
  otherKeys : ∀ key ≠ rackKey, after.table.find? key = t.table.find? key
  racks : ∀ rack, after.hasValue rackKey rack = true ↔
    t.hasValue rackKey rack = true ∨ ∃ node, GivenBy patches rack node
  nodes : ∀ rack node, after.records rackKey rack node = true ↔
    t.records rackKey rack node = true ∨ GivenBy patches rack node

theorem addsRacksOf_ensureRacks (t : Topology Text) (nodes : List Node) (minimum : Int)
    (patcher : Patcher) :
    t.AddsRacksOf (offeredIn (t.ensureRacks nodes minimum patcher).events)
      (t.ensureRacks nodes minimum patcher).state := by
  refine ⟨fun key different => t.find?_ensureRacks_of_ne nodes minimum patcher different, ?_,
    t.records_ensureRacks_iff nodes minimum patcher⟩
  obtain ⟨placed, _, offers⟩ := t.exists_offers nodes minimum patcher
  obtain ⟨before, _, pass⟩ := t.exists_balance_eq nodes minimum patcher
  intro rack
  have recorded := Balance.hasValue_placeNodes_iff ⟨minimum, Zones.ofNodes nodes, patcher⟩
    (unplaced before (Zones.ofNodes nodes) nodes) (rfl : (⟨before, t, []⟩ : Balance Text).offered = [])
    rack
  rw [← pass, offers.remembered] at recorded
  exact recorded

/-- A pass follows the pass in which every patch is accepted. If its own patches are all accepted it
succeeds with the same ones. Otherwise it offers them up to the first that is not accepted, fails
with what came of that one, and adds the racks of these patches to the topology, and nothing else. -/
theorem pass_follows_accepted_pass {minimum : Int} (positive : 1 ≤ minimum) (t : Topology Text)
    (nodes : List Node) (patcher : Patcher) :
    let full := offeredIn (t.ensureRacks nodes minimum .acceptAll).events
    let pass := t.ensureRacks nodes minimum patcher
    (patcher.Accepts [] full →
        pass.result = .ok full ∧ offeredIn pass.events = full ∧ t.AddsRacksOf full pass.state)
      ∧ ∀ earlier patch later, full = earlier ++ patch :: later → patcher.Accepts [] earlier →
        (patcher earlier patch).isAccepted = false →
          (∀ node reason, patcher earlier patch = .refused node reason →
            pass.result = .error (.patch node reason none))
          ∧ (∀ reason, patcher earlier patch = .brokenOff reason →
            pass.result = .error (.patch patch.node reason (some reason)))
          ∧ offeredIn pass.events = earlier ++ [patch]
          ∧ t.AddsRacksOf (earlier ++ [patch]) pass.state := by
  intro full pass
  have added := t.addsRacksOf_ensureRacks nodes minimum patcher
  obtain ⟨racks, known, _⟩ := Racks.exists_known t .empty nodes
  let rules : BalanceRules := ⟨minimum, Zones.ofNodes nodes, patcher⟩
  let start : Balance Text := ⟨racks, t, []⟩
  let placed := unplaced racks (Zones.ofNodes nodes) nodes
  have planned : full = Balance.plan rules placed start := by
    simp only [full, ensureRacks, balance, known]
    rfl
  have passed : t.balance nodes minimum patcher = start.placeNodes rules placed := by
    simp only [balance, known]
    rfl
  constructor
  · intro accepts
    have acceptsPlan : rules.patcher.Accepts start.offered (Balance.plan rules placed start) :=
      planned ▸ accepts
    obtain ⟨result, offered⟩ := Balance.placeNodes_of_accepts rules positive acceptsPlan
    rw [← passed, ← planned] at result offered
    exact ⟨result, offered, offered ▸ added⟩
  · intro earlier patch later split accepts unaccepted
    have ending : ∀ fault, (patcher earlier patch).result patch = .error fault →
        pass.result = .error fault ∧ offeredIn pass.events = earlier ++ [patch] := by
      intro fault failure
      have acceptsEarlier : rules.patcher.Accepts start.offered earlier := accepts
      have found := Balance.placeNodes_of_unaccepted rules positive (planned.symm.trans split)
        acceptsEarlier failure
      rwa [← passed] at found
    obtain ⟨fault, failure⟩ := PatchAnswer.result_of_not_isAccepted patch unaccepted
    have offered := (ending fault failure).2
    refine ⟨fun node reason answer => ?_, fun reason answer => ?_, offered, offered ▸ added⟩
    · exact (ending _ (by rw [answer]; rfl)).1
    · exact (ending _ (by rw [answer]; rfl)).1

/-! Nodes of two zones beside one that has a rack; the patching breaks off at the second of them. -/

def nodesOfTwoZones : List Node := [⟨"n0", .empty⟩,
  ⟨"n1", .ofList [("topology.kubernetes.io/zone", "a")]⟩,
  ⟨"n2", .ofList [("topology.kubernetes.io/zone", "b")]⟩,
  ⟨"n3", .ofList [("topology.kubernetes.io/zone", "a")]⟩]

def oneRackRecorded : Topology Text := (empty : Topology Text).addNode rackKey "old" "n0"

def breakingOffAt (name : Text) : Patcher := fun _ patch =>
  if patch.node = name then .brokenOff "unreachable" else .accepted

theorem unplaced_nodesOfTwoZones :
    unplaced (Racks.addNode .empty "old" "n0") (Zones.ofNodes nodesOfTwoZones) nodesOfTwoZones =
      nodesOfTwoZones.tail := by
  have others : (nodesOfTwoZones.filter fun node =>
      !(Racks.addNode .empty "old" "n0").nodes.contains node.name) = nodesOfTwoZones.tail := rfl
  have sorted : Node.sortByName nodesOfTwoZones.tail = nodesOfTwoZones.tail :=
    List.mergeSort_of_pairwise (by decide)
  rw [unplaced, others, Node.placementOrder, sorted]
  rfl

theorem names_of_accepted_pass :
    (offeredIn (oneRackRecorded.ensureRacks nodesOfTwoZones 2 .acceptAll).events).map
      LabelPatch.node = (["n1", "n2", "n3"] : List Text) := by
  have known : Racks.known oneRackRecorded .empty nodesOfTwoZones =
      .ok (Racks.addNode .empty "old" "n0") := rfl
  simp only [ensureRacks, balance, known, unplaced_nodesOfTwoZones]
  decide +kernel

/-- The pass fails with what broke the patching off, and the third node is neither offered a patch nor
recorded in any rack. -/
theorem third_node_untouched :
    1 ≤ 2
      ∧ (oneRackRecorded.ensureRacks nodesOfTwoZones 2 (breakingOffAt "n2")).result =
        .error (.patch "n2" "unreachable" (some "unreachable"))
      ∧ (offeredIn (oneRackRecorded.ensureRacks nodesOfTwoZones 2 (breakingOffAt "n2")).events).map
        LabelPatch.node = (["n1", "n2"] : List Text)
      ∧ ∀ rack, (oneRackRecorded.ensureRacks nodesOfTwoZones 2 (breakingOffAt "n2")).state.records
        rackKey rack "n3" = false := by
  have names := names_of_accepted_pass
  obtain ⟨first, others, split, sameFirst, names⟩ := List.map_eq_cons_iff.mp names
  obtain ⟨second, others, rfl, sameSecond, _⟩ := List.map_eq_cons_iff.mp names
  have accepted : (breakingOffAt "n2").Accepts [] [first] :=
    ⟨by simp only [breakingOffAt, sameFirst]; rfl, trivial⟩
  have answer : breakingOffAt "n2" [first] second = .brokenOff "unreachable" := by
    simp only [breakingOffAt, sameSecond, ↓reduceIte]
  obtain ⟨_, failed, offered, added⟩ := (pass_follows_accepted_pass (by decide : (1 : Int) ≤ 2)
    oneRackRecorded nodesOfTwoZones (breakingOffAt "n2")).2 [first] second others split accepted
    (by rw [answer]; rfl)
  refine ⟨by decide, ?_, ?_, fun rack => ?_⟩
  · rw [failed "unreachable" answer, sameSecond]
  · rw [offered]
    simp [sameFirst, sameSecond]
  · rw [Bool.eq_false_iff, Ne, added.nodes]
    rintro (before | ⟨patch, listed, named, _⟩)
    · revert before
      rw [oneRackRecorded, records_addNode_iff]
      have different : ("n3" : Text) ≠ "n0" := by decide
      simp [different, Topology.records, Topology.nodesOf, Topology.valuesOf, empty]
    · simp only [List.singleton_append, List.mem_cons, List.not_mem_nil, or_false] at listed
      rcases listed with rfl | rfl
      · exact absurd (sameFirst.symm.trans named) (by decide)
      · exact absurd (sameSecond.symm.trans named) (by decide)

end Topology
end ClusterTopology
