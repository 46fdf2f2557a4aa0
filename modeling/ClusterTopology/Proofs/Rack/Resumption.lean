import ClusterTopology.Proofs.Rack.Naming
import ClusterTopology.Proofs.Rack.Regrowth
import ClusterTopology.Proofs.Rack.Retry
import ClusterTopology.Proofs.Rack.Zones

/-!
Passes that go on where another one was broken off. What a pass plans depends on the racks it grows
to and the nodes that are left, not on the way there. Without zones the nodes left come in the same
order as before, and the racks that are made anew are those that were forgotten; so all passes
together offer the patches of one that is not broken off.
-/

namespace ClusterTopology

theorem givenBy_append_patches_iff {patches others : List LabelPatch} {rack node : Text} :
    GivenBy (patches ++ others) rack node ↔ GivenBy patches rack node ∨ GivenBy others rack node := by
  unfold GivenBy
  simp only [List.mem_append, or_and_right, exists_or]

theorem Racks.place_congr {racks other : Racks} {minimum : Int}
    (same : racks.withAtLeast minimum = other.withAtLeast minimum) (zones : Zones) (node : Node) :
    racks.place minimum zones node = other.place minimum zones node := by
  unfold place
  rw [same]

namespace Balance

variable {α : Type} [Name α] {rules : BalanceRules} (positive : 1 ≤ rules.minimumRacks)

include positive

theorem map_node_plan (nodes : List Node) (balance : Balance α) :
    (plan rules nodes balance).map LabelPatch.node = nodes.map Node.name := by
  induction nodes generalizing balance with
  | nil => rfl
  | cons node nodes ih =>
    obtain ⟨rack, found⟩ := Racks.exists_place_eq_ok positive balance.racks rules.zones node
    rw [plan_cons nodes found, List.map_cons, ih, LabelPatch.node_recordRack, List.map_cons]

theorem plan_append (earlier later : List Node) (balance : Balance α) :
    plan rules (earlier ++ later) balance = plan rules earlier balance
      ++ plan rules later (balance.placeNodes { rules with patcher := .acceptAll } earlier).state := by
  induction earlier generalizing balance with
  | nil => rfl
  | cons node earlier ih =>
    let accepting : BalanceRules := { rules with patcher := .acceptAll }
    obtain ⟨rack, found⟩ := Racks.exists_place_eq_ok positive balance.racks rules.zones node
    have foundAlike : (balance.racks.place accepting.minimumRacks accepting.zones node).result =
        .ok rack := found
    have sameStep : (balance.placeNode accepting node).state = (balance.placeNode rules node).state := by
      rw [state_placeNode_of_ok foundAlike, state_placeNode_of_ok found]
    rw [List.cons_append, plan_cons _ found, plan_cons _ found, ih,
      placeNodes_cons_of_ok accepting earlier (result_placeNode_of_accepted foundAlike rfl), sameStep]
    rfl

theorem exists_split_of_isPrefix_plan {nodes : List Node} {balance : Balance α}
    {offered : List LabelPatch} (first : offered <+: plan rules nodes balance) :
    ∃ done rest, nodes = done ++ rest ∧ plan rules done balance = offered := by
  have whole := plan_append positive (nodes.take offered.length) (nodes.drop offered.length) balance
  rw [List.take_append_drop] at whole
  have length_plan (nodes : List Node) : (plan rules nodes balance).length = nodes.length := by
    simpa using congrArg List.length (map_node_plan positive nodes balance)
  have size : (plan rules (nodes.take offered.length) balance).length = offered.length := by
    rw [length_plan, List.length_take, min_eq_left]
    exact first.length_le.trans_eq (length_plan nodes)
  exact ⟨_, _, (List.take_append_drop _ _).symm,
    (List.prefix_of_prefix_length_le ⟨_, whole.symm⟩ first size.le).eq_of_length size⟩

theorem plan_congr {balance other : Balance α}
    (same : balance.racks.withAtLeast rules.minimumRacks =
      other.racks.withAtLeast rules.minimumRacks) (nodes : List Node) :
    plan rules nodes balance = plan rules nodes other := by
  induction nodes generalizing balance other with
  | nil => rfl
  | cons node nodes ih =>
    have samePlace := Racks.place_congr same rules.zones node
    obtain ⟨rack, found⟩ := Racks.exists_place_eq_ok positive balance.racks rules.zones node
    have foundOther := samePlace ▸ found
    rw [plan_cons nodes found, plan_cons nodes foundOther]
    refine congrArg _ (ih ?_)
    rw [racks_placeNode found, racks_placeNode foundOther, samePlace]

theorem offeredIn_isPrefix_plan (nodes : List Node) (balance : Balance α) :
    offeredIn (balance.placeNodes rules nodes).events <+: plan rules nodes balance
      ∧ ∀ patches, (balance.placeNodes rules nodes).result = .ok patches →
        offeredIn (balance.placeNodes rules nodes).events = plan rules nodes balance := by
  induction nodes generalizing balance with
  | nil => exact ⟨List.prefix_rfl, fun _ _ => rfl⟩
  | cons node nodes ih =>
    obtain ⟨rack, found⟩ := Racks.exists_place_eq_ok positive balance.racks rules.zones node
    obtain ⟨offered, _, ⟨success, _⟩ | ⟨⟨fault, failure⟩, _⟩⟩ := placeNode_offers rules found
    · obtain ⟨first, whole⟩ := ih (balance.placeNode rules node).state
      rw [placeNodes_cons_of_ok rules nodes success, offeredIn_append, offered, plan_cons nodes found]
      refine ⟨List.cons_prefix_cons.mpr ⟨rfl, first⟩, fun patches ended => ?_⟩
      cases later : ((balance.placeNode rules node).state.placeNodes rules nodes).result with
      | error fault =>
        rw [later] at ended
        exact absurd ended (by simp [Except.map])
      | ok others => rw [whole others later, List.singleton_append]
    · rw [placeNodes_cons_of_error rules nodes failure, offered, plan_cons nodes found]
      exact ⟨⟨_, rfl⟩, fun _ success => absurd success (by simp)⟩

theorem regrows_placeNodes {nodes : List Node}
    (zoneless : ∀ node ∈ nodes, Racks.targetZone rules.zones node = []) {start : Balance α}
    (regrows : start.racks.Regrows rules.minimumRacks) :
    (start.placeNodes rules nodes).state.racks.Regrows rules.minimumRacks := by
  let kept (balance : Balance α) : Prop := balance.racks.Regrows rules.minimumRacks
  apply placeNodes_invariant rules (motive := kept) regrows
  intro node listed balance before
  rcases Racks.place_cases positive balance.racks rules.zones node with
    ⟨rack, placed, suits, _⟩ | ⟨zoned, _⟩
  · have found : (balance.racks.place rules.minimumRacks rules.zones node).result = .ok rack := by
      rw [placed]
      rfl
    simp only [kept, racks_placeNode found, placed, Outcome.done]
    exact before.addNode suits.1 node.name
  · exact absurd (zoneless node listed) zoned

end Balance

namespace Topology

/-- The patches that a pass offers as long as they are accepted. -/
def planned (t : Topology Text) (nodes : List Node) (minimum : Int) : List LabelPatch :=
  offeredIn (t.ensureRacks nodes minimum .acceptAll).events

section

variable {t : Topology Text} {nodes : List Node} {minimum : Int} {patcher : Patcher}

theorem planned_of_known {before : Racks} (known : Racks.known t .empty nodes = .ok before)
    (patcher : Patcher) :
    t.planned nodes minimum =
      Balance.plan ⟨minimum, Zones.ofNodes nodes, patcher⟩
        (unplaced before (Zones.ofNodes nodes) nodes) ⟨before, t, []⟩ := by
  unfold planned ensureRacks
  rw [balance_of_known known]
  rfl

theorem offeredIn_isPrefix_planned (positive : 1 ≤ minimum) (t : Topology Text) (nodes : List Node)
    (patcher : Patcher) :
    offeredIn (t.ensureRacks nodes minimum patcher).events <+: t.planned nodes minimum
      ∧ ∀ patches, (t.ensureRacks nodes minimum patcher).result = .ok patches →
        offeredIn (t.ensureRacks nodes minimum patcher).events = t.planned nodes minimum := by
  obtain ⟨before, known, _⟩ := Racks.exists_known t .empty nodes
  unfold ensureRacks
  rw [planned_of_known known patcher, balance_of_known known]
  have positiveRules : 1 ≤ (⟨minimum, Zones.ofNodes nodes, patcher⟩ : BalanceRules).minimumRacks :=
    positive
  exact Balance.offeredIn_isPrefix_plan positiveRules _ _

theorem unplaced_of_zoneless (distinct : (nodes.map Node.name).Nodup)
    (zoneless : ∀ node ∈ nodes, node.zone = []) (racks : Racks) :
    unplaced racks (Zones.ofNodes nodes) nodes =
      (Node.sortByName nodes).filter fun node => !racks.nodes.contains node.name := by
  rw [unplaced, Node.placementOrder_of_zoneless, Node.sortByName_filter distinct]
  intro node member
  have listed := (List.mem_filter.mp member).1
  rw [(Zones.find?_ofNodes_iff distinct).mpr ⟨node, listed, rfl, rfl⟩, zoneless node listed]
  rfl

theorem unplaced_eq_of_given (distinct : (nodes.map Node.name).Nodup)
    (zoneless : ∀ node ∈ nodes, node.zone = []) {before after : Racks} {done rest : List Node}
    {offered : List LabelPatch}
    (order : unplaced before (Zones.ofNodes nodes) nodes = done ++ rest)
    (covered : offered.map LabelPatch.node = done.map Node.name)
    (formed : ∀ patch ∈ offered, ∃ rack, patch.rack? = some rack)
    (holds : ∀ rack member, after.Holds rack member ↔
      before.Holds rack member ∨ GivenBy offered rack member) :
    unplaced after (Zones.ofNodes nodes) nodes = rest := by
  have given : ∀ name, (∃ rack, GivenBy offered rack name) ↔ name ∈ done.map Node.name := by
    intro name
    rw [← covered, List.mem_map]
    constructor
    · rintro ⟨rack, patch, member, named, _⟩
      exact ⟨patch, member, named⟩
    · rintro ⟨patch, member, named⟩
      obtain ⟨rack, names⟩ := formed patch member
      exact ⟨rack, patch, member, named, names⟩
  have left : unplaced after (Zones.ofNodes nodes) nodes =
      (unplaced before (Zones.ofNodes nodes) nodes).filter fun node =>
        !(done.map Node.name).contains node.name := by
    rw [unplaced_of_zoneless distinct zoneless, unplaced_of_zoneless distinct zoneless,
      List.filter_filter]
    apply List.filter_congr
    intro node _
    rw [Bool.eq_iff_iff]
    simp only [Bool.not_eq_true', Bool.and_eq_true, ← Bool.not_eq_true, List.contains_iff_mem,
      Racks.mem_nodes_iff, ← given, holds, exists_or, not_or, and_comm]
  have once := nodup_unplaced distinct before (Zones.ofNodes nodes)
  rw [order, List.map_append, List.nodup_append] at once
  rw [left, order, List.filter_append, List.filter_eq_nil_iff.mpr, List.filter_eq_self.mpr,
    List.nil_append]
  · intro node member
    simpa using fun other listed same =>
      once.2.2 _ (List.mem_map.mpr ⟨other, listed, rfl⟩) _ (List.mem_map.mpr ⟨node, member, rfl⟩) same
  · intro node member
    simpa using ⟨node, member, rfl⟩

end

section

variable {t : Topology Text} {nodes : List Node} (distinct : (nodes.map Node.name).Nodup)
  (labelled : ∀ node ∈ nodes, ∀ rack, node.NamesRack rack → rack ≠ [])

include labelled in
theorem ne_nil_of_offered {minimum : Int} {patcher : Patcher} {node : Node} {rack : Text}
    (offered : .recordRack node rack ∈ offeredIn (t.ensureRacks nodes minimum patcher).events) :
    rack ≠ [] := by
  rintro rfl
  obtain ⟨other, listed, names⟩ := exists_namesRack_nil_of_offered offered
  exact labelled other listed [] names rfl

include labelled in
theorem not_records_nil_ensureRacks (unnamed : ∀ node, t.records rackKey [] node = false)
    (minimum : Int) (patcher : Patcher) (node : Text) :
    (t.ensureRacks nodes minimum patcher).state.records rackKey [] node = false := by
  rw [Bool.eq_false_iff, Ne, records_ensureRacks_iff, unnamed]
  rintro (before | ⟨patch, offered, _, names⟩)
  · exact absurd before (by simp)
  · obtain ⟨placed, _, _, rack, rfl⟩ := t.formed_of_mem_offeredIn nodes minimum patcher offered
    obtain rfl : rack = [] := by simpa using names
    exact ne_nil_of_offered labelled offered rfl

variable (unnamed : ∀ node, t.records rackKey [] node = false)

include distinct labelled unnamed

theorem holds_known_ensureRacks_iff {minimum : Int} {patcher : Patcher} {before after : Racks}
    (known : Racks.known t .empty nodes = .ok before)
    (knownAfter : Racks.known (t.ensureRacks nodes minimum patcher).state .empty nodes = .ok after)
    (rack member : Text) :
    after.Holds rack member ↔ before.Holds rack member
      ∨ GivenBy (offeredIn (t.ensureRacks nodes minimum patcher).events) rack member := by
  have remembered : (t.balance nodes minimum patcher).state.offered =
      offeredIn (t.ensureRacks nodes minimum patcher).events :=
    (offers_of_known known minimum patcher).remembered
  rw [Racks.holds_known_iff known, Racks.holds_known_iff knownAfter]
  constructor
  · rintro ⟨node, listed, rfl, stands⟩
    rcases stands_iff.mp (stands_of_stands_balance stands) with earlier | given
    · exact Or.inl ⟨node, listed, rfl, earlier⟩
    · exact Or.inr (remembered ▸ given)
  · rintro (⟨node, listed, rfl, stands⟩ | ⟨patch, offered, rfl, names⟩)
    · exact ⟨node, listed, rfl, stands_balance_of_stands distinct listed stands⟩
    · obtain ⟨node, listed, nowhere, given, rfl⟩ :=
        t.formed_of_mem_offeredIn nodes minimum patcher offered
      obtain rfl : given = rack := by simpa using names
      have recorded := recordedRack_ensureRacks_of_offered distinct offered nowhere
      rw [unnamed, if_neg (by simp)] at recorded
      exact ⟨node, listed, rfl, Or.inr (Or.inl ⟨ne_nil_of_offered labelled offered, recorded⟩)⟩

variable (zoneless : ∀ node ∈ nodes, node.zone = []) {minimum : Int} (positive : 1 ≤ minimum)

include zoneless positive

/-- What is planned is what a pass offers, and then what is planned after it. -/
theorem planned_eq_append (patcher : Patcher) :
    t.planned nodes minimum = offeredIn (t.ensureRacks nodes minimum patcher).events
      ++ (t.ensureRacks nodes minimum patcher).state.planned nodes minimum := by
  obtain ⟨before, known, _⟩ := Racks.exists_known t .empty nodes
  obtain ⟨after, knownAfter, _⟩ :=
    Racks.exists_known (t.ensureRacks nodes minimum patcher).state .empty nodes
  have holds := holds_known_ensureRacks_iff distinct labelled unnamed known knownAfter
  let rules : BalanceRules := ⟨minimum, Zones.ofNodes nodes, .acceptAll⟩
  have positiveRules : 1 ≤ rules.minimumRacks := positive
  have first := (offeredIn_isPrefix_planned positive t nodes patcher).1
  rw [planned_of_known known .acceptAll] at first ⊢
  rw [planned_of_known knownAfter .acceptAll]
  obtain ⟨done, rest, order, part⟩ := Balance.exists_split_of_isPrefix_plan positiveRules first
  have left : unplaced after (Zones.ofNodes nodes) nodes = rest := by
    refine unplaced_eq_of_given distinct zoneless order ?_ (fun patch offered => ?_) holds
    · rw [← part, Balance.map_node_plan positiveRules]
    · obtain ⟨_, _, _, rack, rfl⟩ := t.formed_of_mem_offeredIn nodes minimum patcher offered
      exact ⟨rack, LabelPatch.rack?_recordRack _ _⟩
  -- The racks that the pass reached, and those that the next one grows to.
  let start : Balance Text := ⟨before, t, []⟩
  have offered : (start.placeNodes rules done).state.offered =
      offeredIn (t.ensureRacks nodes minimum patcher).events :=
    (Balance.offers_placeNodes rules done start).remembered.trans part
  have regrows : (start.placeNodes rules done).state.racks.Regrows minimum := by
    refine Balance.regrows_placeNodes positiveRules (fun node member => ?_)
      ((Racks.inhabited_of_known known).regrows minimum)
    have listed := (mem_unplaced_iff.mp (order ▸ List.mem_append_left rest member)).1
    rw [Racks.targetZone_of_listed ((Zones.find?_ofNodes_iff distinct).mpr ⟨node, listed, rfl, rfl⟩)]
    exact zoneless node listed
  have regrown : after.withAtLeast minimum =
      (start.placeNodes rules done).state.racks.withAtLeast minimum := by
    refine regrows.withAtLeast_eq (Racks.inhabited_of_known knownAfter) fun rack member => ?_
    rw [holds, Balance.holds_placeNodes_iff rules rfl, offered]
  rw [order, Balance.plan_append positiveRules, part, left]
  exact congrArg _ (Balance.plan_congr positiveRules regrown.symm rest)

end

/-! What a topology becomes by the racks of some patches. -/

theorem AddsRacksOf.refl (t : Topology Text) : t.AddsRacksOf [] t :=
  ⟨fun _ _ => rfl, by simp [GivenBy], by simp [GivenBy]⟩

theorem AddsRacksOf.trans {t middle after : Topology Text} {earlier later : List LabelPatch}
    (first : t.AddsRacksOf earlier middle) (second : middle.AddsRacksOf later after) :
    t.AddsRacksOf (earlier ++ later) after := by
  refine ⟨fun key different => ?_, fun rack => ?_, fun rack node => ?_⟩
  · rw [second.otherKeys key different, first.otherKeys key different]
  · simp only [second.racks, first.racks, givenBy_append_patches_iff, exists_or, or_assoc]
  · simp only [second.nodes, first.nodes, givenBy_append_patches_iff, or_assoc]

theorem AddsRacksOf.unique {t after other : Topology Text} {patches : List LabelPatch}
    (added : t.AddsRacksOf patches after) (addedAlike : t.AddsRacksOf patches other) :
    after = other := by
  apply ext_valuesOf
  intro key
  by_cases same : key = rackKey
  · subst same
    apply valuesOf_eq_of_records
    · intro rack
      rw [Bool.eq_iff_iff, added.racks, addedAlike.racks]
    · intro rack node
      rw [Bool.eq_iff_iff, added.nodes, addedAlike.nodes]
  · apply valuesOf_congr
    rw [added.otherKeys key same, addedAlike.otherKeys key same]

/-! Passes one after the other. -/

def offeredOver (outcomes : List (Outcome (Topology Text) (List LabelPatch))) : List LabelPatch :=
  outcomes.flatMap fun pass => offeredIn pass.events

/-- What passes did so far and what is planned after them. -/
structure Resumes (nodes : List Node) (minimum : Int) (t : Topology Text)
    (outcomes : List (Outcome (Topology Text) (List LabelPatch))) (reached : Topology Text) :
    Prop where
  plan : t.planned nodes minimum = offeredOver outcomes ++ reached.planned nodes minimum
  record : t.AddsRacksOf (offeredOver outcomes) reached
  unnamed : ∀ node, reached.records rackKey [] node = false

section

variable {nodes : List Node} (distinct : (nodes.map Node.name).Nodup)
  (labelled : ∀ node ∈ nodes, ∀ rack, node.NamesRack rack → rack ≠ [])
  (zoneless : ∀ node ∈ nodes, node.zone = []) {minimum : Int} (positive : 1 ≤ minimum)
  {t reached : Topology Text} {outcomes : List (Outcome (Topology Text) (List LabelPatch))}

include distinct labelled zoneless positive

theorem Resumes.again (resumes : Resumes nodes minimum t outcomes reached) (patcher : Patcher) :
    Resumes nodes minimum t (outcomes ++ [reached.ensureRacks nodes minimum patcher])
      (reached.ensureRacks nodes minimum patcher).state := by
  have extended : offeredOver (outcomes ++ [reached.ensureRacks nodes minimum patcher]) =
      offeredOver outcomes ++ offeredIn (reached.ensureRacks nodes minimum patcher).events := by
    simp [offeredOver]
  refine ⟨?_, ?_, not_records_nil_ensureRacks labelled resumes.unnamed minimum patcher⟩
  · rw [extended, resumes.plan, List.append_assoc,
      ← planned_eq_append distinct labelled resumes.unnamed zoneless positive patcher]
  · rw [extended]
    exact resumes.record.trans (reached.addsRacksOf_ensureRacks nodes minimum patcher)

theorem Passes.resumes (passes : Passes nodes minimum t outcomes reached)
    (unnamed : ∀ node, t.records rackKey [] node = false) :
    Resumes nodes minimum t outcomes reached := by
  induction passes with
  | none => exact ⟨rfl, .refl t, unnamed⟩
  | again earlier patcher ih => exact ih.again distinct labelled zoneless positive patcher

end

/-- Passes over nodes without zones, of which the last one completes, lead to the topology of one
pass that is not broken off, and offer together the same patches in the same order, each node once.
There is such a pass: the one in which every patch is accepted. -/
theorem resumed_passes_match_uninterrupted {nodes : List Node}
    (distinct : (nodes.map Node.name).Nodup) (zoneless : ∀ node ∈ nodes, node.zone = [])
    (labelled : ∀ node ∈ nodes, ∀ rack, node.NamesRack rack → rack ≠ [])
    {t : Topology Text} (unnamed : ∀ node, t.records rackKey [] node = false)
    {minimum : Int} (positive : 1 ≤ minimum)
    {outcomes : List (Outcome (Topology Text) (List LabelPatch))} {reached : Topology Text}
    (passes : Passes nodes minimum t outcomes reached) {patcher : Patcher}
    {patches : List LabelPatch}
    (completed : (reached.ensureRacks nodes minimum patcher).result = .ok patches) :
    let last := reached.ensureRacks nodes minimum patcher
    (∃ all, (t.ensureRacks nodes minimum .acceptAll).result = .ok all)
      ∧ ∀ uninterrupted all, (t.ensureRacks nodes minimum uninterrupted).result = .ok all →
        last.state = (t.ensureRacks nodes minimum uninterrupted).state
          ∧ offeredOver (outcomes ++ [last]) =
            offeredIn (t.ensureRacks nodes minimum uninterrupted).events
          ∧ ((offeredIn (t.ensureRacks nodes minimum uninterrupted).events).map
            LabelPatch.node).Nodup := by
  intro last
  have resumes := passes.resumes distinct labelled zoneless positive unnamed
  have offered : offeredOver (outcomes ++ [last]) = t.planned nodes minimum := by
    have rest := (offeredIn_isPrefix_planned positive reached nodes patcher).2 patches completed
    rw [resumes.plan, ← rest]
    simp [offeredOver, last]
  have record := (resumes.again distinct labelled zoneless positive patcher).record
  rw [offered] at record
  constructor
  · obtain ⟨all, success, _⟩ := t.exists_patches_of_accepting positive nodes
      (fun _ _ => rfl : Patcher.acceptAll.Accepting)
    exact ⟨all, success⟩
  · intro uninterrupted all success
    have whole := (offeredIn_isPrefix_planned positive t nodes uninterrupted).2 all success
    have recordWhole := t.addsRacksOf_ensureRacks nodes minimum uninterrupted
    rw [whole] at recordWhole ⊢
    refine ⟨record.unique recordWhole, offered, ?_⟩
    obtain ⟨before, known, _⟩ := Racks.exists_known t .empty nodes
    rw [planned_of_known known .acceptAll, Balance.map_node_plan positive]
    exact nodup_unplaced distinct before _

/-! A pass over two nodes that is broken off at the first of them, and the pass after it. -/

/-- The first pass fails, and the two lead to the topology of one pass in which both are accepted. -/
theorem pair_resumed_after_refusal :
    let first := (empty : Topology Text).ensureRacks unlabelledPair 2 (refusing "n0")
    let second := first.state.ensureRacks unlabelledPair 2 .acceptAll
    let whole := (empty : Topology Text).ensureRacks unlabelledPair 2 .acceptAll
    first.result = .error (.patch "n0" "refused" none)
      ∧ (unlabelledPair.map Node.name).Nodup ∧ (∀ node ∈ unlabelledPair, node.zone = [])
      ∧ (∀ node ∈ unlabelledPair, ∀ rack, node.NamesRack rack → rack ≠ []) ∧ (1 : Int) ≤ 2
      ∧ second.state = whole.state
      ∧ offeredIn first.events ++ offeredIn second.events = offeredIn whole.events := by
  intro first second whole
  have failed : first.result = .error (.patch "n0" "refused" none) := by
    rw [show first = _ from ensureRacks_unlabelledPair 2 _]
    rfl
  have distinct : (unlabelledPair.map Node.name).Nodup := by decide
  have zoneless : ∀ node ∈ unlabelledPair, node.zone = [] := by decide
  have labelled : ∀ node ∈ unlabelledPair, ∀ rack, node.NamesRack rack → rack ≠ [] := by
    rintro node listed rack ⟨label, _, found⟩
    have unlabelled : node.labels = .empty := by
      simp only [unlabelledPair, List.mem_cons, List.not_mem_nil, or_false] at listed
      rcases listed with rfl | rfl <;> rfl
    rw [unlabelled, Table.find?_empty] at found
    exact absurd found (by simp)
  have accepting : Patcher.acceptAll.Accepting := fun _ _ => rfl
  obtain ⟨_, completed, _⟩ := first.state.exists_patches_of_accepting (by decide : (1 : Int) ≤ 2)
    unlabelledPair accepting
  obtain ⟨⟨all, success⟩, matching⟩ := resumed_passes_match_uninterrupted distinct zoneless labelled
    (not_records_empty [] · ) (by decide) (.again .none (refusing "n0")) completed
  obtain ⟨sameState, offered, _⟩ := matching .acceptAll all success
  exact ⟨failed, distinct, zoneless, labelled, by decide, sameState, by simpa [offeredOver] using offered⟩

end Topology
end ClusterTopology
