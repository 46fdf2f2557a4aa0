import ClusterTopology.Proofs.Rack.Permanence
import ClusterTopology.Proofs.Rack.Zones

/-!
Recorded racks and zones over passes that list different nodes. A pass knows only the racks of the
nodes it lists, so a rack whose nodes are all left out is free for it, whatever is recorded there. As
long as every pass lists some node of a rack in which a zone is recorded, that rack keeps to one
zone. Once a pass lists none of them, a node of another zone may join.
-/

namespace ClusterTopology.Topology

/-- The topologies that passes over some of the nodes lead to. The number of racks and the answers
may be different in every pass, and a pass may be left at any of its points. What a pass may list is
restricted by what is recorded when it begins. -/
inductive ReachesOver (all : List Node) (allowed : Topology Text → List Node → Prop)
    (start : Topology Text) : Topology Text → Prop
  | here : ReachesOver all allowed start start
  | within {reached point : Topology Text} (earlier : ReachesOver all allowed start reached)
      {nodes : List Node} (distinct : (nodes.map Node.name).Nodup) (among : nodes ⊆ all)
      (listable : allowed reached nodes) {minimum : Int} (positive : 1 ≤ minimum)
      {patcher : Patcher} (pass : reached.PointOfPass nodes minimum patcher point) :
      ReachesOver all allowed start point

/-- The zones of the nodes that are recorded in a rack. -/
def zonesRecorded (all : List Node) (t : Topology Text) (rack : Text) : Set Text :=
  zonesIn all fun node => t.records rackKey rack node.name = true

/-- A list of nodes shows that a rack is in use by a zone, if it is. -/
def ShowsUse (all : List Node) (rack : Text) (t : Topology Text) (nodes : List Node) : Prop :=
  (zonesRecorded all t rack).Nonempty → ∃ node ∈ nodes, t.records rackKey rack node.name = true

section

variable {t point : Topology Text} {all nodes : List Node} {minimum : Int} {patcher : Patcher}

theorem OneRackEach.stands_iff_records (each : t.OneRackEach) {node : Node}
    (unlabelled : ∀ rack, ¬node.NamesRack rack) {rack : Text} :
    t.Stands [] rack node ↔ t.records rackKey rack node.name = true := by
  have nothing : ¬GivenBy [] rack node.name := fun ⟨_, member, _⟩ => absurd member (by simp)
  unfold Stands
  rw [each.records_iff]
  simp [unlabelled rack, nothing]

theorem PointOfPass.exists_offered (pass : t.PointOfPass nodes minimum patcher point)
    (distinct : (nodes.map Node.name).Nodup) :
    ∃ offered, t.AllJoinOwnZone nodes offered
      ∧ (∀ rack name, GivenBy offered rack name → ∃ node ∈ nodes, node.name = name)
      ∧ ∀ rack name, point.records rackKey rack name = true ↔
        t.records rackKey rack name = true ∨ GivenBy offered rack name := by
  obtain ⟨racks, placed, known, first, rfl⟩ := pass
  have among : placed ⊆ nodes :=
    fun node member => (mem_unplaced_iff.mp (first.subset member)).1
  have holds : ∀ rack, ∀ node ∈ nodes, racks.Holds rack node.name ↔ t.Stands [] rack node := by
    intro rack node listed
    rw [Racks.holds_known_iff known, exists_sameName_stands_iff distinct listed]
  have joined := (holds_placeNodes_iff_and_allJoinOwnZone distinct among holds minimum patcher).2
  let rules : BalanceRules := ⟨minimum, Zones.ofNodes nodes, patcher⟩
  refine ⟨_, joined, ?_, Balance.records_placeNodes_iff rules placed rfl⟩
  intro rack name given
  have offers := Balance.offers_placeNodes rules placed ⟨racks, t, []⟩
  rw [offers.remembered, List.nil_append] at given
  obtain ⟨patch, offered, rfl, _⟩ := given
  obtain ⟨node, member, _, rfl⟩ := offers.formed patch offered
  exact ⟨node, among member, rfl⟩

/-- The zones recorded in a rack at a point of a pass are those recorded before and those of the
listed nodes that stand in it by then. -/
theorem zonesRecorded_subset (distinct : (all.map Node.name).Nodup) (among : nodes ⊆ all)
    {offered : List LabelPatch}
    (fromListed : ∀ rack name, GivenBy offered rack name → ∃ node ∈ nodes, node.name = name)
    (recorded : ∀ rack name, point.records rackKey rack name = true ↔
      t.records rackKey rack name = true ∨ GivenBy offered rack name) (rack : Text) :
    zonesRecorded all point rack ⊆
      zonesRecorded all t rack ∪ zonesIn nodes (t.Stands offered rack) := by
  intro zone ⟨zoned, node, listed, there, sameZone⟩
  rcases (recorded rack node.name).mp there with before | given
  · exact Or.inl ⟨zoned, node, listed, before, sameZone⟩
  · obtain ⟨twin, listedTwin, sameName⟩ := fromListed rack node.name given
    obtain rfl : twin = node :=
      List.inj_on_of_nodup_map distinct (among listedTwin) listed sameName
    exact Or.inr ⟨zoned, twin, listedTwin, Or.inr (Or.inr given), sameZone⟩

/-- One pass keeps a rack to one zone if it lists a node of the rack. -/
theorem PointOfPass.zonesRecorded_subsingleton
    (pass : t.PointOfPass nodes minimum patcher point) (each : t.OneRackEach)
    (distinctAll : (all.map Node.name).Nodup) (distinct : (nodes.map Node.name).Nodup)
    (among : nodes ⊆ all) (unlabelled : ∀ node ∈ all, ∀ rack, ¬node.NamesRack rack) {rack : Text}
    (shows : ShowsUse all rack t nodes) (pure : (zonesRecorded all t rack).Subsingleton) :
    (zonesRecorded all point rack).Subsingleton := by
  obtain ⟨offered, joined, fromListed, recorded⟩ := pass.exists_offered distinct
  have stands : ∀ node ∈ nodes, t.Stands [] rack node ↔ t.records rackKey rack node.name = true :=
    fun node listed => each.stands_iff_records (unlabelled node (among listed))
  obtain ⟨kept, single⟩ := zonesIn_of_allJoinOwnZone distinct joined rack
  have bound := zonesRecorded_subset distinctAll among fromListed recorded rack
  by_cases used : ∃ node ∈ nodes, t.records rackKey rack node.name = true
  · obtain ⟨node, listed, there⟩ := used
    have before : zonesIn nodes (t.Stands [] rack) ⊆ zonesRecorded all t rack := by
      intro zone ⟨zoned, other, listedOther, standsOther, sameZone⟩
      exact ⟨zoned, other, among listedOther, (stands other listedOther).mp standsOther, sameZone⟩
    rw [kept ⟨node, listed, (stands node listed).mpr there⟩] at bound
    exact pure.anti (bound.trans (Set.union_subset subset_rfl before))
  · have nothing : zonesRecorded all t rack = ∅ :=
      Set.not_nonempty_iff_eq_empty.mp fun someZone => used (shows someZone)
    rw [nothing, Set.empty_union] at bound
    refine (single fun node listed standsThere => ?_).anti bound
    exact used ⟨node, listed, (stands node listed).mp standsThere⟩

end

/-- Along passes over nodes without rack labels, on a topology that began without recorded racks, a
rack records nodes of at most one zone at every point, as long as no pass begins that lists none of
the nodes recorded in the rack while one of them has a zone. -/
theorem rack_keeps_to_one_zone_while_shown {all : List Node} (distinct : (all.map Node.name).Nodup)
    (unlabelled : ∀ node ∈ all, ∀ rack, ¬node.NamesRack rack) {start point : Topology Text}
    (free : ∀ rack node, start.records rackKey rack node = false) {rack : Text}
    (reaches : start.ReachesOver all (ShowsUse all rack) point) :
    (zonesRecorded all point rack).Subsingleton := by
  have invariant : point.OneRackEach ∧ (zonesRecorded all point rack).Subsingleton := by
    induction reaches with
    | here =>
      refine ⟨⟨fun recorded => absurd recorded (by simp [free]),
        fun recorded => absurd recorded (by simp [free])⟩, ?_⟩
      intro zone ⟨_, node, _, recorded, _⟩
      exact absurd recorded (by simp [free])
    | within _ distinctHere among shows _ pass ih =>
      obtain ⟨each, pure⟩ := ih
      refine ⟨each.pointOfPass distinctHere ?_ pass,
        pass.zonesRecorded_subsingleton each distinct distinctHere among unlabelled shows pure⟩
      intro node listed rack names
      exact absurd names (unlabelled node (among listed) rack)
  exact invariant.2

/-! Two nodes of different zones. The first pass lists the first of them alone. -/

def zonedNode (name zone : Text) : Node := ⟨name, .ofList [("topology.kubernetes.io/zone", zone)]⟩

def zonedPair : List Node := [zonedNode "a1" "a", zonedNode "b1" "b"]

def passOver (t : Topology Text) (nodes : List Node) : Topology Text :=
  (t.ensureRacks nodes 1 fun _ _ => .accepted).state

theorem unlabelled_zonedPair : ∀ node ∈ zonedPair, ∀ rack, ¬node.NamesRack rack := by
  intro node listed rack ⟨label, named, found⟩
  have carried : label = "topology.kubernetes.io/zone" := by
    simp only [zonedPair, zonedNode, List.mem_cons, List.not_mem_nil, or_false] at listed
    rcases listed with rfl | rfl <;> simp_all [Table.ofList, Table.find?_put]
  rw [carried] at named
  exact absurd named (by decide)

theorem reachesOver_passOver {allowed : Topology Text → List Node → Prop}
    {start reached : Topology Text}
    (earlier : start.ReachesOver zonedPair allowed reached) {nodes : List Node}
    (distinct : (nodes.map Node.name).Nodup) (among : nodes ⊆ zonedPair)
    (listable : allowed reached nodes) :
    start.ReachesOver zonedPair allowed (reached.passOver nodes) :=
  .within earlier distinct among listable (le_refl 1) (pointOfPass_ensureRacks _ nodes 1 _)

def firstPlaced : Topology Text := (empty : Topology Text).passOver [zonedNode "a1" "a"]

theorem reachesOver_firstPlaced {allowed : Topology Text → List Node → Prop}
    (listable : allowed empty [zonedNode "a1" "a"]) :
    (empty : Topology Text).ReachesOver zonedPair allowed firstPlaced :=
  reachesOver_passOver .here (by decide) (by simp [zonedPair]) listable

theorem oneZone_after_both_shown :
    (zonesRecorded zonedPair (firstPlaced.passOver zonedPair) "rack0").Subsingleton := by
  have recorded : firstPlaced.records rackKey "rack0" "a1" = true := by decide +kernel
  have unused : ShowsUse zonedPair "rack0" empty [zonedNode "a1" "a"] := by
    intro ⟨_, _, _, _, there, _⟩
    exact absurd there (by simp [Topology.records, Topology.nodesOf, Topology.valuesOf, empty])
  have shown : ShowsUse zonedPair "rack0" firstPlaced zonedPair :=
    fun _ => ⟨_, List.mem_cons_self, recorded⟩
  exact rack_keeps_to_one_zone_while_shown (by decide) unlabelled_zonedPair (fun _ _ => rfl)
    (reachesOver_passOver (reachesOver_firstPlaced unused) (by decide) (List.Subset.refl _) shown)

/-- A second pass over the other node alone puts it into the same rack. -/
theorem zones_mixed_over_passes :
    ¬∀ (all : List Node), (all.map Node.name).Nodup →
      (∀ node ∈ all, ∀ rack, ¬node.NamesRack rack) → ∀ (start point : Topology Text),
      (∀ rack node, start.records rackKey rack node = false) →
      start.ReachesOver all (fun _ _ => True) point → ∀ rack,
      (zonesRecorded all point rack).Subsingleton := by
  intro claimed
  let last := firstPlaced.passOver [zonedNode "b1" "b"]
  have reaches : (empty : Topology Text).ReachesOver zonedPair (fun _ _ => True) last :=
    reachesOver_passOver (reachesOver_firstPlaced trivial) (by decide) (by simp [zonedPair]) trivial
  have both : last.records rackKey "rack0" "a1" = true ∧ last.records rackKey "rack0" "b1" = true := by
    decide +kernel
  have oneZone := claimed zonedPair (by decide) unlabelled_zonedPair empty last (fun _ _ => rfl)
    reaches "rack0"
  have first : ("a" : Text) ∈ zonesRecorded zonedPair last "rack0" :=
    ⟨by decide, _, List.mem_cons_self, both.1, by decide⟩
  have second : ("b" : Text) ∈ zonesRecorded zonedPair last "rack0" :=
    ⟨by decide, _, List.mem_cons_of_mem _ List.mem_cons_self, both.2, by decide⟩
  exact absurd (oneZone first second) (by decide)

end ClusterTopology.Topology
