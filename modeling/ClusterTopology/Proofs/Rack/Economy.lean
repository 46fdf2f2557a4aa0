import ClusterTopology.Proofs.Rack.Fairness
import ClusterTopology.Proofs.Rack.Spread

/-!
How many racks a pass uses, whatever racks it starts with. While a rack is empty an empty rack is
taken, so every node placed brings one rack more into use until as many are in use as were asked for.
A rack beyond these is opened only for a zone that no rack holds, and from then on one does; so there
are at most as many of them as zones that came without a rack.
-/

namespace ClusterTopology

namespace Racks

theorem Inhabited.card_inUse {racks : Racks} (inhabited : racks.Inhabited) :
    racks.inUse.card = racks.size := by
  have all : racks.inUse = racks.keys.toFinset := by
    apply Finset.Subset.antisymm racks.inUse_subset
    intro rack listed
    rw [List.mem_toFinset, Table.mem_keys_iff] at listed
    exact mem_inUse_iff.mpr (inhabited rack listed)
  rw [all, card_keys]

end Racks

namespace Balance

open Node (namedZones)

variable {α : Type} [Name α] {rules : BalanceRules} {balance : Balance α} {node : Node} {rack : Text}

/-- How many racks there are after some nodes were placed, from a start with a number of racks in use
and some zones that had racks. -/
structure Economy (rules : BalanceRules) (before : Nat) (known : Finset Text) (placed : List Node)
    (balance : Balance α) : Prop where
  held : ∀ zone ∈ known ∪ namedZones Node.zone placed,
    ∃ rack, balance.racks.HoldsZone rules.zones rack zone
  /-- As many racks are in use as nodes came, up to the number asked for. -/
  enough : min rules.minimumRacks.toNat (before + placed.length) ≤ balance.racks.inUse.card
  /-- Beyond the number asked for there are racks only for the new zones. -/
  needed : (balance.racks.withAtLeast rules.minimumRacks).size ≤
    max rules.minimumRacks.toNat before + (namedZones Node.zone placed \ known).card

section

variable {before : Nat} {known : Finset Text} {placed : List Node}
  (economy : Economy rules before known placed balance)

include economy in
theorem Economy.card_newZones_of_unheld (zoned : node.zone ≠ [])
    (unheld : ∀ rack, ¬balance.racks.HoldsZone rules.zones rack node.zone) :
    (namedZones Node.zone (placed ++ [node]) \ known).card =
      (namedZones Node.zone placed \ known).card + 1 := by
  have new : node.zone ∉ known ∪ namedZones Node.zone placed := fun came =>
    absurd (economy.held node.zone came) (not_exists.mpr unheld)
  obtain ⟨unknown, first⟩ := not_or.mp (Finset.mem_union.not.mp new)
  have grown : namedZones Node.zone (placed ++ [node]) \ known =
      insert node.zone (namedZones Node.zone placed \ known) := by
    ext zone
    simp only [Finset.mem_sdiff, Finset.mem_insert, Node.mem_namedZones_iff, List.mem_append,
      List.mem_singleton]
    grind
  rw [grown, Finset.card_insert_of_notMem]
  exact fun member => first (Finset.mem_sdiff.mp member).1

theorem card_newZones_mono (known : Finset Text) (placed : List Node) (node : Node) :
    (namedZones Node.zone placed \ known).card ≤
      (namedZones Node.zone (placed ++ [node]) \ known).card := by
  apply Finset.card_le_card
  intro zone
  simp only [Finset.mem_sdiff, Node.mem_namedZones_iff, List.mem_append]
  grind

variable (positive : 1 ≤ rules.minimumRacks)
  (own : rules.zones.find? node.name = some node.zone)

include economy positive own

theorem Economy.bounds_place : ∃ rack,
    (balance.racks.place rules.minimumRacks rules.zones node).result = .ok rack
      ∧ min rules.minimumRacks.toNat (before + placed.length + 1) ≤
        (insert rack balance.racks.inUse).card
      ∧ (balance.racks.place rules.minimumRacks rules.zones node).state.size ≤
        max rules.minimumRacks.toNat before
          + (namedZones Node.zone (placed ++ [node]) \ known).card := by
  have enough := economy.enough
  have needed := economy.needed
  have target := Racks.targetZone_of_listed own
  have asked := Racks.size_withAtLeast rules.minimumRacks balance.racks
  have fits := Racks.card_inUse_le_ready balance.racks rules.minimumRacks
  by_cases hasRack : Racks.targetZone rules.zones node = []
      ∨ ∃ rack, balance.racks.HoldsZone rules.zones rack (Racks.targetZone rules.zones node)
  · obtain ⟨rack, found, inUse, size, _⟩ :=
      Racks.counts_of_known_zone positive rules.zones node hasRack
    have grown := card_newZones_mono known placed node
    exact ⟨rack, found, by omega, by omega⟩
  · obtain ⟨zoned, unheld⟩ := not_or.mp hasRack
    obtain ⟨rack, found, inUse, size, _⟩ :=
      Racks.counts_of_new_zone positive rules.zones node zoned (not_exists.mp unheld)
    rw [target] at zoned unheld
    have grown := economy.card_newZones_of_unheld zoned (not_exists.mp unheld)
    exact ⟨rack, found, by omega, by omega⟩

theorem Economy.placeNode : ∃ rack,
    (balance.racks.place rules.minimumRacks rules.zones node).result = .ok rack
      ∧ Economy rules before known (placed ++ [node]) (balance.placeNode rules node).state := by
  obtain ⟨rack, found, enough, needed⟩ := economy.bounds_place positive own
  refine ⟨rack, found, fun zone came => ?_, ?_, ?_⟩
  · simp only [holdsZone_placeNode_iff found, exists_or]
    by_cases here : node.zone = zone
    · exact Or.inl ⟨rack, rfl, here ▸ own⟩
    · refine Or.inr (economy.held zone ?_)
      simp only [Finset.mem_union, Node.mem_namedZones_iff, List.mem_append,
        List.mem_singleton] at came ⊢
      grind
  · rw [inUse_placeNode found, List.length_append, List.length_singleton, ← Nat.add_assoc]
    exact enough
  · rw [size_placeNode positive found]
    exact needed

end

theorem Economy.placeNodes (positive : 1 ≤ rules.minimumRacks) (accepting : rules.patcher.Accepting)
    {before : Nat} {known : Finset Text} {placed : List Node}
    (economy : Economy rules before known placed balance) (rest : List Node)
    (listed : ∀ node ∈ rest, rules.zones.find? node.name = some node.zone) :
    Economy rules before known (placed ++ rest) (balance.placeNodes rules rest).state := by
  induction rest generalizing placed balance with
  | nil =>
    rw [List.append_nil]
    exact economy
  | cons node rest ih =>
    obtain ⟨rack, found, after⟩ := economy.placeNode positive (listed node List.mem_cons_self)
    have success := result_placeNode_of_accepted found (accepting _ _)
    rw [List.append_cons, placeNodes_cons_of_ok rules rest success]
    exact ih after fun other member => listed other (List.mem_cons_of_mem _ member)

theorem Economy.of_perm {before : Nat} {known : Finset Text} {placed nodes : List Node}
    (economy : Economy rules before known placed balance) (same : placed.Perm nodes) :
    Economy rules before known nodes balance := by
  have sameZones := Node.namedZones_eq_of_perm Node.zone same
  refine ⟨sameZones ▸ economy.held, ?_, sameZones ▸ economy.needed⟩
  rw [← same.length_eq]
  exact economy.enough

end Balance

namespace Topology

open Node (namedZones)

/-- The racks in which a node stands before a pass: those that its labels name, and the one that is
recorded for it. -/
def racksOf (t : Topology Text) (node : Node) : List Text :=
  (node.labels.entries.filter fun (label, _) => Racks.isRackLabel label).map Prod.snd
    ++ [t.rackOf node.name].filter fun rack => !rack.isEmpty

theorem mem_racksOf_iff {t : Topology Text} {node : Node} {rack : Text} :
    rack ∈ t.racksOf node ↔ t.Stands [] rack node := by
  simp only [racksOf, Stands, Node.NamesRack, recordedRack_eq, Table.find?_eq_some_iff,
    List.mem_append, List.mem_map, List.mem_filter, List.mem_singleton, GivenBy, List.not_mem_nil,
    false_and, exists_false, or_false, Prod.exists, Except.ok.injEq, Bool.not_eq_true',
    List.isEmpty_eq_false_iff]
  grind

def withRack (t : Topology Text) (nodes : List Node) : List Node :=
  nodes.filter fun node => !(t.racksOf node).isEmpty

def withoutRack (t : Topology Text) (nodes : List Node) : List Node :=
  nodes.filter fun node => (t.racksOf node).isEmpty

/-- The racks in which listed nodes stand before a pass. -/
def racksInUse (t : Topology Text) (nodes : List Node) : Finset Text :=
  (nodes.flatMap t.racksOf).toFinset

section

variable {t : Topology Text} {nodes : List Node} {before : Racks}

theorem mem_withRack_iff {node : Node} :
    node ∈ t.withRack nodes ↔ node ∈ nodes ∧ ∃ rack, t.Stands [] rack node := by
  simp only [withRack, List.mem_filter, Bool.not_eq_true', List.isEmpty_eq_false_iff_exists_mem,
    mem_racksOf_iff]

theorem mem_racksInUse_iff {rack : Text} :
    rack ∈ t.racksInUse nodes ↔ ∃ node ∈ nodes, t.Stands [] rack node := by
  simp only [racksInUse, List.mem_toFinset, List.mem_flatMap, mem_racksOf_iff]

variable (distinct : (nodes.map Node.name).Nodup)
  (known : Racks.known t .empty nodes = .ok before)

include known

theorem inUse_eq_racksInUse : before.inUse = t.racksInUse nodes := by
  ext rack
  rw [Racks.mem_inUse_iff, mem_racksInUse_iff]
  simp only [Racks.holds_known_iff known]
  grind

include distinct

theorem unplaced_perm_withoutRack (zones : Zones) :
    (unplaced before zones nodes).Perm (t.withoutRack nodes) := by
  have same : (nodes.filter fun node => !before.nodes.contains node.name) = t.withoutRack nodes := by
    apply List.filter_congr
    intro node listed
    rw [Bool.eq_iff_iff, List.isEmpty_iff, List.eq_nil_iff_forall_not_mem]
    simp only [mem_racksOf_iff, Bool.not_eq_true', List.contains_eq_mem, decide_eq_false_iff_not,
      Racks.mem_nodes_iff, not_exists, Racks.holds_known_iff known,
      exists_sameName_stands_iff distinct listed]
  rw [unplaced, same]
  exact Node.placementOrder_perm _ _

theorem economy_of_known (minimum : Int) (patcher : Patcher) :
    Balance.Economy ⟨minimum, Zones.ofNodes nodes, patcher⟩ (t.racksInUse nodes).card
      (namedZones Node.zone (t.withRack nodes)) [] (⟨before, t, []⟩ : Balance Text) := by
  have used := inUse_eq_racksInUse known
  refine ⟨fun zone came => ?_, ?_, ?_⟩
  · have named := (Finset.mem_union.mp came).resolve_right (by simp [namedZones])
    obtain ⟨_, node, member, sameZone⟩ := Node.mem_namedZones_iff.mp named
    obtain ⟨listed, rack, stands⟩ := mem_withRack_iff.mp member
    exact ⟨rack, node.name, (Racks.holds_known_iff known rack node.name).mpr
        ⟨node, listed, rfl, stands⟩, (Zones.find?_ofNodes_iff distinct).mpr ⟨node, listed, rfl, sameZone⟩⟩
  · rw [used, List.length_nil, Nat.add_zero]
    exact Nat.min_le_right _ _
  · rw [Racks.size_withAtLeast, ← (Racks.inhabited_of_known known).card_inUse, used, Nat.max_comm]
    exact Nat.le_add_right _ _

end

theorem mem_inUse_balance_iff {nodes : List Node} (distinct : (nodes.map Node.name).Nodup)
    (t : Topology Text) (minimum : Int) (patcher : Patcher) (rack : Text) :
    let after := (t.balance nodes minimum patcher).state
    rack ∈ after.racks.inUse ↔ ∃ node ∈ nodes, t.Stands after.offered rack node := by
  intro after
  have stands := (holds_balance_iff_and_allJoinOwnZone distinct t minimum patcher).1 rack
  rw [Racks.mem_inUse_iff]
  constructor
  · rintro ⟨member, inside⟩
    obtain ⟨node, listed, rfl⟩ := exists_listed_of_holds_balance inside
    exact ⟨node, listed, (stands node listed).mp inside⟩
  · rintro ⟨node, listed, there⟩
    exact ⟨node.name, (stands node listed).mpr there⟩

/-- A pass over any nodes, from any racks, leaves at least as many racks in use as were asked for, or
as nodes stood in different racks and were placed, if these are fewer. It leaves no more racks than
were asked for or in use before, whichever is greater, and one for each zone of a placed node that had
no rack. -/
theorem racks_enough_and_none_needless {nodes : List Node} (distinct : (nodes.map Node.name).Nodup)
    (t : Topology Text) {minimum : Int} (positive : 1 ≤ minimum) {patcher : Patcher}
    (accepting : patcher.Accepting) :
    let placed := t.withoutRack nodes
    let before := t.racksInUse nodes
    let newZones := namedZones Node.zone placed \ namedZones Node.zone (t.withRack nodes)
    let after := (t.balance nodes minimum patcher).state
    ∃ patches, (t.ensureRacks nodes minimum patcher).result = .ok patches
      ∧ (patches.map LabelPatch.node).Perm (placed.map Node.name)
      ∧ (∀ rack, rack ∈ after.racks.inUse ↔ ∃ node ∈ nodes, t.Stands patches rack node)
      ∧ min minimum.toNat (before.card + placed.length) ≤ after.racks.inUse.card
      ∧ after.racks.size ≤ max minimum.toNat before.card + newZones.card := by
  intro placed before newZones after
  obtain ⟨patches, success, offered⟩ := t.exists_patches_of_accepting positive nodes accepting
  obtain ⟨racks, known, _⟩ := Racks.exists_known t .empty nodes
  have all : (unplaced racks (Zones.ofNodes nodes) nodes).Perm placed :=
    unplaced_perm_withoutRack distinct known _
  have start := economy_of_known distinct known minimum patcher
  have economy := (start.placeNodes positive accepting (unplaced racks (Zones.ofNodes nodes) nodes)
    (find?_ofNodes_of_mem_unplaced distinct)).of_perm all
  rw [← balance_of_known known] at economy
  refine ⟨patches, success, ?_, ?_, economy.enough, le_trans ?_ economy.needed⟩
  · rw [((offers_of_known known minimum patcher).succeeded patches success).2.2]
    exact all.map Node.name
  · rw [← offered]
    exact mem_inUse_balance_iff distinct t minimum patcher
  · rw [Racks.size_withAtLeast]
    exact Nat.le_max_left _ _

/-! Two nodes of one zone in racks of their own, beside a node of another zone and one of none. -/

def besideTwoRacks : List Node := [
  ⟨"a1", .ofList [("topology.kubernetes.io/zone", "a"), ("example.org/rack", "left")]⟩,
  ⟨"a2", .ofList [("topology.kubernetes.io/zone", "a"), ("example.org/rack", "right")]⟩,
  ⟨"b1", .ofList [("topology.kubernetes.io/zone", "b")]⟩, ⟨"n1", .empty⟩]

theorem third_rack_for_other_zone :
    (besideTwoRacks.map Node.name).Nodup ∧ (1 : Int) ≤ 2
      ∧ Patcher.Accepting (fun _ _ => .accepted)
      ∧ let after := ((empty : Topology Text).balance besideTwoRacks 2 fun _ _ => .accepted).state
        2 ≤ after.racks.inUse.card ∧ after.racks.size ≤ 3 := by
  have distinct : (besideTwoRacks.map Node.name).Nodup := by decide
  have accepting : Patcher.Accepting (fun _ _ => .accepted) := fun _ _ => rfl
  have inUse : ((empty : Topology Text).racksInUse besideTwoRacks).card = 2 := by decide
  have placed : ((empty : Topology Text).withoutRack besideTwoRacks).length = 2 := by decide
  have newZones : (namedZones Node.zone ((empty : Topology Text).withoutRack besideTwoRacks)
      \ namedZones Node.zone ((empty : Topology Text).withRack besideTwoRacks)).card = 1 := by decide
  obtain ⟨_, _, _, _, enough, needed⟩ := racks_enough_and_none_needless distinct empty
    (by decide : (1 : Int) ≤ 2) accepting
  rw [inUse, placed] at enough
  rw [inUse, newZones] at needed
  exact ⟨distinct, by decide, accepting, enough, needed⟩

end Topology
end ClusterTopology
